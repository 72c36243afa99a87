import Interprocess.Proofs.Endpoint.OperationWalk
import Interprocess.Proofs.Naming.Directory

/-!
# What becomes of a request for a name

To look up, register or unregister a name is to make one call.  If the call fails, so does the
operation; otherwise the bytes with which it ended are read, and what was entered or dropped is told
to every process.

**Input.**  An operation that makes a request for a name, and how the call for it ended.  The bytes
may come from anybody.

**Results.**
* `NameRequest.outcome_eq_ok_iff`: which bytes grant a request.
* `Endpoint.run_perform_of_failed`, `Endpoint.run_perform_of_ended`: what is done after the call.
-/

namespace Interprocess

/-! ## Reading the bytes -/

theorem DirectoryStatus.outcome_eq_ok_iff {status : Int32} :
    outcome status = .ok () ↔ status = 0 := by
  unfold outcome
  split_ifs with hok hnotFound htaken hfull
  · exact iff_of_true rfl hok
  all_goals exact iff_of_false nofun hok

theorem readLookup_eq_ok_iff {bytes : Bytes} {pid : Pid} :
    readLookup bytes = .ok pid ↔
      Json.decode? bytes = some ({ status := 0, pid := some pid } : LookupResponse) := by
  unfold readLookup readAnswer
  rcases Json.decode? (α := LookupResponse) bytes with _ | ⟨status, found⟩
  · simp [bind, Except.bind]
  · simp only [bind, Except.bind]
    cases houtcome : DirectoryStatus.outcome status with
    | error error =>
        have hstatus : status ≠ 0 := by
          rintro rfl
          cases houtcome
        simp [hstatus]
    | ok =>
        obtain rfl := DirectoryStatus.outcome_eq_ok_iff.1 houtcome
        cases found <;> simp

theorem readStatus_eq_ok_iff {bytes : Bytes} :
    readStatus bytes = .ok () ↔
      bytes = [] ∨ Json.decode? bytes = some ({ status := 0 } : StatusResponse) := by
  unfold readStatus readAnswer
  by_cases hbytes : bytes = []
  · exact iff_of_true (if_pos (by simpa using hbytes)) (Or.inl hbytes)
  · rw [if_neg (by simpa using hbytes), or_iff_right hbytes]
    rcases Json.decode? (α := StatusResponse) bytes with _ | ⟨⟨status⟩⟩
    · exact iff_of_false nofun nofun
    · change DirectoryStatus.outcome status = .ok () ↔ _
      rw [DirectoryStatus.outcome_eq_ok_iff, Option.some.injEq, StatusResponse.mk.injEq]

namespace NameRequest

/-- What a process is told whose call ended with these bytes. -/
def outcome (bytes : Bytes) (request : NameRequest) : Except Error Value :=
  match request with
  | find _ => if bytes.isEmpty then .error .serviceUnavailable else request.read bytes
  | enter .. | drop _ => request.read bytes

theorem outcome_of_ne_nil {bytes : Bytes} (h : bytes ≠ []) (request : NameRequest) :
    request.outcome bytes = request.read bytes := by
  cases request with
  | find name => exact if_neg (by simpa using h)
  | enter name pid | drop name => rfl

/-- Whether bytes grant a request, and with which value.  A lookup needs an answer that names a
process; for any other request no bytes are as good as an answer. -/
def Grants (bytes : Bytes) (value : Value) : NameRequest → Prop
  | find _ => bytes ≠ [] ∧ ∃ pid : Pid, value = .number pid.toNat ∧
      Json.decode? bytes = some ({ status := 0, pid := some pid } : LookupResponse)
  | enter .. | drop _ => value = .nothing ∧
      (bytes = [] ∨ Json.decode? bytes = some ({ status := 0 } : StatusResponse))

theorem outcome_eq_ok_iff {bytes : Bytes} {value : Value} {request : NameRequest} :
    request.outcome bytes = .ok value ↔ request.Grants bytes value := by
  cases request with
  | find name =>
      by_cases hbytes : bytes = []
      · have hempty : (find name).outcome bytes = .error .serviceUnavailable :=
          if_pos (by simpa using hbytes)
        rw [hempty]
        exact iff_of_false nofun fun hgrants => hgrants.1 hbytes
      · rw [outcome_of_ne_nil hbytes, read, Grants, and_iff_right hbytes]
        simp only [← readLookup_eq_ok_iff]
        cases readLookup bytes <;> simp [Except.map, eq_comm]
  | enter name pid | drop name =>
      rw [outcome, read, Grants, ← readStatus_eq_ok_iff]
      cases readStatus bytes <;> simp [Except.map, eq_comm]

end NameRequest

namespace Endpoint

variable {σ : Type} {e : Endpoint σ} {operation : Operation} {request : NameRequest}
  {bytes : Bytes} {s t : Session σ}

/-! ## After the call -/

/-- What is done when the bytes are read: what they say is noted, and what was entered or dropped is
told to every process. -/
def conclude (e : Endpoint σ) (request : NameRequest) (bytes : Bytes) : Act σ Unit :=
  match request, request.outcome bytes with
  | .find name, .error _ =>
      if bytes.isEmpty then e.log ("directory: lookup name=" ++ name ++ " got no answer")
      else pure ()
  | .enter name pid, .ok _ => do
      e.log ("directory: registered name=" ++ name ++ " pid=" ++ Text.decimal pid.toNat)
      e.announceService (Announcement.serviceUpText name pid)
  | .drop name, .ok _ => e.announceService (Announcement.serviceDownText name)
  | _, _ => pure ()

/-- To make a request is to make one call, and then to go on with what it ended with. -/
theorem perform_nameRequest (h : operation.nameRequest? e.pid = some request)
    (hname : isServiceName request.name = true) :
    ∃ (α : Type) (tell : α → Value) (rest : Bytes → Attempt σ α),
      e.perform operation = answering tell
        (e.askDirectory request.command request.payload request.timeout >>= rest) := by
  cases operation with
  | lookup name | register name server | registerSelf name | unregister name =>
      cases h
      exact ⟨_, _, _, congrArg (answering _) (checkName_bind hname _)⟩
  | _ => cases h

/-- A failed call fails the operation, and nothing is done after it. -/
theorem run_perform_of_failed {error : Error} (h : operation.nameRequest? e.pid = some request)
    (hname : isServiceName request.name = true)
    (hcall : (e.askDirectory request.command request.payload request.timeout).run.run s =
      (.error error, t)) :
    (e.perform operation).run s = (.attempt (.error error), t) := by
  obtain ⟨α, tell, rest, hperform⟩ := perform_nameRequest h hname
  rw [hperform]
  exact run_answering_of_run (Attempt.run_bind_of_error hcall rest)

theorem run_lookup_of_ended {name : String} (hname : isServiceName name = true)
    (hcall : (e.askDirectory DirectoryCommand.lookup (NameRequest.find name).payload
      lookupTimeout).run.run s = (.ok bytes, t)) :
    (e.lookup name).run.run s =
      (if bytes.isEmpty then .error .serviceUnavailable else readLookup bytes,
        ((e.conclude (.find name) bytes).run t).2) := by
  have hform : e.lookup name = (do
      let bytes ← e.askDirectory DirectoryCommand.lookup (NameRequest.find name).payload
        lookupTimeout
      if bytes.isEmpty then
        e.log ("directory: lookup name=" ++ name ++ " got no answer")
        throw .serviceUnavailable
      else
        Attempt.ofExcept (readLookup bytes)) := checkName_bind hname _
  rw [hform, Attempt.run_bind_of_ok hcall]
  cases hbytes : bytes.isEmpty with
  | true => simp only [conclude, NameRequest.outcome, hbytes]; rfl
  | false =>
      simp only [conclude, NameRequest.outcome, NameRequest.read, hbytes]
      cases readLookup bytes <;> rfl

/-- An entry whose call ended fails as the bytes say, or goes on and succeeds. -/
theorem run_entry_of_ended {call : Attempt σ Bytes} {finish : Act σ Unit}
    (hcall : call.run.run s = (.ok bytes, t)) :
    (do
        let bytes ← call
        Attempt.ofExcept (readStatus bytes)
        finish : Attempt σ Unit).run.run s =
      (readStatus bytes,
        match readStatus bytes with
        | .error _ => t
        | .ok () => (finish.run t).2) := by
  rw [Attempt.run_bind_of_ok hcall]
  cases readStatus bytes <;> rfl

theorem run_register_of_ended {name : String} (hname : isServiceName name = true) {server : Pid}
    (hcall : (e.askDirectory DirectoryCommand.register (NameRequest.enter name server).payload
      registerTimeout).run.run s = (.ok bytes, t)) :
    (e.register name server).run.run s =
      (readStatus bytes, ((e.conclude (.enter name server) bytes).run t).2) := by
  have hform : e.register name server = (do
      let bytes ← e.askDirectory DirectoryCommand.register
        (NameRequest.enter name server).payload registerTimeout
      Attempt.ofExcept (readStatus bytes)
      (do
        e.log ("directory: registered name=" ++ name ++ " pid=" ++ Text.decimal server.toNat)
        e.announceService (Announcement.serviceUpText name server) : Act σ Unit)) :=
    checkName_bind hname _
  rw [hform, run_entry_of_ended hcall]
  simp only [conclude, NameRequest.outcome, NameRequest.read]
  cases readStatus bytes <;> rfl

theorem run_unregister_of_ended {name : String} (hname : isServiceName name = true)
    (hcall : (e.askDirectory DirectoryCommand.unregister (NameRequest.drop name).payload
      unregisterTimeout).run.run s = (.ok bytes, t)) :
    (e.unregister name).run.run s =
      (readStatus bytes, ((e.conclude (.drop name) bytes).run t).2) := by
  have hform : e.unregister name = (do
      let bytes ← e.askDirectory DirectoryCommand.unregister (NameRequest.drop name).payload
        unregisterTimeout
      Attempt.ofExcept (readStatus bytes)
      e.announceService (Announcement.serviceDownText name)) := checkName_bind hname _
  rw [hform, run_entry_of_ended hcall]
  simp only [conclude, NameRequest.outcome, NameRequest.read]
  cases readStatus bytes <;> rfl

/-- An operation whose call ended answers what the bytes mean, and concludes. -/
theorem run_perform_of_ended (h : operation.nameRequest? e.pid = some request)
    (hname : isServiceName request.name = true)
    (hcall : (e.askDirectory request.command request.payload request.timeout).run.run s =
      (.ok bytes, t)) :
    (e.perform operation).run s =
      (.attempt (request.outcome bytes), ((e.conclude request bytes).run t).2) := by
  cases operation with
  | lookup name =>
      cases h
      refine (run_answering_of_run (run_lookup_of_ended hname hcall)).trans ?_
      rw [NameRequest.outcome]
      split <;> rfl
  | register name server | registerSelf name =>
      cases h
      exact run_answering_of_run (run_register_of_ended hname hcall)
  | unregister name =>
      cases h
      exact run_answering_of_run (run_unregister_of_ended hname hcall)
  | _ => cases h

theorem makes_conclude {first : Sequence} (request : NameRequest) (bytes : Bytes) :
    e.Makes operation first (e.conclude request bytes) := by
  unfold conclude
  split
  · split
    · exact makes_log _
    · exact makes_pure _
  · exact makes_bind (makes_log _) fun _ => makes_announceService _
  · exact makes_announceService _
  · exact makes_pure _

end Endpoint

end Interprocess
