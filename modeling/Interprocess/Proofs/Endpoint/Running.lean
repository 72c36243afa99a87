import Interprocess.Endpoint.Call

/-!
# Running acts and attempts

The operations of a process are written in two monads.  This module says what each step of
them does to a session, so that an operation can be executed symbolically: rewriting with
these equations turns the run of an operation into the runs of its parts.

**Results.**
* `Act.run_bind`, `Attempt.run_bind`: a sequence runs its parts in order, and an attempt
  stops at the first error.
* `Endpoint.run_state`: a query is one request for reports, one review of the ledger, and a
  number of log lines.
* `Endpoint.run_post`: a send is an enrolment and one request to the kernel, after which the
  record is marked or the refusal is noted.
-/

namespace Interprocess

variable {σ α β : Type}

namespace Act

theorem run_pure (a : α) (s : Session σ) :
    (pure a : Act σ α).run s = (a, s) := rfl

theorem run_bind (x : Act σ α) (f : α → Act σ β) (s : Session σ) :
    (x >>= f).run s = (f (x.run s).1).run (x.run s).2 := rfl

theorem run_onKernel (f : σ → α × σ) (s : Session σ) :
    (onKernel f).run s = ((f s.kernel).1, { s with kernel := (f s.kernel).2 }) := rfl

theorem run_onProcess (f : Process → α × Process) (s : Session σ) :
    (onProcess f : Act σ α).run s =
      ((f s.process).1, { s with process := (f s.process).2 }) := rfl

theorem run_ofProcess (f : Process → α) (s : Session σ) :
    (ofProcess f : Act σ α).run s = (f s.process, s) := rfl

theorem run_mark (tracked : Bool) (sequence : Sequence) (next : DeliveryState)
    (s : Session σ) :
    (mark tracked sequence next : Act σ Unit).run s =
      ((), { s with
        process := if tracked then s.process.mark sequence next else s.process }) := by
  cases tracked <;> rfl

end Act

namespace Attempt

theorem run_pure (a : α) (s : Session σ) :
    (pure a : Attempt σ α).run.run s = (.ok a, s) := rfl

theorem run_throw (error : Error) (s : Session σ) :
    (throw error : Attempt σ α).run.run s = (.error error, s) := rfl

theorem run_lift (x : Act σ α) (s : Session σ) :
    (liftM x : Attempt σ α).run.run s = (.ok (x.run s).1, (x.run s).2) := rfl

theorem run_bind (x : Attempt σ α) (f : α → Attempt σ β) (s : Session σ) :
    (x >>= f).run.run s =
      match x.run.run s with
      | (.ok a, t) => (f a).run.run t
      | (.error error, t) => (.error error, t) := by
  show StateT.run (ExceptT.bindCont f (x.run.run s).1) (x.run.run s).2 = _
  rcases x.run.run s with ⟨result, t⟩
  cases result <;> rfl

theorem run_bind_of_ok {x : Attempt σ α} {s t : Session σ} {a : α}
    (h : x.run.run s = (.ok a, t)) (f : α → Attempt σ β) :
    (x >>= f).run.run s = (f a).run.run t := by
  rw [run_bind, h]

theorem run_bind_of_error {x : Attempt σ α} {s t : Session σ} {error : Error}
    (h : x.run.run s = (.error error, t)) (f : α → Attempt σ β) :
    (x >>= f).run.run s = (.error error, t) := by
  rw [run_bind, h]

theorem run_onKernel (f : σ → Except KernelFault α × σ) (s : Session σ) :
    (onKernel f).run.run s =
      ((f s.kernel).1.mapError Error.ofKernelFault, { s with kernel := (f s.kernel).2 }) := rfl

theorem run_ofKernel (f : σ → Except KernelFault α) (s : Session σ) :
    (ofKernel f).run.run s = ((f s.kernel).mapError Error.ofKernelFault, s) := rfl

/-- A sequence that succeeds went through both parts. -/
theorem exists_of_bind_eq_ok {x : Attempt σ α} {f : α → Attempt σ β} {s t : Session σ} {b : β}
    (h : (x >>= f).run.run s = (.ok b, t)) :
    ∃ a u, x.run.run s = (.ok a, u) ∧ (f a).run.run u = (.ok b, t) := by
  rw [run_bind] at h
  rcases hrun : x.run.run s with ⟨error | a, u⟩
  · rw [hrun] at h
    cases h
  · rw [hrun] at h
    exact ⟨a, u, rfl, h⟩

/-- What holds after a sequence holds if its first part fails, or after the second one. -/
theorem bind_cases {x : Attempt σ α} {f : α → Attempt σ β} {s : Session σ} {P : Session σ → Prop}
    (hstop : ∀ error t, x.run.run s = (.error error, t) → P t)
    (hgo : ∀ a t, x.run.run s = (.ok a, t) → P ((f a).run.run t).2) :
    P ((x >>= f).run.run s).2 := by
  rw [run_bind]
  rcases hrun : x.run.run s with ⟨result, t⟩
  cases result with
  | ok a => exact hgo a t hrun
  | error error => exact hstop error t hrun

/-- An attempt that only looks first may end there. -/
theorem looks_bind {x : Attempt σ α} {f : α → Attempt σ β} {s : Session σ}
    {P : Session σ → Prop} (hx : ∀ s, (x.run.run s).2 = s) (hstop : P s)
    (hgo : ∀ a, (x.run.run s).1 = .ok a → P ((f a).run.run s).2) :
    P ((x >>= f).run.run s).2 := by
  refine bind_cases (fun error t hrun => ?_) fun a t hrun => ?_
  · obtain rfl : s = t := (hx s).symm.trans (congrArg Prod.snd hrun)
    exact hstop
  · obtain rfl : s = t := (hx s).symm.trans (congrArg Prod.snd hrun)
    exact hgo a (congrArg Prod.fst hrun)

/-- What only looks at the end changes nothing. -/
theorem run_bind_looks {x : Attempt σ α} {f : α → Attempt σ β}
    (hf : ∀ a s, ((f a).run.run s).2 = s) (s : Session σ) :
    ((x >>= f).run.run s).2 = (x.run.run s).2 := by
  rw [run_bind]
  rcases x.run.run s with ⟨result, t⟩
  cases result with
  | ok a => exact hf a t
  | error error => rfl

end Attempt

namespace Kernel

/-- Write lines to the log. -/
def logAll (K : Kernel σ) (lines : List String) (k : σ) : σ :=
  lines.foldl (fun k line => K.log line k) k

end Kernel

namespace Endpoint

variable (e : Endpoint σ)

theorem run_now (s : Session σ) : e.now.run s = (e.kernel.now s.kernel, s) := rfl

theorem run_sleep (ms : Nat) (s : Session σ) :
    (e.sleep ms).run s = ((), { s with kernel := e.kernel.sleep ms s.kernel }) := rfl

theorem run_log (line : String) (s : Session σ) :
    (e.log line).run s =
      ((), { s with kernel := e.kernel.log ("[eclib] " ++ line) s.kernel }) := rfl

/-- The lines that a query writes. -/
def reviewLines (sequence : Sequence) (review : Process.Review) : List String :=
  (review.expired.map fun settled => "[eclib] " ++
    ("ledger: expired seq=" ++ Text.decimal settled.1 ++ " -> " ++ settled.2.name)) ++
  (review.refused.map fun move => "[eclib] " ++
    ("ledger: ignored transition seq=" ++ Text.decimal sequence ++ " " ++ move.1.name ++
      " -> " ++ move.2.name))

theorem run_forM_log (line : α → String) (items : List α) (s : Session σ) :
    (items.forM fun item => e.log (line item)).run s =
      ((), { s with
        kernel := e.kernel.logAll (items.map fun item => "[eclib] " ++ line item)
          s.kernel }) := by
  induction items generalizing s with
  | nil => rfl
  | cons item rest ih =>
      have hrest := ih ((e.log (line item)).run s).2
      rw [run_log] at hrest
      exact hrest

/-- What a query does to a session. -/
theorem run_state (sequence : Sequence) (s : Session σ) :
    (e.state sequence).run s =
      let taken := e.kernel.reports sequence s.kernel
      let reviewed := s.process.review sequence taken.1 (e.kernel.now taken.2)
      (reviewed.1.state,
        { kernel := e.kernel.logAll (reviewLines sequence reviewed.1) taken.2
          process := reviewed.2 }) := by
  unfold state
  simp only [Act.run_bind, Act.run_onKernel, run_now, Act.run_onProcess, run_forM_log,
    Act.run_pure]
  simp only [reviewLines, Kernel.logAll, List.foldl_append]

/-- The lines that a send writes before it goes to the kernel. -/
def enrollLines (sequence : Sequence) (tracked : Bool) : List String :=
  if tracked then []
  else ["[eclib] " ++ ("send: ledger full, seq=" ++ Text.decimal sequence ++ " untracked")]

theorem run_enroll (receiver : Pid) (kind : MessageKind) (now timeout : Nat)
    (s : Session σ) :
    (e.enroll receiver kind now timeout).run s =
      let enrolled := s.process.enroll receiver kind now timeout
      (enrolled.1,
        { kernel := e.kernel.logAll (enrollLines enrolled.1.1 enrolled.1.2) s.kernel
          process := enrolled.2 }) := by
  have hrest : ∀ enrolled : (Sequence × Bool) × Process,
      (do
        if !enrolled.1.2 then
          e.log ("send: ledger full, seq=" ++ Text.decimal enrolled.1.1 ++ " untracked")
        return (enrolled.1.1, enrolled.1.2) : Act σ (Sequence × Bool)).run
          { s with process := enrolled.2 } =
        (enrolled.1,
          { kernel := e.kernel.logAll (enrollLines enrolled.1.1 enrolled.1.2) s.kernel
            process := enrolled.2 }) := by
    rintro ⟨⟨sequence, tracked⟩, process⟩
    cases tracked <;> rfl
  exact hrest (s.process.enroll receiver kind now timeout)

/-- The process after a refused send, with the answer whether the notice was queued. -/
def refused (s : Session σ) (envelope : Envelope) (wantsFeedback tracked : Bool)
    (fault : SendFault) : Bool × Process :=
  let marked := if tracked then s.process.mark envelope.sequence .sentFailed else s.process
  if wantsFeedback then
    marked.notify (failureNotice e.pid (e.kernel.now s.kernel) envelope fault)
  else (false, marked)

/-- The line that a refused send writes. -/
def refusalLine (envelope : Envelope) (fault : SendFault) (queued : Bool) : String :=
  "[eclib] " ++ ("send: failed seq=" ++ Text.decimal envelope.sequence ++
    " to=" ++ Text.decimal envelope.receiver.toNat ++ " msg=" ++ kindText envelope.kind ++
    " err=" ++ fault.message ++ " notice=" ++ (if queued then "true" else "false"))

theorem run_refuse (envelope : Envelope) (wantsFeedback tracked : Bool) (fault : SendFault)
    (s : Session σ) :
    (e.refuse envelope wantsFeedback tracked fault).run s =
      let refused := e.refused s envelope wantsFeedback tracked fault
      ((),
        { kernel := e.kernel.log (refusalLine envelope fault refused.1) s.kernel
          process := refused.2 }) := by
  unfold refuse refused
  simp only [Act.run_bind, run_now, Act.run_mark]
  cases wantsFeedback with
  | true =>
      simp only [if_true, Act.run_bind, Act.run_onProcess, run_log, refusalLine]
      rfl
  | false =>
      simp only [Bool.false_eq_true, if_false, Act.run_bind, Act.run_pure, run_log,
        refusalLine]

/-- The envelope of a send at `now`. -/
def outgoing (receiver : Pid) (kind : MessageKind) (payload : Bytes) (sequence : Sequence)
    (now : Nat) : Envelope :=
  { kind, sender := e.pid, receiver, payload, sequence, timestamp := now, flags := 0 }

/-- What a send does to a session. -/
theorem run_post (receiver : Pid) (kind : MessageKind) (payload : Bytes)
    (wantsFeedback : Bool) (timeout : Nat) (s : Session σ) :
    (e.post receiver kind payload wantsFeedback timeout).run.run s =
      let now := e.kernel.now s.kernel
      let enrolled := s.process.enroll receiver kind now timeout
      let sequence := enrolled.1.1
      let tracked := enrolled.1.2
      let envelope := e.outgoing receiver kind payload sequence now
      let taken := e.kernel.send envelope wantsFeedback sequence
        (e.kernel.logAll (enrollLines sequence tracked) s.kernel)
      match taken.1 with
      | .ok () =>
          (.ok sequence,
            { kernel := taken.2
              process := if tracked then enrolled.2.mark sequence .sent else enrolled.2 })
      | .error fault =>
          (.error (Error.ofSendFault fault),
            ((e.refuse envelope wantsFeedback tracked fault).run
              { kernel := taken.2, process := enrolled.2 }).2) := by
  unfold post submit
  simp only [Attempt.run_bind, Attempt.run_lift, run_now, Act.run_onKernel, run_enroll,
    outgoing]
  generalize e.kernel.send _ _ _ _ = taken
  rcases taken with ⟨result, k⟩
  cases result with
  | ok done =>
      simp only [Attempt.run_bind, Attempt.run_lift, Attempt.run_pure, Act.run_mark]
  | error fault =>
      simp only [Attempt.run_bind, Attempt.run_lift, Attempt.run_throw]

end Endpoint

end Interprocess
