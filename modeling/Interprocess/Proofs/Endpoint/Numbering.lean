import Interprocess.Proofs.Endpoint.Reachable
import Interprocess.Proofs.Kernel.Journal

/-!
# The numbering of what a process sends

A process gives every envelope that it hands to the kernel the next sequence, whether or not
the kernel takes it and the ledger has room for its record.  So the envelopes of a run are
numbered from one on, without a gap and without a repetition.

**Input.**  Any kernel, with a journal of what is transferred, and any activities of a process.

**Results.**
* `sends_apply_post`: a send hands one envelope to the kernel, under the next sequence.
* `sends_perform`: what an operation hands to the kernel.
* `perform_of_isRefused`: an operation that is refused on the spot leaves everything as it was.
* `numbered_pursueAll`: the envelopes of a whole run.
-/

namespace Interprocess

/-- Whether an envelope was handed to the kernel as process `sender` has to do it. -/
structure Submission.IsFrom (sender : Pid) (submission : Submission) : Prop where
  sequence : submission.envelope.sequence = submission.sequence
  sender : submission.envelope.sender = sender
  receiver : submission.envelope.receiver ≤ Pid.maxValid
  payload : submission.envelope.payload.length ≤ maxPayloadLength

/-- Whether an operation is refused on the spot by a process with this directory: it sends to
what is no single process or sends too much, or it asks the directory about what is no name. -/
def Operation.isRefused (directory : Pid) : Operation → Bool
  | .send receiver _ payload _ _ | .call receiver _ payload _ =>
      !receiver.isSingle || decide (maxPayloadLength < payload.length)
  | .lookup name | .registerSelf name | .register name _ | .unregister name =>
      !isServiceName name || !directory.isSingle
  | _ => false

namespace Endpoint

variable {σ α β : Type} (e : Endpoint σ) (sent : σ → List Submission)

/-- Whether a process hands `posted` to the kernel between two sessions, numbered from the next
sequence on. -/
structure Sends (posted : List Submission) (s t : Session σ) : Prop where
  noted : sent t.kernel = sent s.kernel ++ posted
  numbered : posted.map Submission.sequence =
    List.range' s.process.nextSequence posted.length
  next : t.process.nextSequence = s.process.nextSequence + posted.length
  proper : ∀ submission ∈ posted, submission.IsFrom e.pid

variable {e sent} {posted later : List Submission} {s t u : Session σ}

theorem Sends.refl (s : Session σ) : e.Sends sent [] s s where
  noted := (List.append_nil _).symm
  numbered := rfl
  next := rfl
  proper := by simp

theorem Sends.trans (h : e.Sends sent posted s t) (h' : e.Sends sent later t u) :
    e.Sends sent (posted ++ later) s u where
  noted := by rw [h'.noted, h.noted, List.append_assoc]
  numbered := by
    rw [List.map_append, h.numbered, h'.numbered, h.next, List.length_append,
      List.range'_append_1]
  next := by rw [h'.next, h.next, List.length_append, Nat.add_assoc]
  proper := by
    intro submission hmem
    rcases List.mem_append.1 hmem with hmem | hmem
    · exact h.proper submission hmem
    · exact h'.proper submission hmem

/-! ## Moves -/

variable {operation : Operation} {first : Sequence}

theorem sends_apply_quiet (hkernel : e.kernel.Notes sent) {move : Move}
    (h : operation.makesQuietly e.pid first move) (s : Session σ) :
    e.Sends sent [] s (e.apply move s) where
  noted := by
    rw [List.append_nil]
    refine keeps_quiet (Q := fun k => sent k = sent s.kernel) ?_ ?_ h rfl
    · exact fun sequence k hk => (hkernel.reports sequence k).trans hk
    · exact fun use k _ hk => (hkernel.use use k).trans hk
  numbered := rfl
  next := nextSequence_apply h s
  proper := by simp

/-- A send hands one envelope to the kernel, under the next sequence. -/
theorem sends_apply_post (hkernel : e.kernel.Notes sent) {receiver : Pid} {payload : Bytes}
    (hsingle : receiver.isSingle = true) (hshort : payload.length ≤ maxPayloadLength)
    (kind : MessageKind) (wantsFeedback : Bool) (timeout : Nat) (s : Session σ) :
    let envelope := e.outgoing receiver kind payload s.process.nextSequence
      (e.kernel.now s.kernel)
    e.Sends sent [⟨envelope, wantsFeedback, s.process.nextSequence⟩] s
      (e.apply (.post receiver kind payload wantsFeedback timeout) s) := by
  intro envelope
  constructor
  · -- The log lines around the request hand nothing over.
    have hlog : ∀ line k, sent (e.kernel.log line k) = sent k :=
      fun line k => hkernel.use (.log line) k
    refine keeps_post (Q := fun k => sent k = sent s.kernel)
      (R := fun k => sent k = sent s.kernel ++ [_]) ?_ ?_ ?_ rfl
    · exact fun line k hk => (hlog line k).trans hk
    · exact fun line k hk => (hlog line k).trans hk
    · intro k hk
      rw [hkernel.send, hk]
  · rfl
  · exact e.nextSequence_post receiver kind payload wantsFeedback timeout s
  · intro submission hmem
    rw [List.mem_singleton] at hmem
    rw [hmem]
    exact ⟨rfl, rfl, of_decide_eq_true hsingle, hshort⟩

/-- What a course hands to the kernel. -/
theorem Course.sends (hkernel : e.kernel.Notes sent) (h : e.Course operation first s t) :
    ∃ posted, e.Sends sent posted s t := by
  induction h with
  | refl => exact ⟨[], Sends.refl s⟩
  | tail _ hstep ih =>
      obtain ⟨posted, hsends⟩ := ih
      cases hstep with
      | quiet hmakes => exact ⟨_, hsends.trans (sends_apply_quiet hkernel hmakes _)⟩
      | post _ _ hsingle hshort kind timeout =>
          exact ⟨_, hsends.trans (sends_apply_post hkernel hsingle hshort kind _ timeout _)⟩

theorem Walk.sends_nothing (hkernel : e.kernel.Notes sent)
    (h : e.Walk (operation.makesQuietly e.pid first) s t) :
    e.Sends sent [] s t := by
  obtain ⟨posted, hsends⟩ := h.course.sends hkernel
  have hnext := hsends.next
  rw [h.nextSequence_eq] at hnext
  have hnone : posted = [] := List.length_eq_zero_iff.1 (Nat.left_eq_add.1 hnext)
  rwa [hnone] at hsends

/-- What an operation hands to the kernel. -/
theorem sends_perform (hkernel : e.kernel.Notes sent) (operation : Operation)
    (s : Session σ) :
    ∃ posted, e.Sends sent posted s ((e.perform operation).run s).2 ∧
      posted.length ≤ operation.sendLimit := by
  have hcourse := e.course_perform operation s
  obtain ⟨posted, hsends⟩ := hcourse.sends hkernel
  refine ⟨posted, hsends, ?_⟩
  have hwithin := hcourse.within (Nat.le_add_right _ _)
  rw [hsends.next] at hwithin
  exact Nat.le_of_add_le_add_left hwithin

/-! ## Refusals -/

/-- Whether an attempt fails and does nothing but write to the log. -/
def Refuses (e : Endpoint σ) (x : Attempt σ α) : Prop :=
  ∀ s : Session σ, ∃ error lines,
    x.run.run s = (.error error, { s with kernel := e.kernel.logAll lines s.kernel })

theorem refuses_throw (error : Error) : e.Refuses (throw error : Attempt σ α) :=
  fun _ => ⟨error, [], rfl⟩

theorem Refuses.bind {x : Attempt σ α} (h : e.Refuses x) (f : α → Attempt σ β) :
    e.Refuses (x >>= f) := by
  intro s
  obtain ⟨error, lines, hrun⟩ := h s
  refine ⟨error, lines, ?_⟩
  rw [Attempt.run_bind, hrun]

theorem refuses_sendWithTimeout {receiver : Pid} {payload : Bytes}
    (h : (!receiver.isSingle || decide (maxPayloadLength < payload.length)) = true)
    (kind : MessageKind) (wantsFeedback : Bool) (timeout : Nat) :
    e.Refuses (e.sendWithTimeout receiver kind payload wantsFeedback timeout) := by
  unfold sendWithTimeout
  split
  · intro s
    exact ⟨.permissionDenied,
      ["[eclib] " ++ ("send: rejected pid=" ++ Text.decimal receiver.toNat ++ " above max")],
      rfl⟩
  · next hsingle =>
      rw [Bool.eq_false_iff.2 hsingle, Bool.false_or, decide_eq_true_iff] at h
      rw [if_pos h]
      exact refuses_throw _

theorem fit_of_sendWithTimeout {receiver : Pid} {kind : MessageKind} {payload : Bytes}
    {wantsFeedback : Bool} {timeout : Nat} {sequence : Sequence}
    (h : (e.sendWithTimeout receiver kind payload wantsFeedback timeout).run.run s =
      (.ok sequence, t)) :
    receiver.isSingle = true ∧ payload.length ≤ maxPayloadLength := by
  by_contra hunfit
  have hrefused : (!receiver.isSingle || decide (maxPayloadLength < payload.length)) = true := by
    rw [Bool.or_eq_true, decide_eq_true_iff]
    cases hsingle : receiver.isSingle with
    | false => exact Or.inl rfl
    | true => exact Or.inr (Nat.lt_of_not_le fun hshort => hunfit ⟨hsingle, hshort⟩)
  obtain ⟨error, lines, hrun⟩ :=
    refuses_sendWithTimeout (e := e) hrefused kind wantsFeedback timeout s
  rw [hrun] at h
  cases h

/-- The directory is not asked about what is no name, nor if it is no single process. -/
theorem refuses_askDirectory {name : String}
    (h : (!isServiceName name || !e.config.directoryPid.isSingle) = true)
    (command : MessageKind) (request : Bytes) (timeout : Nat) (f : Bytes → Attempt σ β) :
    e.Refuses (do
      checkName name
      let bytes ← e.askDirectory command request timeout
      f bytes) := by
  cases hname : isServiceName name with
  | false =>
      apply Refuses.bind
      unfold checkName
      rw [if_neg (by simp [hname])]
      exact refuses_throw _
  | true =>
      rw [hname, Bool.not_true, Bool.false_or] at h
      rw [checkName_bind hname]
      exact ((refuses_sendWithTimeout (by rw [h, Bool.true_or]) _ _ _).bind _).bind _

/-- An operation that is refused on the spot does nothing but write to the log. -/
theorem perform_of_isRefused {operation : Operation}
    (h : operation.isRefused e.config.directoryPid = true) (s : Session σ) :
    ∃ lines, ((e.perform operation).run s).2 =
      { s with kernel := e.kernel.logAll lines s.kernel } := by
  have hattempt : ∀ {α : Type} {f : α → Value} {x : Attempt σ α}, e.Refuses x →
      ∃ lines, ((answering f x).run s).2 =
        { s with kernel := e.kernel.logAll lines s.kernel } := by
    intro α f x hrefuses
    obtain ⟨error, lines, hrun⟩ := hrefuses s
    exact ⟨lines, congrArg Prod.snd hrun⟩
  cases operation with
  | send receiver kind payload wantsFeedback timeout =>
      cases timeout with
      | none => exact hattempt (refuses_sendWithTimeout h kind wantsFeedback _)
      | some timeout => exact hattempt (refuses_sendWithTimeout h kind wantsFeedback timeout)
  | call destination kind request timeout =>
      exact hattempt ((refuses_sendWithTimeout h kind true timeout).bind _)
  | lookup name => exact hattempt (refuses_askDirectory h _ _ _ _)
  | registerSelf name => exact hattempt (refuses_askDirectory h _ _ _ _)
  | register name pid => exact hattempt (refuses_askDirectory h _ _ _ _)
  | unregister name => exact hattempt (refuses_askDirectory h _ _ _ _)
  | _ => cases h

/-! ## Runs -/

/-- A process that did nothing yet, with a journaled kernel. -/
def journaledStart (e : Endpoint σ) (k : σ) : Session (Journaled Transfer σ) :=
  journalBegun { kernel := k, process := Process.start e.config }

/-- An operation broadcasts nothing under a sequence. -/
theorem sequence_of_broadcast {s : Session (Journaled Transfer σ)} (operation : Operation)
    (h : ∀ broadcast ∈ s.kernel.broadcasts, broadcast.1.sequence = 0) :
    ∀ broadcast ∈ ((e.journaled.perform operation).run s).2.kernel.broadcasts,
      broadcast.1.sequence = 0 := by
  refine (e.journaled.course_perform operation s).keeps_kernel
    (Q := fun j => ∀ broadcast ∈ j.broadcasts, broadcast.1.sequence = 0) ?_ ?_ ?_ h
  · intro envelope wantsFeedback sequence j _ hj
    rwa [broadcasts_send]
  · exact fun _ _ hj => hj
  · intro use j huses hj broadcast hmem
    change broadcast ∈ (use.effect e.kernel.journaled j).broadcasts at hmem
    rw [use.effect_journaled, Journaled.broadcasts, List.filterMap_append, List.mem_append] at hmem
    rcases hmem with hmem | hmem
    · exact hj broadcast hmem
    · cases use with
      | broadcast =>
          rw [List.mem_singleton.1 hmem]
          exact huses.2.2.1
      | _ => cases hmem

end Endpoint

mutual

/-- The activity with a journaled kernel, of which only the kernel itself changes on its own. -/
def Activity.journaled {σ : Type} : Activity σ → Activity (Journaled Transfer σ)
  | .meanwhile change => .meanwhile fun j => { j with kernel := change j.kernel }
  | .operate operation => .operate operation
  | .dispatch envelope reactions =>
      .dispatch envelope fun callback notice => journaledAll (reactions callback notice)
termination_by structural activity => activity

/-- The activities with a journaled kernel. -/
def Activity.journaledAll {σ : Type} : List (Activity σ) → List (Activity (Journaled Transfer σ))
  | [] => []
  | activity :: rest => activity.journaled :: journaledAll rest
termination_by structural activities => activities

end

namespace Endpoint

variable {σ : Type} {e : Endpoint σ}

/-- What holds of the journal of a kernel while a process runs that began at `start`. -/
structure Numbered (e : Endpoint σ) (start s : Session (Journaled Transfer σ)) : Prop where
  sends : e.journaled.Sends Journaled.sent s.kernel.sent start s
  broadcasts : ∀ broadcast ∈ s.kernel.broadcasts, broadcast.1.sequence = 0

theorem numbered_start (e : Endpoint σ) (k : σ) :
    e.Numbered (e.journaledStart k) (e.journaledStart k) where
  sends := Sends.refl _
  broadcasts := fun _ hmem => nomatch hmem

theorem Numbered.perform {start s : Session (Journaled Transfer σ)} (h : e.Numbered start s)
    (operation : Operation) :
    e.Numbered start ((e.journaled.perform operation).run s).2 where
  sends := by
    obtain ⟨posted, hsends, -⟩ := sends_perform e.notes_journaled operation s
    rw [hsends.noted]
    exact h.sends.trans hsends
  broadcasts := sequence_of_broadcast operation h.broadcasts

mutual

theorem Numbered.pursue {start s : Session (Journaled Transfer σ)} (h : e.Numbered start s)
    (activity : Activity σ) :
    e.Numbered start ((e.journaled.pursue activity.journaled).run s).2 := by
  match activity with
  | .meanwhile change =>
      exact ⟨⟨h.sends.noted, h.sends.numbered, h.sends.next, h.sends.proper⟩, h.broadcasts⟩
  | .operate operation => exact h.perform operation
  | .dispatch envelope reactions =>
      refine keeps_dispatchNotice (P := e.Numbered start) (fun _ => rfl) ?_ envelope h
      exact fun callback notice t ht => ht.pursueAll (reactions callback notice)

theorem Numbered.pursueAll {start s : Session (Journaled Transfer σ)} (h : e.Numbered start s)
    (activities : List (Activity σ)) :
    e.Numbered start ((e.journaled.pursueAll (Activity.journaledAll activities)).run s).2 := by
  match activities with
  | [] => exact h
  | activity :: rest => exact (h.pursue activity).pursueAll rest

end

/-- **How a process numbers what it sends.**  Over any run and with any kernel, the envelopes
that it hands to the kernel are numbered from one on, each of them from the process itself, to a
single process, and within the limit on payloads; a broadcast has no number.  Another operation
adds no more than its limit, and nothing at all if it is refused on the spot: then it only
writes to the log. -/
theorem numbered_pursueAll (e : Endpoint σ) (k : σ) (activities : List (Activity σ)) :
    let s := ((e.journaled.pursueAll (Activity.journaledAll activities)).run (e.journaledStart k)).2
    s.kernel.sent.map Submission.sequence = List.range' 1 s.kernel.sent.length ∧
      s.process.nextSequence = 1 + s.kernel.sent.length ∧
      (∀ submission ∈ s.kernel.sent, submission.IsFrom e.pid) ∧
      (∀ broadcast ∈ s.kernel.broadcasts, broadcast.1.sequence = 0) ∧
      ∀ operation,
        let t := ((e.journaled.perform operation).run s).2
        (∃ posted, t.kernel.sent = s.kernel.sent ++ posted ∧
            posted.length ≤ operation.sendLimit ∧
            t.process.nextSequence = s.process.nextSequence + posted.length) ∧
          (operation.isRefused e.config.directoryPid = true →
            ∃ lines, t = { s with kernel := e.journaled.kernel.logAll lines s.kernel }) := by
  intro s
  obtain ⟨hsends, hbroadcasts⟩ := (numbered_start e k).pursueAll activities
  refine ⟨hsends.numbered, hsends.next, hsends.proper, hbroadcasts, ?_⟩
  intro operation t
  obtain ⟨posted, hposted, hlimit⟩ := sends_perform e.notes_journaled operation s
  exact ⟨⟨posted, hposted.noted, hlimit, hposted.next⟩,
    fun h => perform_of_isRefused (e := e.journaled) h s⟩

/-- Two sends that the kernel refuses, with a broadcast between them and no room for records, have
the numbers one and two; one to what is no process has none. -/
theorem numbered_after_refused_sends :
    let e := (Station.start 7 (Config.standard.withLedgerCapacity 0)).endpoint
    let world := { World.start with sendFaults := [(9, .queueFull)] }
    let s := ((e.journaled.pursueAll (Activity.journaledAll
      [.operate (.send 9 1 [] true none), .operate (.broadcast 1 0 []),
        .operate (.send 9 1 [] false none)])).run
      (e.journaledStart { world, late := [] })).2
    s.kernel.sent.map Submission.sequence = [1, 2] ∧
      ∃ lines, ((e.journaled.perform (.send 0x10000 1 [] true none)).run s).2 =
        { s with kernel := e.journaled.kernel.logAll lines s.kernel } := by
  intro e world s
  refine ⟨by decide, ?_⟩
  obtain ⟨-, -, -, -, hnext⟩ := numbered_pursueAll e { world, late := [] }
    [.operate (.send 9 1 [] true none), .operate (.broadcast 1 0 []),
      .operate (.send 9 1 [] false none)]
  exact (hnext (.send 0x10000 1 [] true none)).2 (by decide)

end Endpoint

end Interprocess
