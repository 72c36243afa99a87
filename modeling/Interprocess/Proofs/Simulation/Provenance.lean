import Interprocess.Proofs.Endpoint.Numbering
import Interprocess.Proofs.Endpoint.Polling
import Interprocess.Proofs.Simulation.Run
import Interprocess.Proofs.Simulation.WorldEffect

/-!
# Where the answers of a process come from

A process stores an answer only if it was reported, and it is reported only what waits for it in
its kernel.  What waits there was left by the sends of the process.

**Input.**  A process in a world, and `known`, which says which bytes are known to be answers to
which of its sequences.

**Invariant.**  `Sourced`: every answer that the process stores or that waits for it is known.
While an operation runs, what is known grows by the answers to the first envelope that the
operation sends (`Learned`), because it asks for reports about no other.

**Results.**
* `Sourced.apply_quiet`: what sends nothing keeps the invariant.
* `midway_of_course`: what an operation makes of it.
* `answer_of_call`: a call answers nothing but what its own envelope was answered with.
-/

namespace Interprocess

/-- Whether every answer that a process stores, or that waits for it, is known. -/
structure Sourced (pid : Pid) (known : Sequence → Bytes → Prop) (s : Session KernelState) :
    Prop where
  stored : ∀ r ∈ s.process.ledger.records, ∀ bytes, r.response = some bytes →
    known r.sequence bytes
  waiting : ∀ sequence bytes, .received bytes ∈ s.kernel.waiting pid sequence →
    known sequence bytes

/-- What is known after a process handed `posted` to its kernel: what was known before, and the
answers to the first of these envelopes, which has the sequence `first`. -/
def Learned (a : Adjustments) (w : World) (known : Sequence → Bytes → Prop) (first : Sequence)
    (posted : List Submission) (sequence : Sequence) (bytes : Bytes) : Prop :=
  known sequence bytes ∨
    sequence = first ∧ ∃ submission rest, posted = submission :: rest ∧
      submission.wantsFeedback = true ∧ a.Answers w submission.envelope (.received bytes)

theorem Learned.append {a : Adjustments} {w : World} {known : Sequence → Bytes → Prop}
    {first sequence : Sequence} {posted : List Submission} {bytes : Bytes}
    (h : Learned a w known first posted sequence bytes) (later : List Submission) :
    Learned a w known first (posted ++ later) sequence bytes := by
  rcases h with hknown | ⟨hfirst, submission, rest, rfl, hanswered⟩
  · exact Or.inl hknown
  · exact Or.inr ⟨hfirst, submission, rest ++ later, rfl, hanswered⟩

variable {station : Station} {known : Sequence → Bytes → Prop} {s t : Session KernelState}
variable {operation : Operation} {first : Sequence} {posted : List Submission}

theorem Sourced.mono {pid : Pid} {known' : Sequence → Bytes → Prop} (h : Sourced pid known s)
    (hknown : ∀ sequence bytes, known sequence bytes → known' sequence bytes) :
    Sourced pid known' s where
  stored := fun r hr bytes hresponse => hknown _ _ (h.stored r hr bytes hresponse)
  waiting := fun sequence bytes hmem => hknown _ _ (h.waiting sequence bytes hmem)

/-- What sends nothing stores only what was reported, and leaves nothing new to be reported. -/
theorem Sourced.apply_quiet (h : Sourced station.pid known s)
    (horder : station.endpoint.InOrder s) {move : Move}
    (hmakes : operation.makesQuietly station.pid first move) :
    Sourced station.pid known (station.endpoint.apply move s) where
  stored := by
    intro r hr bytes hresponse
    rcases station.endpoint.response_apply horder.sound hr hresponse with
      ⟨old, hold, hsequence, hkept⟩ | ⟨-, hreported⟩
    · rw [← hsequence]
      exact h.stored old hold bytes hkept
    · exact h.waiting r.sequence bytes (KernelState.mem_waiting_of_takeReports hreported)
  waiting := by
    refine Endpoint.keeps_quiet (e := station.endpoint)
      (Q := fun k => ∀ sequence bytes, .received bytes ∈ k.waiting station.pid sequence →
        known sequence bytes) ?_ ?_ hmakes h.waiting
    · exact fun taken k hk sequence bytes hmem =>
        hk sequence bytes ((KernelState.drains_takeReports station.pid taken k).waiting hmem)
    · exact fun use k _ hk sequence bytes hmem =>
        hk sequence bytes ((Adjustments.drains_effect _ _ use k).waiting hmem)

/-- What sends nothing leaves the peers alone. -/
theorem Station.responders_apply_quiet (station : Station) {move : Move}
    (hmakes : operation.makesQuietly station.pid first move) (s : Session KernelState) :
    (station.endpoint.apply move s).kernel.world.responders = s.kernel.world.responders := by
  refine Endpoint.keeps_quiet (e := station.endpoint)
    (Q := fun k => k.world.responders = s.kernel.world.responders) ?_ ?_ hmakes rfl
  · intro sequence k hk
    rw [← hk]
    exact KernelState.responders_takeReports station.pid sequence k
  · intro use k _ hk
    rw [← hk]
    exact congrArg (fun x => x.1.2.2) (Adjustments.exchange_effect _ _ use k)

/-! ## While an operation runs -/

/-- What holds while an operation runs that began in `s`, when it has handed `posted` to the
kernel. -/
structure Midway (station : Station) (known : Sequence → Bytes → Prop) (s : Session KernelState)
    (posted : List Submission) (t : Session KernelState) : Prop where
  sends : station.endpoint.Sends (fun k => k.world.sent) posted s t
  sourced : Sourced station.pid
    (Learned station.adjustments s.kernel.world known s.process.nextSequence posted) t
  peers : posted = [] → t.kernel.world.responders = s.kernel.world.responders

theorem midway_refl (h : Sourced station.pid known s) : Midway station known s [] s where
  sends := Endpoint.Sends.refl s
  sourced := h.mono fun _ _ => Or.inl
  peers := fun _ => rfl

theorem Midway.quiet (h : Midway station known s posted t)
    (horder : station.endpoint.InOrder t) {move : Move}
    (hmakes : operation.makesQuietly station.pid first move) :
    Midway station known s posted (station.endpoint.apply move t) where
  sends := by
    have hmove := Endpoint.sends_apply_quiet (e := station.endpoint)
      Adjustments.notes_kernel hmakes t
    exact List.append_nil posted ▸ h.sends.trans hmove
  sourced := h.sourced.apply_quiet horder hmakes
  peers := fun hnone => (station.responders_apply_quiet hmakes t).trans (h.peers hnone)

/-- A send leaves at most its own answers to be reported, and stores none. -/
theorem Midway.post (h : Midway station known s posted t)
    (horder : station.endpoint.InOrder t) {receiver : Pid} {payload : Bytes}
    {wantsFeedback : Bool}
    (hfeedback : wantsFeedback = true → t.process.nextSequence = s.process.nextSequence)
    (hsingle : receiver.isSingle = true) (hshort : payload.length ≤ maxPayloadLength)
    (kind : MessageKind) (timeout : Nat) :
    let envelope := station.endpoint.outgoing receiver kind payload t.process.nextSequence
      (station.endpoint.kernel.now t.kernel)
    Midway station known s
      (posted ++ [⟨envelope, wantsFeedback, t.process.nextSequence⟩])
      (station.endpoint.apply (.post receiver kind payload wantsFeedback timeout) t) := by
  intro envelope
  refine ⟨?_, ⟨?_, ?_⟩, ?_⟩
  · exact h.sends.trans (Endpoint.sends_apply_post (e := station.endpoint)
      Adjustments.notes_kernel hsingle hshort kind wantsFeedback timeout t)
  · intro r hr bytes hresponse
    rcases station.endpoint.response_apply horder.sound hr hresponse with
      ⟨old, hold, hsequence, hkept⟩ | ⟨hquery, -⟩
    · rw [← hsequence]
      exact (h.sourced.stored old hold bytes hkept).append _
    · cases hquery
  · refine Endpoint.keeps_post (e := station.endpoint)
      (Q := fun k => (∀ sequence bytes, .received bytes ∈ k.waiting station.pid sequence →
          Learned station.adjustments s.kernel.world known s.process.nextSequence posted
            sequence bytes) ∧
        k.world.responders = t.kernel.world.responders)
      (R := fun k => ∀ sequence bytes, .received bytes ∈ k.waiting station.pid sequence →
        Learned station.adjustments s.kernel.world known s.process.nextSequence _
          sequence bytes) ?_ ?_ ?_ ⟨h.sourced.waiting, rfl⟩
    · exact fun line k hk => hk
    · exact fun line k hk => hk
    · rintro k ⟨hwaiting, hpeers⟩ sequence bytes hmem
      rcases Adjustments.mem_waiting_send hmem with hbefore | ⟨hwants, hsequence, hanswers⟩
      · exact (hwaiting sequence bytes hbefore).append _
      · -- Only the first send asks for reports, so the peers are still those of the beginning.
        have hfirst := hfeedback hwants
        have hnext := h.sends.next
        rw [hfirst] at hnext
        have hnone : posted = [] := List.length_eq_zero_iff.1 (Nat.left_eq_add.1 hnext)
        refine Or.inr ⟨hsequence.trans hfirst, _, [], by rw [hnone]; rfl, hwants, ?_⟩
        rcases hanswers with hpeer | hlate
        · rw [World.respond_fst_congr (hpeers.trans (h.peers hnone))] at hpeer
          exact Or.inl hpeer
        · exact Or.inr hlate
  · intro hnone
    exact absurd hnone (List.append_ne_nil_of_right_ne_nil _ (List.cons_ne_nil _ _))

/-- **What an operation makes of the answers of a process.** -/
theorem midway_of_course (horder : station.endpoint.InOrder s)
    (hsourced : Sourced station.pid known s)
    (h : station.endpoint.Course operation s.process.nextSequence s t) :
    ∃ posted, Midway station known s posted t := by
  -- By induction on the course; what a query stores is known because the ledger stays in order.
  induction h with
  | refl => exact ⟨[], midway_refl hsourced⟩
  | tail hbefore hstep ih =>
      obtain ⟨posted, hmidway⟩ := ih
      have hmiddle := (Endpoint.Course.walk hbefore).inOrder horder
      cases hstep with
      | quiet hmakes => exact ⟨posted, hmidway.quiet hmiddle hmakes⟩
      | post _ hfeedback hsingle hshort kind timeout =>
          exact ⟨_, hmidway.post hmiddle hfeedback hsingle hshort kind timeout⟩

/-! ## Calls -/

/-- A call that waits answers only what is known. -/
theorem known_of_awaitResponse {sequence : Sequence} {call : String} {timeout polls : Nat}
    {bytes : Bytes} (horder : station.endpoint.InOrder s)
    (h : Sourced station.pid known s)
    (hok : ((station.endpoint.awaitResponse sequence call timeout polls).run.run s).1 =
      .ok bytes) :
    bytes = [] ∨ known sequence bytes := by
  induction polls generalizing s with
  | zero => cases hok
  | succ polls ih =>
      have hquery : (Operation.state sequence).makesQuietly station.pid 0 (.query sequence) :=
        Or.inl rfl
      have hsleep : (Operation.state sequence).makesQuietly station.pid 0
          (.useKernel (.sleep station.config.callInterval)) := trivial
      have hlooked := h.apply_quiet horder hquery
      have horder' := station.endpoint.inOrder_apply horder (.query sequence)
      rw [Endpoint.run_awaitResponse] at hok
      simp only at hok
      split at hok
      · cases hfind : ((station.endpoint.state sequence).run s).2.process.ledger.find?
            sequence with
        | none =>
            rw [hfind] at hok
            cases hok
            exact Or.inl rfl
        | some r =>
            obtain ⟨hr, hsequence⟩ := horder'.sound.find?_eq_some_iff.1 hfind
            rw [hfind] at hok
            cases hresponse : r.response with
            | none =>
                simp only [Option.bind_some, hresponse] at hok
                cases hok
                exact Or.inl rfl
            | some kept =>
                simp only [Option.bind_some, hresponse] at hok
                cases hok
                rw [← hsequence]
                exact Or.inr (hlooked.stored r hr kept hresponse)
      · cases hok
        exact Or.inl rfl
      · cases hok
      · have hslept := station.endpoint.inOrder_apply horder'
          (.useKernel (.sleep station.config.callInterval))
        exact ih hslept (hlooked.apply_quiet horder' hsleep) hok

/-- **A call answers nothing but what its own envelope was answered with.** -/
theorem answer_of_call (horder : station.endpoint.InOrder s)
    (hsourced : Sourced station.pid known s)
    (hfresh : ∀ bytes, ¬ known s.process.nextSequence bytes) {destination : Pid}
    {kind : MessageKind} {request : Bytes} {timeout : Nat} {bytes : Bytes}
    (hok : (station.endpoint.call destination kind request timeout).run.run s = (.ok bytes, t))
    (hbytes : bytes ≠ []) :
    let envelope := station.endpoint.outgoing destination kind request s.process.nextSequence
      (station.endpoint.kernel.now s.kernel)
    t.kernel.world.sent = s.kernel.world.sent ++ [⟨envelope, true, s.process.nextSequence⟩] ∧
      station.adjustments.Answers s.kernel.world envelope (.received bytes) := by
  intro envelope
  rcases hsend : (station.endpoint.sendWithTimeout destination kind request true timeout).run.run
    s with ⟨result, posted⟩
  cases result with
  | error error =>
      rw [Endpoint.call, Attempt.run_bind, hsend] at hok
      cases hok
  | ok sequence =>
      obtain ⟨hsingle, hshort⟩ := Endpoint.fit_of_sendWithTimeout hsend
      have hpost := Endpoint.post_of_sendWithTimeout hsend
      have hsequence : sequence = s.process.nextSequence :=
        Endpoint.eq_nextSequence_of_sendWithTimeout hsend
      have hfeedback : true = true → s.process.nextSequence = s.process.nextSequence :=
        fun _ => rfl
      have hmidway :=
        (midway_refl hsourced).post horder hfeedback hsingle hshort kind timeout
      have hordered := station.endpoint.inOrder_apply horder
        (.post destination kind request true timeout)
      have happly : station.endpoint.apply (.post destination kind request true timeout) s =
          posted := congrArg Prod.snd hpost
      rw [happly] at hmidway hordered
      rw [Endpoint.run_call hsend] at hok
      constructor
      · have hquiet : station.endpoint.Makes (.call destination kind request timeout) sequence
            (station.endpoint.awaitResponse sequence
              (Endpoint.callText sequence destination kind) timeout
              (station.endpoint.callPolls timeout)).run :=
          Endpoint.makes_awaitResponse rfl _ _ _
        have hnothing := (hquiet posted).sends_nothing Adjustments.notes_kernel
        have hended := hnothing.noted
        rw [hok, hmidway.sends.noted] at hended
        simpa using hended
      · rcases known_of_awaitResponse hordered hmidway.sourced (congrArg Prod.fst hok) with
          hnone | hknown | ⟨-, submission, rest, hposted, -, hanswers⟩
        · exact absurd hnone hbytes
        · rw [hsequence] at hknown
          exact absurd hknown (hfresh bytes)
        · cases hposted
          exact hanswers

end Interprocess
