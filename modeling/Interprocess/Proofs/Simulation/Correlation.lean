import Interprocess.Proofs.Simulation.Provenance

/-!
# Answers belong to their requests

Processes answer late, or never; a process forgets records, drops its ledger, and calls again.
What its peers answer stays in the kernel until it is asked for.  Still no answer is taken for
the answer to another request, because a process never uses a sequence twice, and a kernel keeps
answers by process and sequence.

**Input.**  Any run of a system in which the processes have different addresses.  They may also
call their kernels past the library, as long as they send nothing there: with a send of its own a
process may claim any sequence.

**Invariant.**  `Correlated`: every answer that is stored, or waits to be reported, is the answer
to an envelope with the same sender and sequence, and no two envelopes have both in common.

**Results.**
* `Correlated.passed`, `Correlated.operated`: what the steps of a system do to the invariant.
* `answers_correlate`: whose answers the processes get and store.
-/

namespace Interprocess

/-- The sender and the sequence of an envelope. -/
def Submission.key (submission : Submission) : Pid × Sequence :=
  (submission.envelope.sender, submission.sequence)

namespace System

/-- The calls past the library that send nothing. -/
def Sendless (call : KernelCall) : Prop := call.isSend = false

/-- Whether a step is an operation in which process `pid` first of all sends an envelope under a
sequence, and `bytes` are an answer to it. -/
def Asks (pid : Pid) (sequence : Sequence) (bytes : Bytes) (before after : System) : Prop :=
  ∃ id station operation answer submission rest,
    before.station? id = some station ∧ station.pid = pid ∧
      before.perform id operation = some (answer, after) ∧
      after.world.sent = before.world.sent ++ submission :: rest ∧
      submission.IsFrom pid ∧ submission.sequence = sequence ∧
      station.adjustments.Answers before.world submission.envelope (.received bytes)

/-- Whether process `pid` sent an envelope under a sequence in a run that came to `s`, and `bytes`
were an answer to it. -/
def Answered (pid : Pid) (sequence : Sequence) (bytes : Bytes) :
    List System → System → Prop :=
  Had fun _ => Asks pid sequence bytes

/-- What is known of the answers to a process. -/
def Known (history : List System) (s : System) (station : Station) (sequence : Sequence)
    (bytes : Bytes) : Prop :=
  sequence < station.process.nextSequence ∧ Answered station.pid sequence bytes history s

/-- What holds of the envelopes and the answers in a system that a run came to. -/
structure Correlated (history : List System) (s : System) : Prop where
  ordered : ∀ id station, s.station? id = some station →
    station.endpoint.InOrder (station.session s.world)
  sourced : ∀ id station, s.station? id = some station →
    Sourced station.pid (Known history s station) (station.session s.world)
  owned : ∀ pid sequence report, report ∈ s.world.dueReports pid sequence → pid ∈ s.pids
  given : ∀ submission ∈ s.world.sent, ∃ id station, s.station? id = some station ∧
    submission.envelope.sender = station.pid ∧
    submission.sequence < station.process.nextSequence
  distinct : (s.world.sent.map Submission.key).Nodup

theorem correlated_start : Correlated [] start where
  ordered := fun _ _ hstation => nomatch hstation
  sourced := fun _ _ hstation => nomatch hstation
  owned := fun _ _ _ hmem => nomatch hmem
  given := fun _ hmem => nomatch hmem
  distinct := List.nodup_nil

variable {s t : System} {id : StationId} {station : Station} {history : List System}

/-! ## Steps in which nothing is sent -/

/-- Whether a process has the same records as before, and nothing new waits for it late. -/
structure Keeps (old new : Station) : Prop where
  pid : new.pid = old.pid
  config : new.config = old.config
  process : new.process = old.process
  late : ∀ n report, report ∈ (((new.late.find? n).getD []).map Prod.snd) →
    report ∈ (((old.late.find? n).getD []).map Prod.snd)

theorem Keeps.refl (station : Station) : Keeps station station :=
  ⟨rfl, rfl, rfl, fun _ _ hmem => hmem⟩

/-- Whether a process was just started, under an address that no other one has. -/
def IsNew (s : System) (new : Station) : Prop :=
  new.pid ∉ s.pids ∧ new.process = Process.start new.config ∧ new.late = []

/-- A step in which nothing is sent, and nothing new waits, keeps the invariant. -/
theorem Correlated.passed (h : Correlated history s) (hstep : Step Sendless s t)
    (hsent : t.world.sent = s.world.sent)
    (hdue : ∀ pid n report, report ∈ t.world.dueReports pid n →
      report ∈ s.world.dueReports pid n)
    (hkept : ∀ id old, s.station? id = some old →
      ∃ new, t.station? id = some new ∧ Keeps old new)
    (hfound : ∀ id new, t.station? id = some new →
      (∃ old, s.station? id = some old ∧ Keeps old new) ∨ IsNew s new) :
    Correlated (s :: history) t where
  ordered := by
    intro id new hnew
    rcases hfound id new hnew with ⟨old, hold, hkeeps⟩ | ⟨-, hprocess, -⟩
    · have horder := h.ordered id old hold
      refine ⟨?_, ?_⟩
      · rw [Station.session, hkeeps.process]
        exact horder.sound
      · rw [Station.session, hkeeps.process, Station.endpoint, hkeeps.config]
        exact horder.capacity
    · rw [Station.session, hprocess]
      exact Endpoint.inOrder_start new.endpoint _
  sourced := by
    intro id new hnew
    rcases hfound id new hnew with ⟨old, hold, hkeeps⟩ | ⟨hfresh, hprocess, hlate⟩
    · obtain ⟨hstored, hwaiting⟩ := h.sourced id old hold
      have hknown : ∀ n bytes, Known history s old n bytes →
          Known (s :: history) t new n bytes := by
        rintro n bytes ⟨hlt, hanswered⟩
        rw [Known, hkeeps.process, hkeeps.pid]
        exact ⟨hlt, hanswered.earlier t⟩
      constructor
      · intro r hr bytes hresponse
        rw [Station.session, hkeeps.process] at hr
        exact hknown _ _ (hstored r hr bytes hresponse)
      · intro n bytes hmem
        apply hknown n bytes
        apply hwaiting n bytes
        rcases List.mem_append.1 hmem with hmem | hmem
        · rw [← hkeeps.pid]
          exact List.mem_append_left _ (hdue _ n _ hmem)
        · exact List.mem_append_right _ (hkeeps.late n _ hmem)
    · constructor
      · intro r hr
        rw [Station.session, hprocess] at hr
        cases hr
      · intro n bytes hmem
        rcases List.mem_append.1 hmem with hmem | hmem
        · exact absurd (h.owned new.pid n _ (hdue _ n _ hmem)) hfresh
        · rw [Station.session, hlate] at hmem
          cases hmem
  owned := fun pid n report hmem =>
    hstep.pids_prefix.subset (h.owned pid n report (hdue pid n report hmem))
  given := by
    intro submission hmem
    rw [hsent] at hmem
    obtain ⟨id, old, hold, hsender, hlt⟩ := h.given submission hmem
    obtain ⟨new, hnew, hkeeps⟩ := hkept id old hold
    exact ⟨id, new, hnew, hsender.trans hkeeps.pid.symm, by rwa [hkeeps.process]⟩
  distinct := by
    rw [hsent]
    exact h.distinct

/-- So does one that replaces a process by a version with the same records. -/
theorem Correlated.replaced (h : Correlated history s) (hstation : s.station? id = some station)
    {w : World} {new : Station}
    (hstep : Step Sendless s { world := w, stations := s.stations.set id new })
    (hkeeps : Keeps station new) (hsent : w.sent = s.world.sent)
    (hdue : ∀ pid n report, report ∈ w.dueReports pid n →
      report ∈ s.world.dueReports pid n) :
    Correlated (s :: history) { world := w, stations := s.stations.set id new } := by
  refine h.passed hstep hsent hdue ?_ ?_
  · intro other old hold
    by_cases hother : other = id
    · subst hother
      rw [hstation] at hold
      cases hold
      exact ⟨new, station?_set_self hstation w new, hkeeps⟩
    · exact ⟨old, (station?_set_of_ne hother w new).trans hold, Keeps.refl old⟩
  · intro other found hfound
    rcases station?_set_cases hstation hfound with ⟨rfl, rfl⟩ | ⟨-, hold⟩
    · exact Or.inl ⟨station, hstation, hkeeps⟩
    · exact Or.inl ⟨found, hold, Keeps.refl found⟩

/-! ## Operations -/

/-- The reports that are due to another process stay as they are. -/
theorem due_of_after {pid : Pid} (hpid : pid ≠ station.pid) (operation : Operation) (w : World)
    {n : Sequence} {report : Feedback}
    (h : report ∈ (station.after operation w).kernel.world.dueReports pid n) :
    report ∈ w.dueReports pid n := by
  refine (station.course_after operation w).keeps_kernel
    (Q := fun k => ∀ report, report ∈ k.world.dueReports pid n → report ∈ w.dueReports pid n)
    ?_ ?_ ?_ (fun _ hmem => hmem) report h
  · intro envelope wantsFeedback sequence k _ hk report hmem
    simp only [Station.endpoint, Adjustments.kernel, Adjustments.world_send] at hmem
    rcases World.mem_dueReports_send hmem with hbefore | ⟨-, hkey, -⟩
    · exact hk report hbefore
    · exact absurd (congrArg Prod.fst hkey) hpid
  · exact fun sequence k hk report hmem =>
      hk report ((KernelState.drains_takeReports station.pid sequence k).due pid n report hmem)
  · exact fun use k _ hk report hmem =>
      hk report ((Adjustments.drains_effect _ _ use k).due pid n report hmem)

theorem bounds_of_mem_posted {e : Endpoint KernelState} {sent : KernelState → List Submission}
    {posted : List Submission} {u v : Session KernelState} (h : e.Sends sent posted u v)
    {submission : Submission} (hmem : submission ∈ posted) :
    u.process.nextSequence ≤ submission.sequence ∧
      submission.sequence < v.process.nextSequence := by
  have hsequence := List.mem_map_of_mem (f := Submission.sequence) hmem
  rw [h.numbered, List.mem_range'_1] at hsequence
  rwa [h.next]

section Operated

variable {operation : Operation} {posted : List Submission}

/-- What a process stores after an operation, and what waits for it. -/
theorem Correlated.sourced_operated (h : Correlated history s) (hpids : s.pids.Nodup)
    (hstation : s.station? id = some station) {answer : Answer}
    (hperform : s.perform id operation = some (answer, s.operated id station operation))
    (hmidway : Midway station (Known history s station) (station.session s.world) posted
      (station.after operation s.world))
    {other : StationId} {found : Station}
    (hfound : (s.operated id station operation).station? other = some found) :
    Sourced found.pid (Known (s :: history) (s.operated id station operation) found)
      (found.session (s.operated id station operation).world) := by
  have hsends := hmidway.sends
  rcases station?_set_cases hstation hfound with ⟨rfl, rfl⟩ | ⟨hne, hold⟩
  · refine hmidway.sourced.mono ?_
    rintro n bytes (⟨hlt, hanswered⟩ | ⟨hfirst, submission, rest, rfl, -, hanswers⟩)
    · exact ⟨Nat.lt_of_lt_of_le hlt (Nat.le.intro hsends.next.symm), hanswered.earlier _⟩
    · have hsequence : submission.sequence = n :=
        (List.cons.inj hsends.numbered).1.trans hfirst.symm
      constructor
      · rw [← hsequence]
        exact (bounds_of_mem_posted hsends List.mem_cons_self).2
      · exact .now ⟨other, station, operation, answer, submission, rest, hstation, rfl,
          hperform, hsends.noted, hsends.proper submission List.mem_cons_self, hsequence,
          hanswers⟩
  · -- Another process has another address, so nothing new waits for it.
    obtain ⟨hstored, hwaiting⟩ := h.sourced other found hold
    have hpid : found.pid ≠ station.pid := fun heq => hne (eq_of_pid_eq hpids hold hstation heq)
    have hstill : ∀ t n bytes, Known history s found n bytes →
        Known (s :: history) t found n bytes :=
      fun t n bytes hknown => ⟨hknown.1, hknown.2.earlier t⟩
    constructor
    · exact fun r hr bytes hresponse => hstill _ _ _ (hstored r hr bytes hresponse)
    · intro n bytes hmem
      apply hstill _ n bytes
      apply hwaiting n bytes
      rcases List.mem_append.1 hmem with hmem | hmem
      · exact List.mem_append_left _ (due_of_after hpid operation s.world hmem)
      · exact List.mem_append_right _ hmem

variable (hsends : station.endpoint.Sends (fun k => k.world.sent) posted
  (station.session s.world) (station.after operation s.world))
include hsends

/-- Every sequence that was sent under was given out. -/
theorem Correlated.given_operated (h : Correlated history s)
    (hstation : s.station? id = some station) {submission : Submission}
    (hmem : submission ∈ s.world.sent ++ posted) :
    ∃ other found, (s.operated id station operation).station? other = some found ∧
      submission.envelope.sender = found.pid ∧
        submission.sequence < found.process.nextSequence := by
  have hresumed : (s.operated id station operation).station? id =
      some (station.resume (station.after operation s.world)) :=
    station?_set_self hstation _ _
  rcases List.mem_append.1 hmem with hold | hnew
  · obtain ⟨other, found, hfound, hsender, hlt⟩ := h.given submission hold
    by_cases hsame : other = id
    · subst hsame
      rw [hstation] at hfound
      cases hfound
      have hnext : station.process.nextSequence ≤
          (station.after operation s.world).process.nextSequence :=
        Nat.le.intro hsends.next.symm
      exact ⟨other, _, hresumed, hsender, Nat.lt_of_lt_of_le hlt hnext⟩
    · exact ⟨other, found, (station?_set_of_ne hsame _ _).trans hfound, hsender, hlt⟩
  · exact ⟨id, _, hresumed, (hsends.proper submission hnew).sender,
      (bounds_of_mem_posted hsends hnew).2⟩

/-- No two envelopes have the sender and the sequence in common. -/
theorem Correlated.distinct_operated (h : Correlated history s) (hpids : s.pids.Nodup)
    (hstation : s.station? id = some station) :
    ((s.world.sent ++ posted).map Submission.key).Nodup := by
  rw [List.map_append]
  refine List.nodup_append.2 ⟨h.distinct, ?_, ?_⟩
  · apply List.Nodup.of_map Prod.snd
    rw [List.map_map]
    change (posted.map Submission.sequence).Nodup
    rw [hsends.numbered]
    exact List.nodup_range'
  · -- What the process sent before has a smaller sequence, and others have another address.
    rintro key hold _ hnew rfl
    obtain ⟨earlier, hearlier, hkey⟩ := List.mem_map.1 hold
    obtain ⟨later, hlater, hsame⟩ := List.mem_map.1 hnew
    rw [← hsame] at hkey
    obtain ⟨other, found, hfound, hsender, hlt⟩ := h.given earlier hearlier
    have hpid : found.pid = station.pid :=
      hsender.symm.trans ((congrArg Prod.fst hkey).trans (hsends.proper later hlater).sender)
    obtain rfl := eq_of_pid_eq hpids hfound hstation hpid
    rw [hstation] at hfound
    cases hfound
    have hsequence : earlier.sequence = later.sequence := congrArg Prod.snd hkey
    have hfresh := (bounds_of_mem_posted hsends hlater).1
    rw [← hsequence] at hfresh
    exact absurd hlt (Nat.not_lt_of_le hfresh)

end Operated

/-- **An operation keeps the invariant.** -/
theorem Correlated.operated (h : Correlated history s) (hpids : s.pids.Nodup)
    {operation : Operation} {answer : Answer}
    (hperform : s.perform id operation = some (answer, t)) :
    Correlated (s :: history) t := by
  have hstep : Step Sendless s t := .operate hperform
  obtain ⟨station, hstation, -, rfl⟩ := perform_eq_some hperform
  have horder := h.ordered id station hstation
  have hcourse := station.course_after operation s.world
  obtain ⟨posted, hmidway⟩ := midway_of_course horder (h.sourced id station hstation) hcourse
  have hsent : (s.operated id station operation).world.sent = s.world.sent ++ posted :=
    hmidway.sends.noted
  constructor
  · intro other found hfound
    rcases station?_set_cases hstation hfound with ⟨rfl, rfl⟩ | ⟨-, hold⟩
    · exact hcourse.walk.inOrder horder
    · exact ⟨(h.ordered other found hold).sound, (h.ordered other found hold).capacity⟩
  · exact fun other found hfound =>
      h.sourced_operated hpids hstation hperform hmidway hfound
  · intro pid n report hmem
    apply hstep.pids_prefix.subset
    by_cases hpid : pid = station.pid
    · exact mem_pids_iff.2 ⟨id, station, hstation, hpid.symm⟩
    · exact h.owned pid n report (due_of_after hpid operation s.world hmem)
  · intro submission hmem
    rw [hsent] at hmem
    exact h.given_operated hmidway.sends hstation hmem
  · rw [hsent]
    exact h.distinct_operated hmidway.sends hpids hstation

/-! ## Runs -/

/-- The other steps send nothing. -/
theorem Correlated.step (h : Correlated history s)
    (hstep : Step Sendless s t) (hpids : t.pids.Nodup) :
    Correlated (s :: history) t := by
  have hstep' := hstep
  cases hstep with
  | world step s =>
      have hexchange : (s.world.perform step).2.sent = s.world.sent ∧
          (s.world.perform step).2.reports = s.world.reports := by
        cases step <;> exact ⟨rfl, rfl⟩
      refine h.passed hstep' hexchange.1 ?_ ?_ ?_
      · intro pid n report hmem
        change report ∈ (s.world.perform step).2.dueReports pid n at hmem
        rwa [World.dueReports, hexchange.2] at hmem
      · exact fun other old hold => ⟨old, hold, Keeps.refl old⟩
      · exact fun other found hfound => Or.inl ⟨found, hfound, Keeps.refl found⟩
  | spawn pid config s =>
      obtain ⟨line, hspawn⟩ := spawn_eq pid config s
      rw [hspawn] at hstep' hpids ⊢
      refine h.passed hstep' rfl (fun _ _ _ hmem => hmem) ?_ ?_
      · intro other old hold
        exact ⟨old, (List.getElem?_append_left (List.getElem?_eq_some_iff.1 hold).1).trans hold,
          Keeps.refl old⟩
      · intro other found hfound
        rcases station?_append_cases hfound with hold | rfl
        · exact Or.inl ⟨found, hold, Keeps.refl found⟩
        · refine Or.inr ⟨fun hmem => ?_, rfl, rfl⟩
          rw [pids, List.map_append] at hpids
          exact (List.nodup_append.1 hpids).2.2 _ hmem _ List.mem_cons_self rfl
  | adjust hadjust =>
      obtain ⟨station, adjustments, hstation, rfl⟩ := adjust_eq_some hadjust
      exact h.replaced hstation hstep' ⟨rfl, rfl, rfl, fun _ _ hmem => hmem⟩ rfl
        fun _ _ _ hmem => hmem
  | operate hperform => exact h.operated (hstep'.nodup_pids hpids) hperform
  | callKernel hraw hcall =>
      obtain ⟨station, hstation, k, hk, rfl⟩ := callKernel_eq_some hcall
      have hdrains := KernelCall.drains_perform hraw station.pid station.adjustments
        (station.session s.world).kernel
      rw [← hk] at hdrains
      exact h.replaced hstation hstep' ⟨rfl, rfl, rfl, hdrains.late⟩ hdrains.sent hdrains.due

/-- The invariant holds in every run. -/
theorem Run.correlated (h : Run Sendless history s) (hpids : s.pids.Nodup) :
    Correlated history s := by
  induction h with
  | start => exact correlated_start
  | step _ hstep ih => exact (ih (hstep.nodup_pids hpids)).step hstep hpids

/-- **Answers belong to their requests.**  In every run of processes with different addresses, a
call that gets an answer, on its own or within a look-up, was given it for the one envelope that
it sent, by the peer there or by the timetable for its address.  A stored response is an answer to
the envelope that its process sent under the sequence of the record, and no other envelope was
sent by this process under this sequence. -/
theorem answers_correlate (h : Run Sendless history s) (hpids : s.pids.Nodup) :
    (∀ id station, s.station? id = some station →
      ∀ destination kind request timeout bytes after,
        (station.endpoint.call destination kind request timeout).run.run
            (station.session s.world) = (.ok bytes, after) →
          bytes ≠ [] →
            let envelope := station.endpoint.outgoing destination kind request
              station.process.nextSequence s.world.clock
            after.kernel.world.sent =
                s.world.sent ++ [⟨envelope, true, station.process.nextSequence⟩] ∧
              station.adjustments.Answers s.world envelope (.received bytes)) ∧
      (∀ id station, s.station? id = some station → ∀ r ∈ station.process.ledger.records,
        ∀ bytes, r.response = some bytes →
          Answered station.pid r.sequence bytes history s) ∧
      (s.world.sent.map Submission.key).Nodup := by
  have hcorrelated := h.correlated hpids
  refine ⟨?_, ?_, hcorrelated.distinct⟩
  · intro id station hstation destination kind request timeout bytes after hok hbytes
    have hsourced := hcorrelated.sourced id station hstation
    -- Nothing is known yet of the sequence that the call is going to use.
    exact answer_of_call (hcorrelated.ordered id station hstation) hsourced
      (fun _ hknown => Nat.lt_irrefl _ hknown.1) hok hbytes
  · intro id station hstation r hr bytes hresponse
    exact ((hcorrelated.sourced id station hstation).stored r hr bytes hresponse).2

/-- A call ends before its answer comes.  The next call finds a peer that answers, and gets what
that one says, while the late answer still waits for the first sequence. -/
theorem answers_correlate_after_timeout :
    let begun := ((start.onWorld fun w => (w.perform (.respond 9 .silent)).2).spawn 7
      Config.standard).2
    let slow : Station := { Station.start 7 Config.standard with
      adjustments := { Adjustments.none with delays := [(9, [(30, .received [1])])] } }
    let asked := slow.after (.call 9 1 [] 20) begun.world
    let later := slow.resume asked
    let w := (asked.kernel.world.perform (.respond 9 (.reply [2]))).2
    let answered := (later.endpoint.call 9 1 [] 20).run.run (later.session w)
    .received [1] ∈ asked.kernel.waiting 7 1 ∧ answered.1 = .ok [2] ∧
      later.adjustments.Answers w
        (later.endpoint.outgoing 9 1 [] later.process.nextSequence w.clock)
        (.received [2]) := by
  intro begun slow asked later w answered
  have hbegun : Run Sendless _ begun :=
    (Run.start.step (.world (.respond 9 .silent) start)).step (.spawn 7 Config.standard _)
  have hslow : begun.adjust 0 [.delay 9 [(30, .received [1])]] =
      some { world := begun.world, stations := [slow] } := rfl
  have hstation : station? 0 { world := begun.world, stations := [slow] } = some slow := rfl
  have hlater : Run Sendless _ { world := w, stations := [later] } :=
    ((hbegun.step (.adjust hslow)).step (step_after hstation (.call 9 1 [] 20))).step
      (.world (.respond 9 (.reply [2])) _)
  have hok : answered = (.ok [2], answered.2) := Prod.ext (by decide +kernel) rfl
  obtain ⟨hcalls, -, -⟩ := answers_correlate hlater (by decide)
  obtain ⟨-, hanswers⟩ := hcalls 0 later rfl 9 1 [] 20 [2] _ hok (by decide)
  exact ⟨by decide +kernel, by decide +kernel, hanswers⟩

end System

end Interprocess
