import Interprocess.Proofs.Endpoint.QueryOrder
import Interprocess.Proofs.Kernel.Feedback
import Mathlib.Data.List.Induction

/-!
# What a query finds

A query takes in every report about a sequence, and then settles the overdue records.  This
module says where that leads, whatever reports come in whatever order.

**Decisive reports.**  While a message is in flight, a report of `received`,
`permissionDenied`, `lost` or `unknown` ends its record.  A report of `deliveryFailed` ends
it too, unless it was delivered by then.  The other reports leave it in flight.

**Input.**  A reachable session, of any kernel, and a sequence.

**Results.**
* `Feedback.undecided_or_first`: among any reports there is a first decisive one, or none.
* `absorbAll_of_first`, `absorbAll_of_undecided`: what a record in flight comes to.
* `state_finds`: what a query answers, and what it leaves.
-/

namespace Interprocess

namespace Feedback

/-- Whether a report, after those `before` it, ends a record that was in flight in `state`. -/
def IsDecisive (state : DeliveryState) (before : List Feedback) : Feedback → Prop
  | received _ | permissionDenied | lost | unknown => True
  | deliveryFailed => ¬ (state = .delivered ∨ .delivered ∈ before)
  | sending | delivered => False

/-- Whether no report is decisive at its place. -/
def Undecided (state : DeliveryState) (reports : List Feedback) : Prop :=
  ∀ before report after, reports = before ++ report :: after → ¬ report.IsDecisive state before

/-- The state of a record in flight after reports of which none is decisive. -/
def progress (state : DeliveryState) (reports : List Feedback) : DeliveryState :=
  if state = .delivered ∨ .delivered ∈ reports then .delivered else .sent

variable {state : DeliveryState} {reports : List Feedback} {report : Feedback}

theorem undecided_nil : Undecided state [] := by
  rintro before report after h
  simp at h

theorem undecided_append_singleton :
    Undecided state (reports ++ [report]) ↔
      Undecided state reports ∧ ¬ report.IsDecisive state reports := by
  constructor
  · intro h
    constructor
    · rintro before earlier after rfl
      exact h before earlier (after ++ [report]) (by simp)
    · exact h reports report [] rfl
  · rintro ⟨hearlier, hlast⟩ before decisive after hsplit
    rcases List.eq_nil_or_concat after with rfl | ⟨rest, last, rfl⟩
    · obtain ⟨rfl, hreport⟩ := List.append_inj' hsplit rfl
      cases hreport
      exact hlast
    · rw [List.concat_eq_append, ← List.cons_append, ← List.append_assoc] at hsplit
      exact hearlier before decisive rest (List.append_inj' hsplit rfl).1

/-- Among any reports there is a first decisive one, or none. -/
theorem undecided_or_first (state : DeliveryState) (reports : List Feedback) :
    Undecided state reports ∨ ∃ before report after, reports = before ++ report :: after ∧
      Undecided state before ∧ report.IsDecisive state before := by
  induction reports using List.reverseRecOn with
  | nil => exact Or.inl undecided_nil
  | append_singleton earlier last ih =>
      rcases ih with hearlier | ⟨before, report, after, rfl, hbefore, hreport⟩
      · by_cases hlast : last.IsDecisive state earlier
        · exact Or.inr ⟨earlier, last, [], rfl, hearlier, hlast⟩
        · exact Or.inl (undecided_append_singleton.2 ⟨hearlier, hlast⟩)
      · exact Or.inr ⟨before, report, after ++ [last], by simp, hbefore, hreport⟩

theorem progress_eq (state : DeliveryState) (reports : List Feedback) :
    progress state reports = .sent ∨ progress state reports = .delivered := by
  unfold progress
  split
  · exact Or.inr rfl
  · exact Or.inl rfl

end Feedback

namespace SentRecord

variable {r : SentRecord} {before reports : List Feedback} {report : Feedback}

/-- A decisive report ends a record in flight. -/
theorem absorb_of_isDecisive (h : report.IsDecisive r.state before) :
    absorb { r with state := Feedback.progress r.state before } report =
      { r with state := report.reportedState, response := report.response?.or r.response } := by
  have hmove : DeliveryState.canBecome report.reportedState
      (Feedback.progress r.state before) = true := by
    cases report with
    | sending | delivered => cases h
    | deliveryFailed =>
        have hsent : Feedback.progress r.state before = .sent := if_neg h
        rw [hsent]
        rfl
    | received | permissionDenied | lost | unknown =>
        rcases Feedback.progress_eq r.state before with hsent | hdelivered
        · rw [hsent]
          rfl
        · rw [hdelivered]
          rfl
  simp [absorb, hmove]

/-- A report that is not decisive leaves a record in flight. -/
theorem absorb_of_not_isDecisive (h : ¬ report.IsDecisive r.state before) :
    absorb { r with state := Feedback.progress r.state before } report =
      { r with state := Feedback.progress r.state (before ++ [report]) } := by
  by_cases hdelivered : r.state = .delivered ∨ .delivered ∈ before
  · have hbefore : Feedback.progress r.state before = .delivered := if_pos hdelivered
    have hafter : Feedback.progress r.state (before ++ [report]) = .delivered :=
      if_pos (hdelivered.imp_right (List.mem_append_left _))
    rw [hbefore, hafter]
    cases report with
    | sending | delivered | deliveryFailed => rfl
    | received | permissionDenied | lost | unknown => exact absurd trivial h
  · have hbefore : Feedback.progress r.state before = .sent := if_neg hdelivered
    rw [hbefore]
    cases report with
    | sending =>
        have hafter : Feedback.progress r.state (before ++ [.sending]) = .sent :=
          if_neg (by simpa using hdelivered)
        rw [hafter]
        rfl
    | delivered =>
        have hafter : Feedback.progress r.state (before ++ [.delivered]) = .delivered :=
          if_pos (by simp)
        rw [hafter]
        rfl
    | deliveryFailed => exact absurd hdelivered h
    | received | permissionDenied | lost | unknown => exact absurd trivial h

/-- Reports of which none is decisive leave a record in flight. -/
theorem absorbAll_of_undecided (hopen : r.state = .sent ∨ r.state = .delivered)
    (h : Feedback.Undecided r.state reports) :
    absorbAll reports r = { r with state := Feedback.progress r.state reports } := by
  induction reports using List.reverseRecOn with
  | nil =>
      obtain ⟨sequence, destination, kind, sentAt, timeout, state, response⟩ := r
      rcases hopen with rfl | rfl <;> rfl
  | append_singleton earlier last ih =>
      obtain ⟨hearlier, hlast⟩ := Feedback.undecided_append_singleton.1 h
      rw [absorbAll_append, ih hearlier, absorbAll_cons, absorbAll_nil,
        absorb_of_not_isDecisive hlast]

theorem isTerminal_of_isDecisive {state : DeliveryState} (h : report.IsDecisive state before) :
    report.reportedState.isTerminal = true := by
  cases report with
  | sending | delivered => cases h
  | received | deliveryFailed | permissionDenied | lost | unknown => rfl

/-- The first decisive report ends a record in flight, whatever is reported later. -/
theorem absorbAll_of_first (hopen : r.state = .sent ∨ r.state = .delivered)
    (hbefore : Feedback.Undecided r.state before) (h : report.IsDecisive r.state before)
    (after : List Feedback) :
    absorbAll (before ++ report :: after) r =
      { r with state := report.reportedState, response := report.response?.or r.response } := by
  rw [absorbAll_append, absorbAll_of_undecided hopen hbefore, absorbAll_cons,
    absorb_of_isDecisive h]
  exact absorbAll_of_isTerminal (isTerminal_of_isDecisive h) after

end SentRecord

/-! ## The query -/

/-- What a query of `sequence` that found `reports` and looked at the clock at `now` makes of
the ledger `l`, and what it answers. -/
structure Finds (sequence : Sequence) (reports : List Feedback) (now : Nat) (l after : Ledger)
    (answer : DeliveryState) : Prop where
  /-- Among the reports there is a first decisive one, or none. -/
  first_or_undecided : ∀ state, Feedback.Undecided state reports ∨
    ∃ before report later, reports = before ++ report :: later ∧
      Feedback.Undecided state before ∧ report.IsDecisive state before
  /-- A record in flight ends with the first decisive report, even if its timeout is over. -/
  decided : ∀ r before report later, l.find? sequence = some r →
    r.state = .sent ∨ r.state = .delivered → reports = before ++ report :: later →
    Feedback.Undecided r.state before → report.IsDecisive r.state before →
      after.find? sequence =
          some { r with state := report.reportedState, response := report.response? } ∧
        answer = report.reportedState
  /-- Without one it ends if its timeout is over, and else is delivered if it was or if that is
  reported. -/
  undecided : ∀ r, l.find? sequence = some r → r.state = .sent ∨ r.state = .delivered →
    Feedback.Undecided r.state reports →
      let state := if r.isStale now then .unknown else
        if r.state = .delivered ∨ .delivered ∈ reports then .delivered else .sent
      after.find? sequence = some { r with state } ∧ answer = state
  /-- A record that has ended stays. -/
  ended : ∀ r, l.find? sequence = some r → r.state.isTerminal = true →
    after.find? sequence = some r ∧ answer = r.state
  /-- About a sequence without a record nothing is known. -/
  untracked : l.find? sequence = none → after.find? sequence = none ∧ answer = .unknown
  /-- There are no other records than these. -/
  known : ∀ r ∈ l.records,
    r.state = .sent ∨ r.state = .delivered ∨ r.state.isTerminal = true
  capacity : after.capacity = l.capacity
  /-- The records keep their order. -/
  sequences : after.records.map SentRecord.sequence = l.records.map SentRecord.sequence
  /-- The record of another sequence changes only if it is in flight and stale. -/
  others : ∀ (i : Nat) (r : SentRecord), l.records[i]? = some r → r.sequence ≠ sequence →
    after.records[i]? = some
      (if (r.state = .sent ∨ r.state = .delivered) ∧ r.isStale now = true then
        { r with state := .unknown }
      else r)
  /-- Afterwards no record is in flight and stale. -/
  settled : ∀ r ∈ after.records, r.state.isTerminal = true ∨ r.isStale now = false

namespace SentRecord

variable {r : SentRecord}

/-- What a record in flight comes to without a decisive report. -/
theorem settle_absorbAll_of_undecided (hr : r.Coherent) {reports : List Feedback}
    (hopen : r.state = .sent ∨ r.state = .delivered)
    (h : Feedback.Undecided r.state reports) (now : Nat) :
    (absorbAll reports r).settle now =
      { r with state :=
        if r.isStale now then .unknown else Feedback.progress r.state reports } := by
  have hheard := absorbAll_of_undecided hopen h
  have hcoherent : (absorbAll reports r).Coherent := hr.absorbAll reports
  rw [hheard] at hcoherent
  rw [hheard]
  have hflight : (Feedback.progress r.state reports).isTerminal = false := by
    rcases Feedback.progress_eq r.state reports with hsent | hdelivered
    · rw [hsent]
      rfl
    · rw [hdelivered]
      rfl
  cases hstale : r.isStale now with
  | true => exact settle_of_isOverdue hcoherent (isOverdue_iff.2 ⟨hflight, hstale⟩)
  | false => exact settle_of_not_isStale hstale

/-- A record of another sequence changes only if it is overdue. -/
theorem reviewed_of_ne (hr : r.Coherent) {sequence : Sequence} (hne : r.sequence ≠ sequence)
    (reports : List Feedback) (now : Nat) :
    r.reviewed sequence reports now =
      if (r.state = .sent ∨ r.state = .delivered) ∧ r.isStale now = true then
        { r with state := .unknown }
      else r := by
  have hoverdue : (r.state = .sent ∨ r.state = .delivered) ∧ r.isStale now = true ↔
      r.isOverdue now = true := by
    rw [isOverdue_iff, DeliveryState.not_isTerminal_iff hr.handed]
  rw [reviewed, if_neg hne]
  split
  · next hlate => exact settle_of_isOverdue hr (hoverdue.1 hlate)
  · next htimely => exact settle_of_not_isOverdue (by simpa using mt hoverdue.2 htimely)

end SentRecord

namespace Endpoint

variable {σ : Type} {e : Endpoint σ} {s : Session σ}

theorem finds_state (h : e.InOrder s) (sequence : Sequence) :
    let taken := e.kernel.reports sequence s.kernel
    Finds sequence taken.1 (e.kernel.now taken.2) s.process.ledger
      (e.apply (.query sequence) s).process.ledger ((e.state sequence).run s).1 := by
  intro taken
  have hfound : (e.apply (.query sequence) s).process.ledger.find? sequence =
      (s.process.ledger.find? sequence).map fun r =>
        (SentRecord.absorbAll taken.1 r).settle (e.kernel.now taken.2) :=
    e.find?_query_self h.sound sequence
  have hledger : (e.apply (.query sequence) s).process.ledger =
      { s.process.ledger with
        records := s.process.ledger.records.map
          (SentRecord.reviewed sequence taken.1 (e.kernel.now taken.2)) } :=
    congrArg Process.ledger (e.process_query h.sound sequence)
  have hcoherent : ∀ r, s.process.ledger.find? sequence = some r → r.Coherent := by
    intro r hr
    exact h.sound.coherent r (h.sound.find?_eq_some_iff.1 hr).1
  constructor
  case first_or_undecided => exact fun state => Feedback.undecided_or_first state taken.1
  case decided =>
    intro r before report later hr hopen hreports hbefore hreport
    have hnone : r.response = none := by
      refine (hcoherent r hr).response_eq_none ?_
      rcases hopen with hsent | hdelivered <;> simp [*]
    have hend := SentRecord.absorbAll_of_first hopen hbefore hreport later
    rw [hnone, Option.or_none, ← hreports] at hend
    rw [hr, Option.map_some, hend, SentRecord.settle_of_isTerminal] at hfound
    · exact ⟨hfound, e.state_eq_of_find? hfound⟩
    · exact SentRecord.isTerminal_of_isDecisive hreport
  case undecided =>
    intro r hr hopen hreports state
    rw [hr, Option.map_some,
      SentRecord.settle_absorbAll_of_undecided (hcoherent r hr) hopen hreports] at hfound
    exact ⟨hfound, e.state_eq_of_find? hfound⟩
  case ended =>
    intro r hr hterminal
    rw [hr, Option.map_some, SentRecord.absorbAll_of_isTerminal hterminal,
      SentRecord.settle_of_isTerminal hterminal] at hfound
    exact ⟨hfound, e.state_eq_of_find? hfound⟩
  case untracked =>
    intro hr
    rw [hr, Option.map_none] at hfound
    refine ⟨hfound, ?_⟩
    rw [e.state_eq_stateOf, Ledger.stateOf, hfound]
  case known =>
    intro r hr
    have hhanded := (h.sound.coherent r hr).handed
    cases hterminal : r.state.isTerminal with
    | true => exact Or.inr (Or.inr rfl)
    | false => exact ((DeliveryState.not_isTerminal_iff hhanded).1 hterminal).imp_right Or.inl
  case capacity => rw [hledger]
  case sequences =>
    rw [hledger]
    simp [SentRecord.reviewed_sequence]
  case others =>
    intro i r hr hne
    have hin := h.sound.coherent r (List.mem_of_getElem? hr)
    rw [hledger]
    simp only [List.getElem?_map, hr, Option.map_some, SentRecord.reviewed_of_ne hin hne]
  case settled =>
    intro r hr
    rw [hledger] at hr
    obtain ⟨old, _, rfl⟩ := List.mem_map.1 hr
    exact SentRecord.isTerminal_or_not_isStale_settle _ _

/-- **What a query finds.**  In every reachable session a query takes in every report about
its sequence and comes to the end of the first decisive one; it settles every overdue record,
and leaves the rest of the process as it is.  If the kernel hands out its reports one at a
time, none is left. -/
theorem state_finds (h : e.Reachable s) (sequence : Sequence) :
    let taken := e.kernel.reports sequence s.kernel
    let looked := (e.state sequence).run s
    Finds sequence taken.1 (e.kernel.now taken.2) s.process.ledger looked.2.process.ledger
        looked.1 ∧
      looked.2.process = { s.process with ledger := looked.2.process.ledger } ∧
      ∀ next, e.kernel.OneByOne next →
        TakesOut (next sequence) s.kernel taken.1 taken.2 ∧
          (next sequence looked.2.kernel).1 = none := by
  intro taken looked
  refine ⟨finds_state h.inOrder sequence, ?_, ?_⟩
  · exact congrArg (fun p : Process => { p with ledger := looked.2.process.ledger })
      (e.process_query h.inOrder.sound sequence)
  · intro next hnext
    refine ⟨hnext.reports sequence s.kernel, ?_⟩
    have hkernel : looked.2.kernel = e.kernel.logAll
        (reviewLines sequence (s.process.review sequence taken.1 (e.kernel.now taken.2)).1)
        taken.2 := by
      simp only [looked, run_state, taken]
    rw [hkernel, hnext.logAll]
    exact hnext.exhausted sequence s.kernel

/-- An answer that waits is found after the timeout, and the record of another message, whose
answer waits too, is settled by the same query. -/
theorem state_finds_late_answer :
    let station := Station.start 7 Config.standard
    let s := ((station.endpoint.pursueAll
      [.operate (.send 9 0x1000 [1] true none), .operate (.send 9 0x1000 [2] true none),
        .meanwhile (KernelState.onWorld (World.advance 1001))]).run
          (station.session World.start)).2
    let looked := (station.endpoint.state 1).run s
    looked.1 = .received ∧
      (looked.2.process.ledger.records[1]?).map SentRecord.state = some .unknown ∧
      (looked.2.kernel.takeReport 7 1).1 = none := by
  intro station s looked
  have hreachable : station.endpoint.Reachable s :=
    (Station.reachable_start 7 Config.standard World.start).trans (continues_pursueAll _ _)
  obtain ⟨hfinds, -, hdrained⟩ := state_finds hreachable 1
  have hfind : s.process.ledger.find? 1 =
      some (SentRecord.handedOver 1 9 0x1000 0 1000 .sent) := by decide
  have hreports : (station.endpoint.kernel.reports 1 s.kernel).1 =
      [.delivered] ++ .received [] :: [] := by decide
  have hbefore : Feedback.Undecided .sent [.delivered] :=
    Feedback.undecided_append_singleton.2 ⟨Feedback.undecided_nil, id⟩
  have hother : s.process.ledger.records[1]? =
      some (SentRecord.handedOver 2 9 0x1000 0 1000 .sent) := by decide
  refine ⟨?_, ?_, ?_⟩
  · exact (hfinds.decided _ _ _ _ hfind (Or.inl rfl) hreports hbefore trivial).2
  · rw [hfinds.others 1 _ hother (by decide)]
    decide
  · have hone : station.endpoint.kernel.OneByOne (KernelState.takeReport 7) :=
      Adjustments.oneByOne_kernel
    simpa only [looked] using (hdrained (KernelState.takeReport 7) hone).2

end Endpoint

end Interprocess
