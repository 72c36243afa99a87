import Interprocess.Proofs.Delivery.Expiry
import Interprocess.Proofs.Endpoint.Reachable
import Interprocess.Proofs.Kernel.Clock

/-!
# The order of queries

A query takes in the reports about one sequence, and settles every overdue record.  So the
query of one sequence may settle another record whose reports still wait, and these come too
late then.

**Input.**  A kernel in which queries and log lines take no time, and leave the reports about
other sequences; a reachable session; and two sequences.

**Lost news.**  `SentRecord.LosesNews` says that a record is overdue while reports wait that
bring it to an end other than `unknown`.

**Results.**
* `settle_absorbAll_settle`: a record that is settled before its reports are taken in is the
  same afterwards, unless it loses news.
* `state_order_iff`: two queries commute exactly if neither record loses news.
-/

namespace Interprocess

namespace SentRecord

/-- Whether a record that is settled now comes to another end than its reports say. -/
def LosesNews (reports : List Feedback) (now : Nat) (r : SentRecord) : Prop :=
  r.isOverdue now = true ∧ (absorbAll reports r).state.isTerminal = true ∧
    (absorbAll reports r).state ≠ .unknown

/-- A message about which nothing will be known has the record that it had, but for the
state. -/
theorem Grows.eq_of_unknown {r later : SentRecord} (h : r.Grows later)
    (hopen : r.state.isTerminal = false) (hr : r.Coherent) (hlater : later.Coherent)
    (hunknown : later.state = .unknown) :
    later = { r with state := .unknown } := by
  have hnone : r.response = none := by
    refine hr.response_eq_none ?_
    intro hreceived
    simp [hreceived, DeliveryState.isTerminal] at hopen
  have hnone' : later.response = none := hlater.response_eq_none (by simp [hunknown])
  obtain ⟨hsequence, hdestination, hkind, hsentAt, htimeout, _, _⟩ := h
  cases r
  cases later
  simp_all

/-- An overdue record of a message that was handed over is settled as `unknown`. -/
theorem settle_of_isOverdue {r : SentRecord} {now : Nat} (h : r.Coherent)
    (hoverdue : r.isOverdue now = true) :
    r.settle now = { r with state := .unknown } := by
  obtain ⟨hopen, _⟩ := isOverdue_iff.1 hoverdue
  have hverdict : r.verdict = .unknown := by
    rcases (DeliveryState.not_isTerminal_iff h.handed).1 hopen with hsent | hdelivered
    · simp [verdict, hsent]
    · simp [verdict, hdelivered]
  simp [settle, hoverdue, hverdict]

/-- After that no report is heard any more. -/
theorem absorbAll_settle_of_isOverdue {r : SentRecord} {now : Nat} (h : r.Coherent)
    (hoverdue : r.isOverdue now = true) (reports : List Feedback) :
    (absorbAll reports (r.settle now)).settle now = { r with state := .unknown } := by
  have hend : (r.settle now).state.isTerminal = true := by
    rw [settle_of_isOverdue h hoverdue]
    rfl
  rw [absorbAll_of_isTerminal hend, settle_of_isTerminal hend, settle_of_isOverdue h hoverdue]

/-- An overdue record whose reports are taken in first ends as `unknown`, unless settling it
first would lose news. -/
theorem state_absorbAll_eq_unknown_iff {r : SentRecord} {now : Nat} {reports : List Feedback}
    (h : r.Coherent) (hoverdue : r.isOverdue now = true) :
    ((absorbAll reports r).settle now).state = .unknown ↔ ¬ r.LosesNews reports now := by
  obtain ⟨_, hstale⟩ := isOverdue_iff.1 hoverdue
  have hgrown := grows_absorbAll reports r
  cases hend : (absorbAll reports r).state.isTerminal with
  | true =>
      rw [settle_of_isTerminal hend]
      simp [LosesNews, hoverdue, hend]
  | false =>
      have habsorbed : (absorbAll reports r).isOverdue now = true := by
        rw [isOverdue_iff, isStale, hgrown.sentAt, hgrown.timeout]
        exact ⟨hend, hstale⟩
      rw [settle_of_isOverdue (h.absorbAll reports) habsorbed]
      simp [LosesNews, hend]

/-- A record that is settled before its reports are taken in is the same afterwards, unless
it loses news. -/
theorem settle_absorbAll_settle {r : SentRecord} (h : r.Coherent) {reports : List Feedback}
    {now : Nat} (hkeeps : ¬ r.LosesNews reports now) :
    (absorbAll reports (r.settle now)).settle now = (absorbAll reports r).settle now := by
  cases hoverdue : r.isOverdue now with
  | false => rw [settle_of_not_isOverdue hoverdue]
  | true =>
      have hopen := (isOverdue_iff.1 hoverdue).1
      have habsorbed := h.absorbAll reports
      have hgrown := (grows_absorbAll reports r).trans (grows_settle now habsorbed.handed)
      have hunknown := (state_absorbAll_eq_unknown_iff h hoverdue).2 hkeeps
      rw [absorbAll_settle_of_isOverdue h hoverdue,
        hgrown.eq_of_unknown hopen h (habsorbed.settle now) hunknown]

/-- If it loses news, its state tells. -/
theorem state_settle_absorbAll_settle_iff {r : SentRecord} (h : r.Coherent)
    {reports : List Feedback} {now : Nat} :
    ((absorbAll reports (r.settle now)).settle now).state =
        ((absorbAll reports r).settle now).state ↔
      ¬ r.LosesNews reports now := by
  constructor
  · intro hsame hloses
    have hoverdue := hloses.1
    rw [absorbAll_settle_of_isOverdue h hoverdue] at hsame
    exact (state_absorbAll_eq_unknown_iff h hoverdue).1 hsame.symm hloses
  · intro hkeeps
    rw [settle_absorbAll_settle h hkeeps]

/-! ## A response that waits -/

theorem isTerminal_absorbAll_of_open {reports : List Feedback}
    (hreports : ∀ report ∈ reports, report.reportedState.isTerminal = false)
    {r : SentRecord} (hopen : r.state.isTerminal = false) :
    (absorbAll reports r).state.isTerminal = false := by
  induction reports generalizing r with
  | nil => exact hopen
  | cons report rest ih =>
      refine ih (fun other hother => hreports other (List.mem_cons_of_mem _ hother)) ?_
      unfold absorb
      split
      · exact hreports report List.mem_cons_self
      · exact hopen

/-- A report of a response ends an open record, whatever is reported later. -/
theorem absorbAll_received {r : SentRecord} (h : r.Coherent)
    (hopen : r.state.isTerminal = false) {before : List Feedback}
    (hbefore : ∀ report ∈ before, report.reportedState.isTerminal = false) (bytes : Bytes)
    (after : List Feedback) :
    absorbAll (before ++ .received bytes :: after) r =
      { absorbAll before r with state := .received, response := some bytes } := by
  have hstill := isTerminal_absorbAll_of_open hbefore hopen
  have hmove : DeliveryState.canBecome .received (absorbAll before r).state = true := by
    rcases (DeliveryState.not_isTerminal_iff (h.absorbAll before).handed).1 hstill
      with hsent | hdelivered
    · rw [hsent]
      rfl
    · rw [hdelivered]
      rfl
  have hheard : (absorbAll before r).absorb (.received bytes) =
      { absorbAll before r with state := .received, response := some bytes } := by
    simp [absorb, Feedback.reportedState, Feedback.response?, hmove]
  rw [absorbAll_append, absorbAll_cons, hheard]
  exact absorbAll_of_isTerminal rfl after

/-! ## Two queries of one record -/

theorem reviewed_reviewed {first second : Sequence} (hne : first ≠ second)
    (firstReports secondReports : List Feedback) (now : Nat) (r : SentRecord) :
    (r.reviewed first firstReports now).reviewed second secondReports now =
      if r.sequence = first then (absorbAll firstReports r).settle now
      else if r.sequence = second then (absorbAll secondReports (r.settle now)).settle now
      else r.settle now := by
  rw [reviewed, reviewed_sequence, reviewed]
  by_cases hfirst : r.sequence = first
  · have hsecond : r.sequence ≠ second := by
      rw [hfirst]
      exact hne
    simp only [hfirst, if_true, hne, if_false, settle_settle, Nat.max_self]
  · by_cases hsecond : r.sequence = second
    · simp only [hsecond, if_true, hne.symm, if_false]
    · simp only [hfirst, hsecond, if_false, settle_settle, Nat.max_self]

/-- Two queries do the same to a record in either order, unless it loses news. -/
theorem reviewed_comm {first second : Sequence} (hne : first ≠ second)
    {firstReports secondReports : List Feedback} {now : Nat} {r : SentRecord}
    (h : r.Coherent) (hfirst : r.sequence = first → ¬ r.LosesNews firstReports now)
    (hsecond : r.sequence = second → ¬ r.LosesNews secondReports now) :
    (r.reviewed first firstReports now).reviewed second secondReports now =
      (r.reviewed second secondReports now).reviewed first firstReports now := by
  rw [reviewed_reviewed hne, reviewed_reviewed hne.symm]
  by_cases hr1 : r.sequence = first
  · -- The record of the first sequence is settled early if the second one is queried first.
    have hr2 : r.sequence ≠ second := by
      rw [hr1]
      exact hne
    rw [if_pos hr1, if_neg hr2, if_pos hr1]
    exact (settle_absorbAll_settle h (hfirst hr1)).symm
  · rw [if_neg hr1, if_neg hr1]
    by_cases hr2 : r.sequence = second
    · rw [if_pos hr2, if_pos hr2]
      exact settle_absorbAll_settle h (hsecond hr2)
    · rw [if_neg hr2, if_neg hr2]

end SentRecord

namespace Endpoint

variable {σ : Type} {e : Endpoint σ} {first second : Sequence} {s : Session σ}

/-- Whether the record of a sequence loses news when another sequence is queried now. -/
def LosesNews (e : Endpoint σ) (sequence : Sequence) (s : Session σ) : Prop :=
  ∃ r, s.process.ledger.find? sequence = some r ∧
    r.LosesNews (e.kernel.reports sequence s.kernel).1 (e.kernel.now s.kernel)

section Queries

variable (hclock : e.kernel.StillClock) (hreports : e.kernel.SeparateReports)
include hclock

theorem now_query (sequence : Sequence) (s : Session σ) :
    e.kernel.now (e.apply (.query sequence) s).kernel = e.kernel.now s.kernel := by
  simp only [apply, run_state]
  exact (hclock.logAll _ _).trans (hclock.reports sequence s.kernel)

/-- What a query does to the ledger, in a kernel in which it takes no time. -/
theorem ledger_query (h : e.InOrder s) (sequence : Sequence) :
    (e.apply (.query sequence) s).process.ledger =
      { s.process.ledger with
        records := s.process.ledger.records.map
          (SentRecord.reviewed sequence (e.kernel.reports sequence s.kernel).1
            (e.kernel.now s.kernel)) } := by
  rw [e.process_query h.sound, hclock.reports]

/-- The record of a sequence after a query of it. -/
theorem find?_query (h : e.InOrder s) (sequence : Sequence) :
    (e.apply (.query sequence) s).process.ledger.find? sequence =
      (s.process.ledger.find? sequence).map fun r =>
        (SentRecord.absorbAll (e.kernel.reports sequence s.kernel).1 r).settle
          (e.kernel.now s.kernel) := by
  rw [e.find?_query_self h.sound, hclock.reports]

include hreports

omit hclock in
theorem reports_query (hne : first ≠ second) (s : Session σ) :
    (e.kernel.reports second (e.apply (.query first) s).kernel).1 =
      (e.kernel.reports second s.kernel).1 := by
  simp only [apply, run_state]
  exact (hreports.logAll _ _ _).trans (hreports.reports hne.symm s.kernel)

/-- What two queries do to the ledger. -/
theorem ledger_query_query (h : e.InOrder s) (hne : first ≠ second) :
    (e.apply (.query second) (e.apply (.query first) s)).process.ledger =
      { s.process.ledger with
        records := s.process.ledger.records.map fun r =>
          (r.reviewed first (e.kernel.reports first s.kernel).1
            (e.kernel.now s.kernel)).reviewed second
              (e.kernel.reports second s.kernel).1 (e.kernel.now s.kernel) } := by
  rw [ledger_query hclock (e.inOrder_apply h (.query first)), ledger_query hclock h,
    now_query hclock, reports_query hreports hne]
  simp only [List.map_map]
  rfl

/-- The record of a sequence after queries of another one and of it. -/
theorem find?_query_query (h : e.InOrder s) (hne : first ≠ second) :
    (e.apply (.query second) (e.apply (.query first) s)).process.ledger.find? second =
      (s.process.ledger.find? second).map fun r =>
        (SentRecord.absorbAll (e.kernel.reports second s.kernel).1
          (r.settle (e.kernel.now s.kernel))).settle (e.kernel.now s.kernel) := by
  have hkeeps : ∀ r : SentRecord,
      ((r.reviewed first (e.kernel.reports first s.kernel).1
        (e.kernel.now s.kernel)).reviewed second (e.kernel.reports second s.kernel).1
          (e.kernel.now s.kernel)).sequence = r.sequence := by
    intro r
    rw [SentRecord.reviewed_sequence, SentRecord.reviewed_sequence]
  rw [ledger_query_query hclock hreports h hne, Ledger.find?_map hkeeps]
  cases hfind : s.process.ledger.find? second with
  | none => rfl
  | some r =>
      have hsequence := Ledger.find?_eq_some_sequence hfind
      rw [Option.map_some, SentRecord.reviewed_reviewed hne, hsequence, if_neg hne.symm,
        if_pos rfl]
      rfl

/-- A query that comes second answers the same, unless news is lost. -/
theorem state_second_iff (h : e.InOrder s) (hne : first ≠ second) :
    ((e.state second).run ((e.state first).run s).2).1 = ((e.state second).run s).1 ↔
      ¬ e.LosesNews second s := by
  have hsecond := find?_query_query hclock hreports h hne
  have halone := find?_query hclock h second
  rw [state_eq_stateOf, state_eq_stateOf, Ledger.stateOf, Ledger.stateOf, halone]
  have hsame : e.apply (.query first) s = ((e.state first).run s).2 := rfl
  rw [← hsame, hsecond, LosesNews]
  cases hfind : s.process.ledger.find? second with
  | none => simp
  | some r =>
      obtain ⟨hin, _⟩ := h.sound.find?_eq_some_iff.1 hfind
      simpa using SentRecord.state_settle_absorbAll_settle_iff (h.sound.coherent r hin)

/-- Two queries leave the same ledger in either order, unless news is lost. -/
theorem ledger_query_comm (h : e.InOrder s) (hne : first ≠ second)
    (hfirst : ¬ e.LosesNews first s) (hsecond : ¬ e.LosesNews second s) :
    (e.apply (.query second) (e.apply (.query first) s)).process.ledger =
      (e.apply (.query first) (e.apply (.query second) s)).process.ledger := by
  rw [ledger_query_query hclock hreports h hne, ledger_query_query hclock hreports h hne.symm]
  refine congrArg (Ledger.mk s.process.ledger.capacity) (List.map_congr_left fun r hr => ?_)
  have hcoherent := h.sound.coherent r hr
  refine SentRecord.reviewed_comm hne hcoherent ?_ ?_
  · intro hsequence hloses
    exact hfirst ⟨r, h.sound.find?_eq_some_iff.2 ⟨hr, hsequence⟩, hloses⟩
  · intro hsequence hloses
    exact hsecond ⟨r, h.sound.find?_eq_some_iff.2 ⟨hr, hsequence⟩, hloses⟩

end Queries

/-- **When the order of two queries does not matter.**  The answers and the ledger are the
same in either order exactly if neither record loses news.  A response that waits is always
found by a query that comes first; a query that comes second finds it exactly if the record
is not stale. -/
theorem state_order_iff (h : e.Reachable s) (hclock : e.kernel.StillClock)
    (hreports : e.kernel.SeparateReports) (hne : first ≠ second) :
    let firstFirst := (e.state second).run ((e.state first).run s).2
    let secondFirst := (e.state first).run ((e.state second).run s).2
    ((((e.state first).run s).1, firstFirst.1) =
          (secondFirst.1, ((e.state second).run s).1) ∧
        firstFirst.2.process.ledger = secondFirst.2.process.ledger ↔
      ¬ e.LosesNews first s ∧ ¬ e.LosesNews second s) ∧
    ∀ r bytes before after, s.process.ledger.find? second = some r →
      r.state.isTerminal = false →
      (e.kernel.reports second s.kernel).1 = before ++ .received bytes :: after →
      (∀ report ∈ before, report.reportedState.isTerminal = false) →
      let answered := fun looked : DeliveryState × Session σ =>
        looked.1 = .received ∧
          (looked.2.process.ledger.find? second).bind SentRecord.response = some bytes
      answered ((e.state second).run s) ∧
        (r.isStale (e.kernel.now s.kernel) = false → answered firstFirst) ∧
        (r.isStale (e.kernel.now s.kernel) = true → firstFirst.1 = .unknown) := by
  intro firstFirst secondFirst
  have horder := h.inOrder
  have hsecond := state_second_iff hclock hreports horder hne
  have hfirst := state_second_iff hclock hreports horder hne.symm
  refine ⟨?_, ?_⟩
  · constructor
    · rintro ⟨hanswers, _⟩
      obtain ⟨hanswer1, hanswer2⟩ := Prod.mk.inj hanswers
      exact ⟨hfirst.1 hanswer1.symm, hsecond.1 hanswer2⟩
    · rintro ⟨hkeeps1, hkeeps2⟩
      refine ⟨Prod.ext (hfirst.2 hkeeps1).symm (hsecond.2 hkeeps2), ?_⟩
      exact ledger_query_comm hclock hreports horder hne hkeeps1 hkeeps2
  · intro r bytes before after hfind hopen hwaiting hbefore answered
    have hcoherent := horder.sound.coherent r (horder.sound.find?_eq_some_iff.1 hfind).1
    have halone := find?_query hclock horder second
    have hafter := find?_query_query hclock hreports horder hne
    rw [hfind, hwaiting, Option.map_some] at halone hafter
    have hheard : (SentRecord.absorbAll (before ++ .received bytes :: after) r).settle
        (e.kernel.now s.kernel) =
          { SentRecord.absorbAll before r with state := .received, response := some bytes } := by
      rw [SentRecord.absorbAll_received hcoherent hopen hbefore]
      exact SentRecord.settle_of_isTerminal rfl _
    refine ⟨?_, ?_, ?_⟩
    · rw [hheard] at halone
      exact ⟨e.state_eq_of_find? halone, congrArg (Option.bind · SentRecord.response) halone⟩
    · intro hstale
      rw [SentRecord.settle_of_not_isStale hstale, hheard] at hafter
      exact ⟨e.state_eq_of_find? hafter, congrArg (Option.bind · SentRecord.response) hafter⟩
    · intro hstale
      have hoverdue := SentRecord.isOverdue_iff.2 ⟨hopen, hstale⟩
      rw [SentRecord.absorbAll_settle_of_isOverdue hcoherent hoverdue] at hafter
      exact e.state_eq_of_find? hafter

/-- Up to the timeout a query of another sequence does not hide the response. -/
theorem state_order_iff_in_time :
    let station := Station.start 7 Config.standard
    let s := ((station.endpoint.pursueAll
      [.operate (.send 9 0x1000 [1] true none), .operate (.send 9 0x1000 [2] true none),
        .meanwhile (KernelState.onWorld (World.advance 1000))]).run
          (station.session World.start)).2
    ((station.endpoint.state 2).run ((station.endpoint.state 1).run s).2).1 = .received := by
  intro station s
  have hreachable : station.endpoint.Reachable s :=
    (Station.reachable_start 7 Config.standard World.start).trans (continues_pursueAll _ _)
  obtain ⟨-, hwaiting⟩ := state_order_iff hreachable Adjustments.stillClock_kernel
    Adjustments.separateReports_kernel (show (1 : Sequence) ≠ 2 by decide)
  have hfind : s.process.ledger.find? 2 =
      some (SentRecord.handedOver 2 9 0x1000 0 1000 .sent) := by decide
  have hreports : (station.endpoint.kernel.reports 2 s.kernel).1 =
      [.delivered] ++ .received [] :: [] := by decide
  exact (hwaiting _ [] [.delivered] [] hfind rfl hreports (by decide)).2.1 (by decide) |>.1

/-- After the timeout the order matters: two responses wait, and only the first query finds
one. -/
theorem state_order_matters :
    let station := Station.start 7 Config.standard
    let s := ((station.endpoint.pursueAll
      [.operate (.send 9 0x1000 [1] true none), .operate (.send 9 0x1000 [2] true none),
        .meanwhile (KernelState.onWorld (World.advance 1001))]).run
          (station.session World.start)).2
    let first := (station.endpoint.state 1).run s
    let second := (station.endpoint.state 2).run s
    station.endpoint.Reachable s ∧
      (station.endpoint.kernel.reports 2 s.kernel).1 = [.delivered, .received []] ∧
      (first.1, ((station.endpoint.state 2).run first.2).1) = (.received, .unknown) ∧
      (((station.endpoint.state 1).run second.2).1, second.1) = (.unknown, .received) := by
  intro station s first second
  have hreachable : station.endpoint.Reachable s :=
    (Station.reachable_start 7 Config.standard World.start).trans (continues_pursueAll _ _)
  exact ⟨hreachable, by decide, by decide, by decide⟩

end Endpoint

end Interprocess
