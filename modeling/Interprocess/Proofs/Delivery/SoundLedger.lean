import Interprocess.Delivery.Ledger
import Interprocess.Proofs.Delivery.RecordGrowth
import Mathlib.Data.List.Nodup

/-!
# Sound ledgers

The operations of a ledger look for the first record of a sequence, and change it in place.
In a ledger that is in order there is only one such record, and then every operation is a
plain operation on the list of records.

**Input.**  A ledger `l` that is `Ledger.Sound next`: it keeps its capacity, its sequences
increase strictly and stay below `next`, and every record is coherent.

**Results.**
* `applyReports_eq`: to take in reports is to let one record absorb them.
* `updateFirst_eq_map`: in order, to change the first record of a sequence is to change each.
* `Sound.find?_eq_some_iff`: to look a sequence up is to find a member with it.
* `Sound.map`, `Sound.of_sublist`: what keeps a ledger sound.
-/

namespace Interprocess

/-- Among members with different keys, to drop the first one of a key is to drop each one. -/
theorem eraseP_eq_filter {α β : Type} [DecidableEq β] (key : α → β) (k : β) :
    ∀ {l : List α}, (l.map key).Nodup →
      l.eraseP (fun a => key a == k) = l.filter fun a => key a != k
  | [], _ => rfl
  | a :: rest, h => by
      obtain ⟨hfresh, hrest⟩ := List.nodup_cons.1 h
      by_cases hk : key a = k
      · have hother : ∀ b ∈ rest, (key b != k) = true := by
          intro b hb
          have hne : key b ≠ key a := fun heq => hfresh (heq ▸ List.mem_map_of_mem hb)
          simpa [hk] using hne
        simp [hk, List.filter_eq_self.2 hother]
      · simp [hk, eraseP_eq_filter key k hrest]

namespace SentRecord

theorem updateFirst_of_absent {sequence : Sequence} (f : SentRecord → SentRecord) :
    ∀ {records : List SentRecord}, (∀ r ∈ records, r.sequence ≠ sequence) →
      updateFirst sequence f records = records
  | [], _ => rfl
  | r :: rest, h => by
      have hhead : r.sequence ≠ sequence := h r (by simp)
      have htail := updateFirst_of_absent f (fun r hr => h r (List.mem_cons_of_mem _ hr))
      simp [updateFirst, hhead, htail]

/-- A record at the end is reached if no other has its sequence. -/
theorem updateFirst_append_singleton {sequence : Sequence} (f : SentRecord → SentRecord)
    {r : SentRecord} (hr : r.sequence = sequence) :
    ∀ {records : List SentRecord}, (∀ r ∈ records, r.sequence ≠ sequence) →
      updateFirst sequence f (records ++ [r]) = records ++ [f r]
  | [], _ => by simp [updateFirst, hr]
  | head :: rest, h => by
      have hhead : head.sequence ≠ sequence := h head (by simp)
      have htail :=
        updateFirst_append_singleton f hr (fun r hr => h r (List.mem_cons_of_mem _ hr))
      simp [updateFirst, hhead, htail]

/-- Among records in order, to change the first one of a sequence is to change each one. -/
theorem updateFirst_eq_map {sequence : Sequence} (f : SentRecord → SentRecord) :
    ∀ {records : List SentRecord},
      (records.Pairwise fun r r' => r.sequence < r'.sequence) →
      updateFirst sequence f records =
        records.map fun r => if r.sequence = sequence then f r else r
  | [], _ => rfl
  | r :: rest, h => by
      obtain ⟨hbelow, hrest⟩ := List.pairwise_cons.1 h
      by_cases hr : r.sequence = sequence
      · have hother : ∀ r' ∈ rest, ¬ r'.sequence = sequence := by
          intro r' hr' heq
          have hlt := hbelow r' hr'
          rw [hr, heq] at hlt
          exact Nat.lt_irrefl sequence hlt
        have hsame : (rest.map fun r => if r.sequence = sequence then f r else r) = rest :=
          (List.map_congr_left fun r' hr' => if_neg (hother r' hr')).trans (List.map_id' rest)
        simp [updateFirst, hr, hsame]
      · simp [updateFirst, hr, updateFirst_eq_map f hrest]

theorem updateFirst_updateFirst {sequence : Sequence} {f : SentRecord → SentRecord}
    (hf : ∀ r, (f r).sequence = r.sequence) (g : SentRecord → SentRecord)
    (records : List SentRecord) :
    updateFirst sequence g (updateFirst sequence f records) =
      updateFirst sequence (fun r => g (f r)) records := by
  induction records with
  | nil => rfl
  | cons r rest ih =>
      by_cases hr : r.sequence = sequence
      · simp [updateFirst, hr, hf]
      · simp [updateFirst, hr, ih]

/-- Only what a change does to the first record of the sequence matters. -/
theorem updateFirst_congr {sequence : Sequence} {f g : SentRecord → SentRecord}
    {records : List SentRecord}
    (h : ∀ r, records.find? (fun r => r.sequence == sequence) = some r → f r = g r) :
    updateFirst sequence f records = updateFirst sequence g records := by
  induction records with
  | nil => rfl
  | cons r rest ih =>
      by_cases hr : r.sequence = sequence
      · have hfirst : f r = g r := h r (by simp [hr])
        simp [updateFirst, hr, hfirst]
      · have hrest := ih fun r' hr' => h r' (by simpa [hr] using hr')
        simp [updateFirst, hr, hrest]

theorem updateFirst_id (sequence : Sequence) (records : List SentRecord) :
    updateFirst sequence (fun r => r) records = records := by
  induction records with
  | nil => rfl
  | cons r rest ih =>
      by_cases hr : r.sequence = sequence <;> simp [updateFirst, hr, ih]

theorem absorb_sequence (r : SentRecord) (report : Feedback) :
    (r.absorb report).sequence = r.sequence :=
  (grows_absorb report r).sequence

end SentRecord

namespace Ledger

/-! ## Reports -/

theorem update_of_find?_eq_none {sequence : Sequence} {l : Ledger}
    (h : l.find? sequence = none) (f : SentRecord → SentRecord) :
    l.update sequence f = l := by
  have habsent : ∀ r ∈ l.records, r.sequence ≠ sequence := by
    intro r hr heq
    have := List.find?_eq_none.1 h r hr
    simp [heq] at this
  simp [update, SentRecord.updateFirst_of_absent f habsent]

theorem update_of_find?_eq_some {sequence : Sequence} {l : Ledger} {r : SentRecord}
    (h : l.find? sequence = some r) {f g : SentRecord → SentRecord} (hfg : f r = g r) :
    l.update sequence f = l.update sequence g := by
  unfold update
  rw [SentRecord.updateFirst_congr]
  intro r' hr'
  rw [find?, hr'] at h
  cases h
  exact hfg

theorem update_id (sequence : Sequence) (l : Ledger) :
    l.update sequence (fun r => r) = l := by
  simp [update, SentRecord.updateFirst_id]

/-- A change that leaves the record of the sequence alone changes nothing. -/
theorem update_eq_self {sequence : Sequence} {l : Ledger} {r : SentRecord}
    (h : l.find? sequence = some r) {f : SentRecord → SentRecord} (hf : f r = r) :
    l.update sequence f = l :=
  (update_of_find?_eq_some h hf).trans (update_id sequence l)

theorem update_update {sequence : Sequence} {f : SentRecord → SentRecord}
    (hf : ∀ r, (f r).sequence = r.sequence) (g : SentRecord → SentRecord) (l : Ledger) :
    (l.update sequence f).update sequence g = l.update sequence fun r => g (f r) := by
  simp [update, SentRecord.updateFirst_updateFirst hf]

/-- A move is made in the record of its sequence if the state machine has it. -/
theorem advance_eq (sequence : Sequence) (next : DeliveryState) (l : Ledger) :
    (l.advance sequence next).2 =
      l.update sequence fun r =>
        if DeliveryState.canBecome next r.state then { r with state := next } else r := by
  unfold advance
  cases hfind : l.find? sequence with
  | none => simp [update_of_find?_eq_none hfind]
  | some r =>
      by_cases hmove : DeliveryState.canBecome next r.state = true
      · have hne : r.state ≠ next := by
          rintro rfl
          cases hstate : r.state <;>
            simp [hstate, DeliveryState.canBecome, DeliveryState.isAside] at hmove
        simp only [hne, if_false, hmove, if_true]
        exact update_of_find?_eq_some hfind (by simp [hmove])
      · refine Eq.trans ?_ (update_eq_self hfind (by simp [hmove])).symm
        by_cases hsame : r.state = next <;> simp [hsame, hmove]

section Feedback

variable {sequence : Sequence} {l : Ledger} {r : SentRecord}

/-- A report of `sending` moves only a record that is pending. -/
theorem applyFeedback_sending (hfind : l.find? sequence = some r) :
    (l.applyFeedback sequence .sending).2 = l.update sequence fun r => r.absorb .sending := by
  by_cases hpending : r.state = .pending
  · have hmove : (l.applyFeedback sequence .sending).2 = (l.advance sequence .sending).2 := by
      simp [applyFeedback, hfind, hpending]
    rw [hmove, advance_eq]
    exact update_of_find?_eq_some hfind rfl
  · have hstay : (l.applyFeedback sequence .sending).2 = l := by
      simp [applyFeedback, hfind, hpending]
    have hdeaf : r.absorb .sending = r := by
      cases hstate : r.state <;>
        simp_all [SentRecord.absorb, Feedback.reportedState, DeliveryState.canBecome,
          DeliveryState.isAside]
    rw [hstay]
    symm
    exact update_eq_self hfind hdeaf

/-- A report of a response keeps the response if it moves the record. -/
theorem applyFeedback_received (hfind : l.find? sequence = some r) (response : Bytes) :
    (l.applyFeedback sequence (.received response)).2 =
      l.update sequence fun r => r.absorb (.received response) := by
  by_cases hmove : DeliveryState.canBecome .received r.state = true
  · have hne : r.state ≠ .received := by
      intro hreceived
      simp [hreceived, DeliveryState.canBecome] at hmove
    have htwice : (l.applyFeedback sequence (.received response)).2 =
        (l.update sequence fun r => { r with state := .received }).update sequence
          fun r => { r with response := some response } := by
      simp [applyFeedback, advance, hfind, hne, hmove]
    rw [htwice, update_update]
    · exact update_of_find?_eq_some hfind
        (by simp [SentRecord.absorb, Feedback.reportedState, Feedback.response?, hmove])
    · exact fun r => rfl
  · have hstay : (l.applyFeedback sequence (.received response)).2 = l := by
      by_cases hsame : r.state = .received <;>
        simp [applyFeedback, advance, hfind, hsame, hmove]
    have hdeaf : r.absorb (.received response) = r := by
      simp [SentRecord.absorb, Feedback.reportedState, hmove]
    rw [hstay]
    symm
    exact update_eq_self hfind hdeaf

/-- To take in a report is to let the record of its sequence absorb it. -/
theorem applyFeedback_eq (sequence : Sequence) (report : Feedback) (l : Ledger) :
    (l.applyFeedback sequence report).2 = l.update sequence fun r => r.absorb report := by
  cases hfind : l.find? sequence with
  | none =>
      rw [update_of_find?_eq_none hfind]
      cases report <;> simp [applyFeedback, advance, hfind]
  | some r =>
      cases report with
      | sending => exact applyFeedback_sending hfind
      | received response => exact applyFeedback_received hfind response
      | delivered | deliveryFailed | permissionDenied | lost | unknown =>
          simp only [applyFeedback]
          rw [advance_eq]
          exact update_of_find?_eq_some hfind rfl

end Feedback

/-- To take in reports is to let the record of their sequence absorb them in order. -/
theorem applyReports_eq (sequence : Sequence) (reports : List Feedback) (l : Ledger) :
    (l.applyReports sequence reports).2 =
      l.update sequence (SentRecord.absorbAll reports) := by
  induction reports generalizing l with
  | nil => exact (update_id sequence l).symm
  | cons report rest ih =>
      have hrest : (l.applyReports sequence (report :: rest)).2 =
          ((l.applyFeedback sequence report).2.applyReports sequence rest).2 := by
        simp only [applyReports]
        split <;> rfl
      rw [hrest, ih, applyFeedback_eq,
        update_update fun r => SentRecord.absorb_sequence r report]
      rfl

/-! ## Soundness -/

/-- What holds of the ledger of a process between two operations, where `next` is the next
sequence that the process gives out: later entries have larger sequences, and all of them
were given out. -/
structure Sound (next : Sequence) (l : Ledger) : Prop where
  within : l.records.length ≤ l.capacity
  increasing : l.records.Pairwise fun r r' => r.sequence < r'.sequence
  givenOut : ∀ r ∈ l.records, r.sequence < next
  coherent : ∀ r ∈ l.records, r.Coherent

theorem sound_empty (capacity next : Nat) : (empty capacity).Sound next where
  within := Nat.zero_le capacity
  increasing := List.Pairwise.nil
  givenOut := by simp [empty]
  coherent := by simp [empty]

section Sound

variable {next sequence : Sequence} {l : Ledger}

theorem Sound.mono {later : Sequence} (h : l.Sound next) (hle : next ≤ later) :
    l.Sound later :=
  { h with givenOut := fun r hr => Nat.lt_of_lt_of_le (h.givenOut r hr) hle }

/-- A change of the records one by one keeps a ledger sound. -/
theorem Sound.map (h : l.Sound next) {f : SentRecord → SentRecord}
    (hsequence : ∀ r, (f r).sequence = r.sequence)
    (hcoherent : ∀ r, r.Coherent → (f r).Coherent) :
    Sound next { l with records := l.records.map f } where
  within := by
    simpa using h.within
  increasing := by
    rw [List.pairwise_map]
    simpa only [hsequence] using h.increasing
  givenOut := by
    intro r hr
    obtain ⟨old, hold, rfl⟩ := List.mem_map.1 hr
    rw [hsequence]
    exact h.givenOut old hold
  coherent := by
    intro r hr
    obtain ⟨old, hold, rfl⟩ := List.mem_map.1 hr
    exact hcoherent old (h.coherent old hold)

/-- To drop records keeps a ledger sound. -/
theorem Sound.of_sublist (h : l.Sound next) {kept : List SentRecord}
    (hkept : kept.Sublist l.records) :
    Sound next { l with records := kept } where
  within := Nat.le_trans hkept.length_le h.within
  increasing := h.increasing.sublist hkept
  givenOut := fun r hr => h.givenOut r (hkept.subset hr)
  coherent := fun r hr => h.coherent r (hkept.subset hr)

theorem Sound.erase (h : l.Sound next) (sequence : Sequence) :
    (l.erase sequence).Sound next :=
  h.of_sublist List.eraseP_sublist

/-- No sequence occurs twice. -/
theorem Sound.nodup_sequences (h : l.Sound next) :
    (l.records.map SentRecord.sequence).Nodup := by
  unfold List.Nodup
  rw [List.pairwise_map]
  exact h.increasing.imp fun hlt => Nat.ne_of_lt hlt

/-- Two records of one sequence are the same. -/
theorem Sound.eq_of_sequence_eq (h : l.Sound next) {r r' : SentRecord}
    (hr : r ∈ l.records) (hr' : r' ∈ l.records) (heq : r.sequence = r'.sequence) :
    r = r' :=
  List.inj_on_of_nodup_map h.nodup_sequences hr hr' heq

/-- To look a sequence up is to find a member with it. -/
theorem Sound.find?_eq_some_iff (h : l.Sound next) {r : SentRecord} :
    l.find? sequence = some r ↔ r ∈ l.records ∧ r.sequence = sequence := by
  constructor
  · intro hfind
    exact ⟨List.mem_of_find?_eq_some hfind, find?_eq_some_sequence hfind⟩
  · rintro ⟨hr, hsequence⟩
    cases hfind : l.find? sequence with
    | none =>
        have := List.find?_eq_none.1 hfind r hr
        simp [hsequence] at this
    | some found =>
        have hfound := List.mem_of_find?_eq_some hfind
        have hsame := (find?_eq_some_sequence hfind).trans hsequence.symm
        rw [h.eq_of_sequence_eq hfound hr hsame]

theorem find?_eq_none_iff :
    l.find? sequence = none ↔ ∀ r ∈ l.records, r.sequence ≠ sequence := by
  simp [find?]

theorem find?_map {f : SentRecord → SentRecord} (hf : ∀ r, (f r).sequence = r.sequence)
    (sequence : Sequence) (l : Ledger) :
    find? sequence { l with records := l.records.map f } = (l.find? sequence).map f := by
  simp only [find?, List.find?_map]
  congr 2
  funext r
  simp [hf]

/-- A sequence that was not given out has no record. -/
theorem Sound.find?_eq_none (h : l.Sound next) (hle : next ≤ sequence) :
    l.find? sequence = none := by
  rw [find?_eq_none_iff]
  intro r hr
  exact Nat.ne_of_lt (Nat.lt_of_lt_of_le (h.givenOut r hr) hle)

end Sound

end Ledger

end Interprocess
