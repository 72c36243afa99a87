import Interprocess.Proofs.Delivery.Entry
import Interprocess.Proofs.Delivery.Expiry

/-!
# Overflow

A full ledger gives up one record for a new one.  This module says which one, for a ledger
that any requests led to, and that a ledger never outgrows its capacity.

A record is *expendable* at a time when it is terminal, or stale at that time.  There is room
for a new record exactly if there is a free place or an expendable record; so an open record
within its timeout is never given up.  Expiry makes stale records terminal, which leaves the
expendable records the same (`isExpendable_settle`).

**Results.**
* `room?_isSome_iff`: when there is room.
* `givesUp_of_room?`: what a full ledger gives up, by order of preference and of entry.
* `within_perform`, `within_run`: one request, and then any requests, keep to the capacity.
* `insert_after_run`: what entering a record does to a ledger that any requests led to.
-/

namespace Interprocess

namespace SentRecord

variable {now : Nat} {r : SentRecord}

/-- Whether a full ledger may give the record up at `now`. -/
def IsExpendable (now : Nat) (r : SentRecord) : Prop :=
  r.state.isTerminal = true ∨ r.isStale now = true

/-- A record that was not terminal becomes terminal only because it was stale. -/
theorem isTerminal_settle (h : (r.settle now).state.isTerminal = true) : r.IsExpendable now := by
  unfold settle at h
  split at h
  · next hoverdue => exact Or.inr (isOverdue_iff.1 hoverdue).2
  · exact Or.inl h

/-- Expiry makes no record expendable that was not, and spares none that was. -/
theorem isExpendable_settle : (r.settle now).IsExpendable now ↔ r.IsExpendable now := by
  constructor
  · rintro (hterminal | hstale)
    · exact isTerminal_settle hterminal
    · rw [isStale_settle] at hstale
      exact Or.inr hstale
  · rintro (hterminal | hstale)
    · rw [settle_of_isTerminal hterminal]
      exact Or.inl hterminal
    · rw [← isStale_settle] at hstale
      exact Or.inr hstale

end SentRecord

/-- To erase the first element with a property splits the list there. -/
theorem eraseIdx_of_findIdx? {α : Type} {p : α → Bool} {l : List α} {i : Nat}
    (h : l.findIdx? p = some i) :
    ∃ before a after, l = before ++ a :: after ∧ l.eraseIdx i = before ++ after ∧
      p a = true ∧ ∀ b ∈ before, p b = false := by
  obtain ⟨hi, hp, hbefore⟩ := List.findIdx?_eq_some_iff_getElem.1 h
  refine ⟨l.take i, l[i], l.drop (i + 1), ?_, List.eraseIdx_eq_take_drop_succ .., hp, ?_⟩
  · rw [← List.drop_eq_getElem_cons hi, List.take_append_drop]
  · intro b hb
    obtain ⟨j, hj, rfl⟩ := List.mem_take_iff_getElem.1 hb
    simpa using hbefore j (by omega)

namespace Ledger

/-! ## Room -/

/-- At `now` these records are the kept ones and a victim, which is the first terminal record,
or else, if none is terminal, the first stale one.  The others stay in order. -/
def GivesUp (now : Nat) (records : List SentRecord) (victim : SentRecord)
    (kept : List SentRecord) : Prop :=
  ∃ before after, records = before ++ victim :: after ∧ kept = before ++ after ∧
    ((victim.state.isTerminal = true ∧ ∀ r ∈ before, r.state.isTerminal = false) ∨
      ((∀ r ∈ records, r.state.isTerminal = false) ∧ victim.isStale now = true ∧
        ∀ r ∈ before, r.isStale now = false))

/-- Whether a record can be entered at `now`. -/
def HasRoom (now : Nat) (l : Ledger) : Prop :=
  0 < l.capacity ∧ (l.size < l.capacity ∨ ∃ r ∈ l.records, r.IsExpendable now)

section Room

variable {now : Nat} {l : Ledger}

/-- Every record that is not expendable is kept. -/
theorem GivesUp.mem_kept {records kept : List SentRecord} {victim r : SentRecord}
    (h : GivesUp now records victim kept) (hr : r ∈ records) (hneeded : ¬ r.IsExpendable now) :
    r ∈ kept := by
  obtain ⟨before, after, rfl, rfl, hvictim⟩ := h
  have hother : r ≠ victim := by
    rintro rfl
    rcases hvictim with ⟨hterminal, _⟩ | ⟨_, hstale, _⟩
    · exact hneeded (Or.inl hterminal)
    · exact hneeded (Or.inr hstale)
  simpa [hother] using hr

theorem victim?_isSome_iff :
    (l.victim? now).isSome = true ↔ ∃ r ∈ l.records, r.IsExpendable now := by
  constructor
  · intro h
    obtain ⟨i, hvictim⟩ := Option.isSome_iff_exists.1 h
    obtain ⟨hi, hreason⟩ := victim?_spec hvictim
    exact ⟨l.records[i], List.getElem_mem hi, hreason⟩
  · rintro ⟨r, hr, hreason⟩
    unfold victim?
    split
    · rfl
    · next hnone =>
        have hopen : r.state.isTerminal = false := List.findIdx?_eq_none_iff.1 hnone r hr
        have hstale : r.isStale now = true := by
          rcases hreason with hterminal | hstale
          · rw [hopen] at hterminal
            cases hterminal
          · exact hstale
        simpa using ⟨r, hr, hstale⟩

theorem room?_isSome_iff : (l.room? now).isSome = true ↔ l.HasRoom now := by
  unfold room? HasRoom size
  split
  · simp_all
  · split
    · next hcapacity hfree => simp [hfree, Nat.pos_of_ne_zero hcapacity]
    · next hcapacity hfull =>
        simp [hfull, Nat.pos_of_ne_zero hcapacity, victim?_isSome_iff]

theorem room?_of_free (h : l.size < l.capacity) : l.room? now = some l.records := by
  have hcapacity : l.capacity ≠ 0 := by omega
  exact (if_neg hcapacity).trans (if_pos h)

/-- What a full ledger gives up when it makes room. -/
theorem givesUp_of_room? {kept : List SentRecord} (hfull : ¬ l.size < l.capacity)
    (h : l.room? now = some kept) :
    ∃ victim, GivesUp now l.records victim kept := by
  unfold room? at h
  split at h
  · cases h
  · have h : (l.victim? now).map l.records.eraseIdx = some kept := (if_neg hfull).symm.trans h
    obtain ⟨i, hvictim, rfl⟩ := Option.map_eq_some_iff.1 h
    unfold victim? at hvictim
    split at hvictim
    · next j hterminal =>
        cases hvictim
        obtain ⟨before, victim, after, hsplit, herase, hvictim, hbefore⟩ :=
          eraseIdx_of_findIdx? hterminal
        exact ⟨victim, before, after, hsplit, herase, Or.inl ⟨hvictim, hbefore⟩⟩
    · next hnone =>
        obtain ⟨before, victim, after, hsplit, herase, hvictim, hbefore⟩ :=
          eraseIdx_of_findIdx? hvictim
        have hopen := List.findIdx?_eq_none_iff.1 hnone
        exact ⟨victim, before, after, hsplit, herase, Or.inr ⟨hopen, hvictim, hbefore⟩⟩

/-- Every record that is not expendable stays when room is made. -/
theorem mem_of_room? {kept : List SentRecord} {r : SentRecord} (h : l.room? now = some kept)
    (hr : r ∈ l.records) (hneeded : ¬ r.IsExpendable now) :
    r ∈ kept := by
  by_cases hfree : l.size < l.capacity
  · rw [room?_of_free hfree] at h
    cases h
    exact hr
  · obtain ⟨victim, hgives⟩ := givesUp_of_room? hfree h
    exact hgives.mem_kept hr hneeded

theorem hasRoom_expire : (l.expire now).2.HasRoom now ↔ l.HasRoom now := by
  simp [HasRoom, expire, size, SentRecord.isExpendable_settle]

/-- An attempt to enter a record is answered by whether there is room. -/
theorem perform_insert (record : SentRecord) :
    l.perform (.insert record now) =
      (.retained (l.room? now).isSome, l.enter record now) := by
  simp only [perform, enter, insert?_eq]
  cases l.room? now <;> rfl

/-- The record of a new sequence is there after it was entered exactly if there was room for it. -/
theorem Sound.find?_enter_ne_none_iff {next : Sequence} (h : l.Sound next) {record : SentRecord}
    (hsequence : record.sequence = next) (now : Nat) :
    (l.enter record now).find? next ≠ none ↔ l.HasRoom now := by
  rw [← room?_isSome_iff]
  cases hroom : l.room? now with
  | none => simp [enter_of_room?_eq_none hroom, h.find?_eq_none (Nat.le_refl next)]
  | some kept => simp [enter_of_room?_eq_some hroom, find?, hsequence]

end Room

/-! ## Capacity -/

/-- The ledger keeps to its capacity, which is `capacity`. -/
def Within (capacity : Nat) (l : Ledger) : Prop :=
  l.capacity = capacity ∧ l.size ≤ capacity

section Within

variable {capacity : Nat} {l : Ledger}

theorem length_updateFirst (sequence : Sequence) (f : SentRecord → SentRecord)
    (records : List SentRecord) :
    (SentRecord.updateFirst sequence f records).length = records.length := by
  induction records with
  | nil => rfl
  | cons r rest ih =>
      simp only [SentRecord.updateFirst]
      split <;> simp [ih]

theorem Within.update (h : l.Within capacity) (sequence : Sequence)
    (f : SentRecord → SentRecord) :
    (l.update sequence f).Within capacity := by
  simpa [Within, size, Ledger.update, length_updateFirst] using h

theorem Within.enter (h : l.Within capacity) (record : SentRecord) (now : Nat) :
    (l.enter record now).Within capacity := by
  obtain ⟨rfl, hsize⟩ := h
  refine ⟨capacity_enter .., ?_⟩
  cases hroom : l.room? now with
  | none => rwa [enter_of_room?_eq_none hroom]
  | some kept =>
      rw [enter_of_room?_eq_some hroom]
      have hkept := (room?_spec hsize hroom).2.1
      simpa [size, Nat.succ_le_iff] using hkept

/-- No request makes a ledger outgrow its capacity. -/
theorem within_perform (h : l.Within capacity) (request : LedgerRequest) :
    (l.perform request).2.Within capacity := by
  cases request with
  | insert record now =>
      rw [perform_insert]
      exact h.enter record now
  | advance sequence next =>
      show (l.advance sequence next).2.Within capacity
      rw [advance_eq]
      exact h.update sequence _
  | feedback sequence report =>
      show (l.applyFeedback sequence report).2.Within capacity
      rw [applyFeedback_eq]
      exact h.update sequence _
  | expire now =>
      show (l.expire now).2.Within capacity
      simpa [Within, size, expire] using h
  | remove sequence =>
      show (l.erase sequence).Within capacity
      exact ⟨h.1, Nat.le_trans List.eraseP_sublist.length_le h.2⟩
  | clear => exact ⟨h.1, Nat.zero_le capacity⟩

/-- No requests make a ledger outgrow its capacity. -/
theorem within_run (h : l.Within capacity) (requests : List LedgerRequest) :
    (l.run requests).Within capacity := by
  induction requests generalizing l with
  | nil => exact h
  | cons request rest ih => exact ih (within_perform h request)

theorem within_empty (capacity : Nat) : (empty capacity).Within capacity :=
  ⟨rfl, Nat.zero_le capacity⟩

end Within

/-! ## Entering a record -/

/-- What becomes of a ledger when a record is to be entered at `now`. -/
structure Enters (record : SentRecord) (now : Nat) (l after : Ledger) (retained : Bool) :
    Prop where
  /-- It is retained exactly if the ledger has a place at all, and one is free, or there is a
  record to give up. -/
  retained_iff : retained = true ↔
    0 < l.capacity ∧
      (l.size < l.capacity ∨
        ∃ r ∈ l.records, r.state.isTerminal = true ∨ r.isStale now = true)
  /-- With a free place nothing is given up. -/
  free : retained = true → l.size < l.capacity → after.records = l.records ++ [record]
  /-- A full ledger gives up one record. -/
  full : retained = true → l.size = l.capacity →
    ∃ victim kept, GivesUp now l.records victim kept ∧ after.records = kept ++ [record]
  /-- A record that is not retained changes nothing. -/
  refused : retained = false → after = l
  /-- Open records within their timeout stay. -/
  spared : ∀ r ∈ l.records, r.state.isTerminal = false → r.isStale now = false →
    r ∈ after.records

theorem enters_enter (record : SentRecord) (now : Nat) (l : Ledger) :
    Enters record now l (l.enter record now) (l.room? now).isSome where
  retained_iff := room?_isSome_iff
  free := by
    intro _ hfree
    rw [enter_of_room?_eq_some (room?_of_free hfree)]
  full := by
    intro hroom hfull
    obtain ⟨kept, hkept⟩ := Option.isSome_iff_exists.1 hroom
    obtain ⟨victim, hgives⟩ := givesUp_of_room? (by omega) hkept
    refine ⟨victim, kept, hgives, ?_⟩
    rw [enter_of_room?_eq_some hkept]
  refused := by
    intro hroom
    exact enter_of_room?_eq_none (by simpa using hroom) record
  spared := by
    intro r hr hopen hfresh
    have hneeded : ¬ r.IsExpendable now := by simp [SentRecord.IsExpendable, hopen, hfresh]
    cases hroom : l.room? now with
    | none => rwa [enter_of_room?_eq_none hroom]
    | some kept =>
        rw [enter_of_room?_eq_some hroom]
        exact List.mem_append_left _ (mem_of_room? hroom hr hneeded)

/-- **Overflow.**  Whatever requests led to a ledger, it keeps to its capacity, before and
after a record is entered; the first expendable record in order of preference makes room for
the new one, and whether there is room does not depend on whether the overdue records are
settled first. -/
theorem insert_after_run (capacity : Nat) (requests : List LedgerRequest)
    (record : SentRecord) (now : Nat) :
    ∃ retained after,
      ((empty capacity).run requests).perform (.insert record now) =
        (.retained retained, after) ∧
      Enters record now ((empty capacity).run requests) after retained ∧
      ((((empty capacity).run requests).expire now).2.perform (.insert record now)).1 =
        .retained retained ∧
      ((empty capacity).run requests).capacity = capacity ∧
      ((empty capacity).run requests).size ≤ capacity ∧
      after.capacity = capacity ∧ after.size ≤ capacity := by
  have hwithin := within_run (within_empty capacity) requests
  have hafter := hwithin.enter record now
  refine ⟨_, _, perform_insert record, enters_enter record now _, ?_, hwithin.1, hwithin.2,
    hafter.1, hafter.2⟩
  have hsame : ((((empty capacity).run requests).expire now).2.room? now).isSome =
      (((empty capacity).run requests).room? now).isSome := by
    rw [Bool.eq_iff_iff, room?_isSome_iff, room?_isSome_iff, hasRoom_expire]
  rw [perform_insert, hsame]

end Ledger

end Interprocess
