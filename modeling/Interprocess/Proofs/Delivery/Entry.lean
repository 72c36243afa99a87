import Interprocess.Proofs.Delivery.SoundLedger

/-!
# Entering a record

A record is entered at the end, and only if there is room: a full ledger makes room by
giving up one record.  Which record that is, and whether there is one, does not depend on
the record to be entered.

**Results.**
* `insert?_eq`: entering is making room and appending.
* `room?_spec`: what is kept when room is made, and why a record may be given up.
* `Sound.enter`: a sound ledger stays sound when a new sequence is entered.
* `enter_advance`: to enter a record and then to mark it as sent or refused is to enter the
  marked record.
-/

namespace Interprocess

namespace Ledger

/-- The records that stay when one more is to be entered at `now`, or `none` if there is no
room. -/
def room? (now : Nat) (l : Ledger) : Option (List SentRecord) :=
  if l.capacity = 0 then none
  else if l.records.length < l.capacity then some l.records
  else (l.victim? now).map l.records.eraseIdx

/-- The ledger after an attempt to enter a record. -/
def enter (record : SentRecord) (now : Nat) (l : Ledger) : Ledger :=
  (l.insert? record now).getD l

theorem insert?_eq (record : SentRecord) (now : Nat) (l : Ledger) :
    l.insert? record now =
      (l.room? now).map fun kept => { l with records := kept ++ [record] } := by
  unfold insert? room?
  split
  · rfl
  · split
    · rfl
    · cases l.victim? now <;> rfl

theorem enter_of_room?_eq_none {now : Nat} {l : Ledger} (h : l.room? now = none)
    (record : SentRecord) :
    l.enter record now = l := by
  simp [enter, insert?_eq, h]

theorem enter_of_room?_eq_some {now : Nat} {l : Ledger} {kept : List SentRecord}
    (h : l.room? now = some kept) (record : SentRecord) :
    l.enter record now = { l with records := kept ++ [record] } := by
  simp [enter, insert?_eq, h]

theorem capacity_enter (record : SentRecord) (now : Nat) (l : Ledger) :
    (l.enter record now).capacity = l.capacity := by
  cases hroom : l.room? now with
  | none => rw [enter_of_room?_eq_none hroom]
  | some kept => rw [enter_of_room?_eq_some hroom]

/-- The record that a full ledger gives up is terminal or stale. -/
theorem victim?_spec {now i : Nat} {l : Ledger} (h : l.victim? now = some i) :
    ∃ hi : i < l.records.length,
      l.records[i].state.isTerminal = true ∨ l.records[i].isStale now = true := by
  unfold victim? at h
  split at h
  · next j hterminal =>
      cases h
      obtain ⟨hi, hstate, _⟩ := List.findIdx?_eq_some_iff_getElem.1 hterminal
      exact ⟨hi, Or.inl hstate⟩
  · obtain ⟨hi, hstale, _⟩ := List.findIdx?_eq_some_iff_getElem.1 h
    exact ⟨hi, Or.inr hstale⟩

/-- To make room keeps the order, leaves a free place, and gives up a record only if the
ledger is full and the record is terminal or stale. -/
theorem room?_spec {now : Nat} {l : Ledger} {kept : List SentRecord}
    (hwithin : l.records.length ≤ l.capacity) (h : l.room? now = some kept) :
    kept.Sublist l.records ∧ kept.length < l.capacity ∧
      ∀ r ∈ l.records, r ∈ kept ∨
        (l.records.length = l.capacity ∧
          (r.state.isTerminal = true ∨ r.isStale now = true)) := by
  unfold room? at h
  split at h
  · simp at h
  · next hcapacity =>
      split at h
      · next hroom =>
          cases h
          exact ⟨List.Sublist.refl _, hroom, fun r hr => Or.inl hr⟩
      · next hfull =>
          have hlength : l.records.length = l.capacity := by omega
          obtain ⟨i, hvictim, rfl⟩ := Option.map_eq_some_iff.1 h
          obtain ⟨hi, hreason⟩ := victim?_spec hvictim
          refine ⟨List.eraseIdx_sublist .., ?_, ?_⟩
          · rw [List.length_eraseIdx_of_lt hi]
            omega
          · intro r hr
            obtain ⟨j, hj, rfl⟩ := List.getElem_of_mem hr
            by_cases hji : j = i
            · subst hji
              exact Or.inr ⟨hlength, hreason⟩
            · exact Or.inl (List.mem_eraseIdx_iff_getElem.2 ⟨j, hj, hji, rfl⟩)

theorem mem_enter {record r : SentRecord} {now : Nat} {l : Ledger}
    (hwithin : l.records.length ≤ l.capacity) (h : r ∈ (l.enter record now).records) :
    r ∈ l.records ∨ r = record := by
  cases hroom : l.room? now with
  | none =>
      rw [enter_of_room?_eq_none hroom] at h
      exact Or.inl h
  | some kept =>
      rw [enter_of_room?_eq_some hroom] at h
      rcases List.mem_append.1 h with hkept | hnew
      · exact Or.inl ((room?_spec hwithin hroom).1.mem hkept)
      · exact Or.inr (List.mem_singleton.1 hnew)

/-- A sound ledger stays sound when a record of the next sequence is entered. -/
theorem Sound.enter {next : Sequence} {l : Ledger} (h : l.Sound next) {record : SentRecord}
    (hsequence : record.sequence = next) (hcoherent : record.Coherent) (now : Nat) :
    (l.enter record now).Sound (next + 1) := by
  cases hroom : l.room? now with
  | none =>
      rw [enter_of_room?_eq_none hroom]
      exact h.mono (Nat.le_succ next)
  | some kept =>
      rw [enter_of_room?_eq_some hroom]
      obtain ⟨hsub, hlength, _⟩ := room?_spec h.within hroom
      have hkept := h.of_sublist hsub
      refine ⟨?_, ?_, ?_, ?_⟩
      · simp only [List.length_append, List.length_cons, List.length_nil]
        omega
      · refine List.pairwise_append.2 ⟨hkept.increasing, List.pairwise_singleton .., ?_⟩
        intro r hr r' hr'
        rw [List.mem_singleton.1 hr', hsequence]
        exact hkept.givenOut r hr
      · intro r hr
        rcases List.mem_append.1 hr with hold | hnew
        · exact Nat.lt_succ_of_lt (hkept.givenOut r hold)
        · rw [List.mem_singleton.1 hnew, hsequence]
          exact Nat.lt_succ_self next
      · intro r hr
        rcases List.mem_append.1 hr with hold | hnew
        · exact hkept.coherent r hold
        · rw [List.mem_singleton.1 hnew]
          exact hcoherent

/-- To enter the record of a message that begins, and then to move it through `sending` to
the end of the hand-over, is to enter it in its last state at once. -/
theorem enter_advance {next : Sequence} {l : Ledger} (h : l.Sound next) {entered : Ledger}
    {destination : Pid} {kind : MessageKind} {now timeout : Nat}
    (hentered :
      l.insert? (SentRecord.start next destination kind now timeout) now = some entered)
    {outcome : DeliveryState} (houtcome : outcome = .sent ∨ outcome = .sentFailed) :
    ((entered.advance next .sending).2.advance next outcome).2 =
      l.enter { SentRecord.start next destination kind now timeout with state := outcome }
        now := by
  rw [insert?_eq] at hentered
  obtain ⟨kept, hroom, rfl⟩ := Option.map_eq_some_iff.1 hentered
  obtain ⟨hsub, _, _⟩ := room?_spec h.within hroom
  have hother : ∀ r ∈ kept, r.sequence ≠ next := fun r hr =>
    Nat.ne_of_lt (h.givenOut r (hsub.subset hr))
  have hstart : (SentRecord.start next destination kind now timeout).sequence = next := rfl
  rw [enter_of_room?_eq_some hroom, advance_eq, advance_eq,
    update_update (by intro r; split <;> rfl)]
  unfold update
  rw [SentRecord.updateFirst_append_singleton _ hstart hother]
  rcases houtcome with rfl | rfl
  · simp [SentRecord.start, DeliveryState.canBecome]
  · simp [SentRecord.start, DeliveryState.canBecome]

end Ledger

end Interprocess
