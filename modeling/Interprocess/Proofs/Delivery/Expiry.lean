import Interprocess.Delivery.Ledger
import Interprocess.Proofs.Delivery.RecordGrowth
import Mathlib.Data.List.Basic
import Mathlib.Data.List.Forall2

/-!
# Expiry

Every query settles the overdue records of the whole ledger, so the same ledger expires again and
again, at times that need not even be in order.  This module says that only the latest time
matters.

**Input.**  Any ledger, in order or not, and any times.

**Overdue at the later time.**  A record is overdue at the later of two times exactly if it is
overdue at one of them, because a stale record stays stale.  A settled record is terminal, and
expiry leaves it alone from then on.

**Results.**
* `isOverdue_max`: what is overdue at the later of two times.
* `settle_settle`: to settle a record twice is to settle it once, at the later time.
* `expires_expire`: what expiry makes of a ledger, and what it lists.
* `expiry_composes`: two expiries are one.
-/

namespace Interprocess

namespace SentRecord

/-! ## One record -/

theorem isTerminal_verdict (r : SentRecord) : r.verdict.isTerminal = true := by
  unfold verdict
  split <;> rfl

theorem isStale_settle {now : Nat} {r : SentRecord} :
    (r.settle now).isStale now = r.isStale now := by
  unfold settle
  split <;> rfl

/-- A stale record stays stale. -/
theorem isStale_max (first second : Nat) (r : SentRecord) :
    r.isStale (max first second) = (r.isStale first || r.isStale second) := by
  simp only [isStale, ← Bool.decide_or, decide_eq_decide]
  omega

theorem isOverdue_max (first second : Nat) (r : SentRecord) :
    r.isOverdue (max first second) = (r.isOverdue first || r.isOverdue second) := by
  simp only [isOverdue, isStale_max, Bool.and_or_distrib_left]

theorem settle_eq_verdict {now : Nat} {r : SentRecord} (h : r.isOverdue now = true) :
    r.settle now = { r with state := r.verdict } :=
  if_pos h

/-- **To settle a record twice is to settle it once**, at the later time. -/
theorem settle_settle (first second : Nat) (r : SentRecord) :
    (r.settle first).settle second = r.settle (max first second) := by
  cases hfirst : r.isOverdue first with
  | true =>
      -- The record is at its end, and the later time finds it overdue as well.
      have hmax : r.isOverdue (max first second) = true := by
        rw [isOverdue_max, hfirst, Bool.true_or]
      rw [settle_eq_verdict hfirst, settle_eq_verdict hmax]
      exact settle_of_isTerminal r.isTerminal_verdict second
  | false =>
      have hmax : r.isOverdue (max first second) = r.isOverdue second := by
        rw [isOverdue_max, hfirst, Bool.false_or]
      rw [settle_of_not_isOverdue hfirst, settle, settle, hmax]

/-- What was overdue at an earlier time is not overdue any more. -/
theorem isOverdue_settle (first second : Nat) (r : SentRecord) :
    (r.settle first).isOverdue second = (!r.isOverdue first && r.isOverdue second) := by
  cases hfirst : r.isOverdue first with
  | true =>
      rw [settle_eq_verdict hfirst]
      simp [isOverdue, r.isTerminal_verdict]
  | false =>
      rw [settle_of_not_isOverdue hfirst]
      rfl

/-- A record that was looked at is not overdue. -/
theorem isTerminal_or_not_isStale_settle (now : Nat) (r : SentRecord) :
    (r.settle now).state.isTerminal = true ∨ (r.settle now).isStale now = false := by
  have hsettled : (r.settle now).isOverdue now = false := by
    rw [isOverdue_settle, Bool.not_and_self]
  rw [isOverdue, Bool.and_eq_false_iff, Bool.not_eq_false'] at hsettled
  exact hsettled

theorem state_settle_ne_iff {now : Nat} {r : SentRecord} :
    (r.settle now).state ≠ r.state ↔ r.isOverdue now = true := by
  cases hoverdue : r.isOverdue now with
  | true =>
      have hne : r.verdict ≠ r.state := by
        intro hsame
        have hopen := (isOverdue_iff.1 hoverdue).1
        rw [← hsame, r.isTerminal_verdict] at hopen
        cases hopen
      rw [settle_eq_verdict hoverdue]
      exact iff_of_true hne rfl
  | false =>
      rw [settle_of_not_isOverdue hoverdue]
      exact iff_of_false (fun hne => hne rfl) Bool.false_ne_true

/-- What becomes of a record when a ledger expires at `now`. -/
structure ExpiresTo (now : Nat) (old new : SentRecord) : Prop where
  /-- Nothing but the state changes. -/
  rest : new = { old with state := new.state }
  /-- A terminal record stays as it is, its response included. -/
  terminal : old.state.isTerminal = true → new = old
  /-- The state changes exactly if the record is in flight and stale. -/
  changed : new.state ≠ old.state ↔ old.state.isTerminal = false ∧ old.isStale now = true
  /-- It ends as unknown if the kernel had taken the message, and else as lost. -/
  ended : new.state ≠ old.state → new.state =
    if old.state = .sent ∨ old.state = .delivered then .unknown else .lost
  /-- Afterwards the record is not in flight and stale. -/
  settled : new.state.isTerminal = true ∨ new.isStale now = false

theorem expiresTo_settle (now : Nat) (r : SentRecord) : r.ExpiresTo now (r.settle now) where
  rest := by
    unfold settle
    split <;> rfl
  terminal := fun hterminal => settle_of_isTerminal hterminal now
  changed := state_settle_ne_iff.trans isOverdue_iff
  ended := by
    intro hchanged
    rw [settle_eq_verdict (state_settle_ne_iff.1 hchanged)]
    cases hstate : r.state <;> simp [verdict, hstate]
  settled := r.isTerminal_or_not_isStale_settle now

end SentRecord

/-- What satisfies one of two conditions satisfies the first, or only the second. -/
theorem perm_filter_or {α : Type} (p q : α → Bool) (l : List α) :
    (l.filter p ++ l.filter fun a => !p a && q a).Perm (l.filter fun a => p a || q a) := by
  have hsplit := List.filter_append_perm p (l.filter fun a => p a || q a)
  have hfirst : (l.filter fun a => p a || q a).filter p = l.filter p := by
    rw [List.filter_filter]
    refine List.filter_congr fun a _ => ?_
    cases p a <;> rfl
  have hsecond : (l.filter fun a => p a || q a).filter (fun a => !p a) =
      l.filter fun a => !p a && q a := by
    rw [List.filter_filter]
    refine List.filter_congr fun a _ => ?_
    cases p a <;> rfl
  rwa [hfirst, hsecond] at hsplit

namespace Ledger

/-! ## The whole ledger -/

/-- The sequences of the records whose state differs from the one they had in `l`, with their new
states, in ledger order. -/
def changesFrom (l after : Ledger) : List (Sequence × DeliveryState) :=
  ((l.records.zip after.records).filter fun pair => pair.2.state ≠ pair.1.state).map
    fun pair => (pair.2.sequence, pair.2.state)

/-- What becomes of the ledger `l` when it expires at `now`, and what is listed. -/
structure Expires (now : Nat) (l after : Ledger) (listed : List (Sequence × DeliveryState)) :
    Prop where
  capacity : after.capacity = l.capacity
  /-- The records stay, each in its place. -/
  records : List.Forall₂ (SentRecord.ExpiresTo now) l.records after.records
  /-- Listed is what changed. -/
  listed : listed = l.changesFrom after

theorem changesFrom_expire (now : Nat) (l : Ledger) :
    l.changesFrom (l.expire now).2 = (l.expire now).1 := by
  have hpairs : l.records.zip (l.expire now).2.records =
      l.records.map fun r => (r, r.settle now) :=
    List.map_prod_left_eq_zip.symm
  have hchanged : ∀ r : SentRecord,
      decide ((r.settle now).state ≠ r.state) = r.isOverdue now := by
    intro r
    rw [Bool.eq_iff_iff, decide_eq_true_iff]
    exact SentRecord.state_settle_ne_iff
  rw [changesFrom, hpairs, List.filter_map, List.map_map]
  simp only [Function.comp_def, hchanged, expire]
  refine List.map_congr_left fun r hr => ?_
  rw [SentRecord.settle_eq_verdict (List.mem_filter.1 hr).2]

/-- What expiry makes of a ledger, and what it lists. -/
theorem expires_expire (now : Nat) (l : Ledger) :
    Expires now l (l.expire now).2 (l.expire now).1 where
  capacity := rfl
  records := by
    rw [expire, List.forall₂_map_right_iff, List.forall₂_same]
    exact fun r _ => r.expiresTo_settle now
  listed := (changesFrom_expire now l).symm

theorem expire_expire (first second : Nat) (l : Ledger) :
    ((l.expire first).2.expire second).2 = (l.expire (max first second)).2 := by
  simp only [expire, List.map_map, Function.comp_def, SentRecord.settle_settle]

/-- The second expiry lists what was overdue at its time, and not before. -/
theorem listed_expire_expire (first second : Nat) (l : Ledger) :
    ((l.expire first).2.expire second).1 =
      (l.records.filter fun r => !r.isOverdue first && r.isOverdue second).map fun r =>
        (r.sequence, r.verdict) := by
  simp only [expire, List.filter_map, List.map_map, Function.comp_def,
    SentRecord.isOverdue_settle, SentRecord.settle_sequence]
  refine List.map_congr_left fun r hr => ?_
  have hspared : r.isOverdue first = false := by
    have hboth := (List.mem_filter.1 hr).2
    rw [Bool.and_eq_true, Bool.not_eq_true'] at hboth
    exact hboth.1
  rw [SentRecord.settle_of_not_isOverdue hspared]

theorem listed_perm (first second : Nat) (l : Ledger) :
    ((l.expire first).1 ++ ((l.expire first).2.expire second).1).Perm
      (l.expire (max first second)).1 := by
  rw [listed_expire_expire]
  simp only [expire, SentRecord.isOverdue_max]
  rw [← List.map_append]
  exact (perm_filter_or _ _ l.records).map _

/-- An expiry at a time that is not later finds nothing. -/
theorem expire_expire_of_le {first second : Nat} (h : second ≤ first) (l : Ledger) :
    (l.expire first).2.expire second = ([], (l.expire first).2) := by
  refine Prod.ext ?_ ?_
  · -- What is overdue now was overdue then.
    have hperm := listed_perm first second l
    rw [Nat.max_eq_left h] at hperm
    have hlength := hperm.length_eq
    rw [List.length_append, Nat.add_eq_left] at hlength
    exact List.length_eq_zero_iff.1 hlength
  · rw [expire_expire, Nat.max_eq_left h]

/-- **Expiry composes.**  Two expiries, in either order of their times, leave what a single one at
the later time leaves, and list together what it lists; an expiry at a time that is not later than
that of the last one finds nothing. -/
theorem expiry_composes (l : Ledger) (first second : Nat) :
    let early := l.expire first
    let late := early.2.expire second
    let once := l.expire (max first second)
    late.2 = once.2 ∧ (early.1 ++ late.1).Perm once.1 ∧
      Expires first l early.2 early.1 ∧ Expires second early.2 late.2 late.1 ∧
      Expires (max first second) l once.2 once.1 ∧
      (second ≤ first → late = ([], early.2)) := by
  intro early late once
  refine ⟨expire_expire first second l, listed_perm first second l, expires_expire first l,
    expires_expire second early.2, expires_expire (max first second) l, fun h => ?_⟩
  exact expire_expire_of_le h l

/-- A message that was sent and one that was never handed over expire; looking back after that
finds nothing. -/
theorem expiry_composes_backwards :
    let l : Ledger := { capacity := 3, records :=
      [{ SentRecord.start 1 9 0x1000 0 10 with state := .sent }, SentRecord.start 2 9 0x1000 5 20,
        { SentRecord.start 3 9 0x1000 0 100 with state := .delivered }] }
    l.expire 30 = ([(1, .unknown), (2, .lost)], (l.expire 30).2) ∧
      (l.expire 30).2.expire 20 = ([], (l.expire 30).2) := by
  intro l
  obtain ⟨-, -, -, -, -, hback⟩ := expiry_composes l 30 20
  exact ⟨by decide, hback (by decide)⟩

end Ledger

end Interprocess
