import Interprocess.Delivery.Record
import Mathlib.Logic.Relation

/-!
# How a record grows

Two things change the record of a message after it was sent: a report of the kernel, and
the end of its timeout.  This module says what each of them does to a single record, and
collects both under one relation.

**Growth.**  `SentRecord.Grows old new` says that `new` is a later version of `old`: the
same message, in a state that the state machine leads to, and the very same record if
`old` was terminal.

**Results.**
* `grows_absorbAll`: reports only let a record grow.
* `grows_settle`: the end of the timeout lets a record grow, provided that the message was
  handed to the kernel.
* `absorbAll_of_isTerminal`, `settle_of_isTerminal`: a terminal record is deaf to both.
-/

namespace Interprocess

namespace DeliveryState

/-- Whether the state machine leads from one state to another, in any number of moves. -/
def Leads : DeliveryState → DeliveryState → Prop :=
  Relation.ReflTransGen fun s next => canBecome next s = true

theorem Leads.single {s next : DeliveryState} (h : canBecome next s = true) :
    Leads s next :=
  Relation.ReflTransGen.single h

/-- Whether the message was handed to the kernel. -/
def IsHandedOver (s : DeliveryState) : Prop := s ≠ pending ∧ s ≠ sending

/-- After the hand-over the state machine never returns to the states before it. -/
theorem IsHandedOver.of_canBecome {s next : DeliveryState} (hs : s.IsHandedOver)
    (hmove : canBecome next s = true) :
    next.IsHandedOver := by
  obtain ⟨hpending, hsending⟩ := hs
  constructor
  · rintro rfl
    cases s <;> simp_all [canBecome, isAside]
  · rintro rfl
    cases s <;> simp_all [canBecome, isAside]

theorem not_isTerminal_iff {s : DeliveryState} (hs : s.IsHandedOver) :
    s.isTerminal = false ↔ s = sent ∨ s = delivered := by
  obtain ⟨hpending, hsending⟩ := hs
  cases s <;> simp_all [isTerminal]

end DeliveryState

namespace Feedback

/-- The response that a report brings. -/
def response? : Feedback → Option Bytes
  | received response => some response
  | _ => none

end Feedback

namespace SentRecord

/-! ## Reports -/

/-- The record after a report about its message; a report that the state machine does not
allow changes nothing. -/
def absorb (r : SentRecord) (report : Feedback) : SentRecord :=
  if DeliveryState.canBecome report.reportedState r.state then
    { r with state := report.reportedState, response := report.response?.or r.response }
  else r

/-- The record after reports about its message, oldest first. -/
def absorbAll (reports : List Feedback) (r : SentRecord) : SentRecord :=
  reports.foldl absorb r

@[simp] theorem absorbAll_nil (r : SentRecord) : absorbAll [] r = r := rfl

@[simp] theorem absorbAll_cons (report : Feedback) (reports : List Feedback) (r : SentRecord) :
    absorbAll (report :: reports) r = absorbAll reports (r.absorb report) := rfl

theorem absorbAll_append (earlier later : List Feedback) (r : SentRecord) :
    absorbAll (earlier ++ later) r = absorbAll later (absorbAll earlier r) :=
  List.foldl_append

theorem absorb_of_isTerminal {r : SentRecord} (h : r.state.isTerminal = true)
    (report : Feedback) :
    r.absorb report = r := by
  simp [absorb, DeliveryState.not_canBecome_of_isTerminal h]

theorem absorbAll_of_isTerminal {r : SentRecord} (h : r.state.isTerminal = true)
    (reports : List Feedback) :
    absorbAll reports r = r := by
  induction reports with
  | nil => rfl
  | cons report rest ih =>
      rw [absorbAll_cons, absorb_of_isTerminal h, ih]

theorem settle_of_isTerminal {r : SentRecord} (h : r.state.isTerminal = true) (now : Nat) :
    r.settle now = r := by
  simp [settle, isOverdue, h]

theorem settle_of_not_isOverdue {r : SentRecord} {now : Nat} (h : r.isOverdue now = false) :
    r.settle now = r := by
  simp [settle, h]

theorem settle_of_not_isStale {r : SentRecord} {now : Nat} (h : r.isStale now = false) :
    r.settle now = r :=
  settle_of_not_isOverdue (by simp [isOverdue, h])

theorem isOverdue_iff {r : SentRecord} {now : Nat} :
    r.isOverdue now = true ↔ r.state.isTerminal = false ∧ r.isStale now = true := by
  simp [isOverdue]

/-! ## Growth -/

/-- `new` is a later version of the record `old` of the same message.  The state moves along
the state machine, and a terminal record stays as it is, its response included. -/
structure Grows (old new : SentRecord) : Prop where
  sequence : new.sequence = old.sequence
  destination : new.destination = old.destination
  kind : new.kind = old.kind
  sentAt : new.sentAt = old.sentAt
  timeout : new.timeout = old.timeout
  path : DeliveryState.Leads old.state new.state
  final : old.state.isTerminal = true → new = old

theorem Grows.refl (r : SentRecord) : Grows r r :=
  ⟨rfl, rfl, rfl, rfl, rfl, Relation.ReflTransGen.refl, fun _ => rfl⟩

theorem Grows.trans {first second third : SentRecord} (h : Grows first second)
    (h' : Grows second third) :
    Grows first third where
  sequence := h'.sequence.trans h.sequence
  destination := h'.destination.trans h.destination
  kind := h'.kind.trans h.kind
  sentAt := h'.sentAt.trans h.sentAt
  timeout := h'.timeout.trans h.timeout
  path := h.path.trans h'.path
  final := by
    intro hterminal
    have hsame : second = first := h.final hterminal
    subst hsame
    exact h'.final hterminal

theorem grows_absorb (report : Feedback) (r : SentRecord) : Grows r (r.absorb report) := by
  unfold absorb
  split
  · next hmove =>
      refine ⟨rfl, rfl, rfl, rfl, rfl, DeliveryState.Leads.single hmove, ?_⟩
      intro hterminal
      rw [DeliveryState.not_canBecome_of_isTerminal hterminal] at hmove
      exact Bool.noConfusion hmove
  · exact Grows.refl r

/-- Reports only let a record grow. -/
theorem grows_absorbAll (reports : List Feedback) (r : SentRecord) :
    Grows r (absorbAll reports r) := by
  induction reports generalizing r with
  | nil => exact Grows.refl r
  | cons report rest ih => exact (grows_absorb report r).trans (ih _)

/-- The verdict on an open record is a move of the state machine, once the message was
handed over. -/
theorem canBecome_verdict {r : SentRecord} (hopen : r.state.isTerminal = false)
    (hhanded : r.state.IsHandedOver) :
    DeliveryState.canBecome r.verdict r.state = true := by
  rcases (DeliveryState.not_isTerminal_iff hhanded).1 hopen with hsent | hdelivered
  · simp [verdict, hsent, DeliveryState.canBecome, DeliveryState.isAside]
  · simp [verdict, hdelivered, DeliveryState.canBecome, DeliveryState.isAside]

/-- The end of the timeout lets the record of a message that was handed over grow. -/
theorem grows_settle (now : Nat) {r : SentRecord} (hhanded : r.state.IsHandedOver) :
    Grows r (r.settle now) := by
  cases hstate : r.state.isTerminal with
  | true =>
      rw [settle_of_isTerminal hstate]
      exact Grows.refl r
  | false =>
      unfold settle
      split
      · have hmove := canBecome_verdict hstate hhanded
        refine ⟨rfl, rfl, rfl, rfl, rfl, DeliveryState.Leads.single hmove, ?_⟩
        intro hterminal
        rw [hstate] at hterminal
        exact Bool.noConfusion hterminal
      · exact Grows.refl r

/-! ## Coherent records -/

/-- What holds of every record between two operations of its process: the message was handed
to the kernel, and there is a response exactly if it was received. -/
structure Coherent (r : SentRecord) : Prop where
  handed : r.state.IsHandedOver
  answered : r.response.isSome = true ↔ r.state = .received

theorem Coherent.response_eq_none {r : SentRecord} (h : r.Coherent)
    (hstate : r.state ≠ .received) :
    r.response = none := by
  simpa using mt h.answered.1 hstate

theorem Coherent.absorb {r : SentRecord} (h : r.Coherent) (report : Feedback) :
    (r.absorb report).Coherent := by
  unfold SentRecord.absorb
  split
  · next hmove =>
      have hopen : r.state ≠ .received := by
        intro hreceived
        rw [hreceived] at hmove
        simp [DeliveryState.canBecome] at hmove
      have hnone := h.response_eq_none hopen
      refine ⟨h.handed.of_canBecome hmove, ?_⟩
      cases report <;> simp [Feedback.response?, Feedback.reportedState, hnone]
  · exact h

theorem Coherent.absorbAll {r : SentRecord} (h : r.Coherent) (reports : List Feedback) :
    (absorbAll reports r).Coherent := by
  induction reports generalizing r with
  | nil => exact h
  | cons report rest ih => exact ih (h.absorb report)

theorem Coherent.settle {r : SentRecord} (h : r.Coherent) (now : Nat) :
    (r.settle now).Coherent := by
  cases hstate : r.state.isTerminal with
  | true =>
      rw [settle_of_isTerminal hstate]
      exact h
  | false =>
      unfold SentRecord.settle
      split
      · have hopen := (DeliveryState.not_isTerminal_iff h.handed).1 hstate
        have hnone : r.response = none := by
          refine h.response_eq_none ?_
          intro hreceived
          simp [hreceived] at hopen
        refine ⟨h.handed.of_canBecome (canBecome_verdict hstate h.handed), ?_⟩
        rcases hopen with hsent | hdelivered
        · simp [verdict, hsent, hnone]
        · simp [verdict, hdelivered, hnone]
      · exact h

/-! ## Responses -/

/-- A response is kept only if it was reported. -/
theorem received_mem_of_absorbAll {reports : List Feedback} {r : SentRecord} {bytes : Bytes}
    (hnone : r.response = none) (h : (absorbAll reports r).response = some bytes) :
    Feedback.received bytes ∈ reports := by
  induction reports generalizing r with
  | nil =>
      rw [absorbAll_nil, hnone] at h
      cases h
  | cons report rest ih =>
      rw [absorbAll_cons] at h
      cases hresponse : (r.absorb report).response with
      | none => exact List.mem_cons_of_mem report (ih hresponse h)
      | some kept =>
          -- The report brought a response, and with it the record is at its end.
          have hreport : report = .received kept := by
            unfold absorb at hresponse
            split at hresponse
            · cases report <;> simp_all [Feedback.response?]
            · rw [hnone] at hresponse
              cases hresponse
          have hterminal : (r.absorb report).state.isTerminal = true := by
            unfold absorb at hresponse ⊢
            split
            · rw [hreport]
              rfl
            · next hrefused =>
                rw [if_neg hrefused, hnone] at hresponse
                cases hresponse
          rw [absorbAll_of_isTerminal hterminal, hresponse] at h
          cases h
          rw [hreport]
          exact List.mem_cons_self

theorem response_settle (now : Nat) (r : SentRecord) :
    (r.settle now).response = r.response := by
  unfold settle
  split <;> rfl

end SentRecord

end Interprocess
