import Interprocess.Proofs.Endpoint.Reachable

/-!
# The life of a record

What a move does to a ledger says what it does to the record of one sequence.  This module
lists the ways in which a record can begin, change and end in one move, and draws the
conclusions for operations and for whole runs.

**Input.**  A sound ledger `l`, the next sequence, the clock, and a move.

**Fates.**  `RecordFate` relates the record of one sequence before the move to the record
after it.  A record begins when its sequence is given out; it grows as long as it is there;
and it ends when it is forgotten, when all are dropped, or when a later send takes its place
in a full ledger after it became terminal or stale.

**Results.**
* `recordFate_apply`: every move gives every sequence a fate.
* `Continues.lasting`: over any run a record grows, and once gone it stays away.
* `record_life`: both, for the records of a process.
-/

namespace Interprocess

/-- What can become of the record of one sequence in a move, when the ledger is `l`, the
clock shows `now` and `next` is the next sequence. -/
inductive RecordFate (next : Sequence) (now : Nat) (l : Ledger) :
    Move → Option SentRecord → Option SentRecord → Prop
  /-- There is still no record. -/
  | absent (move : Move) : RecordFate next now l move none none
  /-- The sequence is given out, and its record began when the send began. -/
  | born (receiver : Pid) (kind : MessageKind) (payload : Bytes) (wantsFeedback : Bool)
      (timeout : Nat) {new : SentRecord}
      (hgrows : (SentRecord.start next receiver kind now timeout).Grows new) :
      RecordFate next now l (.post receiver kind payload wantsFeedback timeout) none (some new)
  /-- The record grows. -/
  | grown (move : Move) {old new : SentRecord} (hgrows : old.Grows new) :
      RecordFate next now l move (some old) (some new)
  /-- The record is forgotten. -/
  | forgotten (old : SentRecord) :
      RecordFate next now l (.forget old.sequence) (some old) none
  /-- All records are dropped. -/
  | dropped (old : SentRecord) : RecordFate next now l .shutdownLedger (some old) none
  /-- Another record takes the place of the record. -/
  | evicted (receiver : Pid) (kind : MessageKind) (payload : Bytes) (wantsFeedback : Bool)
      (timeout : Nat) {old : SentRecord} (hfull : l.records.length = l.capacity)
      (hreason : old.state.isTerminal = true ∨ old.isStale now = true) :
      RecordFate next now l (.post receiver kind payload wantsFeedback timeout) (some old) none

namespace RecordFate

variable {next sequence : Sequence} {now : Nat} {l : Ledger} {move : Move}

theorem of_eq (record : Option SentRecord) : RecordFate next now l move record record := by
  cases record with
  | none => exact .absent move
  | some r => exact .grown move (SentRecord.Grows.refl r)

/-- A record that is there before and after a move grew. -/
theorem grows {old new : SentRecord} (h : RecordFate next now l move (some old) (some new)) :
    old.Grows new := by
  cases h with
  | grown _ hgrows => exact hgrows

/-- A record that begins has the next sequence. -/
theorem sequence_of_born {new : SentRecord} (h : RecordFate next now l move none (some new)) :
    new.sequence = next := by
  cases h with
  | born _ _ _ _ _ hgrows => exact hgrows.sequence

end RecordFate

namespace SentRecord

theorem grows_handedOver {outcome : DeliveryState}
    (houtcome : outcome = .sent ∨ outcome = .sentFailed) (sequence : Sequence)
    (destination : Pid) (kind : MessageKind) (now timeout : Nat) :
    (start sequence destination kind now timeout).Grows
      (handedOver sequence destination kind now timeout outcome) := by
  have hfirst : DeliveryState.Leads .pending .sending := DeliveryState.Leads.single rfl
  have hsecond : DeliveryState.Leads .sending outcome := by
    rcases houtcome with rfl | rfl
    · exact DeliveryState.Leads.single rfl
    · exact DeliveryState.Leads.single rfl
  refine ⟨rfl, rfl, rfl, rfl, rfl, hfirst.trans hsecond, ?_⟩
  intro hterminal
  exact Bool.noConfusion hterminal

end SentRecord

namespace Ledger

variable {next sequence : Sequence} {l : Ledger}

theorem Sound.mem_erase_iff (h : l.Sound next) {r : SentRecord} :
    r ∈ (l.erase sequence).records ↔ r ∈ l.records ∧ r.sequence ≠ sequence := by
  rw [Ledger.erase, eraseP_eq_filter SentRecord.sequence sequence h.nodup_sequences]
  simp

/-- To look a sequence up in two sound ledgers is the same if they hold the same records of
it. -/
theorem Sound.find?_congr {next' : Sequence} {l' : Ledger} (h : l.Sound next)
    (h' : l'.Sound next')
    (hsame : ∀ r, r.sequence = sequence → (r ∈ l.records ↔ r ∈ l'.records)) :
    l.find? sequence = l'.find? sequence := by
  refine Option.ext fun r => ?_
  rw [h.find?_eq_some_iff, h'.find?_eq_some_iff]
  constructor
  · rintro ⟨hr, hsequence⟩
    exact ⟨(hsame r hsequence).1 hr, hsequence⟩
  · rintro ⟨hr, hsequence⟩
    exact ⟨(hsame r hsequence).2 hr, hsequence⟩

theorem Sound.find?_erase (h : l.Sound next) (sequence other : Sequence) :
    (l.erase sequence).find? other = if other = sequence then none else l.find? other := by
  split
  · next hsame =>
      rw [find?_eq_none_iff, hsame]
      intro r hr
      exact (h.mem_erase_iff.1 hr).2
  · next hne =>
      refine (h.erase sequence).find?_congr h fun r hsequence => ?_
      rw [h.mem_erase_iff, hsequence]
      exact and_iff_left hne

theorem find?_append_of_ne {record : SentRecord} (hne : record.sequence ≠ sequence)
    (kept : List SentRecord) (l : Ledger) :
    find? sequence { l with records := kept ++ [record] } =
      find? sequence { l with records := kept } := by
  simp [find?, List.find?_append, hne]

/-- The fate of a record when room is made for another one. -/
theorem recordFate_room (h : l.Sound next) {receiver : Pid} {kind : MessageKind}
    {now timeout : Nat} {kept : List SentRecord} (hroom : l.room? now = some kept)
    (payload : Bytes) (wantsFeedback : Bool) (sequence : Sequence) :
    RecordFate next now l (.post receiver kind payload wantsFeedback timeout)
      (l.find? sequence) (find? sequence { l with records := kept }) := by
  obtain ⟨hsub, _, hreason⟩ := room?_spec h.within hroom
  have hkept := h.of_sublist hsub
  cases hold : l.find? sequence with
  | none =>
      have habsent : find? sequence { l with records := kept } = none := by
        rw [find?_eq_none_iff] at hold ⊢
        exact fun r hr => hold r (hsub.subset hr)
      rw [habsent]
      exact .absent _
  | some old =>
      obtain ⟨hin, hsequence⟩ := h.find?_eq_some_iff.1 hold
      by_cases hstays : old ∈ kept
      · rw [hkept.find?_eq_some_iff.2 ⟨hstays, hsequence⟩]
        exact .grown _ (SentRecord.Grows.refl old)
      · obtain ⟨hfull, hgiven⟩ := (hreason old hin).resolve_left hstays
        have habsent : find? sequence { l with records := kept } = none := by
          rw [find?_eq_none_iff]
          intro r hr hr'
          have hsame := h.eq_of_sequence_eq (hsub.subset hr) hin (hr'.trans hsequence.symm)
          subst hsame
          exact hstays hr
        rw [habsent]
        exact .evicted receiver kind payload wantsFeedback timeout hfull hgiven

/-- The fate of a record when the record of the next sequence may be entered. -/
theorem recordFate_enter (h : l.Sound next) {receiver : Pid} {kind : MessageKind}
    {now timeout : Nat} {record : SentRecord} (hcoherent : record.Coherent)
    (hgrows : (SentRecord.start next receiver kind now timeout).Grows record)
    (payload : Bytes) (wantsFeedback : Bool) (sequence : Sequence) :
    RecordFate next now l (.post receiver kind payload wantsFeedback timeout)
      (l.find? sequence) ((l.enter record now).find? sequence) := by
  have hentered := h.enter hgrows.sequence hcoherent now
  cases hroom : l.room? now with
  | none =>
      rw [enter_of_room?_eq_none hroom]
      exact .of_eq _
  | some kept =>
      rw [enter_of_room?_eq_some hroom] at hentered ⊢
      by_cases hnext : record.sequence = sequence
      · have hnew := hentered.find?_eq_some_iff.2
          ⟨List.mem_append_right kept (List.mem_singleton_self record), hnext⟩
        have hgiven : sequence = next := hnext.symm.trans hgrows.sequence
        rw [hnew, h.find?_eq_none (Nat.le_of_eq hgiven.symm)]
        exact .born receiver kind payload wantsFeedback timeout hgrows
      · rw [find?_append_of_ne hnext]
        exact recordFate_room h hroom payload wantsFeedback sequence

/-- The fate of a record when a record is taken out. -/
theorem recordFate_erase (h : l.Sound next) (now : Nat) (erased sequence : Sequence) :
    RecordFate next now l (.forget erased) (l.find? sequence)
      ((l.erase erased).find? sequence) := by
  rw [h.find?_erase]
  split
  · next hsame =>
      cases hold : l.find? sequence with
      | none => exact .absent _
      | some old =>
          obtain ⟨_, hsequence⟩ := h.find?_eq_some_iff.1 hold
          rw [← hsame, ← hsequence]
          exact .forgotten old
  · exact .of_eq _

/-- The fate of a record in a query. -/
theorem recordFate_reviewed (h : l.Sound next) (now : Nat) (asked : Sequence)
    (reports : List Feedback) (later : Nat) (sequence : Sequence) :
    RecordFate next now l (.query asked) (l.find? sequence)
      (find? sequence
        { l with records := l.records.map (SentRecord.reviewed asked reports later) }) := by
  rw [find?_map (SentRecord.reviewed_sequence asked reports later)]
  cases hold : l.find? sequence with
  | none => exact .absent _
  | some old =>
      obtain ⟨hin, _⟩ := h.find?_eq_some_iff.1 hold
      exact .grown _ (SentRecord.grows_reviewed (h.coherent old hin) asked reports later)

end Ledger

namespace Endpoint

variable {σ : Type} {e : Endpoint σ}

/-- Every move gives every sequence a fate. -/
theorem recordFate_apply (e : Endpoint σ) {s : Session σ}
    (h : s.process.ledger.Sound s.process.nextSequence)
    (move : Move) (sequence : Sequence) :
    RecordFate s.process.nextSequence (e.kernel.now s.kernel) s.process.ledger move
      (s.process.ledger.find? sequence)
      ((e.apply move s).process.ledger.find? sequence) := by
  have heffect := e.ledgerEffect_apply h move
  generalize (e.apply move s).process.ledger = l at heffect
  cases heffect with
  | entered receiver kind payload wantsFeedback timeout houtcome =>
      exact Ledger.recordFate_enter h
        (SentRecord.coherent_handedOver houtcome _ receiver kind _ timeout)
        (SentRecord.grows_handedOver houtcome _ receiver kind _ timeout)
        payload wantsFeedback sequence
  | reviewed asked reports later =>
      exact Ledger.recordFate_reviewed h _ asked reports later sequence
  | erased erased => exact Ledger.recordFate_erase h _ erased sequence
  | cleared =>
      cases s.process.ledger.find? sequence with
      | none => exact .absent _
      | some old => exact .dropped old
  | kept => exact .of_eq _

/-! ## Two points in time -/

/-- What holds of the record of a sequence between an earlier and a later session: it grew, if
it is still there, and it stays away once it is gone. -/
structure Lasting (sequence : Sequence) (s t : Session σ) : Prop where
  next : s.process.nextSequence ≤ t.process.nextSequence
  grows : ∀ {old new}, s.process.ledger.find? sequence = some old →
    t.process.ledger.find? sequence = some new → old.Grows new
  gone : sequence < s.process.nextSequence → s.process.ledger.find? sequence = none →
    t.process.ledger.find? sequence = none

theorem Lasting.refl (sequence : Sequence) (s : Session σ) : Lasting sequence s s where
  next := Nat.le_refl _
  grows := by
    intro old new hold hnew
    rw [hold] at hnew
    cases hnew
    exact SentRecord.Grows.refl old
  gone := fun _ hgone => hgone

/-- A record that is there at the beginning and at the end was there in between. -/
theorem Lasting.trans {sequence : Sequence} {s t u : Session σ} (h : e.InOrder s)
    (hfirst : Lasting sequence s t) (hsecond : Lasting sequence t u) :
    Lasting sequence s u where
  next := Nat.le_trans hfirst.next hsecond.next
  grows := by
    intro old new hold hnew
    obtain ⟨hin, hsequence⟩ := h.sound.find?_eq_some_iff.1 hold
    have hgiven := Nat.lt_of_lt_of_le (h.sound.givenOut old hin) hfirst.next
    rw [hsequence] at hgiven
    cases hmiddle : t.process.ledger.find? sequence with
    | none =>
        -- A record that was gone in between cannot be there at the end.
        rw [hsecond.gone hgiven hmiddle] at hnew
        cases hnew
    | some middle => exact (hfirst.grows hold hmiddle).trans (hsecond.grows hmiddle hnew)
  gone := by
    intro hgiven hgone
    exact hsecond.gone (Nat.lt_of_lt_of_le hgiven hfirst.next) (hfirst.gone hgiven hgone)

theorem lasting_apply {s : Session σ} (h : e.InOrder s) (move : Move) (sequence : Sequence) :
    Lasting sequence s (e.apply move s) where
  next := e.nextSequence_le_apply move s
  grows := by
    intro old new hold hnew
    have hfate := e.recordFate_apply h.sound move sequence
    rw [hold, hnew] at hfate
    exact hfate.grows
  gone := by
    intro hgiven hgone
    have hfate := e.recordFate_apply h.sound move sequence
    rw [hgone] at hfate
    cases hnew : (e.apply move s).process.ledger.find? sequence with
    | none => rfl
    | some new =>
        rw [hnew] at hfate
        have hsequence := Ledger.find?_eq_some_sequence hnew
        rw [← hsequence, hfate.sequence_of_born] at hgiven
        exact absurd hgiven (Nat.lt_irrefl _)

theorem Walk.lasting {allowed : Move → Prop} {s t : Session σ} (hwalk : e.Walk allowed s t)
    (h : e.InOrder s) (sequence : Sequence) :
    Lasting sequence s t := by
  induction hwalk with
  | refl => exact Lasting.refl sequence s
  | tail hbefore hmove ih =>
      obtain ⟨move, _, rfl⟩ := hmove
      exact ih.trans h (lasting_apply (Walk.inOrder hbefore h) move sequence)

/-- Over any run a record grows, and once gone it stays away. -/
theorem Continues.lasting {s t : Session σ} (hruns : e.Continues s t) (h : e.InOrder s)
    (sequence : Sequence) :
    Lasting sequence s t := by
  induction hruns with
  | refl => exact Lasting.refl sequence s
  | tail hbefore hstep ih =>
      refine ih.trans h ?_
      cases hstep with
      | operate operation =>
          have hmiddle := Continues.inOrder hbefore h
          exact (e.walk_perform operation _).lasting hmiddle sequence
      | outside k => exact ⟨Nat.le_refl _, (Lasting.refl sequence _).grows, fun _ h => h⟩

/-- A sequence without a record is unknown to every query. -/
theorem state_eq_unknown {s : Session σ} (h : e.InOrder s) {sequence : Sequence}
    (hgone : s.process.ledger.find? sequence = none) :
    ((e.state sequence).run s).1 = .unknown := by
  have hfate := e.recordFate_apply h.sound (.query sequence) sequence
  rw [hgone] at hfate
  rw [state_eq_stateOf, Ledger.stateOf]
  generalize (e.apply (.query sequence) s).process.ledger.find? sequence = after at hfate ⊢
  cases hfate with
  | absent => rfl

/-! ## Operations and runs -/

/-- Whether a session comes from another by moves that an operation permits, in each of which
the record of a sequence has a fate. -/
def FatefulWalk (e : Endpoint σ) (operation : Operation) (first sequence : Sequence) :
    Session σ → Session σ → Prop :=
  Relation.ReflTransGen fun before after =>
    ∃ move, operation.permits first move ∧ after = e.apply move before ∧
      RecordFate before.process.nextSequence (e.kernel.now before.kernel)
        before.process.ledger move (before.process.ledger.find? sequence)
        (after.process.ledger.find? sequence)

theorem Walk.fateful {operation : Operation} {first : Sequence} {s t : Session σ}
    (hwalk : e.Walk (operation.permits first) s t) (h : e.InOrder s) (sequence : Sequence) :
    e.FatefulWalk operation first sequence s t := by
  induction hwalk with
  | refl => exact Relation.ReflTransGen.refl
  | tail hbefore hmove ih =>
      obtain ⟨move, hpermits, rfl⟩ := hmove
      have hmiddle := Walk.inOrder hbefore h
      exact ih.tail ⟨move, hpermits, rfl, e.recordFate_apply hmiddle.sound move sequence⟩

/-- **The life of a record.**  In any reachable session, an operation gives the record of a
sequence only the fates of the moves that it permits; so a record is forgotten only by
`forget`, or by the call or exemption request that owns its sequence.  In any later session
the record has grown, and if it was gone, or never there, it is not there and a query answers
`unknown`. -/
theorem record_life {s : Session σ} (h : e.Reachable s) (operation : Operation)
    (sequence : Sequence) :
    e.FatefulWalk operation s.process.nextSequence sequence s
        ((e.perform operation).run s).2 ∧
      ∀ t, e.Continues s t →
        (∀ old new, s.process.ledger.find? sequence = some old →
          t.process.ledger.find? sequence = some new → old.Grows new) ∧
        (sequence < s.process.nextSequence → s.process.ledger.find? sequence = none →
          t.process.ledger.find? sequence = none ∧
            ((e.state sequence).run t).1 = .unknown) := by
  have horder := h.inOrder
  refine ⟨(e.walk_perform operation s).fateful horder sequence, ?_⟩
  intro t hruns
  have hlasting := hruns.lasting horder sequence
  refine ⟨fun old new => hlasting.grows, ?_⟩
  intro hgiven hgone
  have hstill := hlasting.gone hgiven hgone
  exact ⟨hstill, state_eq_unknown (hruns.inOrder horder) hstill⟩

/-- A message is sent and then found to be received. -/
theorem record_life_of_answered_send :
    let station := Station.start 7 Config.standard
    let s := ((station.endpoint.pursueAll [.operate (.send 9 0x1000 [1, 2] true none)]).run
      (station.session World.start)).2
    let t := ((station.endpoint.perform (.state 1)).run s).2
    (s.process.ledger.find? 1).map SentRecord.state = some .sent ∧
      (t.process.ledger.find? 1).map SentRecord.state = some .received ∧
      ∀ old new, s.process.ledger.find? 1 = some old → t.process.ledger.find? 1 = some new →
        old.Grows new := by
  intro station s t
  have hreachable : station.endpoint.Reachable s :=
    (Station.reachable_start 7 Config.standard World.start).trans (continues_pursueAll _ _)
  have hlater : station.endpoint.Continues s t :=
    Relation.ReflTransGen.single (.operate (.state 1) s)
  exact ⟨by decide, by decide, ((record_life hreachable (.state 1) 1).2 t hlater).1⟩

end Endpoint

end Interprocess
