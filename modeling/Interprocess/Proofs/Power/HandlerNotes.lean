import Interprocess.Proofs.Endpoint.Reachable

/-!
# Notes about the handlers of a process

A handler that hears of an announcement may do anything with its process: register and drop
handlers, itself included, and hand out further announcements.  So the table may change in the
middle of a dispatch, and dispatches may be nested to any depth.

**Notes.**  `Endpoint.record` does an activity and writes down what concerns handlers, in order: who
was registered and dropped, when a dispatch began and ended, and who was called.  A dispatch is
known by the place of its beginning in the notes.  Each note holds the table right after it.

**The table told by the notes.**  `standing notes` are the handlers that were registered and not
dropped since, in order of registration.

**Rules.**  `Told capacity notes n note` is all that is so about the note at place `n`: the table
that it holds is the one that the notes up to it tell, and keeps its limits, and its event is as the
notes before it demand.  The rule for the beginning of a dispatch is about notes after it as well.

**Results.**
* `session_recordAll`: to take notes changes nothing.
* `Told.append`: later notes do not matter, unless they are a part of the dispatch that began.
* `SoundFrom.noted`, `SoundFrom.trans`: how notes are added.
-/

namespace Interprocess

variable {σ α : Type}

/-- Something that concerns the handlers of a process. -/
inductive HandlerEvent
  | registered (handler : HandlerId) (userData : Nat) (result : Except Error Unit)
  | dropped (handler : HandlerId) (result : Except Error Unit)
  | began (envelope : Envelope)
  | called (dispatch : Nat) (callback : Callback) (notice : ShutdownNotice)
  | ended (dispatch : Nat) (result : Except Error Nat)
deriving DecidableEq

namespace HandlerEvent

/-- What an operation does to the handlers. -/
def ofOperation? : Operation → Answer → Option HandlerEvent
  | .registerHandler handler userData, .attempt r =>
      some (registered handler userData (r.map fun _ => ()))
  | .unregisterHandler handler, .attempt r => some (dropped handler (r.map fun _ => ()))
  | _, _ => none

/-- The dispatch that an event is a part of, its beginning apart. -/
def dispatch? : HandlerEvent → Option Nat
  | called dispatch _ _ | ended dispatch _ => some dispatch
  | _ => none

/-- The table after an event. -/
def replay (entries : List Callback) : HandlerEvent → List Callback
  | registered handler userData (.ok _) => entries ++ [{ handler, userData }]
  | dropped handler (.ok _) => entries.filter fun entry => entry.handler != handler
  | _ => entries

end HandlerEvent

/-- An event, and the table right after it. -/
structure HandlerNote where
  event : HandlerEvent
  entries : List Callback
deriving DecidableEq

/-- The handlers that were registered and not dropped since. -/
def standing (notes : List HandlerNote) : List Callback :=
  notes.foldl (fun entries note => note.event.replay entries) []

/-- The calls of a dispatch, in order. -/
def callsOf (dispatch : Nat) (notes : List HandlerNote) : List (Callback × ShutdownNotice) :=
  notes.filterMap fun note => match note.event with
    | .called other callback notice => if other = dispatch then some (callback, notice) else none
    | _ => none

/-- How a dispatch ended. -/
def endingsOf (dispatch : Nat) (notes : List HandlerNote) : List (Except Error Nat) :=
  notes.filterMap fun note => match note.event with
    | .ended other result => if other = dispatch then some result else none
    | _ => none

/-! ## The rules -/

/-- What registering a handler answers. -/
def registerVerdict (capacity : Nat) (handler : HandlerId) (entries : List Callback) :
    Except Error Unit :=
  if handler ∈ entries.map Callback.handler then .error .alreadyRegistered
  else if capacity ≤ entries.length then .error .resourceLimit
  else .ok ()

/-- Whether a dispatch begins at a place. -/
def Begins (notes : List HandlerNote) (dispatch : Nat) : Prop :=
  ∃ envelope entries, notes[dispatch]? = some ⟨.began envelope, entries⟩

/-- What is so about the event at place `n`. -/
def Lawful (capacity : Nat) (notes : List HandlerNote) (n : Nat) : HandlerEvent → Prop
  | .registered handler _ result =>
      result = registerVerdict capacity handler (standing (notes.take n))
  | .dropped handler result =>
      result = if handler ∈ (standing (notes.take n)).map Callback.handler then .ok ()
        else .error .notFound
  | .began envelope =>
      match ShutdownNotice.ofEnvelope? envelope with
      | some notice =>
          callsOf n notes = (standing (notes.take n)).map (fun callback => (callback, notice)) ∧
            endingsOf n notes = [.ok (standing (notes.take n)).length]
      | none => callsOf n notes = [] ∧ endingsOf n notes = [.error .invalidParameter]
  | .called dispatch _ _ =>
      dispatch < n ∧ Begins notes dispatch ∧ endingsOf dispatch (notes.take n) = []
  | .ended dispatch _ => dispatch < n ∧ Begins notes dispatch

/-- What is so about the note at place `n`. -/
structure Told (capacity : Nat) (notes : List HandlerNote) (n : Nat) (note : HandlerNote) :
    Prop where
  entries : note.entries = standing (notes.take (n + 1))
  nodup : (note.entries.map Callback.handler).Nodup
  bounded : note.entries.length ≤ capacity
  lawful : Lawful capacity notes n note.event

section Notes

variable {capacity dispatch n : Nat} {notes more : List HandlerNote} {note : HandlerNote}

theorem standing_append_single (notes : List HandlerNote) (note : HandlerNote) :
    standing (notes ++ [note]) = note.event.replay (standing notes) := by
  simp only [standing, List.foldl_append, List.foldl_cons, List.foldl_nil]

theorem callsOf_append (dispatch : Nat) (notes more : List HandlerNote) :
    callsOf dispatch (notes ++ more) = callsOf dispatch notes ++ callsOf dispatch more :=
  List.filterMap_append

theorem endingsOf_append (dispatch : Nat) (notes more : List HandlerNote) :
    endingsOf dispatch (notes ++ more) = endingsOf dispatch notes ++ endingsOf dispatch more :=
  List.filterMap_append

/-- Notes that are no part of a dispatch tell of no call and no end of it. -/
theorem callsOf_eq_nil (h : ∀ note ∈ notes, note.event.dispatch? ≠ some dispatch) :
    callsOf dispatch notes = [] ∧ endingsOf dispatch notes = [] := by
  constructor
  all_goals
    refine List.filterMap_eq_nil_iff.2 fun note hnote => ?_
    have hother := h note hnote
    cases hevent : note.event <;> simp_all [HandlerEvent.dispatch?]

theorem Begins.append (h : Begins notes dispatch) (more : List HandlerNote) :
    Begins (notes ++ more) dispatch := by
  obtain ⟨envelope, entries, hfound⟩ := h
  have hlt : dispatch < notes.length := (List.getElem?_eq_some_iff.1 hfound).1
  exact ⟨envelope, entries, by rw [List.getElem?_append_left hlt, hfound]⟩

/-- Later notes do not change what is so about a note, unless they are a part of its dispatch. -/
theorem Told.append (h : Told capacity notes n note) (hn : n < notes.length)
    (hmore : ∀ later ∈ more, later.event.dispatch? ≠ some n) :
    Told capacity (notes ++ more) n note := by
  obtain ⟨hcalls, hendings⟩ := callsOf_eq_nil hmore
  have htake : (notes ++ more).take n = notes.take n := 
    List.take_append_of_le_length (Nat.le_of_lt hn)
  refine ⟨?_, h.nodup, h.bounded, ?_⟩
  · rw [List.take_append_of_le_length hn]
    exact h.entries
  · have hlawful := h.lawful
    cases hevent : note.event with
    | registered handler userData result =>
        simpa only [hevent, Lawful, htake] using hlawful
    | dropped handler result => simpa only [hevent, Lawful, htake] using hlawful
    | began envelope =>
        simpa only [hevent, Lawful, htake, callsOf_append, endingsOf_append, hcalls, hendings,
          List.append_nil] using hlawful
    | called other callback notice =>
        simp only [hevent, Lawful, htake] at hlawful ⊢
        exact ⟨hlawful.1, hlawful.2.1.append more, hlawful.2.2⟩
    | ended other result =>
        simp only [hevent, Lawful] at hlawful ⊢
        exact ⟨hlawful.1, hlawful.2.append more⟩

end Notes

/-! ## Taking notes -/

/-- A session, and the notes that were taken. -/
structure Recorded (σ : Type) where
  session : Session σ
  notes : List HandlerNote

/-- An act of which notes are taken. -/
abbrev Recording (σ : Type) := StateM (Recorded σ)

namespace Recording

/-- An act of the process. -/
def act (x : Act σ α) : Recording σ α :=
  modifyGet fun r => ((x.run r.session).1, { r with session := (x.run r.session).2 })

/-- Take a note. -/
def note (event : HandlerEvent) : Recording σ Unit :=
  modify fun r => { r with notes := r.notes ++ [⟨event, r.session.process.callbacks.entries⟩] }

/-- Take a note if there is something to be noted. -/
def note? : Option HandlerEvent → Recording σ Unit
  | some event => note event
  | none => pure ()

/-- How many notes there are. -/
def count : Recording σ Nat := do return (← get).notes.length

end Recording

namespace Endpoint

variable (e : Endpoint σ)

open Recording

mutual

/-- Do an activity and take notes. -/
def record : Activity σ → Recording σ Unit
  | .meanwhile change => act (Act.onKernel fun k => ((), change k))
  | .operate operation => do
      let answer ← act (e.perform operation)
      note? (HandlerEvent.ofOperation? operation answer)
  | .dispatch envelope reactions => do
      let dispatch ← count
      note (.began envelope)
      let result ← dispatchNotice (act (Act.ofProcess Process.callbacks))
        (fun callback notice => do
          note (.called dispatch callback notice)
          recordAll (reactions callback notice)) envelope
      note (.ended dispatch result)
termination_by structural activity => activity

/-- Do activities one after the other and take notes. -/
def recordAll : List (Activity σ) → Recording σ Unit
  | [] => pure ()
  | activity :: rest => do
      record activity
      recordAll rest
termination_by structural activities => activities

end

variable {e}

/-- A dispatch of which notes are taken calls the same handlers. -/
theorem session_dispatchNotice {table : Act σ CallbackTable}
    {react : Callback → ShutdownNotice → Act σ Unit}
    {noting : Callback → ShutdownNotice → Recording σ Unit}
    (h : ∀ callback notice r,
      ((noting callback notice).run r).2.session = ((react callback notice).run r.session).2)
    (envelope : Envelope) (r : Recorded σ) :
    ((dispatchNotice (act table) noting envelope).run r).2.session =
      ((dispatchNotice table react envelope).run r.session).2 := by
  have hcalls : ∀ (entries : List Callback) (notice : ShutdownNotice) (r : Recorded σ),
      ((entries.forM fun callback => noting callback notice).run r).2.session =
        ((entries.forM fun callback => react callback notice).run r.session).2 := by
    intro entries notice
    induction entries with
    | nil => exact fun _ => rfl
    | cons callback rest ih =>
        intro r
        have hfirst := h callback notice r
        change (((rest.forM fun callback => noting callback notice).run
          ((noting callback notice).run r).2).2).session = _
        rw [ih, hfirst]
        rfl
  unfold dispatchNotice
  split
  · rfl
  · exact hcalls _ _ _

mutual

theorem session_record (activity : Activity σ) (r : Recorded σ) :
    ((e.record activity).run r).2.session = ((e.pursue activity).run r.session).2 := by
  match activity with
  | .meanwhile change => rfl
  | .operate operation =>
      have hnote : ∀ (event : Option HandlerEvent) (r : Recorded σ),
          ((note? event).run r).2.session = r.session := by
        intro event r
        cases event <;> rfl
      exact hnote _ _
  | .dispatch envelope reactions =>
      have hreact : ∀ (callback : Callback) (notice : ShutdownNotice) (t : Recorded σ),
          ((do
            note (.called r.notes.length callback notice)
            e.recordAll (reactions callback notice) : Recording σ Unit).run t).2.session =
            ((e.pursueAll (reactions callback notice)).run t.session).2 :=
        fun callback notice t => session_recordAll (reactions callback notice) _
      exact session_dispatchNotice hreact envelope _

/-- To take notes changes nothing. -/
theorem session_recordAll (activities : List (Activity σ)) (r : Recorded σ) :
    ((e.recordAll activities).run r).2.session =
      ((e.pursueAll activities).run r.session).2 := by
  match activities with
  | [] => rfl
  | activity :: rest =>
      have hfirst := session_record activity r
      have hrest := session_recordAll rest ((e.record activity).run r).2
      rw [hfirst] at hrest
      exact hrest

end

end Endpoint

/-! ## Keeping the rules -/

/-- Whether the notes tell the table of the process. -/
structure Tied (capacity : Nat) (r : Recorded σ) : Prop where
  capacity_eq : r.session.process.callbacks.capacity = capacity
  entries : r.session.process.callbacks.entries = standing r.notes
  nodup : r.session.process.callbacks.handlers.Nodup
  bounded : r.session.process.callbacks.entries.length ≤ capacity
  past : ∀ note ∈ r.notes, ∀ dispatch, note.event.dispatch? = some dispatch →
    dispatch < r.notes.length

/-- Whether the rules hold of all notes from a place on. -/
structure SoundFrom (capacity first : Nat) (r : Recorded σ) : Prop extends Tied capacity r where
  told : ∀ n note, first ≤ n → r.notes[n]? = some note → Told capacity r.notes n note

/-- Whether notes were added that keep the rules and are no part of earlier dispatches. -/
structure Extends (capacity : Nat) (r t : Recorded σ) : Prop extends
    SoundFrom capacity r.notes.length t where
  added : ∃ more, t.notes = r.notes ++ more ∧
    ∀ note ∈ more, ∀ dispatch, note.event.dispatch? = some dispatch → r.notes.length ≤ dispatch

/-- The notes with one more, of an event after which the session is `s`. -/
def Recorded.noted (r : Recorded σ) (event : HandlerEvent) (s : Session σ) : Recorded σ :=
  { session := s, notes := r.notes ++ [⟨event, s.process.callbacks.entries⟩] }

section Rules

variable {capacity first : Nat} {r t u : Recorded σ} {s : Session σ} {event : HandlerEvent}

theorem Tied.soundFrom (h : Tied capacity r) : SoundFrom capacity r.notes.length r :=
  ⟨h, fun _ _ hn hnote =>
    absurd (List.getElem?_eq_some_iff.1 hnote).1 (Nat.not_lt.2 hn)⟩

theorem Tied.extends_refl (h : Tied capacity r) : Extends capacity r r :=
  ⟨h.soundFrom, [], by simp, by simp⟩

theorem SoundFrom.trans (h : SoundFrom capacity first r) (hextends : Extends capacity r t) :
    SoundFrom capacity first t := by
  refine ⟨hextends.toTied, fun n note hn hnote => ?_⟩
  by_cases hnew : r.notes.length ≤ n
  · exact hextends.told n note hnew hnote
  · obtain ⟨more, hnotes, hmore⟩ := hextends.added
    have hlt : n < r.notes.length := Nat.lt_of_not_le hnew
    rw [hnotes, List.getElem?_append_left hlt] at hnote
    rw [hnotes]
    refine (h.told n note hn hnote).append hlt fun later hlater hdispatch => ?_
    exact hnew (hmore later hlater n hdispatch)

theorem Extends.trans (h : Extends capacity r t) (h' : Extends capacity t u) :
    Extends capacity r u := by
  refine ⟨h.toSoundFrom.trans h', ?_⟩
  obtain ⟨more, hnotes, hmore⟩ := h.added
  obtain ⟨more', hnotes', hmore'⟩ := h'.added
  refine ⟨more ++ more', by rw [hnotes', hnotes, List.append_assoc], ?_⟩
  intro note hnote dispatch hdispatch
  rcases List.mem_append.1 hnote with hnote | hnote
  · exact hmore note hnote dispatch hdispatch
  · have hle := hmore' note hnote dispatch hdispatch
    rw [hnotes, List.length_append] at hle
    omega

/-- One more note keeps the rules if its event tells the new table and is no part of a dispatch
from the first place on. -/
theorem SoundFrom.noted (h : SoundFrom capacity first r)
    (hcapacity : s.process.callbacks.capacity = capacity)
    (hentries : s.process.callbacks.entries =
      event.replay r.session.process.callbacks.entries)
    (hnodup : s.process.callbacks.handlers.Nodup)
    (hbounded : s.process.callbacks.entries.length ≤ capacity)
    (hpast : ∀ dispatch, event.dispatch? = some dispatch →
      dispatch < first ∧ dispatch < r.notes.length)
    (hlawful : first ≤ r.notes.length →
      Lawful capacity (r.noted event s).notes r.notes.length event) :
    SoundFrom capacity first (r.noted event s) := by
  have hstanding : s.process.callbacks.entries = standing (r.noted event s).notes := by
    rw [hentries, h.entries]
    exact (standing_append_single r.notes ⟨event, s.process.callbacks.entries⟩).symm
  have hlength : (r.noted event s).notes.length = r.notes.length + 1 := List.length_append
  refine ⟨⟨hcapacity, hstanding, hnodup, hbounded, ?_⟩, ?_⟩
  · intro note hnote dispatch hdispatch
    rw [hlength]
    rcases List.mem_append.1 hnote with hnote | hnote
    · exact Nat.lt_succ_of_lt (h.past note hnote dispatch hdispatch)
    · obtain rfl := List.mem_singleton.1 hnote
      exact Nat.lt_succ_of_lt (hpast dispatch hdispatch).2
  · intro n note hn hnote
    have hlt : n < r.notes.length + 1 := hlength ▸ (List.getElem?_eq_some_iff.1 hnote).1
    rcases Nat.lt_succ_iff_lt_or_eq.1 hlt with hold | rfl
    -- An old note keeps its rule: the event is a part of an earlier dispatch, or of none.
    · have hnote' : r.notes[n]? = some note := by
        rwa [Recorded.noted, List.getElem?_append_left hold] at hnote
      refine (h.told n note hn hnote').append hold fun later hlater hdispatch => ?_
      obtain rfl := List.mem_singleton.1 hlater
      exact absurd (hpast n hdispatch).1 (Nat.not_lt.2 hn)
    · obtain rfl : note = ⟨event, s.process.callbacks.entries⟩ := by
        rw [Recorded.noted, List.getElem?_concat_length] at hnote
        exact (Option.some.inj hnote).symm
      refine ⟨?_, hnodup, hbounded, hlawful hn⟩
      rw [← hlength, List.take_length]
      exact hstanding

theorem Tied.extends_noted (h : Tied capacity r)
    (hcapacity : s.process.callbacks.capacity = capacity)
    (hentries : s.process.callbacks.entries =
      event.replay r.session.process.callbacks.entries)
    (hnodup : s.process.callbacks.handlers.Nodup)
    (hbounded : s.process.callbacks.entries.length ≤ capacity)
    (hfree : event.dispatch? = none)
    (hlawful : Lawful capacity (r.noted event s).notes r.notes.length event) :
    Extends capacity r (r.noted event s) := by
  have hsound := h.soundFrom.noted hcapacity hentries hnodup hbounded
    (fun dispatch hdispatch => by simp [hfree] at hdispatch) fun _ => hlawful
  refine ⟨hsound, [⟨event, s.process.callbacks.entries⟩], rfl, ?_⟩
  intro note hnote dispatch hdispatch
  obtain rfl := List.mem_singleton.1 hnote
  simp [hfree] at hdispatch

theorem Tied.extends_of_callbacks_eq (h : Tied capacity r)
    (hcallbacks : s.process.callbacks = r.session.process.callbacks) :
    Extends capacity r { r with session := s } := by
  have htied : Tied capacity { r with session := s } := by
    refine ⟨?_, ?_, ?_, ?_, h.past⟩
    all_goals rw [hcallbacks]
    exacts [h.capacity_eq, h.entries, h.nodup, h.bounded]
  exact ⟨htied.soundFrom, [], (List.append_nil _).symm, by simp⟩

end Rules

end Interprocess
