import Interprocess.Proofs.Endpoint.History
import Interprocess.Proofs.Power.Announcement
import Interprocess.Proofs.Power.HandlerNotes

/-!
# Handing announcements to handlers

What a process does adds notes that keep the rules.  An operation is noted at once.  A dispatch is
noted when it begins, when it calls a handler and when it ends; whatever the handlers do stands in
between.  `Calling` is what is so in the middle of a dispatch: the calls that it has made so far are
the first of those that it is to make.

**Results.**
* `extends_operate`: registering and dropping answer by the table, and nothing else changes it.
* `extends_dispatch`: a dispatch calls the handlers that it finds, whatever they do.
* `extends_recordAll`: activities, to any depth of nesting.
* `dispatch_is_isolated`: the rules, from the start of a process.
-/

namespace Interprocess

variable {σ : Type}

namespace CallbackTable

variable {handler : HandlerId} {userData : Nat} {t t' : CallbackTable}

theorem register_verdict (handler : HandlerId) (userData : Nat) (t : CallbackTable) :
    (t.register handler userData).map (fun _ => ()) =
      registerVerdict t.capacity handler t.entries := by
  unfold register registerVerdict
  simp only [isRegistered_iff, handlers]
  split
  · rfl
  · split <;> rfl

theorem of_register_eq_ok (h : t.register handler userData = .ok t') :
    t'.capacity = t.capacity ∧ t'.entries = t.entries ++ [⟨handler, userData⟩] := by
  unfold register at h
  split at h
  · cases h
  · split at h
    · cases h
    · cases h
      exact ⟨rfl, rfl⟩

theorem unregister_verdict (handler : HandlerId) (t : CallbackTable) :
    (t.unregister handler).map (fun _ => ()) =
      if handler ∈ t.entries.map Callback.handler then .ok () else .error .notFound := by
  unfold unregister
  simp only [isRegistered_iff, handlers]
  split <;> rfl

theorem of_unregister_eq_ok (nodup : t.handlers.Nodup) (h : t.unregister handler = .ok t') :
    t'.capacity = t.capacity ∧
      t'.entries = t.entries.filter fun entry => entry.handler != handler := by
  unfold unregister at h
  split at h
  · cases h
    exact ⟨rfl, eraseP_eq_filter Callback.handler handler nodup⟩
  · cases h

end CallbackTable

namespace HandlerEvent

@[simp] theorem ofOperation?_registerHandler (handler : HandlerId) (userData : Nat)
    (result : Except Error Unit) :
    ofOperation? (.registerHandler handler userData) (.ofDone result) =
      some (registered handler userData result) := by
  cases result <;> rfl

@[simp] theorem ofOperation?_unregisterHandler (handler : HandlerId)
    (result : Except Error Unit) :
    ofOperation? (.unregisterHandler handler) (.ofDone result) =
      some (dropped handler result) := by
  cases result <;> rfl

end HandlerEvent

namespace Endpoint

variable {e : Endpoint σ} {capacity : Nat} {r : Recorded σ}

/-! ### Operations -/

/-- What is noted of an operation. -/
theorem run_record_operate (operation : Operation) (r : Recorded σ) :
    ((e.record (.operate operation)).run r).2 =
      match HandlerEvent.ofOperation? operation ((e.perform operation).run r.session).1 with
      | some event => r.noted event ((e.perform operation).run r.session).2
      | none => { r with session := ((e.perform operation).run r.session).2 } := by
  have hnote : ∀ (event : Option HandlerEvent) (r : Recorded σ),
      ((Recording.note? event).run r).2 = match event with
        | some event => r.noted event r.session
        | none => r := by
    intro event r
    cases event <;> rfl
  exact hnote _ _

/-- The session after the table was to be changed. -/
def tableChanged (s : Session σ) : Except Error CallbackTable → Session σ
  | .ok callbacks => { s with process := { s.process with callbacks } }
  | .error _ => s

theorem run_registerHandler (handler : HandlerId) (userData : Nat) (s : Session σ) :
    (e.perform (.registerHandler handler userData)).run s =
      (.ofDone ((s.process.callbacks.register handler userData).map fun _ => ()),
        tableChanged s (s.process.callbacks.register handler userData)) := by
  have hrun : (e.perform (.registerHandler handler userData)).run s =
      (.ofDone (s.process.registerHandler handler userData).1,
        { s with process := (s.process.registerHandler handler userData).2 }) := rfl
  rw [hrun, Process.registerHandler]
  cases s.process.callbacks.register handler userData <;> rfl

theorem run_unregisterHandler (handler : HandlerId) (s : Session σ) :
    (e.perform (.unregisterHandler handler)).run s =
      (.ofDone ((s.process.callbacks.unregister handler).map fun _ => ()),
        tableChanged s (s.process.callbacks.unregister handler)) := by
  have hrun : (e.perform (.unregisterHandler handler)).run s =
      (.ofDone (s.process.unregisterHandler handler).1,
        { s with process := (s.process.unregisterHandler handler).2 }) := rfl
  rw [hrun, Process.unregisterHandler]
  cases s.process.callbacks.unregister handler <;> rfl

/-- An event that tells how a change of the table went keeps the rules. -/
theorem extends_tableChanged (changed : Except Error CallbackTable)
    (event : Except Error Unit → HandlerEvent) (h : Tied capacity r)
    (hkept : ∀ error entries, (event (.error error)).replay entries = entries)
    (hchanged : ∀ table, changed = .ok table → table.capacity = capacity ∧
      table.entries = (event (.ok ())).replay r.session.process.callbacks.entries ∧
      table.handlers.Nodup ∧ table.entries.length ≤ capacity)
    (hfree : ∀ result, (event result).dispatch? = none)
    (hlawful : ∀ notes, notes.take r.notes.length = r.notes →
      Lawful capacity notes r.notes.length (event (changed.map fun _ => ()))) :
    Extends capacity r
      (r.noted (event (changed.map fun _ => ())) (tableChanged r.session changed)) := by
  have hlaw := hlawful _ (List.take_left : (r.noted (event (changed.map fun _ => ()))
    (tableChanged r.session changed)).notes.take r.notes.length = r.notes)
  cases changed with
  | error error =>
      exact h.extends_noted h.capacity_eq (hkept error _).symm h.nodup h.bounded (hfree _) hlaw
  | ok table =>
      obtain ⟨hcapacity, hentries, hnodup, hbounded⟩ := hchanged table rfl
      exact h.extends_noted hcapacity hentries hnodup hbounded (hfree _) hlaw

/-- Registering a handler answers by the table, and adds to it only if it succeeds. -/
theorem extends_register (h : Tied capacity r) (handler : HandlerId) (userData : Nat) :
    Extends capacity r
      ((e.record (.operate (.registerHandler handler userData))).run r).2 := by
  have hchanged : ∀ table, r.session.process.callbacks.register handler userData = .ok table →
      table.capacity = capacity ∧
        table.entries = r.session.process.callbacks.entries ++ [⟨handler, userData⟩] ∧
        table.handlers.Nodup ∧ table.entries.length ≤ capacity := by
    intro table hresult
    obtain ⟨hsame, hentries⟩ := CallbackTable.of_register_eq_ok hresult
    have hcapacity : table.capacity = capacity := hsame.trans h.capacity_eq
    have hbounded := CallbackTable.length_register_le hresult
    rw [hcapacity] at hbounded
    exact ⟨hcapacity, hentries, CallbackTable.nodup_register h.nodup hresult, hbounded⟩
  have hlawful : ∀ notes, notes.take r.notes.length = r.notes →
      Lawful capacity notes r.notes.length (.registered handler userData
        ((r.session.process.callbacks.register handler userData).map fun _ => ())) := by
    intro notes hnotes
    rw [Lawful, hnotes, CallbackTable.register_verdict, h.entries, h.capacity_eq]
  rw [run_record_operate, run_registerHandler, HandlerEvent.ofOperation?_registerHandler]
  exact extends_tableChanged _ (.registered handler userData) h (fun _ _ => rfl) hchanged
    (fun _ => rfl) hlawful

/-- Dropping a handler answers by the table, and takes from it only if it succeeds. -/
theorem extends_unregister (h : Tied capacity r) (handler : HandlerId) :
    Extends capacity r ((e.record (.operate (.unregisterHandler handler))).run r).2 := by
  have hchanged : ∀ table, r.session.process.callbacks.unregister handler = .ok table →
      table.capacity = capacity ∧
        table.entries = r.session.process.callbacks.entries.filter
          (fun entry => entry.handler != handler) ∧
        table.handlers.Nodup ∧ table.entries.length ≤ capacity := by
    intro table hresult
    obtain ⟨hsame, hentries⟩ := CallbackTable.of_unregister_eq_ok h.nodup hresult
    have hsub : table.entries.Sublist r.session.process.callbacks.entries :=
      hentries ▸ List.filter_sublist
    exact ⟨hsame.trans h.capacity_eq, hentries, h.nodup.sublist (hsub.map _),
      Nat.le_trans hsub.length_le h.bounded⟩
  have hlawful : ∀ notes, notes.take r.notes.length = r.notes →
      Lawful capacity notes r.notes.length (.dropped handler
        ((r.session.process.callbacks.unregister handler).map fun _ => ())) := by
    intro notes hnotes
    rw [Lawful, hnotes, CallbackTable.unregister_verdict, h.entries]
  rw [run_record_operate, run_unregisterHandler, HandlerEvent.ofOperation?_unregisterHandler]
  exact extends_tableChanged _ (.dropped handler) h (fun _ _ => rfl) hchanged
    (fun _ => rfl) hlawful

/-- No other operation changes the table, and none is noted. -/
theorem extends_operate (h : Tied capacity r) (operation : Operation) :
    Extends capacity r ((e.record (.operate operation)).run r).2 := by
  by_cases hregister : ∃ handler userData, operation = .registerHandler handler userData
  · obtain ⟨handler, userData, rfl⟩ := hregister
    exact extends_register h handler userData
  by_cases hunregister : ∃ handler, operation = .unregisterHandler handler
  · obtain ⟨handler, rfl⟩ := hunregister
    exact extends_unregister h handler
  have hcallbacks := (e.course_perform operation r.session).callbacks_eq
    (fun handler userData heq => hregister ⟨handler, userData, heq⟩)
    (fun handler heq => hunregister ⟨handler, heq⟩)
  have hnone : HandlerEvent.ofOperation? operation ((e.perform operation).run r.session).1 =
      none := by
    unfold HandlerEvent.ofOperation?
    split
    · exact absurd ⟨_, _, rfl⟩ hregister
    · exact absurd ⟨_, rfl⟩ hunregister
    · rfl
  rw [run_record_operate, hnone]
  exact h.extends_of_callbacks_eq hcallbacks

end Endpoint

/-! ### Dispatch -/

/-- Whether a dispatch of `envelope` that began in `r` has come to `t`, and the rules hold of all
notes since. -/
structure Underway (capacity : Nat) (r : Recorded σ) (envelope : Envelope) (t : Recorded σ) :
    Prop extends SoundFrom capacity (r.notes.length + 1) t where
  began : t.notes[r.notes.length]? =
    some ⟨.began envelope, r.session.process.callbacks.entries⟩
  added : ∃ more, t.notes = r.notes ++ more ∧
    ∀ note ∈ more, ∀ dispatch, note.event.dispatch? = some dispatch → r.notes.length ≤ dispatch

/-- Whether it has made these calls, and has not ended. -/
structure Calling (capacity : Nat) (r : Recorded σ) (envelope : Envelope)
    (calls : List (Callback × ShutdownNotice)) (t : Recorded σ) : Prop extends
    Underway capacity r envelope t where
  calls_eq : callsOf r.notes.length t.notes = calls
  endings_eq : endingsOf r.notes.length t.notes = []

section Dispatch

variable {capacity : Nat} {envelope : Envelope} {calls : List (Callback × ShutdownNotice)}
  {r t u : Recorded σ}

theorem Underway.length_lt (h : Underway capacity r envelope t) :
    r.notes.length < t.notes.length :=
  (List.getElem?_eq_some_iff.1 h.began).1

theorem Underway.begins (h : Underway capacity r envelope t) : Begins t.notes r.notes.length :=
  ⟨_, _, h.began⟩

theorem Underway.trans (h : Underway capacity r envelope t) (hextends : Extends capacity t u) :
    Underway capacity r envelope u := by
  obtain ⟨more, hnotes, hmore⟩ := h.added
  obtain ⟨later, hlater, hfree⟩ := hextends.added
  refine ⟨h.toSoundFrom.trans hextends, ?_, more ++ later,
    by rw [hlater, hnotes, List.append_assoc], ?_⟩
  · rw [hlater, List.getElem?_append_left h.length_lt, h.began]
  · intro note hnote dispatch hdispatch
    rcases List.mem_append.1 hnote with hnote | hnote
    · exact hmore note hnote dispatch hdispatch
    · exact Nat.le_trans (Nat.le_of_lt h.length_lt) (hfree note hnote dispatch hdispatch)

/-- A part of the dispatch is noted. -/
theorem Underway.noted {event : HandlerEvent} (h : Underway capacity r envelope t)
    (hpart : event.dispatch? = some r.notes.length)
    (hkept : event.replay t.session.process.callbacks.entries =
      t.session.process.callbacks.entries)
    (hlawful : Lawful capacity (t.noted event t.session).notes t.notes.length event) :
    Underway capacity r envelope (t.noted event t.session) := by
  have hpast : ∀ dispatch, event.dispatch? = some dispatch →
      dispatch < r.notes.length + 1 ∧ dispatch < t.notes.length := by
    intro dispatch hdispatch
    obtain rfl := Option.some.inj (hpart.symm.trans hdispatch)
    exact ⟨Nat.lt_succ_self _, h.length_lt⟩
  obtain ⟨more, hnotes, hmore⟩ := h.added
  refine ⟨h.toSoundFrom.noted h.capacity_eq hkept.symm h.nodup h.bounded hpast fun _ => hlawful,
    ?_, more ++ [_], by rw [← List.append_assoc, ← hnotes]; rfl, ?_⟩
  · rw [Recorded.noted, List.getElem?_append_left h.length_lt, h.began]
  · intro note hnote dispatch hdispatch
    rcases List.mem_append.1 hnote with hnote | hnote
    · exact hmore note hnote dispatch hdispatch
    · obtain rfl := List.mem_singleton.1 hnote
      exact Nat.le_of_eq (Option.some.inj (hpart.symm.trans hdispatch))

/-- A dispatch begins with no calls. -/
theorem Tied.calling (h : Tied capacity r) (envelope : Envelope) :
    Calling capacity r envelope [] (r.noted (.began envelope) r.session) := by
  have hnew : ∀ note ∈ (r.noted (.began envelope) r.session).notes,
      note.event.dispatch? ≠ some r.notes.length := by
    intro note hnote hdispatch
    rcases List.mem_append.1 hnote with hnote | hnote
    · exact Nat.lt_irrefl _ (h.past note hnote _ hdispatch)
    · obtain rfl := List.mem_singleton.1 hnote
      cases hdispatch
  obtain ⟨hcalls, hendings⟩ := callsOf_eq_nil hnew
  -- The rule for the beginning itself cannot hold before the end, so the rules start after it.
  have hsound : SoundFrom capacity (r.notes.length + 1)
      (r.noted (.began envelope) r.session) := by
    refine SoundFrom.noted ⟨h, fun n note hn hnote => ?_⟩ h.capacity_eq rfl h.nodup h.bounded
      (fun dispatch hdispatch => by cases hdispatch)
      fun hle => absurd hle (Nat.not_succ_le_self _)
    have hlt := (List.getElem?_eq_some_iff.1 hnote).1
    omega
  refine ⟨⟨hsound, List.getElem?_concat_length, _, rfl, ?_⟩, hcalls, hendings⟩
  intro note hnote dispatch hdispatch
  obtain rfl := List.mem_singleton.1 hnote
  cases hdispatch

/-- What a handler does is no part of the dispatch that called it. -/
theorem Calling.trans (h : Calling capacity r envelope calls t)
    (hextends : Extends capacity t u) : Calling capacity r envelope calls u := by
  obtain ⟨later, hlater, hfree⟩ := hextends.added
  obtain ⟨hcalls, hendings⟩ := callsOf_eq_nil fun note hnote hdispatch =>
    absurd (hfree note hnote r.notes.length hdispatch) (Nat.not_le.2 h.length_lt)
  refine ⟨h.toUnderway.trans hextends, ?_, ?_⟩
  · rw [hlater, callsOf_append, hcalls, List.append_nil, h.calls_eq]
  · rw [hlater, endingsOf_append, hendings, List.append_nil, h.endings_eq]

/-- A call is a part of its dispatch. -/
theorem Calling.called (h : Calling capacity r envelope calls t) (callback : Callback)
    (notice : ShutdownNotice) :
    Calling capacity r envelope (calls ++ [(callback, notice)])
      (t.noted (.called r.notes.length callback notice) t.session) := by
  have htake : (t.noted (.called r.notes.length callback notice) t.session).notes.take
      t.notes.length = t.notes := List.take_left
  have hunended : endingsOf r.notes.length ((t.noted (.called r.notes.length callback notice)
      t.session).notes.take t.notes.length) = [] := by
    rw [htake, h.endings_eq]
  refine ⟨h.toUnderway.noted rfl rfl ⟨h.length_lt, h.begins.append _, hunended⟩, ?_, ?_⟩
  · rw [Recorded.noted, callsOf_append, h.calls_eq]
    simp [callsOf]
  · rw [Recorded.noted, endingsOf_append, h.endings_eq]
    rfl

/-- The handlers are called one after the other, whatever each of them does. -/
theorem Calling.forM {react : Callback → Recording σ Unit} (notice : ShutdownNotice)
    (hreact : ∀ callback t, Tied capacity t → Extends capacity t ((react callback).run t).2) :
    ∀ (entries : List Callback) {calls t}, Calling capacity r envelope calls t →
      Calling capacity r envelope (calls ++ entries.map fun callback => (callback, notice))
        ((entries.forM fun callback => do
          Recording.note (.called r.notes.length callback notice)
          react callback : Recording σ Unit).run t).2
  | [], calls, t, h => by
      rw [List.map_nil, List.append_nil]
      exact h
  | callback :: rest, calls, t, h => by
      have hcalled := h.called callback notice
      have hnext := hcalled.trans (hreact callback _ hcalled.toTied)
      have hrest := Calling.forM notice hreact rest hnext
      rw [List.append_assoc] at hrest
      exact hrest

/-- A dispatch keeps the rules if it has made the calls that it is to make when it ends. -/
theorem Calling.extends_ended (h : Calling capacity r envelope calls t) (hr : Tied capacity r)
    (result : Except Error Nat)
    (hcalls : match ShutdownNotice.ofEnvelope? envelope with
      | some notice =>
          calls = (standing r.notes).map (fun callback => (callback, notice)) ∧
            result = .ok (standing r.notes).length
      | none => calls = [] ∧ result = .error .invalidParameter) :
    Extends capacity r (t.noted (.ended r.notes.length result) t.session) := by
  have hended : Underway capacity r envelope
      (t.noted (.ended r.notes.length result) t.session) :=
    h.toUnderway.noted rfl rfl ⟨h.length_lt, h.begins.append _⟩
  obtain ⟨more, hnotes, hmore⟩ := hended.added
  refine ⟨⟨hended.toTied, fun n note hn hnote => ?_⟩, more, hnotes, hmore⟩
  -- Only the rule for the beginning is new; it had to wait for the end.
  rcases Nat.eq_or_lt_of_le hn with rfl | hlater
  · obtain rfl := Option.some.inj (hended.began.symm.trans hnote)
    have htake : (t.noted (.ended r.notes.length result) t.session).notes.take r.notes.length =
        r.notes := by
      rw [hnotes, List.take_left]
    refine ⟨?_, hr.nodup, hr.bounded, ?_⟩
    · rw [List.take_add_one, hended.began, htake]
      exact hr.entries.trans (standing_append_single r.notes ⟨.began envelope, _⟩).symm
    · have hcallsOf : callsOf r.notes.length
          (t.noted (.ended r.notes.length result) t.session).notes = calls := by
        rw [Recorded.noted, callsOf_append, h.calls_eq]
        exact List.append_nil _
      have hendingsOf : endingsOf r.notes.length
          (t.noted (.ended r.notes.length result) t.session).notes = [result] := by
        rw [Recorded.noted, endingsOf_append, h.endings_eq]
        simp [endingsOf]
      rw [Lawful, hcallsOf, hendingsOf, htake]
      cases hnotice : ShutdownNotice.ofEnvelope? envelope with
      | some notice =>
          rw [hnotice] at hcalls
          exact ⟨hcalls.1, by rw [hcalls.2]⟩
      | none =>
          rw [hnotice] at hcalls
          exact ⟨hcalls.1, by rw [hcalls.2]⟩
  · exact hended.told n note hlater hnote

/-- A dispatch calls the handlers that it finds, whatever they do. -/
theorem extends_dispatch {react : Callback → ShutdownNotice → Recording σ Unit}
    (h : Tied capacity r) (envelope : Envelope)
    (hreact : ∀ callback notice t, Tied capacity t →
      Extends capacity t ((react callback notice).run t).2) :
    Extends capacity r ((do
      let dispatch ← Recording.count
      Recording.note (.began envelope)
      let result ← dispatchNotice (Recording.act (Act.ofProcess Process.callbacks))
        (fun callback notice => do
          Recording.note (.called dispatch callback notice)
          react callback notice) envelope
      Recording.note (.ended dispatch result) : Recording σ Unit).run r).2 := by
  have hbegun := h.calling envelope
  unfold dispatchNotice
  cases hnotice : ShutdownNotice.ofEnvelope? envelope with
  | none =>
      refine hbegun.extends_ended h (.error .invalidParameter) ?_
      rw [hnotice]
      exact ⟨rfl, rfl⟩
  | some notice =>
      have hcalled := Calling.forM notice (fun callback => hreact callback notice)
        r.session.process.callbacks.entries hbegun
      refine hcalled.extends_ended h (.ok r.session.process.callbacks.entries.length) ?_
      rw [hnotice]
      exact ⟨by rw [List.nil_append, h.entries], by rw [h.entries]⟩

end Dispatch

namespace Endpoint

variable {e : Endpoint σ} {capacity : Nat}

mutual

theorem extends_record (activity : Activity σ) (r : Recorded σ) (h : Tied capacity r) :
    Extends capacity r ((e.record activity).run r).2 := by
  match activity with
  | .meanwhile change => exact h.extends_of_callbacks_eq rfl
  | .operate operation => exact extends_operate h operation
  | .dispatch envelope reactions =>
      exact extends_dispatch h envelope fun callback notice t ht =>
        extends_recordAll (reactions callback notice) t ht

/-- Activities add notes that keep the rules. -/
theorem extends_recordAll (activities : List (Activity σ)) (r : Recorded σ)
    (h : Tied capacity r) : Extends capacity r ((e.recordAll activities).run r).2 := by
  match activities with
  | [] => exact h.extends_refl
  | activity :: rest =>
      have hfirst := extends_record activity r h
      exact hfirst.trans (extends_recordAll rest _ hfirst.toTied)

end

/-- Every handler that is in the table when a dispatch begins is called once by it, in order of
registration, whatever the handlers register, drop and dispatch meanwhile. -/
theorem dispatch_is_isolated (e : Endpoint σ) (k : σ) (activities : List (Activity σ)) :
    let start : Session σ := { kernel := k, process := Process.start e.config }
    let r := ((e.recordAll activities).run { session := start, notes := [] }).2
    r.session = ((e.pursueAll activities).run start).2 ∧
      r.session.process.callbacks.entries = standing r.notes ∧
      r.session.process.callbacks.handlers.Nodup ∧
      r.session.process.callbacks.entries.length ≤ e.config.callbackCapacity ∧
      ∀ n note, r.notes[n]? = some note →
        Told e.config.callbackCapacity r.notes n note := by
  intro start r
  have htied : Tied e.config.callbackCapacity ({ session := start, notes := [] } : Recorded σ) :=
    ⟨rfl, rfl, List.nodup_nil, Nat.zero_le _, by simp⟩
  have hextends := extends_recordAll (e := e) activities _ htied
  exact ⟨session_recordAll activities _, hextends.entries, hextends.nodup, hextends.bounded,
    fun n note hnote => hextends.told n note (Nat.zero_le n) hnote⟩

/-- The first handler drops the second one, registers a third and hands the announcement out again.
The second one is still called by the outer dispatch, the third one by the inner dispatch only. -/
theorem dispatch_is_isolated_from_inner_dispatch :
    let e := (Station.start 7 { Config.standard with callbackCapacity := 2 }).endpoint
    let notice : ShutdownNotice := {
      kind := .reboot, reason := .thermal, message := "now", flags := 0, sender := 5 }
    let envelope := notice.toEnvelope 0
    let reactions : Callback → ShutdownNotice → List (Activity KernelState) := fun callback _ =>
      if callback.handler = 1 then
        [.operate (.unregisterHandler 2), .operate (.registerHandler 3 30),
          .dispatch envelope fun _ _ => []]
      else []
    let activities : List (Activity KernelState) :=
      [.operate (.registerHandler 1 10), .operate (.registerHandler 2 20),
        .dispatch envelope reactions]
    let k := ((Station.start 7 e.config).session World.start).kernel
    let start : Session KernelState := { kernel := k, process := Process.start e.config }
    let r := ((e.recordAll activities).run { session := start, notes := [] }).2
    callsOf 2 r.notes = [(⟨1, 10⟩, notice), (⟨2, 20⟩, notice)] ∧
      callsOf 6 r.notes = [(⟨1, 10⟩, notice), (⟨3, 30⟩, notice)] ∧
      r.session.process.callbacks.entries = [⟨1, 10⟩, ⟨3, 30⟩] := by
  intro e notice envelope reactions activities k start r
  obtain ⟨-, -, -, -, htold⟩ := dispatch_is_isolated e k activities
  have htold : ∀ n note, r.notes[n]? = some note → Told 2 r.notes n note := htold
  have hread : ShutdownNotice.ofEnvelope? envelope = some notice :=
    ShutdownNotice.ofEnvelope?_toEnvelope notice 0
  have houter := (htold 2 ⟨.began envelope, [⟨1, 10⟩, ⟨2, 20⟩]⟩ (by decide +kernel)).lawful
  have hinner := (htold 6 ⟨.began envelope, [⟨1, 10⟩, ⟨3, 30⟩]⟩ (by decide +kernel)).lawful
  have hfound : standing (r.notes.take 2) = [⟨1, 10⟩, ⟨2, 20⟩] ∧
      standing (r.notes.take 6) = [⟨1, 10⟩, ⟨3, 30⟩] := by decide +kernel
  rw [Lawful, hread, hfound.1] at houter
  rw [Lawful, hread, hfound.2] at hinner
  exact ⟨houter.1, hinner.1, by decide +kernel⟩

end Endpoint

end Interprocess
