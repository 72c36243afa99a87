import Interprocess.Error
import Interprocess.Power.Notice

/-!
# Shutdown handlers

A process keeps a table of handlers that are to hear of shutdown announcements, in order
of registration.  A handler is known by its identity only.

**Dispatch.**  An announcement goes to the handlers that are in the table when dispatch
begins.  Handlers may change the table while they run; that has no effect on who hears of
this announcement.

**Results.**  A table keeps its two limits: `nodup_register` and `length_register_le`.
-/

namespace Interprocess

/-- The identity of a handler. -/
abbrev HandlerId := Nat

/-- A registered handler, with the number that it asked to be handed. -/
structure Callback where
  /-- The handler. -/
  handler : HandlerId
  /-- What it is handed. -/
  userData : Nat
deriving DecidableEq

/-- The registered handlers of a process. -/
structure CallbackTable where
  /-- The largest number of handlers. -/
  capacity : Nat
  /-- The handlers in order of registration. -/
  entries : List Callback
deriving DecidableEq

namespace CallbackTable

/-- The table without handlers. -/
def empty (capacity : Nat) : CallbackTable := { capacity, entries := [] }

/-- The number of handlers. -/
def size (t : CallbackTable) : Nat := t.entries.length

/-- Whether a handler is registered. -/
def isRegistered (handler : HandlerId) (t : CallbackTable) : Bool :=
  t.entries.any fun entry => entry.handler == handler

/-- Add a handler at the end. -/
def register (handler : HandlerId) (userData : Nat) (t : CallbackTable) :
    Except Error CallbackTable :=
  if t.isRegistered handler then .error .alreadyRegistered
  else if t.capacity ≤ t.entries.length then .error .resourceLimit
  else .ok { t with entries := t.entries ++ [{ handler, userData }] }

/-- Drop a handler. -/
def unregister (handler : HandlerId) (t : CallbackTable) : Except Error CallbackTable :=
  if t.isRegistered handler then
    .ok { t with entries := t.entries.eraseP fun entry => entry.handler == handler }
  else .error .notFound

/-- The identities in the table. -/
def handlers (t : CallbackTable) : List HandlerId := t.entries.map Callback.handler

theorem isRegistered_iff {handler : HandlerId} {t : CallbackTable} :
    t.isRegistered handler = true ↔ handler ∈ t.handlers := by
  simp only [isRegistered, handlers, List.any_eq_true, beq_iff_eq, List.mem_map]

theorem nodup_register {handler : HandlerId} {userData : Nat} {t t' : CallbackTable}
    (nodup : t.handlers.Nodup) (h : t.register handler userData = .ok t') :
    t'.handlers.Nodup := by
  unfold register at h
  split at h
  · simp at h
  · next hnew =>
      split at h
      · simp at h
      · cases h
        have hfresh : handler ∉ t.handlers := fun hmem => hnew (isRegistered_iff.2 hmem)
        have happend : handlers { t with entries := t.entries ++ [{ handler, userData }] } =
            t.handlers ++ [handler] := by simp [handlers]
        rw [happend]
        refine List.nodup_append.2 ⟨nodup, by simp, ?_⟩
        intro a ha b hb hab
        simp only [List.mem_singleton] at hb
        exact hfresh (hb ▸ hab ▸ ha)

theorem length_register_le {handler : HandlerId} {userData : Nat} {t t' : CallbackTable}
    (h : t.register handler userData = .ok t') : t'.entries.length ≤ t'.capacity := by
  unfold register at h
  split at h
  · simp at h
  · split at h
    · simp at h
    · cases h
      simp only [List.length_append, List.length_cons, List.length_nil]
      omega

end CallbackTable

/-- Hand an announcement to every handler of a table, and count them.  `table` fetches the
table when dispatch begins, and `run` runs one handler. -/
def dispatchNotice {m : Type → Type} [Monad m] (table : m CallbackTable)
    (run : Callback → ShutdownNotice → m Unit) (envelope : Envelope) : m (Except Error Nat) :=
  match ShutdownNotice.ofEnvelope? envelope with
  | none => pure (.error .invalidParameter)
  | some notice => do
      let callbacks ← table
      callbacks.entries.forM fun callback => run callback notice
      pure (.ok callbacks.size)

end Interprocess
