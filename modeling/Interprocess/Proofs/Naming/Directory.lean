import Interprocess.Naming.Client
import Interprocess.Operation
import Interprocess.Proofs.Json.Length
import Interprocess.Proofs.Json.Vocabulary
import Interprocess.Simulation.NameServer
import Mathlib.Data.Finmap

/-!
# The directory as a map

The directory keeps a table of names.  To those who ask it, it is a finite map with a capacity: the
order of the table does not show, and no name is entered twice.

**Requests.**  A `NameRequest` is what the directory is asked, apart from who asks and how.  The
map says what is answered (`NameRequest.answer`) and what it holds afterwards
(`NameRequest.apply`).  On the wire a request is a command with a JSON text (`command`, `payload`),
and the answer is a JSON text that the client reads (`read`).

**Results.**
* `lookup_apply_of_ne`: a request changes no entry but that of its own name.
* `length_payload_le`: the request for a name fits into a payload, whatever its characters.
* `Represents.serve`: what the directory does with a request is what the map does.
-/

namespace Interprocess

/-! ## The map -/

/-- A finite map from names to the processes that serve them. -/
abbrev NameMap := Finmap fun _ : String => Pid

/-- Whether a map holds as many names as it may; `none` for no limit. -/
def NameMap.isFull (capacity : Option Nat) (m : NameMap) : Bool :=
  match capacity with
  | some limit => decide (limit ≤ m.keys.card)
  | none => false

/-- What the directory is asked. -/
inductive NameRequest
  /-- Which process serves a name. -/
  | find (name : String)
  /-- To enter a name for a process. -/
  | enter (name : String) (pid : Pid)
  /-- To drop a name. -/
  | drop (name : String)
deriving DecidableEq

namespace NameRequest

/-- The name that a request is about. -/
def name : NameRequest → String
  | find name | enter name _ | drop name => name

/-- What is answered to a request if the map may hold `capacity` names. -/
def answer (capacity : Option Nat) (m : NameMap) : NameRequest → Except Error Value
  | find name =>
      match m.lookup name with
      | some pid => .ok (.number pid.toNat)
      | none => .error .notFound
  | enter name _ =>
      if name ∈ m then .error .alreadyRegistered
      else if m.isFull capacity then .error .resourceLimit
      else .ok .nothing
  | drop name => if name ∈ m then .ok .nothing else .error .notFound

/-- The map after a request. -/
def apply (capacity : Option Nat) (m : NameMap) : NameRequest → NameMap
  | find _ => m
  | enter name pid =>
      if name ∈ m then m else if m.isFull capacity then m else m.insert name pid
  | drop name => m.erase name

/-- A request changes no entry but that of its own name. -/
theorem lookup_apply_of_ne {request : NameRequest} {other : String} (h : other ≠ request.name)
    (capacity : Option Nat) (m : NameMap) :
    (request.apply capacity m).lookup other = m.lookup other := by
  cases request with
  | find name => rfl
  | enter name pid =>
      simp only [apply]
      split_ifs
      · rfl
      · rfl
      · exact m.lookup_insert_of_ne h
  | drop name => exact Finmap.lookup_erase_ne h

/-! ## The wire -/

/-- The command of a request. -/
def command : NameRequest → MessageKind
  | find _ => DirectoryCommand.lookup
  | enter .. => DirectoryCommand.register
  | drop _ => DirectoryCommand.unregister

/-- The text of a request. -/
def payload : NameRequest → Bytes
  | find name => Json.encode ({ name } : LookupRequest)
  | enter name pid => Json.encode ({ name, pid } : RegisterRequest)
  | drop name => Json.encode ({ name } : UnregisterRequest)

/-- How long a request may take, in milliseconds. -/
def timeout : NameRequest → Nat
  | find _ => lookupTimeout
  | enter .. => registerTimeout
  | drop _ => unregisterTimeout

/-- What the text of an answer tells. -/
def read (bytes : Bytes) : NameRequest → Except Error Value
  | find _ => (readLookup bytes).map fun pid => .number pid.toNat
  | enter .. | drop _ => (readStatus bytes).map fun _ => .nothing

/-- The request for a name fits into a payload, whatever its characters. -/
theorem length_payload_le {request : NameRequest} (h : isServiceName request.name = true) :
    request.payload.length ≤ maxPayloadLength := by
  have hname : request.name.utf8ByteSize ≤ 63 :=
    of_decide_eq_true (Bool.and_eq_true_iff.1 h).2
  have htext := Json.length_render_ofText_le request.name
  have hservice : "service_name".utf8ByteSize = 12 ∧ "pid".utf8ByteSize = 3 := by decide
  have hrecord := Json.length_render_ofFields_le
  cases request with
  | find name | drop name =>
      refine Nat.le_trans (hrecord [("service_name", Json.ofText name)]) ?_
      simp only [NameRequest.name] at hname htext
      simp only [Json.fieldBound, hservice, List.map_cons, List.map_nil, List.sum_cons,
        List.sum_nil, maxPayloadLength]
      omega
  | enter name pid =>
      have hpid := Json.length_render_ofWord_le pid
      refine Nat.le_trans
        (hrecord [("service_name", Json.ofText name), ("pid", Json.ofWord pid)]) ?_
      simp only [NameRequest.name] at hname htext
      simp only [Json.fieldBound, hservice, List.map_cons, List.map_nil, List.sum_cons,
        List.sum_nil, maxPayloadLength]
      omega

end NameRequest

/-- The request that an operation of process `self` makes of the directory, if it makes one. -/
def Operation.nameRequest? (self : Pid) : Operation → Option NameRequest
  | .lookup name => some (.find name)
  | .register name server => some (.enter name server)
  | .registerSelf name => some (.enter name self)
  | .unregister name => some (.drop name)
  | _ => none

/-! ## The table -/

namespace NameServer

/-- Whether the table of a directory holds the same as a map. -/
structure Represents (s : NameServer) (m : NameMap) : Prop where
  nodup : (s.names.map Prod.fst).Nodup
  lookup : ∀ name, s.names.find? name = m.lookup name

variable {s : NameServer} {m : NameMap}

theorem represents_empty (capacity : Option Nat) : (empty capacity).Represents ∅ where
  nodup := List.nodup_nil
  lookup := by
    intro name
    rw [Finmap.lookup_empty]
    rfl

namespace Represents

theorem isSome_iff (h : s.Represents m) (name : String) :
    (s.names.find? name).isSome = true ↔ name ∈ m := by
  rw [h.lookup, Finmap.lookup_isSome]

theorem card_keys (h : s.Represents m) : m.keys.card = s.names.length := by
  have hkeys : m.keys = (s.names.map Prod.fst).toFinset := by
    ext name
    rw [Finmap.mem_keys, List.mem_toFinset, ← h.isSome_iff, Table.isSome_find?_iff]
  rw [hkeys, List.toFinset_card_of_nodup h.nodup, List.length_map]

theorem isFull_eq (h : s.Represents m) : s.isFull = m.isFull s.capacity := by
  cases hcapacity : s.capacity with
  | none => simp only [isFull, NameMap.isFull, hcapacity]
  | some limit => simp only [isFull, NameMap.isFull, hcapacity, h.card_keys]

theorem insert (h : s.Represents m) {name : String} (hnew : name ∉ m) (pid : Pid) :
    Represents { s with names := s.names.insert name pid } (m.insert name pid) where
  nodup := by
    have habsent : s.names.find? name = none := by
      rw [h.lookup]
      exact Finmap.lookup_eq_none.2 hnew
    have hfresh : name ∉ s.names.map Prod.fst := by
      rw [← Table.isSome_find?_iff, habsent]
      exact Bool.false_ne_true
    rw [Table.keys_insert_of_find?_eq_none habsent]
    exact h.nodup.append (List.nodup_singleton name) (by simpa using hfresh)
  lookup := by
    intro other
    by_cases hother : other = name
    · rw [hother, Table.find?_insert_same, Finmap.lookup_insert]
    · rw [Table.find?_insert_of_ne hother, Finmap.lookup_insert_of_ne m hother, h.lookup]

theorem erase (h : s.Represents m) (name : String) :
    Represents { s with names := s.names.erase name } (m.erase name) where
  nodup := h.nodup.sublist (List.filter_sublist.map Prod.fst)
  lookup := by
    intro other
    by_cases hother : other = name
    · rw [hother, Table.find?_erase_same, Finmap.lookup_erase]
    · rw [Table.find?_erase_of_ne hother, Finmap.lookup_erase_ne hother, h.lookup]

end Represents

/-! ## Serving -/

theorem serve_find {name : String} {e : Envelope} (hkind : e.kind = (NameRequest.find name).command)
    (hpayload : e.payload = (NameRequest.find name).payload) :
    s.serve e = (Json.encode (s.lookup name), s) := by
  simp [serve, hkind, hpayload, NameRequest.command, NameRequest.payload,
    LookupRequest.decode?_encode]

theorem serve_enter {name : String} {pid : Pid} {e : Envelope}
    (hkind : e.kind = (NameRequest.enter name pid).command)
    (hpayload : e.payload = (NameRequest.enter name pid).payload) :
    s.serve e = (Json.encode (s.register name pid).1, (s.register name pid).2) := by
  have hother : DirectoryCommand.register ≠ DirectoryCommand.lookup := by decide
  simp [serve, hkind, hpayload, NameRequest.command, NameRequest.payload, hother,
    RegisterRequest.decode?_encode]

theorem serve_drop {name : String} {e : Envelope} (hkind : e.kind = (NameRequest.drop name).command)
    (hpayload : e.payload = (NameRequest.drop name).payload) :
    s.serve e = (Json.encode (s.unregister name).1, (s.unregister name).2) := by
  have hother : DirectoryCommand.unregister ≠ DirectoryCommand.lookup ∧
      DirectoryCommand.unregister ≠ DirectoryCommand.register := by decide
  simp [serve, hkind, hpayload, NameRequest.command, NameRequest.payload, hother,
    UnregisterRequest.decode?_encode]

end NameServer

theorem readStatus_encode (r : StatusResponse) :
    readStatus (Json.encode r) = DirectoryStatus.outcome r.status := by
  have hbytes : (Json.encode r).isEmpty = false := rfl
  rw [readStatus, hbytes, readAnswer, StatusResponse.decode?_encode]
  rfl

theorem readLookup_encode (r : LookupResponse) :
    readLookup (Json.encode r) = (do
      DirectoryStatus.outcome r.status
      match r.pid with
      | some pid => .ok pid
      | none => .error (.protocol "lookup response without pid")) := by
  rw [readLookup, readAnswer, LookupResponse.decode?_encode]
  rfl

/-- **What the directory does with a request is what the map does.** -/
theorem NameServer.Represents.serve {s : NameServer} {m : NameMap} (h : s.Represents m)
    {request : NameRequest} {e : Envelope} (hkind : e.kind = request.command)
    (hpayload : e.payload = request.payload) :
    (s.serve e).1 ≠ [] ∧ request.read (s.serve e).1 = request.answer s.capacity m ∧
      (s.serve e).2.Represents (request.apply s.capacity m) ∧
      (s.serve e).2.capacity = s.capacity := by
  cases request with
  | find name =>
      rw [serve_find hkind hpayload, NameRequest.read, readLookup_encode, NameServer.lookup,
        h.lookup, NameRequest.answer]
      refine ⟨List.cons_ne_nil _ _, ?_, h, rfl⟩
      cases m.lookup name <;> rfl
  | enter name pid =>
      rw [serve_enter hkind hpayload, NameRequest.read, readStatus_encode, NameServer.register,
        NameRequest.answer, NameRequest.apply]
      refine ⟨List.cons_ne_nil _ _, ?_⟩
      simp only [h.isSome_iff, h.isFull_eq]
      split_ifs with hpresent hfull
      · exact ⟨rfl, h, rfl⟩
      · exact ⟨rfl, h, rfl⟩
      · exact ⟨rfl, h.insert hpresent pid, rfl⟩
  | drop name =>
      rw [serve_drop hkind hpayload, NameRequest.read, readStatus_encode, NameServer.unregister,
        NameRequest.answer, NameRequest.apply]
      refine ⟨List.cons_ne_nil _ _, ?_⟩
      simp only [h.isSome_iff]
      split_ifs with hpresent
      · exact ⟨rfl, h.erase name, rfl⟩
      · have hsame : m.erase name = m := by
          refine Finmap.ext_lookup fun other => ?_
          by_cases hother : other = name
          · rw [hother, Finmap.lookup_erase, Finmap.lookup_eq_none.2 hpresent]
          · exact Finmap.lookup_erase_ne hother
        rw [hsame]
        exact ⟨rfl, h, rfl⟩

end Interprocess
