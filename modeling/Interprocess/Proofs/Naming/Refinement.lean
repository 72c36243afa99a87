import Interprocess.Proofs.Naming.Asking
import Interprocess.Proofs.Simulation.AnsweredCall

/-!
# Asking for names refines a map

Processes that look up, register and unregister names talk to the directory by calls: a name is
checked, written as JSON, sent, tracked and polled for, and the answer is read and may be announced.
To all processes together this looks like one map that each of them asks in turn.

**Input.**  A run of a system in which a directory answers at an address (`World.Serves`).  A
request counts if its name is one, the process looks for the directory there, and the request is
taken (`Station.Admits`).  Anything else may happen in between that leaves the directory alone
(`System.Inquires`).

**Results.**
* `Endpoint.run_perform_of_answer`: an operation answers what it reads from the directory, and
  sends nothing after that.
* `Station.asks_map`: one request of one process is one request to the map.
* `directory_refines_map`: a run of requests by all processes is a run of the map.
-/

namespace Interprocess

variable {operation : Operation} {request : NameRequest}

/-! ## After the call -/

namespace Endpoint

variable {σ : Type} {e : Endpoint σ} {s t : Session σ} {bytes : Bytes}

/-- An operation answers what it reads from the directory, and sends nothing after that. -/
theorem run_perform_of_answer (h : operation.nameRequest? e.pid = some request)
    (hname : isServiceName request.name = true) (hbytes : bytes ≠ [])
    (hcall : (e.call e.config.directoryPid request.command request.payload
      request.timeout).run.run s = (.ok bytes, t)) (first : Sequence) :
    ∃ u, (e.perform operation).run s = (.attempt (request.read bytes), u) ∧
      e.Walk (operation.makesQuietly e.pid first) t u := by
  refine ⟨_, ?_, makes_conclude request bytes t⟩
  rw [← NameRequest.outcome_of_ne_nil hbytes]
  exact run_perform_of_ended h hname hcall

end Endpoint

/-! ## One request -/

section Request

variable {directory : Pid} {capacity : Option Nat} {m : NameMap} {w : World}

/-- Whether the process at an address is a directory with room for `capacity` names, whose table
holds the same as a map. -/
def World.Serves (directory : Pid) (capacity : Option Nat) (m : NameMap) (w : World) : Prop :=
  ∃ server, w.responders.find? directory = some (.directory server) ∧
    server.capacity = capacity ∧ server.Represents m

namespace World.Serves

theorem congr (h : w.Serves directory capacity m) {w' : World}
    (hpeer : w'.responders.find? directory = w.responders.find? directory) :
    w'.Serves directory capacity m := by
  unfold Serves
  rw [hpeer]
  exact h

/-- An envelope with a request is answered at once, with what the map answers. -/
theorem respond (h : w.Serves directory capacity m) {e : Envelope}
    (hreceiver : e.receiver = directory) (hkind : e.kind = request.command)
    (hpayload : e.payload = request.payload) :
    ∃ bytes, (w.respond e).1 = [.delivered, .received bytes] ∧ bytes ≠ [] ∧
      request.read bytes = request.answer capacity m ∧
      (w.respond e).2.Serves directory capacity (request.apply capacity m) := by
  obtain ⟨server, hserver, rfl, hrepresents⟩ := h
  obtain ⟨hbytes, hread, hafter, hcapacity⟩ := hrepresents.serve hkind hpayload
  have hrespond : w.respond e = ([.delivered, .received (server.serve e).1],
      { w with responders := w.responders.insert directory (.directory (server.serve e).2) }) := by
    unfold World.respond
    rw [hreceiver, hserver]
    rfl
  rw [hrespond]
  refine ⟨_, rfl, hbytes, hread, ?_⟩
  exact ⟨_, Table.find?_insert_same directory _ _, hcapacity, hafter⟩

end World.Serves

/-- **One request of one process is one request to the map.** -/
theorem Station.asks_map {station : Station} (horder : station.endpoint.InOrder (station.session w))
    (hserves : w.Serves directory capacity m)
    (hrequest : operation.nameRequest? station.pid = some request)
    (hname : isServiceName request.name = true) (haddress : station.config.directoryPid = directory)
    (hadmits : station.Admits directory w) :
    station.answer operation w = .attempt (request.answer capacity m) ∧
      (station.after operation w).kernel.world.Serves directory capacity
        (request.apply capacity m) := by
  let envelope := station.endpoint.outgoing directory request.command request.payload
    station.process.nextSequence w.clock
  have hshort := NameRequest.length_payload_le hname
  obtain ⟨bytes, hanswer, hbytes, hread, hafter⟩ :=
    hserves.respond (e := envelope) rfl rfl rfl
  have hearlier : ∀ report ∈ [Feedback.delivered], report.reportedState.isTerminal = false := by
    decide
  obtain ⟨t, hcall, hpeers⟩ :=
    Station.run_call_of_answer horder hadmits hshort hanswer hearlier request.timeout
  have hasked : (station.endpoint.call station.endpoint.config.directoryPid request.command
      request.payload request.timeout).run.run (station.session w) = (.ok bytes, t) := by
    rw [show station.endpoint.config.directoryPid = directory from haddress]
    exact hcall
  obtain ⟨u, hperform, hwalk⟩ :=
    Endpoint.run_perform_of_answer (e := station.endpoint) hrequest hname hbytes hasked 0
  have hkept := (responders_of_walk hwalk).trans hpeers
  constructor
  · rw [← hread]
    exact congrArg Prod.fst hperform
  · have hended : station.after operation w = u := congrArg Prod.snd hperform
    rw [hended]
    exact hafter.congr (congrArg (Table.find? directory) hkept)

end Request

/-! ## Runs -/

/-- Whether a map answers requests, one after the other, as `log` says, and is `m'` in the end. -/
def NameMap.Run (capacity : Option Nat) (m : NameMap) :
    List (NameRequest × Answer) → NameMap → Prop
  | [], m' => m' = m
  | (request, answer) :: log, m' =>
      answer = .attempt (request.answer capacity m) ∧
        NameMap.Run capacity (request.apply capacity m) log m'

/-- A name that nobody asks about keeps its entry. -/
theorem NameMap.Run.lookup_eq {capacity : Option Nat} {log : List (NameRequest × Answer)}
    {m m' : NameMap} (h : m.Run capacity log m') {other : String}
    (hother : ∀ entry ∈ log, other ≠ entry.1.name) :
    m'.lookup other = m.lookup other := by
  induction log generalizing m with
  | nil => rw [show m' = m from h]
  | cons entry log ih =>
      have hrest := ih h.2 fun later hlater => hother later (List.mem_cons_of_mem entry hlater)
      exact hrest.trans (NameRequest.lookup_apply_of_ne (hother entry List.mem_cons_self) _ _)

namespace System

/-- Whether a run leads from a system to another in which processes made requests of the directory
at an address and were answered as `log` says.  Each request was taken, and no other step changed
the directory. -/
inductive Inquires (raw : KernelCall → Prop) (directory : Pid) :
    System → List (NameRequest × Answer) → System → Prop
  | done (s : System) : Inquires raw directory s [] s
  | ask {id : StationId} {station : Station} {operation : Operation} {request : NameRequest}
      {answer : Answer} {s t u : System} {log : List (NameRequest × Answer)}
      (hstation : s.station? id = some station)
      (hrequest : operation.nameRequest? station.pid = some request)
      (hname : isServiceName request.name = true)
      (haddress : station.config.directoryPid = directory)
      (hadmits : station.Admits directory s.world)
      (hperform : s.perform id operation = some (answer, t))
      (hrest : Inquires raw directory t log u) :
      Inquires raw directory s ((request, answer) :: log) u
  | aside {s t u : System} {log : List (NameRequest × Answer)} (hstep : Step raw s t)
      (hpeer : t.world.responders.find? directory = s.world.responders.find? directory)
      (hrest : Inquires raw directory t log u) :
      Inquires raw directory s log u

variable {raw : KernelCall → Prop} {directory : Pid} {capacity : Option Nat}
variable {log : List (NameRequest × Answer)} {s t : System} {history : List System}

theorem Inquires.refines (h : Inquires raw directory s log t) (hordered : s.Ordered) {m : NameMap}
    (hserves : s.world.Serves directory capacity m) :
    ∃ m', m.Run capacity log m' ∧ t.world.Serves directory capacity m' := by
  -- The order of the ledgers goes along, because a call finds its record only in a sound one.
  induction h generalizing m with
  | done => exact ⟨m, rfl, hserves⟩
  | ask hstation hrequest hname haddress hadmits hperform _ ih =>
      have hstep : Step raw _ _ := .operate hperform
      have hlater := hstep.ordered hordered
      obtain ⟨found, hfound, hanswer, ht⟩ := perform_eq_some hperform
      obtain rfl := Option.some.inj (hfound.symm.trans hstation)
      obtain ⟨hmap, hafter⟩ :=
        Station.asks_map (hordered _ _ hstation) hserves hrequest hname haddress hadmits
      rw [ht] at hlater ih
      obtain ⟨m', hrun, hend⟩ := ih hlater hafter
      exact ⟨m', ⟨hanswer.trans hmap, hrun⟩, hend⟩
  | aside hstep hpeer _ ih => exact ih (hstep.ordered hordered) (hserves.congr hpeer)

/-- **Asking for names refines a map.**  In any run in which a directory answers, whatever the
processes ask of it is answered as a finite map with its capacity answers it, and the directory
always holds the same as the map.  A name that nobody asks about keeps its entry. -/
theorem directory_refines_map (hrun : Run raw history s) {m : NameMap}
    (hserves : s.world.Serves directory capacity m) (h : Inquires raw directory s log t) :
    ∃ m', m.Run capacity log m' ∧ t.world.Serves directory capacity m' ∧
      ∀ other, (∀ entry ∈ log, other ≠ entry.1.name) → m'.lookup other = m.lookup other := by
  obtain ⟨m', hmap, hend⟩ := h.refines hrun.ordered hserves
  exact ⟨m', hmap, hend, fun _ hother => hmap.lookup_eq hother⟩

/-- A directory with room for one name: a name of a quote, a backslash and a line end is found by
another process, which can enter no second one. -/
theorem directory_refines_map_with_escapes :
    let directory := WorldStep.respond 1 (.directory (NameServer.empty (some 1)))
    let s₀ := start.onWorld fun w => (w.perform directory).2
    let s := ((s₀.spawn 20 Config.standard).2.spawn 21 Config.standard).2
    let server := Station.start 20 Config.standard
    let client := Station.start 21 Config.standard
    let s₁ := s.operated 0 server (.registerSelf "\"\\\n")
    let s₂ := s₁.operated 1 client (.lookup "\"\\\n")
    let client₂ := client.resume (client.after (.lookup "\"\\\n") s₁.world)
    server.answer (.registerSelf "\"\\\n") s.world = .attempt (.ok .nothing) ∧
      client.answer (.lookup "\"\\\n") s₁.world = .attempt (.ok (.number 20)) ∧
      client₂.answer (.register "vfs" 30) s₂.world = .attempt (.error .resourceLimit) := by
  intro directory s₀ s server client s₁ s₂ client₂
  have hrun : Run (fun _ => False) [((s₀.spawn 20 Config.standard).2), s₀, start] s :=
    ((Run.start.step (.world directory start)).step (.spawn 20 Config.standard s₀)).step
      (.spawn 21 Config.standard _)
  have hserves : s.world.Serves 1 (some 1) ∅ :=
    ⟨NameServer.empty (some 1), rfl, rfl, NameServer.represents_empty _⟩
  have hserver : s.station? 0 = some server := rfl
  have hclient : s₁.station? 1 = some client := rfl
  have hclient₂ : s₂.station? 1 = some client₂ := rfl
  have hfirst : server.Admits 1 s.world := ⟨by decide, by decide, by decide⟩
  have hsecond : client.Admits 1 s₁.world := ⟨by decide, by decide +kernel, by decide +kernel⟩
  have hthird : client₂.Admits 1 s₂.world := ⟨by decide, by decide +kernel, by decide +kernel⟩
  have hinquires : Inquires (fun _ => False) 1 s
      [(.enter "\"\\\n" 20, server.answer (.registerSelf "\"\\\n") s.world),
        (.find "\"\\\n", client.answer (.lookup "\"\\\n") s₁.world),
        (.enter "vfs" 30, client₂.answer (.register "vfs" 30) s₂.world)]
      (s₂.operated 1 client₂ (.register "vfs" 30)) :=
    .ask hserver rfl (by decide) rfl hfirst (perform_of_station? hserver _)
      (.ask hclient rfl (by decide) rfl hsecond (perform_of_station? hclient _)
        (.ask hclient₂ rfl (by decide) rfl hthird (perform_of_station? hclient₂ _) (.done _)))
  obtain ⟨m', ⟨hentered, hfound, hrefused, -⟩, -⟩ := directory_refines_map hrun hserves hinquires
  exact ⟨hentered, hfound, hrefused⟩

end System

end Interprocess
