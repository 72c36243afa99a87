import Interprocess.Proofs.Simulation.PortTrade
import Interprocess.Proofs.Simulation.PowerGate

/-!
# The virtual port

Tokens go over the virtual port in the order in which they were put there.  A withdrawal takes off
what the process *owns*, and not what it *sent*; that this is the same rests on the check of the
owner when a token is sent, through all that any processes do.

**Book.**  A `PortBook` numbers the sends, and follows each one to where its token went: it waits,
was claimed, or was withdrawn by its sender.  The book is kept from what the processes asked for
and were answered, without a look at the port.

**Input.**  Any run in which the processes use the library only, with any tokens.  A process is
known by its address.

**Results.**
* `Run.exists_turnRun`: every such run is told by the turns that the processes took.
* `Balanced.enter`: in the book, claims go by the order of the sends.
* `Agrees.trade`, `TurnRun.agrees`: one operation, and then a run, keep the book in agreement with
  the port.
* `port_is_in_order`: what goes over the port, and who can use it.
-/

namespace Interprocess

/-! ## The book -/

/-- A token that was put on the port. -/
structure Posting where
  /-- How many tokens were put there before. -/
  number : Nat
  /-- Who put it there. -/
  sender : Pid
  /-- The token. -/
  token : Token
  /-- When that was, on the wall clock. -/
  time : Nat
deriving DecidableEq

namespace PortEvent

/-- The token that an event puts on the port, with the sender and the time. -/
def sent? : PortEvent → Option (Pid × Token × Nat)
  | sent sender token now => some (sender, token, now)
  | _ => none

/-- The token that an event takes off the port for a process. -/
def claimed? : PortEvent → Option Token
  | claimed token => some token
  | _ => none

end PortEvent

/-- Where the tokens went that were put on the port, each list in order. -/
structure PortBook where
  /-- All of them. -/
  sent : List Posting
  /-- Those that were claimed. -/
  claimed : List Posting
  /-- Those that their senders took back. -/
  withdrawn : List Posting
  /-- Those that wait. -/
  waiting : List Posting

namespace PortBook

/-- The book of a new port. -/
def blank : PortBook := { sent := [], claimed := [], withdrawn := [], waiting := [] }

/-- Enter an event: a claim is for the token that waits longest, and a withdrawal for those that the
process itself sent. -/
def enter (b : PortBook) : PortEvent → PortBook
  | .sent sender token time =>
      let posting : Posting := { number := b.sent.length, sender, token, time }
      { b with sent := b.sent ++ [posting], waiting := b.waiting ++ [posting] }
  | .claimed _ =>
      { b with claimed := b.claimed ++ b.waiting.take 1, waiting := b.waiting.drop 1 }
  | .cleared pid =>
      { b with
        withdrawn := b.withdrawn ++ b.waiting.filter fun p => p.sender == pid
        waiting := b.waiting.filter fun p => p.sender != pid }

/-- The book that is kept of events. -/
def ofEvents (events : List PortEvent) : PortBook := events.foldl enter blank

/-- Whether each send is numbered once, and the claims go by the order of the sends, without those
that were withdrawn. -/
structure Balanced (b : PortBook) : Prop where
  numbers : b.sent.map Posting.number = List.range b.sent.length
  withdrawn : ∀ p ∈ b.withdrawn, p ∈ b.sent
  order : b.claimed ++ b.waiting = b.sent.filter fun p => p ∉ b.withdrawn

variable {b : PortBook}

theorem balanced_blank : Balanced blank := ⟨rfl, by simp [blank], rfl⟩

theorem Balanced.nodup (h : b.Balanced) : b.sent.Nodup :=
  List.Nodup.of_map Posting.number (by rw [h.numbers]; exact List.nodup_range)

/-- A token that was claimed or waits was put on the port. -/
theorem Balanced.mem_sent (h : b.Balanced) {p : Posting} (hp : p ∈ b.claimed ++ b.waiting) :
    p ∈ b.sent := by
  rw [h.order] at hp
  exact (List.mem_filter.1 hp).1

theorem Balanced.enter_sent (h : b.Balanced) (sender : Pid) (token : Token) (time : Nat) :
    (b.enter (.sent sender token time)).Balanced := by
  let posting : Posting := { number := b.sent.length, sender, token, time }
  have hfresh : posting ∉ b.withdrawn := by
    intro hmem
    have hnumber : posting.number ∈ b.sent.map Posting.number :=
      List.mem_map_of_mem (h.withdrawn posting hmem)
    rw [h.numbers] at hnumber
    exact Nat.lt_irrefl _ (List.mem_range.1 hnumber)
  constructor
  case numbers =>
    simp only [enter, List.map_append, h.numbers, List.map_cons, List.map_nil, List.length_append,
      List.length_cons, List.length_nil, List.range_succ]
  case withdrawn => exact fun p hp => List.mem_append_left _ (h.withdrawn p hp)
  case order =>
    have hkept : [posting].filter (fun p => decide (p ∉ b.withdrawn)) = [posting] := by
      simp [hfresh]
    simp only [enter]
    rw [← List.append_assoc, h.order, List.filter_append]
    exact congrArg (_ ++ ·) hkept.symm

theorem Balanced.enter_claimed (h : b.Balanced) (token : Token) :
    (b.enter (.claimed token)).Balanced := by
  refine ⟨h.numbers, h.withdrawn, ?_⟩
  simp only [enter]
  rw [List.append_assoc, List.take_append_drop]
  exact h.order

theorem Balanced.enter_cleared (h : b.Balanced) (pid : Pid) :
    (b.enter (.cleared pid)).Balanced := by
  let gone := b.waiting.filter fun p => p.sender == pid
  have hnodup : (b.claimed ++ b.waiting).Nodup := by
    rw [h.order]
    exact h.nodup.filter _
  have hclaimed : b.claimed.filter (fun p => decide (p ∉ gone)) = b.claimed := by
    refine List.filter_eq_self.2 fun p hp => ?_
    have hother : p ∉ b.waiting := fun hwaits => List.disjoint_of_nodup_append hnodup hp hwaits
    simp [gone, hother]
  have hwaiting : b.waiting.filter (fun p => decide (p ∉ gone)) =
      b.waiting.filter fun p => p.sender != pid := by
    refine List.filter_congr fun p hp => ?_
    simp [gone, hp, bne, beq_eq_decide]
  constructor
  case numbers => exact h.numbers
  case withdrawn =>
    intro p hp
    rcases List.mem_append.1 hp with hold | hgone
    · exact h.withdrawn p hold
    · exact h.mem_sent (List.mem_append_right _ (List.mem_filter.1 hgone).1)
  case order =>
    have hsplit : b.sent.filter (fun p => decide (p ∉ b.withdrawn ++ gone)) =
        (b.sent.filter fun p => decide (p ∉ b.withdrawn)).filter fun p => decide (p ∉ gone) := by
      rw [List.filter_filter]
      refine List.filter_congr fun p _ => ?_
      simp [Bool.and_comm]
    change b.claimed ++ (b.waiting.filter fun p => p.sender != pid) =
      b.sent.filter fun p => decide (p ∉ b.withdrawn ++ gone)
    rw [hsplit, ← h.order, List.filter_append, hclaimed, hwaiting]

/-- Every event keeps the book balanced. -/
theorem Balanced.enter (h : b.Balanced) (event : PortEvent) : (b.enter event).Balanced := by
  cases event with
  | sent sender token time => exact h.enter_sent sender token time
  | claimed token => exact h.enter_claimed token
  | cleared pid => exact h.enter_cleared pid

/-! ## The book and the port -/

/-- Whether a book of these events agrees with what is on the port, and with what was sent and
claimed.  Every token was its sender's own, and good when it was sent. -/
structure Agrees (b : PortBook) (events : List PortEvent) (port : List Token) : Prop where
  balanced : b.Balanced
  sends : b.sent.map (fun p => (p.sender, p.token, p.time)) = events.filterMap PortEvent.sent?
  claims : b.claimed.map Posting.token = events.filterMap PortEvent.claimed?
  port : port = b.waiting.map Posting.token
  good : ∀ p ∈ b.sent, p.token.MayUse p.sender p.time

variable {events new : List PortEvent} {port after : List Token}

theorem agrees_blank : Agrees blank [] [] := ⟨balanced_blank, rfl, rfl, rfl, by simp [blank]⟩

/-- What waits is owned by its sender. -/
theorem Agrees.owner (h : b.Agrees events port) {p : Posting} (hp : p ∈ b.waiting) :
    p.token.owner = p.sender :=
  (h.good p (h.balanced.mem_sent (List.mem_append_right _ hp))).1

/-- To take off the port what a process owns is to take off what it sent. -/
theorem Agrees.filter_owner (h : b.Agrees events port) (pid : Pid) :
    (port.filter fun token => token.owner != pid) =
      (b.waiting.filter fun p => p.sender != pid).map Posting.token := by
  rw [h.port, List.filter_map]
  refine congrArg (List.map Posting.token) (List.filter_congr fun p hp => ?_)
  rw [Function.comp_apply, h.owner hp]

/-- What an operation does on the port keeps the book in agreement with it. -/
theorem Agrees.trade {self : Pid} {now : Nat} (h : b.Agrees events port)
    (htrades : PortEvent.Trades self now new port after) :
    (new.foldl enter b).Agrees (events ++ new) after := by
  cases htrades with
  | idle =>
      rw [List.append_nil]
      exact h
  | sent hmay =>
      rw [List.foldl_cons, List.foldl_nil]
      refine ⟨h.balanced.enter _, ?_, ?_, ?_, ?_⟩
      · simp [enter, h.sends, PortEvent.sent?]
      · simp [enter, h.claims, PortEvent.claimed?]
      · simp [enter, h.port]
      · intro p hp
        rcases List.mem_append.1 hp with hold | hnew
        · exact h.good p hold
        · rw [List.mem_singleton.1 hnew]
          exact hmay
  | claimed token rest =>
      obtain ⟨first, others, hwaiting, rfl, rfl⟩ := List.map_eq_cons_iff.1 h.port.symm
      rw [List.foldl_cons, List.foldl_nil]
      refine ⟨h.balanced.enter _, ?_, ?_, ?_, h.good⟩
      · simp [enter, h.sends, PortEvent.sent?]
      · simp [enter, hwaiting, h.claims, PortEvent.claimed?]
      · simp [enter, hwaiting]
  | cleared =>
      rw [List.foldl_cons, List.foldl_nil]
      refine ⟨h.balanced.enter _, ?_, ?_, h.filter_owner self, h.good⟩
      · simp [enter, h.sends, PortEvent.sent?]
      · simp [enter, h.claims, PortEvent.claimed?]

end PortBook

/-! ## Runs, told by turns -/

/-- An operation of a process, in the world that it met. -/
structure Turn where
  /-- The process. -/
  station : Station
  /-- The operation. -/
  operation : Operation
  /-- The world. -/
  world : World

/-- What the operation of a turn did on the virtual port. -/
def Turn.portEvents (turn : Turn) : List PortEvent :=
  turn.station.portEvents turn.world turn.operation

/-- The book that is kept of turns. -/
def PortBook.ofTurns (turns : List Turn) : PortBook :=
  ofEvents (turns.flatMap Turn.portEvents)

theorem PortBook.ofTurns_append (turns : List Turn) (turn : Turn) :
    ofTurns (turns ++ [turn]) = turn.portEvents.foldl enter (ofTurns turns) := by
  simp [ofTurns, ofEvents]

namespace System

/-- Whether a system comes to be in a run without calls past the library, in which the processes
took these turns. -/
inductive TurnRun : List Turn → System → Prop
  | start : TurnRun [] start
  | world {turns : List Turn} {s : System} (h : TurnRun turns s) (step : WorldStep) :
      TurnRun turns (s.onWorld fun w => (w.perform step).2)
  | spawn {turns : List Turn} {s : System} (h : TurnRun turns s) (pid : Pid) (config : Config) :
      TurnRun turns (s.spawn pid config).2
  | adjust {turns : List Turn} {s t : System} (h : TurnRun turns s) {id : StationId}
      {changes : List Adjustment} (hadjust : s.adjust id changes = some t) : TurnRun turns t
  | operate {turns : List Turn} {s : System} (h : TurnRun turns s) {id : StationId}
      {station : Station} (hstation : s.station? id = some station) (operation : Operation) :
      TurnRun (turns ++ [{ station, operation, world := s.world }])
        (s.operated id station operation)

variable {turns : List Turn} {s : System} {history : List System}

/-- Every run without calls past the library is told by turns. -/
theorem Run.exists_turnRun (h : Run LibraryOnly history s) : ∃ turns, TurnRun turns s := by
  induction h with
  | start => exact ⟨[], .start⟩
  | step _ hstep ih =>
      obtain ⟨turns, hrun⟩ := ih
      cases hstep with
      | world step => exact ⟨turns, hrun.world step⟩
      | spawn pid config => exact ⟨turns, hrun.spawn pid config⟩
      | adjust h => exact ⟨turns, hrun.adjust h⟩
      | operate h =>
          obtain ⟨station, hstation, -, rfl⟩ := perform_eq_some h
          exact ⟨_, hrun.operate hstation _⟩
      | callKernel hraw => exact hraw.elim

/-- The book of a run agrees with the port. -/
theorem TurnRun.agrees (h : TurnRun turns s) :
    (PortBook.ofTurns turns).Agrees (turns.flatMap Turn.portEvents) s.world.port := by
  induction h with
  | start => exact PortBook.agrees_blank
  | world _ step ih => cases step <;> exact ih
  | spawn _ pid config ih =>
      obtain ⟨line, hspawn⟩ := spawn_eq pid config _
      rw [hspawn]
      exact ih
  | adjust _ hadjust ih =>
      obtain ⟨station, adjustments, -, rfl⟩ := adjust_eq_some hadjust
      exact ih
  | @operate turns s _ id station _ operation ih =>
      rw [PortBook.ofTurns_append, List.flatMap_append, List.flatMap_singleton]
      exact ih.trade (station.trades_after operation s.world)

/-! ## What processes find -/

/-- What a process finds at a virtual port with this book. -/
structure ServesPort (book : PortBook) (id : StationId) (station : Station) (s : System) :
    Prop where
  /-- An operation that is refused leaves the port as it is. -/
  refused : ∀ operation error t, s.perform id operation = some (.attempt (.error error), t) →
    t.world.port = s.world.port
  /-- A claim takes the token that waits longest. -/
  claim : ∀ value t, s.perform id .portReceive = some (.attempt (.ok value), t) →
    value = Value.ofOption .token (book.waiting.head?.map Posting.token) ∧
      t.world.port = book.waiting.tail.map Posting.token
  /-- A withdrawal takes off what the process itself sent, and keeps the rest in order. -/
  clear : ∀ value t, s.perform id .portClear = some (.attempt (.ok value), t) →
    t.world.port =
      (book.waiting.filter fun p => p.sender != station.pid).map Posting.token
  /-- The token of another process is of no use. -/
  others : ∀ p ∈ book.claimed, station.pid ≠ p.sender →
    (∀ required,
      s.perform id (.validate p.token required) = some (.value (.flag false), s)) ∧
    s.perform id (.release p.token) = some (.tokenAfter (.error .notOwner) p.token, s) ∧
    (∀ seconds, s.perform id (.renew p.token seconds) =
      some (.tokenAfter (.error .notOwner) p.token, s)) ∧
    s.perform id (.portSend p.token) = some (.attempt (.error .notOwner), s)

theorem servesPort_of_agrees {book : PortBook} {events : List PortEvent} {id : StationId}
    {station : Station} (h : book.Agrees events s.world.port)
    (hstation : s.station? id = some station) :
    s.ServesPort book id station := by
  have hperform : ∀ {operation answer t}, s.perform id operation = some (answer, t) →
      station.answer operation s.world = answer ∧
        t = s.operated id station operation := by
    intro operation answer t hrun
    rw [perform_of_station? hstation] at hrun
    cases hrun
    exact ⟨rfl, rfl⟩
  constructor
  case refused =>
    intro operation error t hrun
    obtain ⟨hanswer, rfl⟩ := hperform hrun
    exact Station.port_after_of_error hanswer
  case claim =>
    intro value t hrun
    obtain ⟨hanswer, rfl⟩ := hperform hrun
    rcases station.portReceive_cases s.world with ⟨⟨error, herror⟩, -⟩ | ⟨htaken, hport⟩
    · rw [herror] at hanswer
      cases hanswer
    · rw [htaken, h.port, List.head?_map] at hanswer
      cases hanswer
      exact ⟨rfl, hport.trans (by rw [h.port, List.map_tail])⟩
  case clear =>
    intro value t hrun
    obtain ⟨hanswer, rfl⟩ := hperform hrun
    rcases station.portClear_cases s.world with ⟨⟨error, herror⟩, -⟩ | ⟨-, hport⟩
    · rw [herror] at hanswer
      cases hanswer
    · exact hport.trans (h.filter_owner station.pid)
  case others =>
    intro p hp hother
    have howner : p.token.owner ≠ station.endpoint.pid := by
      rw [(h.good p (h.balanced.mem_sent (List.mem_append_left _ hp))).1]
      exact hother.symm
    exact ⟨fun required => perform_of_run hstation (Endpoint.run_validate_of_ne howner required),
      perform_of_run hstation (Endpoint.run_release_of_ne howner),
      fun seconds => perform_of_run hstation (Endpoint.run_renew_of_ne howner seconds),
      perform_of_run hstation (Endpoint.run_portSend_of_ne howner)⟩

/-- **The virtual port is first-in first-out, and each token on it is its sender's own.**  Every run
without calls past the library is told by turns, and the book of these agrees with the port: every
token was good when it was sent, and the claims are the sends in order, each one once, without those
that were withdrawn.  Whatever a process does next at the port goes by the book, and it can do
nothing with a token that another process sent. -/
theorem port_is_in_order :
    (∀ history s, Run LibraryOnly history s → ∃ turns, TurnRun turns s) ∧
      ∀ turns s, TurnRun turns s →
        (PortBook.ofTurns turns).Agrees (turns.flatMap Turn.portEvents) s.world.port ∧
          ∀ id station, s.station? id = some station →
            s.ServesPort (PortBook.ofTurns turns) id station :=
  ⟨fun _ _ h => h.exists_turnRun,
    fun _ _ h => ⟨h.agrees, fun _ _ hstation => servesPort_of_agrees h.agrees hstation⟩⟩

/-- A process puts its token on the port twice.  Another one withdraws nothing and claims once, and
then the first one withdraws the second copy. -/
theorem port_is_in_order_with_copies :
    let token : Token :=
      { id := 5, capabilities := 1, owner := 7, validUntil := 2000000000, description := "" }
    let sender := Station.start 7 Config.standard
    let receiver := Station.start 8 Config.standard
    let begun := ((start.spawn 7 Config.standard).2.spawn 8 Config.standard).2
    let sent := begun.operated 0 sender (.portSend token)
    let sender' := sender.resume (sender.after (.portSend token) begun.world)
    let sentAgain := sent.operated 0 sender' (.portSend token)
    let kept := sentAgain.operated 1 receiver .portClear
    let receiver' := receiver.resume (receiver.after .portClear sentAgain.world)
    let claimed := kept.operated 1 receiver' .portReceive
    let sender'' := sender'.resume (sender'.after (.portSend token) sent.world)
    let cleared := claimed.operated 0 sender'' .portClear
    ∃ turns, TurnRun turns cleared ∧
      (PortBook.ofTurns turns).claimed.map Posting.number = [0] ∧
      (PortBook.ofTurns turns).withdrawn.map Posting.number = [1] ∧
      (turns.flatMap Turn.portEvents).filterMap PortEvent.claimed? = [token] ∧
      ∀ required, cleared.perform 1 (.validate token required) =
        some (.value (.flag false), cleared) := by
  intro token sender receiver begun sent sender' sentAgain kept receiver' claimed sender'' cleared
  have hbegun : TurnRun _ begun :=
    (TurnRun.start.spawn 7 Config.standard).spawn 8 Config.standard
  have hsent : TurnRun _ sent :=
    hbegun.operate (show begun.station? 0 = some sender from rfl) _
  have hsentAgain : TurnRun _ sentAgain :=
    hsent.operate (show sent.station? 0 = some sender' from rfl) _
  have hkept : TurnRun _ kept :=
    hsentAgain.operate (show sentAgain.station? 1 = some receiver from rfl) _
  have hclaimed : TurnRun _ claimed :=
    hkept.operate (show kept.station? 1 = some receiver' from rfl) _
  have hcleared : TurnRun _ cleared :=
    hclaimed.operate (show claimed.station? 0 = some sender'' from rfl) _
  obtain ⟨hagrees, hserves⟩ := port_is_in_order.2 _ _ hcleared
  have hother := (hserves 1 _ rfl).others
    { number := 0, sender := 7, token, time := 1737504000 } (by decide +kernel) (by decide)
  refine ⟨_, hcleared, by decide +kernel, by decide +kernel, ?_, hother.1⟩
  rw [← hagrees.claims]
  decide +kernel

end System

end Interprocess
