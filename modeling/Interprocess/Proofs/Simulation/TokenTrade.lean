import Interprocess.Proofs.Grant.Checks
import Interprocess.Proofs.Grant.Description
import Interprocess.Proofs.Simulation.Custody

/-!
# What an operation does with tokens

A token comes into a process when the authority hands it out or when it is taken off the virtual
port, and it leaves a process when it is given back or put on the port.  Every other operation
leaves the tokens of the world where they are.

**Deals.**  An operation that changes what is granted makes exactly one change, and the process is
answered a token that tells of it (`Deal`).

**Results.**
* `wallclock_after`, `mem_port_after`: no operation moves the wall clock, and only the token that a
  process passes on is new on the port.
* `mem_handed_of_not_isGrant`: a process is handed its own token, or one that was on the port.
* `deal_after`: all that an operation does with grants.
-/

namespace Interprocess

/-- The token that an operation is given. -/
def Operation.token? : Operation → Option Token
  | release token | renew token _ | validate token _ | portSend token => some token
  | _ => none

/-- The id that an operation gave back. -/
def Operation.givenBack? : Operation → Answer → Option Nat
  | release token, .tokenAfter (.ok ()) _ => some token.id
  | _, _ => none

/-- The token that an operation extended, and the seconds by which it did. -/
def Operation.extended? : Operation → Answer → Option (Token × Nat)
  | renew token seconds, .tokenAfter (.ok ()) _ => some (token, seconds)
  | _, _ => none

/-- The token that a process holds after an operation. -/
def Answer.handed? : Answer → Option Token
  | tokenAfter _ token => some token
  | answer => answer.token?

/-- An option holds a token as a value only if what it holds is one. -/
theorem Value.ofOption_ne_token {α : Type} {f : α → Value} {token : Token}
    (h : ∀ a, f a ≠ .token token) (o : Option α) :
    ofOption f o ≠ .token token := by
  cases o with
  | none => exact Value.noConfusion
  | some a => exact h a

namespace Answer

theorem handed?_value {v : Value} {token : Token} (h : (value v).handed? = some token) :
    v = .token token := by
  cases v with
  | token t => exact congrArg Value.token (Option.some.inj h)
  | _ => cases h

theorem handed?_ofAttempt {α : Type} {f : α → Value} {r : Except Error α} {token : Token}
    (h : (ofAttempt f r).handed? = some token) :
    ∃ a, r = .ok a ∧ f a = .token token := by
  cases r with
  | error error => cases h
  | ok a =>
      refine ⟨a, rfl, ?_⟩
      change (attempt (.ok (f a))).token? = some token at h
      generalize f a = v at h ⊢
      cases v with
      | token t => exact congrArg Value.token (Option.some.inj h)
      | _ => cases h

end Answer

/-! ## The authority, the port and the wall clock -/

namespace World

/-- What the authority keeps: what is granted, and the id of the next token. -/
def authority (w : World) : Table Pid (List Token) × Nat := (w.grants, w.nextToken)

/-- No process moves the wall clock. -/
theorem wallclock_onWorld (use : KernelUse) (pid : Pid) (oversleep : Nat) (w : World) :
    (use.onWorld pid oversleep w).wallclock = w.wallclock := by
  cases use with
  | sleep | log | portSend | portClear | powerOff => rfl
  | broadcast | receive | clear | protectChildren | acquire | release | renew | portReceive
  | cancelPowerOff =>
      simp only [KernelUse.onWorld, broadcast, receive, clearMailbox, protectChildren, acquire,
        release, renew, portReceive, cancelPowerOff]
      split <;> rfl

theorem authority_onWorld {use : KernelUse} (h : use.isGrant = false) (pid : Pid)
    (oversleep : Nat) (w : World) :
    (use.onWorld pid oversleep w).authority = w.authority := by
  cases use with
  | acquire | release | renew => cases h
  | sleep | log | portSend | portClear | powerOff => rfl
  | broadcast | receive | clear | protectChildren | portReceive | cancelPowerOff =>
      simp only [KernelUse.onWorld, broadcast, receive, clearMailbox, protectChildren, portReceive,
        cancelPowerOff]
      split <;> rfl

/-- Only a token that is put on the port is new there. -/
theorem mem_port_onWorld {use : KernelUse} {pid : Pid} {oversleep : Nat} {w : World}
    {token : Token} (h : token ∈ (use.onWorld pid oversleep w).port) :
    token ∈ w.port ∨ use = .portSend token := by
  cases use with
  | sleep | log | powerOff => exact Or.inl h
  | portSend sent =>
      rcases List.mem_append.1 h with hold | hnew
      · exact Or.inl hold
      · rw [List.mem_singleton.1 hnew]
        exact Or.inr rfl
  | portClear => exact Or.inl (List.mem_filter.1 h).1
  | portReceive =>
      simp only [KernelUse.onWorld, portReceive] at h
      split at h
      · exact Or.inl h
      · next first rest hport =>
          rw [hport]
          exact Or.inl (List.mem_cons_of_mem first h)
  | broadcast | receive | clear | protectChildren | acquire | release | renew
  | cancelPowerOff =>
      simp only [KernelUse.onWorld, broadcast, receive, clearMailbox, protectChildren, acquire,
        release, renew, cancelPowerOff] at h
      split at h <;> exact Or.inl h

theorem mem_port_of_portReceive {w : World} {token : Token}
    (h : w.portReceive.1 = some token) :
    token ∈ w.port := by
  unfold portReceive at h
  split at h
  · cases h
  · next first rest hport =>
      rw [hport, ← Option.some.inj h]
      exact List.mem_cons_self

end World

namespace Station

variable {station : Station} {operation : Operation} {first : Sequence}
variable {s t : Session KernelState}

/-- A property of grants, port and wall clock is kept if the uses of the kernel keep it. -/
theorem keeps_custody {Q : World → Prop}
    (hsame : ∀ w w', w'.authority = w.authority → w'.port = w.port →
      w'.wallclock = w.wallclock → Q w → Q w')
    (huse : ∀ use w, operation.uses station.pid use → Q w →
      Q (use.onWorld station.pid station.adjustments.oversleep w))
    (h : station.endpoint.Course operation first s t) (hs : Q s.kernel.world) :
    Q t.kernel.world := by
  refine keeps_world ?_ ?_ huse h hs
  · intro envelope wantsFeedback sequence w hw
    obtain ⟨_, _, _, hchanges⟩ :=
      World.send_changes station.pid envelope wantsFeedback sequence w
    rw [hchanges]
    exact hsame w _ rfl rfl rfl hw
  · intro sequence w hw
    obtain ⟨reports, hchanges⟩ := World.takeReports_changes station.pid sequence w
    rw [hchanges]
    exact hsame w _ rfl rfl rfl hw

/-- No operation moves the wall clock. -/
theorem wallclock_after (operation : Operation) (w : World) :
    (station.after operation w).kernel.world.wallclock = w.wallclock := by
  refine keeps_custody (Q := fun w' => w'.wallclock = w.wallclock) ?_ ?_
    (station.course_after operation w) rfl
  · exact fun _ _ _ _ hclock hw => hclock.trans hw
  · exact fun use w' _ hw => (World.wallclock_onWorld use _ _ w').trans hw

/-- A token that is on the port after an operation was there before, or the operation passed it
on. -/
theorem mem_port_after {token : Token} {w : World}
    (h : token ∈ (station.after operation w).kernel.world.port) :
    token ∈ w.port ∨ operation.token? = some token := by
  refine keeps_custody
    (Q := fun w' => ∀ token ∈ w'.port, token ∈ w.port ∨ operation.token? = some token) ?_ ?_
    (station.course_after operation w) (fun _ => Or.inl) token h
  · intro w₁ w₂ _ hport _ hw
    rwa [hport]
  · intro use w' huses hw token hmem
    rcases World.mem_port_onWorld hmem with hold | rfl
    · exact hw token hold
    · obtain rfl : operation = .portSend token := huses
      exact Or.inr rfl

theorem authority_of_course (h : station.endpoint.Course operation first s t)
    (hgrant : operation.isGrant = false) :
    t.kernel.world.authority = s.kernel.world.authority := by
  refine keeps_custody (Q := fun w => w.authority = s.kernel.world.authority) ?_ ?_ h rfl
  · exact fun _ _ hsame _ _ hw => hsame.trans hw
  · intro use w huses hw
    exact (World.authority_onWorld (isGrant_of_uses huses hgrant) _ _ w).trans hw

/-! ## What a process is handed -/

theorem mem_port_of_handed {w : World} {token : Token}
    (h : (station.answer .portReceive w).handed? = some token) :
    token ∈ w.port := by
  obtain ⟨found, hrun, hfound⟩ := Answer.handed?_ofAttempt h
  change ((station.endpoint.kernel.portReceive (station.session w).kernel).1.mapError
    Error.ofKernelFault) = .ok found at hrun
  cases found with
  | none => cases hfound
  | some t =>
      obtain rfl : t = token := by
        cases hfound
        rfl
      simp only [endpoint, Adjustments.kernel, Adjustments.guarded] at hrun
      split at hrun
      · cases hrun
      · exact World.mem_port_of_portReceive (Except.ok.inj hrun)

/-- The token that is handed to a process is the one it came with, or was on the port, unless the
operation changes what is granted. -/
theorem mem_handed_of_not_isGrant {w : World} {token : Token}
    (hgrant : operation.isGrant = false)
    (h : (station.answer operation w).handed? = some token) :
    token ∈ w.port := by
  -- Every other operation answers values of a kind of its own.
  have hvalue : ∀ {α : Type} {f : α → Value} {r : Except Error α},
      (∀ a, f a ≠ .token token) → (Answer.ofAttempt f r).handed? = some token → False :=
    fun hf hr => by
      obtain ⟨a, -, ha⟩ := Answer.handed?_ofAttempt hr
      exact hf a ha
  cases operation with
  | acquire | release | renew => cases hgrant
  | portReceive => exact mem_port_of_handed h
  | pid | config | state | shutdownLedger | validate | check | checkFor | handlerCount
  | remainingTime | isSaving => cases h
  | forget | record =>
      exact (Value.ofOption_ne_token (fun _ => Value.noConfusion) _ (Answer.handed?_value h)).elim
  | peek =>
      exact (hvalue (Value.ofOption_ne_token fun _ => Value.noConfusion) h).elim
  | send receiver kind payload wantsFeedback timeout =>
      cases timeout <;> exact (hvalue (fun _ => Value.noConfusion) h).elim
  | _ => exact (hvalue (fun _ => Value.noConfusion) h).elim

end Station

/-! ## Deals -/

namespace World

/-- Why the authority finds no token with this id among those of `pid`. -/
def unknown? (pid : Pid) (id : Nat) (w : World) : Option KernelFault :=
  if ∃ t ∈ w.grantsOf pid, t.id = id then none else some .notFound

theorem unknown?_eq_none_iff {pid : Pid} {id : Nat} {w : World} :
    w.unknown? pid id = none ↔ ∃ t ∈ w.grantsOf pid, t.id = id := by
  simp [unknown?]

/-- The tokens with the id are dropped, or there is none. -/
theorem release_cases (pid : Pid) (token : Token) (w : World) :
    w.unknown? pid token.id = some .notFound ∧ w.release pid token = (.error .notFound, w) ∨
      w.unknown? pid token.id = none ∧ w.release pid token =
        (.ok (), w.setGrants pid ((w.grantsOf pid).filter fun t => t.id != token.id)) := by
  have hlength : ((w.grantsOf pid).filter fun t => t.id != token.id).length =
      (w.grantsOf pid).length ↔ ¬∃ t ∈ w.grantsOf pid, t.id = token.id := by
    rw [List.length_filter_eq_length_iff]
    simp only [bne_iff_ne, not_exists, not_and]
  unfold release unknown?
  by_cases hknown : ∃ t ∈ w.grantsOf pid, t.id = token.id
  · exact Or.inr ⟨if_pos hknown, if_neg fun h => hlength.1 h hknown⟩
  · exact Or.inl ⟨if_neg hknown, if_pos (hlength.2 hknown)⟩

/-- The first token with the id is extended, or there is none. -/
theorem renew_cases (pid : Pid) (token : Token) (seconds : Nat) (w : World) :
    w.unknown? pid token.id = some .notFound ∧
        w.renew pid token seconds = (.error .notFound, w) ∨
      w.unknown? pid token.id = none ∧
        ∃ before granted rest, w.grantsOf pid = before ++ granted :: rest ∧
          (∀ t ∈ before, t.id ≠ token.id) ∧ granted.id = token.id ∧
            w.renew pid token seconds =
              (.ok (timeAfter granted.validUntil seconds), w.setGrants pid
                (extendFirst token.id seconds (w.grantsOf pid))) := by
  unfold renew unknown?
  cases hfound : (w.grantsOf pid).find? fun t => t.id == token.id with
  | none =>
      have hnone := List.find?_eq_none.1 hfound
      refine Or.inl ⟨if_neg ?_, rfl⟩
      rintro ⟨t, ht, hid⟩
      exact hnone t ht (beq_iff_eq.2 hid)
  | some granted =>
      obtain ⟨hid, before, rest, hsplit, hbefore⟩ := List.find?_eq_some_iff_append.1 hfound
      refine Or.inr ⟨if_pos ⟨granted, List.mem_of_find?_eq_some hfound, beq_iff_eq.1 hid⟩, before,
        granted, rest, hsplit, fun t ht => ?_, beq_iff_eq.1 hid, rfl⟩
      simpa using hbefore t ht

end World

namespace Adjustments

/-- The authority takes a grant back, or there is a reason and nothing happens. -/
theorem release_cases (pid : Pid) (a : Adjustments) (token : Token) (k : KernelState) :
    let reason? := (a.refusal? .release).or (k.world.unknown? pid token.id)
    (∃ fault, reason? = some fault ∧ (a.kernel pid).release token k = (.error fault, k)) ∨
      reason? = .none ∧ (a.kernel pid).release token k =
        (.ok (), k.onWorld (World.setGrants pid
          ((k.world.grantsOf pid).filter fun t => t.id != token.id))) := by
  change (∃ fault, _ ∧ a.guarded .release (KernelState.fromWorld (World.release pid token)) k =
    _) ∨ _ ∧ a.guarded .release (KernelState.fromWorld (World.release pid token)) k = _
  rw [guarded]
  cases a.refusal? .release with
  | some fault => exact Or.inl ⟨fault, rfl, rfl⟩
  | none =>
      rw [Option.none_or, KernelState.fromWorld]
      rcases World.release_cases pid token k.world with
        ⟨hunknown, hrelease⟩ | ⟨hknown, hrelease⟩
      · rw [hrelease]
        exact Or.inl ⟨_, hunknown, rfl⟩
      · rw [hrelease]
        exact Or.inr ⟨hknown, rfl⟩

/-- The authority extends a grant, or there is a reason and nothing happens. -/
theorem renew_cases (pid : Pid) (a : Adjustments) (token : Token) (seconds : Nat)
    (k : KernelState) :
    let reason? := (a.refusal? .renew).or (k.world.unknown? pid token.id)
    (∃ fault, reason? = some fault ∧
        (a.kernel pid).renew token seconds k = (.error fault, k)) ∨
      reason? = .none ∧
        ∃ before granted rest, k.world.grantsOf pid = before ++ granted :: rest ∧
          (∀ t ∈ before, t.id ≠ token.id) ∧ granted.id = token.id ∧
            (a.kernel pid).renew token seconds k =
              (.ok (timeAfter granted.validUntil seconds), k.onWorld (World.setGrants pid
                (World.extendFirst token.id seconds (k.world.grantsOf pid)))) := by
  change (∃ fault, _ ∧ a.guarded .renew (KernelState.fromWorld (World.renew pid token seconds)) k =
    _) ∨ _ ∧ ∃ before granted rest, _ ∧ _ ∧ _ ∧
      a.guarded .renew (KernelState.fromWorld (World.renew pid token seconds)) k = _
  rw [guarded]
  cases a.refusal? .renew with
  | some fault => exact Or.inl ⟨fault, rfl, rfl⟩
  | none =>
      rw [Option.none_or, KernelState.fromWorld]
      rcases World.renew_cases pid token seconds k.world with
        ⟨hunknown, hrenew⟩ | ⟨hknown, before, granted, rest, hsplit, hbefore, hid, hrenew⟩
      · rw [hrenew]
        exact Or.inl ⟨_, hunknown, rfl⟩
      · rw [hrenew]
        exact Or.inr ⟨hknown, before, granted, rest, hsplit, hbefore, hid, rfl⟩

/-- The authority refuses, or grants a token under the next id. -/
theorem acquire_cases (pid : Pid) (a : Adjustments) (capabilities : UInt32) (text : String)
    (seconds : Nat) (k : KernelState) :
    (a.kernel pid).acquire capabilities text seconds k = (.none, k) ∨
      ∃ granted owner description, granted.id = k.world.nextToken ∧ granted.owner = pid ∧
        (a.kernel pid).acquire capabilities text seconds k =
          (some { granted with owner, description }, k.onWorld fun w =>
            { w with nextToken := w.nextToken + 1 }.setGrants pid
              (w.grantsOf pid ++ [granted])) := by
  have hkernel : (a.kernel pid).acquire capabilities text seconds k =
      a.acquire pid capabilities text seconds k := rfl
  rw [hkernel, acquire, KernelState.fromWorld, World.acquire]
  by_cases hdenies : k.world.deniesGrants = true
  · rw [if_pos hdenies]
    exact Or.inl rfl
  · rw [if_neg hdenies]
    let granted : Token :=
      { id := k.world.nextToken, capabilities, owner := pid,
        validUntil := timeAfter k.world.wallclock seconds, description := text }
    exact Or.inr ⟨granted, _, _, rfl, rfl, rfl⟩

end Adjustments

/-- What an operation of process `self` does with grants in a world `w`, when it answers an answer
and leaves another world. -/
inductive Deal (self : Pid) (w : World) : Operation → Answer → World → Prop
  /-- All grants stay as they are. -/
  | idle {operation : Operation} {answer : Answer} {after : World}
      (hauthority : after.authority = w.authority)
      (hhanded : ∀ token, answer.handed? = some token →
        token ∈ w.port ∨ operation.token? = some token)
      (hkept : operation.givenBack? answer = none) :
      Deal self w operation answer after
  /-- A new token is granted. -/
  | acquired {capabilities : UInt32} {text : String} {seconds : Nat} {answer : Answer}
      {after : World} {granted : Token} (hid : granted.id = w.nextToken)
      (howner : granted.owner = self)
      (hauthority : after.authority =
        (w.grants.insert self (w.grantsOf self ++ [granted]), w.nextToken + 1))
      (description : String)
      (hhanded : answer.handed? = some { granted with description }) :
      Deal self w (.acquire capabilities text seconds) answer after
  /-- A grant is given back. -/
  | released {token : Token} {after : World} (howner : token.owner = self)
      (hauthority : after.authority =
        (w.grants.insert self ((w.grantsOf self).filter fun t => t.id != token.id),
          w.nextToken)) :
      Deal self w (.release token) (.tokenAfter (.ok ()) Token.blank) after
  /-- A grant is extended, and the token with it. -/
  | renewed {token granted : Token} {seconds : Nat} {after : World}
      (hmay : token.MayUse self w.wallclock)
      (hgranted : granted ∈ w.grantsOf self) (hid : granted.id = token.id)
      (hauthority : after.authority =
        (w.grants.insert self (World.extendFirst token.id seconds (w.grantsOf self)),
          w.nextToken)) :
      Deal self w (.renew token seconds)
        (.tokenAfter (.ok ())
          { token with validUntil := timeAfter granted.validUntil seconds }) after

namespace Station

variable {station : Station}

/-- A failed operation on a token changes no grant. -/
theorem deal_of_error {self : Pid} {w : World} {operation : Operation} {token : Token}
    {error : Error} {after : World} (htoken : operation.token? = some token)
    (hauthority : after.authority = w.authority) :
    Deal self w operation (.tokenAfter (.error error) token) after := by
  refine .idle hauthority (fun handed h => ?_) ?_
  · exact Or.inr (htoken.trans h)
  · cases operation <;> rfl

/-- A deal is known by the run of the operation. -/
theorem deal_of_run {operation : Operation} {w : World} {answer : Answer}
    {t : Session KernelState}
    (hrun : (station.endpoint.perform operation).run (station.session w) = (answer, t))
    (h : Deal station.pid w operation answer t.kernel.world) :
    Deal station.pid w operation (station.answer operation w)
      (station.after operation w).kernel.world := by
  rw [Station.answer, after, hrun]
  exact h

theorem deal_acquire (capabilities : UInt32) (text : String) (seconds : Nat) (w : World) :
    Deal station.pid w (.acquire capabilities text seconds)
      (station.answer (.acquire capabilities text seconds) w)
      (station.after (.acquire capabilities text seconds) w).kernel.world := by
  let e := station.endpoint
  let s := station.session w
  obtain ⟨lines, hrun⟩ := e.run_acquire capabilities text seconds s
  have hlogged : ∀ k : KernelState, (e.kernel.logAll lines k).world.authority =
      k.world.authority := fun k =>
    Endpoint.keeps_logAll (Q := fun k' : KernelState => k'.world.authority = k.world.authority)
      (fun _ _ h => h) lines rfl
  have hperform : (e.perform (.acquire capabilities text seconds)).run s =
      (.value (Value.ofOption .token ((e.acquire capabilities text seconds).run s).1),
        ((e.acquire capabilities text seconds).run s).2) := rfl
  rw [hrun] at hperform
  rcases station.adjustments.acquire_cases station.pid capabilities
    (Text.cut maxDescriptionLength text) seconds s.kernel with
      hkernel | ⟨granted, owner, text', hid, howner, hkernel⟩
  · rw [show e.kernel.acquire _ _ _ _ = _ from hkernel] at hperform
    refine deal_of_run hperform (.idle (hlogged _) (fun token h => ?_) rfl)
    cases h
  · rw [show e.kernel.acquire _ _ _ _ = _ from hkernel] at hperform
    refine deal_of_run hperform (.acquired hid howner (hlogged _)
      (Text.cut maxDescriptionLength text') ?_)
    rw [howner]
    rfl

theorem deal_release (token : Token) (w : World) :
    Deal station.pid w (.release token) (station.answer (.release token) w)
      (station.after (.release token) w).kernel.world := by
  let e := station.endpoint
  let s := station.session w
  have hrun := e.run_perform_release token s
  by_cases howner : token.owner = e.pid
  · rw [Token.ownerError?_of_eq howner] at hrun
    rcases station.adjustments.release_cases station.pid token s.kernel with
      ⟨fault, -, hkernel⟩ | ⟨-, hkernel⟩
    · rw [show e.kernel.release token s.kernel = _ from hkernel] at hrun
      exact deal_of_run hrun (deal_of_error rfl rfl)
    · rw [show e.kernel.release token s.kernel = _ from hkernel] at hrun
      exact deal_of_run hrun (.released howner rfl)
  · rw [Token.ownerError?_of_ne howner] at hrun
    exact deal_of_run hrun (deal_of_error rfl rfl)

theorem deal_renew (token : Token) (seconds : Nat) (w : World) :
    Deal station.pid w (.renew token seconds) (station.answer (.renew token seconds) w)
      (station.after (.renew token seconds) w).kernel.world := by
  let e := station.endpoint
  let s := station.session w
  have hrun := e.run_perform_renew token seconds s
  cases herror : token.useError? e.pid (e.kernel.wallclock s.kernel) with
  | some error =>
      rw [herror] at hrun
      exact deal_of_run hrun (deal_of_error rfl rfl)
  | none =>
      rw [herror] at hrun
      rcases station.adjustments.renew_cases station.pid token seconds s.kernel with
        ⟨fault, -, hkernel⟩ | ⟨-, before, granted, rest, hsplit, -, hid, hkernel⟩
      · rw [show e.kernel.renew token seconds s.kernel = _ from hkernel] at hrun
        exact deal_of_run hrun (deal_of_error rfl rfl)
      · rw [show e.kernel.renew token seconds s.kernel = _ from hkernel] at hrun
        have hgranted : granted ∈ w.grantsOf station.pid := by
          rw [show w.grantsOf station.pid = _ from hsplit]
          exact List.mem_append_right before List.mem_cons_self
        exact deal_of_run hrun (.renewed (Token.useError?_eq_none_iff.1 herror) hgranted hid rfl)

/-- Every operation leaves the grants alone, or makes a deal. -/
theorem deal_after (operation : Operation) (w : World) :
    Deal station.pid w operation (station.answer operation w)
      (station.after operation w).kernel.world := by
  cases hgrant : operation.isGrant with
  | false =>
      refine .idle (authority_of_course (station.course_after operation w) hgrant)
        (fun token h => Or.inl (mem_handed_of_not_isGrant hgrant h)) ?_
      cases operation with
      | release => cases hgrant
      | _ => rfl
  | true =>
      cases operation with
      | acquire capabilities text seconds => exact deal_acquire capabilities text seconds w
      | release token => exact deal_release token w
      | renew token seconds => exact deal_renew token seconds w
      | _ => cases hgrant

end Station

end Interprocess
