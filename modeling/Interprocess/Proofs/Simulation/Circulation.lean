import Interprocess.Proofs.Grant.Rights
import Interprocess.Proofs.Simulation.TokenTrade

/-!
# The circulation of tokens

A token is an ordinary value: it may be copied, and copies may be extended, given back and passed
on one by one, in any order.  The authority keeps its own record of each grant.  This module says
how far the copies and the record may drift apart.

**Markets.**  A `Market` is a system with two lists that grow as it runs: the tokens that its
processes have come by, and the ids that they gave back.  A process may use any token that is in
circulation, so copying is free; it may not make one up.

**Input.**  Any run of a market.  Several processes may have the same address.  What is said about
time is said of a run in which no time starts over: the wall clock does not go back, and no token is
extended beyond the end of the clocks.

**Results.**
* `World.Tidy`: the authority keeps each grant for its owner, under an id of its own.
* `Sound.start`, `Sound.step`: what holds between the tokens in circulation, the port and the
  record of the authority.
* `Frozen.step`: a grant that has ended is not extended any more.
* `tokens_agree`: tokens and grants agree, and what is over stays over.
-/

namespace Interprocess

/-! ## Extending grants -/

namespace Token

/-- The token with more time, if it has this id. -/
def extendFor (id seconds : Nat) (t : Token) : Token :=
  if t.id = id then { t with validUntil := timeAfter t.validUntil seconds } else t

/-- Whether a grant is as good as a token, as far as its time is known if `timely`. -/
def Backs (timely : Prop) (grant token : Token) : Prop :=
  grant.id = token.id ∧ grant.capabilities = token.capabilities ∧
    (timely → token.validUntil ≤ grant.validUntil)

variable {id seconds : Nat} {t token : Token} {timely : Prop}

@[simp] theorem id_extendFor : (t.extendFor id seconds).id = t.id := by
  unfold extendFor
  split <;> rfl

@[simp] theorem owner_extendFor : (t.extendFor id seconds).owner = t.owner := by
  unfold extendFor
  split <;> rfl

theorem Backs.extendFor (h : Backs timely t token)
    (hends : timely → t.id = id → t.validUntil + seconds < clockPeriod) :
    Backs timely (t.extendFor id seconds) token := by
  obtain ⟨hid, hcapabilities, htime⟩ := h
  refine ⟨id_extendFor.trans hid, ?_, ?_⟩
  · unfold Token.extendFor
    split <;> exact hcapabilities
  · unfold Token.extendFor
    split
    · next hsame =>
        intro htimely
        simp only [timeAfter_of_lt (hends htimely hsame)]
        exact Nat.le_add_right_of_le (htime htimely)
    · exact htime

end Token

namespace World

/-- Where no id occurs twice, every grant with the id is extended. -/
theorem extendFirst_eq_map {id seconds : Nat} {tokens : List Token}
    (h : (tokens.map Token.id).Nodup) :
    extendFirst id seconds tokens = tokens.map (Token.extendFor id seconds) := by
  induction tokens with
  | nil => rfl
  | cons first rest ih =>
      obtain ⟨hfirst, hrest⟩ := List.nodup_cons.1 h
      unfold extendFirst
      split
      · next hid =>
          have hsame : rest.map (Token.extendFor id seconds) = rest := by
            refine (List.map_congr_left fun t ht => ?_).trans (List.map_id rest)
            rw [Token.extendFor, if_neg]
            · rfl
            intro heq
            exact hfirst (hid.trans heq.symm ▸ List.mem_map_of_mem ht)
          rw [List.map_cons, hsame, Token.extendFor, if_pos hid]
      · next hid => rw [List.map_cons, ih hrest, Token.extendFor, if_neg hid]

/-- What is granted after the authority changed its record of one process. -/
theorem grantsOf_of_authority {w after : World} {self : Pid} {tokens : List Token} {next : Nat}
    (h : after.authority = (w.grants.insert self tokens, next)) (pid : Pid) :
    after.grantsOf pid = if pid = self then tokens else w.grantsOf pid := by
  have hgrants : after.grants = w.grants.insert self tokens := congrArg Prod.fst h
  rw [grantsOf, hgrants]
  by_cases hpid : pid = self
  · rw [if_pos hpid, hpid, Table.find?_insert_same]
    rfl
  · rw [if_neg hpid, Table.find?_insert_of_ne hpid, grantsOf]

/-! ## The record of the authority -/

/-- Whether the authority keeps each grant for its owner, under an id of its own. -/
structure Tidy (w : World) : Prop where
  /-- The empty id is never granted. -/
  next : 0 < w.nextToken
  /-- A grant is kept for its owner, under an id that was granted. -/
  kept : ∀ pid, ∀ grant ∈ w.grantsOf pid,
    grant.owner = pid ∧ grant.id ≠ 0 ∧ grant.id < w.nextToken
  /-- An id is granted to a process once. -/
  once : ∀ pid, ((w.grantsOf pid).map Token.id).Nodup
  /-- An id is granted to one process. -/
  apart : ∀ {pid other grant grant'}, grant ∈ w.grantsOf pid → grant' ∈ w.grantsOf other →
    grant.id = grant'.id → pid = other

variable {w after : World} {self : Pid}

/-- The record stays tidy when grants are dropped or get more time. -/
theorem Tidy.of_sublist (h : w.Tidy) (hnext : after.nextToken = w.nextToken)
    (hgrants : ∀ pid, ((after.grantsOf pid).map fun t => (t.id, t.owner)).Sublist
      ((w.grantsOf pid).map fun t => (t.id, t.owner))) :
    after.Tidy := by
  have hfrom : ∀ {pid grant}, grant ∈ after.grantsOf pid →
      ∃ old ∈ w.grantsOf pid, old.id = grant.id ∧ old.owner = grant.owner := by
    intro pid grant hgrant
    obtain ⟨old, hold, heq⟩ :=
      List.mem_map.1 ((hgrants pid).subset (List.mem_map_of_mem hgrant))
    obtain ⟨hid, howner⟩ := Prod.mk.inj heq
    exact ⟨old, hold, hid, howner⟩
  exact {
    next := by rw [hnext]; exact h.next
    kept := by
      intro pid grant hgrant
      obtain ⟨old, hold, hid, howner⟩ := hfrom hgrant
      rw [← hid, ← howner, hnext]
      exact h.kept pid old hold
    once := by
      intro pid
      have hids := (hgrants pid).map Prod.fst
      rw [List.map_map, List.map_map] at hids
      exact (h.once pid).sublist hids
    apart := by
      intro pid other grant grant' hgrant hgrant' heq
      obtain ⟨old, hold, hid, -⟩ := hfrom hgrant
      obtain ⟨old', hold', hid', -⟩ := hfrom hgrant'
      exact h.apart hold hold' (hid.trans (heq.trans hid'.symm)) }

/-- A new grant gets an id that no other grant has. -/
theorem Tidy.of_acquired (h : w.Tidy) {granted : Token} (hid : granted.id = w.nextToken)
    (howner : granted.owner = self)
    (hauthority : after.authority =
      (w.grants.insert self (w.grantsOf self ++ [granted]), w.nextToken + 1)) :
    after.Tidy := by
  have hgrants : ∀ pid, after.grantsOf pid =
      if pid = self then w.grantsOf self ++ [granted] else w.grantsOf pid :=
    grantsOf_of_authority hauthority
  have hnext : after.nextToken = w.nextToken + 1 := congrArg Prod.snd hauthority
  have hfrom : ∀ {pid grant}, grant ∈ after.grantsOf pid →
      grant ∈ w.grantsOf pid ∨ pid = self ∧ grant = granted := by
    intro pid grant hgrant
    rw [hgrants] at hgrant
    split at hgrant
    · next hpid =>
        rcases List.mem_append.1 hgrant with hold | hnew
        · exact Or.inl (hpid ▸ hold)
        · exact Or.inr ⟨hpid, List.mem_singleton.1 hnew⟩
    · exact Or.inl hgrant
  have hfresh : ∀ {pid grant}, grant ∈ w.grantsOf pid → grant.id ≠ granted.id := by
    intro pid grant hgrant heq
    have hlt := (h.kept pid grant hgrant).2.2
    rw [heq, hid] at hlt
    exact Nat.lt_irrefl _ hlt
  exact {
    next := by rw [hnext]; exact Nat.succ_pos _
    kept := by
      intro pid grant hgrant
      rw [hnext]
      rcases hfrom hgrant with hold | ⟨rfl, rfl⟩
      · obtain ⟨hpid, hpos, hlt⟩ := h.kept pid grant hold
        exact ⟨hpid, hpos, Nat.lt_succ_of_lt hlt⟩
      · rw [hid]
        exact ⟨howner, Nat.ne_of_gt h.next, Nat.lt_succ_self _⟩
    once := by
      intro pid
      rw [hgrants]
      split
      · rw [List.map_append, List.nodup_append]
        refine ⟨h.once self, List.nodup_singleton _, ?_⟩
        intro id hmem other hnew heq
        obtain ⟨grant, hgrant, rfl⟩ := List.mem_map.1 hmem
        exact hfresh hgrant (heq.trans (List.mem_singleton.1 hnew))
      · exact h.once pid
    apart := by
      intro pid other grant grant' hgrant hgrant' heq
      rcases hfrom hgrant with hold | ⟨rfl, rfl⟩
      · rcases hfrom hgrant' with hold' | ⟨rfl, rfl⟩
        · exact h.apart hold hold' heq
        · exact absurd heq (hfresh hold)
      · rcases hfrom hgrant' with hold' | ⟨rfl, rfl⟩
        · exact absurd heq.symm (hfresh hold')
        · rfl }

/-- A process has one grant with an id. -/
theorem Tidy.eq_of_id_eq (h : w.Tidy) {pid : Pid} {grant other : Token}
    (hgrant : grant ∈ w.grantsOf pid) (hother : other ∈ w.grantsOf pid)
    (hid : grant.id = other.id) :
    grant = other :=
  List.inj_on_of_nodup_map (h.once pid) hgrant hother hid

end World

/-! ## Markets -/

/-- A system, the tokens that its processes have come by, and the ids that they gave back. -/
structure Market where
  /-- The system. -/
  system : System
  /-- The tokens in circulation; one that changes stays among them as it was. -/
  tokens : List Token
  /-- The ids that were given back. -/
  released : List Nat

namespace Market

/-- The market at its beginning. -/
def start : Market := { system := System.start, tokens := [], released := [] }

/-- What the authority keeps for a process. -/
def tracked (pid : Pid) (m : Market) : List Token := m.system.world.grantsOf pid

/-- Whether the token that an operation extended, if any, ends before the clocks start over. -/
def EndsInTime (operation : Operation) (answer : Answer) (m : Market) : Prop :=
  ∀ token seconds, operation.extended? answer = some (token, seconds) →
    ∀ grant ∈ m.tracked token.owner, grant.id = token.id → grant.validUntil + seconds < clockPeriod

/-- One step of a market.  In a `timely` one no time starts over: the wall clock does not go back,
and no token is extended beyond the end of the clocks. -/
inductive Step (timely : Prop) : Market → Market → Prop
  | world (step : WorldStep) {m : Market}
      (hclock : timely →
        m.system.world.wallclock ≤ (m.system.world.perform step).2.wallclock) :
      Step timely m { m with system := m.system.onWorld fun w => (w.perform step).2 }
  | spawn (pid : Pid) (config : Config) (m : Market) :
      Step timely m { m with system := (m.system.spawn pid config).2 }
  | adjust {id : StationId} {changes : List Adjustment} {m : Market} {s : System}
      (h : m.system.adjust id changes = some s) :
      Step timely m { m with system := s }
  | operate {id : StationId} {operation : Operation} {answer : Answer} {m : Market} {s : System}
      (h : m.system.perform id operation = some (answer, s))
      (hheld : ∀ token, operation.token? = some token → token ∈ m.tokens)
      (hends : timely → EndsInTime operation answer m) :
      Step timely m
        { system := s
          tokens := m.tokens ++ answer.handed?.toList
          released := m.released ++ (operation.givenBack? answer).toList }

/-- Whether a market is followed by another, after any number of steps. -/
def Continues (timely : Prop) : Market → Market → Prop := Relation.ReflTransGen (Step timely)

/-- What holds between the tokens in circulation, the port and the record of the authority. -/
structure Sound (timely : Prop) (m : Market) : Prop where
  /-- The record of the authority is in order. -/
  tidy : m.system.world.Tidy
  /-- What was given back was granted before. -/
  past : ∀ id ∈ m.released, id < m.system.world.nextToken
  /-- What was given back is not kept. -/
  live : ∀ pid, ∀ grant ∈ m.tracked pid, grant.id ∉ m.released
  /-- A token was given back, or the authority keeps a grant for its owner that is as good. -/
  backed : ∀ token ∈ m.tokens, token.id ≠ 0 →
    token.id ∈ m.released ∨ ∃ grant ∈ m.tracked token.owner, grant.Backs timely token
  /-- What is on the port is in circulation. -/
  port : ∀ token ∈ m.system.world.port, token ∈ m.tokens

variable {timely : Prop} {m n : Market} {token : Token} {pid : Pid}

theorem Sound.start : Sound timely start where
  tidy := {
    next := Nat.one_pos
    kept := by
      intro pid grant h
      cases h
    once := fun _ => List.nodup_nil
    apart := by
      intro pid other grant grant' h
      cases h }
  past := by
    intro id h
    cases h
  live := by
    intro pid grant h
    cases h
  backed := by
    intro token h
    cases h
  port := by
    intro token h
    cases h

/-- A grant with the id of a token is kept for the owner of the token, and as good. -/
theorem Sound.backs (h : Sound timely m) (htoken : token ∈ m.tokens) {grant : Token}
    (hgrant : grant ∈ m.tracked pid) (hid : grant.id = token.id) :
    pid = token.owner ∧ grant.Backs timely token := by
  have hpos : token.id ≠ 0 := hid ▸ (h.tidy.kept pid grant hgrant).2.1
  have hlive : token.id ∉ m.released := hid ▸ h.live pid grant hgrant
  rcases h.backed token htoken hpos with hgone | ⟨backing, hbacking, hbacks⟩
  · exact absurd hgone hlive
  · have hsame : grant.id = backing.id := hid.trans hbacks.1.symm
    obtain rfl := h.tidy.apart hgrant hbacking hsame
    obtain rfl := h.tidy.eq_of_id_eq hgrant hbacking hsame
    exact ⟨rfl, hbacks⟩

/-- A token in circulation has an id that was granted, or none. -/
theorem Sound.lt_next (h : Sound timely m) (htoken : token ∈ m.tokens) :
    token.id < m.system.world.nextToken := by
  by_cases hpos : token.id = 0
  · rw [hpos]
    exact h.tidy.next
  · rcases h.backed token htoken hpos with hgone | ⟨grant, hgrant, hbacks⟩
    · exact h.past _ hgone
    · rw [← hbacks.1]
      exact (h.tidy.kept _ grant hgrant).2.2

/-! ## What a step does -/

/-- What holds stays as it is if no grant changes and no token comes in from outside. -/
theorem Sound.of_idle (h : Sound timely m)
    (hauthority : n.system.world.authority = m.system.world.authority)
    (hreleased : n.released = m.released)
    (htokens : ∀ token ∈ n.tokens, token ∈ m.tokens)
    (hport : ∀ token ∈ n.system.world.port, token ∈ n.tokens) :
    Sound timely n := by
  have htracked : ∀ pid, n.tracked pid = m.tracked pid :=
    World.grantsOf_congr (congrArg Prod.fst hauthority)
  have hnext : n.system.world.nextToken = m.system.world.nextToken := congrArg Prod.snd hauthority
  exact {
    tidy := h.tidy.of_sublist hnext fun pid => by
      rw [show n.system.world.grantsOf pid = m.system.world.grantsOf pid from htracked pid]
    past := by
      intro id
      rw [hnext, hreleased]
      exact h.past id
    live := by
      intro pid grant
      rw [htracked, hreleased]
      exact h.live pid grant
    backed := by
      intro token htoken
      rw [htracked, hreleased]
      exact h.backed token (htokens token htoken)
    port := hport }

theorem Sound.of_acquired (h : Sound timely m) {self : Pid} {granted : Token}
    (hid : granted.id = m.system.world.nextToken) (howner : granted.owner = self)
    (hauthority : n.system.world.authority =
      (m.system.world.grants.insert self (m.tracked self ++ [granted]),
        m.system.world.nextToken + 1))
    (hreleased : n.released = m.released)
    (htokens : ∀ token ∈ n.tokens, token ∈ m.tokens ∨
      token.owner = granted.owner ∧ granted.Backs timely token)
    (hport : ∀ token ∈ n.system.world.port, token ∈ n.tokens) :
    Sound timely n := by
  have htracked : ∀ pid, n.tracked pid =
      if pid = self then m.tracked self ++ [granted] else m.tracked pid :=
    World.grantsOf_of_authority hauthority
  have hnext : n.system.world.nextToken = m.system.world.nextToken + 1 :=
    congrArg Prod.snd hauthority
  have hfrom : ∀ {pid grant}, grant ∈ n.tracked pid → grant ∈ m.tracked pid ∨ grant = granted := by
    intro pid grant hgrant
    rw [htracked] at hgrant
    split at hgrant
    · next hpid =>
        rcases List.mem_append.1 hgrant with hold | hnew
        · exact Or.inl (hpid ▸ hold)
        · exact Or.inr (List.mem_singleton.1 hnew)
    · exact Or.inl hgrant
  have hkeeps : ∀ {pid grant}, grant ∈ m.tracked pid → grant ∈ n.tracked pid := by
    intro pid grant hgrant
    rw [htracked]
    split
    · next hpid => exact List.mem_append_left _ (hpid ▸ hgrant)
    · exact hgrant
  exact {
    tidy := h.tidy.of_acquired hid howner hauthority
    past := by
      intro id hgone
      rw [hreleased] at hgone
      rw [hnext]
      exact Nat.lt_succ_of_lt (h.past id hgone)
    live := by
      intro pid grant hgrant hgone
      rw [hreleased] at hgone
      rcases hfrom hgrant with hold | rfl
      · exact h.live pid grant hold hgone
      · rw [hid] at hgone
        exact Nat.lt_irrefl _ (h.past _ hgone)
    backed := by
      intro token htoken hpos
      rw [hreleased]
      rcases htokens token htoken with hold | ⟨hsame, hbacks⟩
      · exact (h.backed token hold hpos).imp_right
          fun ⟨grant, hgrant, hbacks⟩ => ⟨grant, hkeeps hgrant, hbacks⟩
      · refine Or.inr ⟨granted, ?_, hbacks⟩
        rw [htracked, if_pos (hsame.trans howner)]
        exact List.mem_append_right _ (List.mem_singleton_self granted)
    port := hport }

theorem Sound.of_released (h : Sound timely m) {self : Pid} {back : Token} (hheld : back ∈ m.tokens)
    (howner : back.owner = self)
    (hauthority : n.system.world.authority =
      (m.system.world.grants.insert self ((m.tracked self).filter fun t => t.id != back.id),
        m.system.world.nextToken))
    (hreleased : n.released = m.released ++ [back.id])
    (htokens : ∀ token ∈ n.tokens, token ∈ m.tokens ∨ token.id = 0)
    (hport : ∀ token ∈ n.system.world.port, token ∈ n.tokens) :
    Sound timely n := by
  have htracked : ∀ pid, n.tracked pid =
      if pid = self then (m.tracked self).filter fun t => t.id != back.id else m.tracked pid :=
    World.grantsOf_of_authority hauthority
  have hnext : n.system.world.nextToken = m.system.world.nextToken := congrArg Prod.snd hauthority
  have hsub : ∀ pid, (n.tracked pid).Sublist (m.tracked pid) := by
    intro pid
    rw [htracked]
    split
    · next hpid =>
        rw [hpid]
        exact List.filter_sublist
    · exact List.Sublist.refl _
  -- Nobody else had a grant with the id.
  have hdropped : ∀ {pid grant}, grant ∈ n.tracked pid → grant.id ≠ back.id := by
    intro pid grant hgrant heq
    obtain ⟨hpid, -⟩ := h.backs hheld ((hsub pid).subset hgrant) heq
    rw [htracked, if_pos (hpid.trans howner)] at hgrant
    have hne := (List.mem_filter.1 hgrant).2
    rw [heq] at hne
    simp at hne
  have hkeeps : ∀ {pid grant}, grant ∈ m.tracked pid → grant.id ≠ back.id →
      grant ∈ n.tracked pid := by
    intro pid grant hgrant hne
    rw [htracked]
    split
    · next hpid => exact List.mem_filter.2 ⟨hpid ▸ hgrant, bne_iff_ne.2 hne⟩
    · exact hgrant
  exact {
    tidy := h.tidy.of_sublist hnext fun pid => (hsub pid).map _
    past := by
      intro id hgone
      rw [hreleased] at hgone
      rw [hnext]
      rcases List.mem_append.1 hgone with hold | hnew
      · exact h.past id hold
      · rw [List.mem_singleton.1 hnew]
        exact h.lt_next hheld
    live := by
      intro pid grant hgrant hgone
      rw [hreleased] at hgone
      rcases List.mem_append.1 hgone with hold | hnew
      · exact h.live pid grant ((hsub pid).subset hgrant) hold
      · exact hdropped hgrant (List.mem_singleton.1 hnew)
    backed := by
      intro token htoken hpos
      rw [hreleased]
      rcases htokens token htoken with hold | hblank
      · rcases h.backed token hold hpos with hgone | ⟨grant, hgrant, hbacks⟩
        · exact Or.inl (List.mem_append_left _ hgone)
        · by_cases heq : token.id = back.id
          · rw [heq]
            exact Or.inl (List.mem_append_right _ (List.mem_singleton_self _))
          · exact Or.inr ⟨grant, hkeeps hgrant (hbacks.1 ▸ heq), hbacks⟩
      · exact absurd hblank hpos
    port := hport }

theorem Sound.of_renewed (h : Sound timely m) {self : Pid} {token granted : Token} {seconds : Nat}
    (hheld : token ∈ m.tokens) (hgranted : granted ∈ m.tracked self)
    (hid : granted.id = token.id) (howner : token.owner = self)
    (hends : timely →
      ∀ grant ∈ m.tracked self, grant.id = token.id → grant.validUntil + seconds < clockPeriod)
    (hauthority : n.system.world.authority =
      (m.system.world.grants.insert self
        (World.extendFirst token.id seconds (m.tracked self)), m.system.world.nextToken))
    (hreleased : n.released = m.released)
    (htokens : ∀ t ∈ n.tokens, t ∈ m.tokens ∨
      t = { token with validUntil := timeAfter granted.validUntil seconds })
    (hport : ∀ token ∈ n.system.world.port, token ∈ n.tokens) :
    Sound timely n := by
  have htracked : ∀ pid, n.tracked pid =
      if pid = self then (m.tracked self).map (Token.extendFor token.id seconds)
      else m.tracked pid := by
    have hmap : World.extendFirst token.id seconds (m.tracked self) =
        (m.tracked self).map (Token.extendFor token.id seconds) :=
      World.extendFirst_eq_map (h.tidy.once self)
    rw [hmap] at hauthority
    exact World.grantsOf_of_authority hauthority
  have hnext : n.system.world.nextToken = m.system.world.nextToken := congrArg Prod.snd hauthority
  have hkeys : ∀ pid, (n.tracked pid).map (fun t => (t.id, t.owner)) =
      (m.tracked pid).map fun t => (t.id, t.owner) := by
    intro pid
    rw [htracked]
    split
    · next hpid =>
        rw [List.map_map, hpid]
        exact List.map_congr_left fun t _ => by simp
    · rfl
  have hextends : ∀ {pid grant} {t : Token}, grant ∈ m.tracked pid → grant.Backs timely t →
      ∃ grant' ∈ n.tracked pid, grant'.Backs timely t := by
    intro pid grant t hgrant hbacks
    rw [htracked]
    split
    · next hpid =>
        have hself : grant ∈ m.tracked self := hpid ▸ hgrant
        exact ⟨_, List.mem_map_of_mem hself,
          hbacks.extendFor fun htimely => hends htimely grant hself⟩
    · exact ⟨grant, hgrant, hbacks⟩
  exact {
    tidy := h.tidy.of_sublist hnext fun pid => by
      rw [show (n.system.world.grantsOf pid).map (fun t => (t.id, t.owner)) = _ from hkeys pid]
      exact List.Sublist.refl _
    past := by
      intro id
      rw [hnext, hreleased]
      exact h.past id
    live := by
      intro pid grant hgrant
      obtain ⟨old, hold, heq⟩ := List.mem_map.1 (hkeys pid ▸ List.mem_map_of_mem hgrant)
      rw [← (Prod.mk.inj heq).1, hreleased]
      exact h.live pid old hold
    backed := by
      intro t ht hpos
      rw [hreleased]
      rcases htokens t ht with hold | rfl
      · exact (h.backed t hold hpos).imp_right fun ⟨_, hgrant, hbacks⟩ => hextends hgrant hbacks
      · -- The authority extends its own record, which may be ahead of the token.
        refine Or.inr ⟨granted.extendFor token.id seconds, ?_, ?_⟩
        · rw [htracked, if_pos howner]
          exact List.mem_map_of_mem hgranted
        · obtain ⟨-, -, hcapabilities, -⟩ := h.backs hheld hgranted hid
          rw [Token.extendFor, if_pos hid]
          exact ⟨hid, hcapabilities, fun _ => Nat.le_refl _⟩
    port := hport }

/-- An operation makes a deal in its world, and the market goes on from there. -/
theorem deal_of_perform {id : StationId} {operation : Operation} {answer : Answer} {s : System}
    (h : m.system.perform id operation = some (answer, s)) :
    ∃ self, Deal self m.system.world operation answer s.world ∧
      s.world.wallclock = m.system.world.wallclock ∧
      ∀ token ∈ s.world.port, token ∈ m.system.world.port ∨ operation.token? = some token := by
  obtain ⟨station, -, rfl, rfl⟩ := System.perform_eq_some h
  exact ⟨station.pid, Station.deal_after operation _, Station.wallclock_after operation _,
    fun _ => Station.mem_port_after⟩

/-- What holds in a market holds after every step. -/
theorem Sound.step (h : Sound timely m) (hstep : Step timely m n) : Sound timely n := by
  cases hstep with
  | world step hclock =>
      refine h.of_idle ?_ rfl (fun _ => id) ?_
      · cases step <;> rfl
      · cases step <;> exact h.port
  | spawn pid config =>
      obtain ⟨line, hspawn⟩ := System.spawn_eq pid config m.system
      rw [hspawn]
      exact h.of_idle rfl rfl (fun _ => id) h.port
  | adjust hadjust =>
      obtain ⟨station, adjustments, -, rfl⟩ := System.adjust_eq_some hadjust
      exact h.of_idle rfl rfl (fun _ => id) h.port
  | @operate id operation answer _ s hperform hheld hends =>
      obtain ⟨self, hdeal, -, hpassed⟩ := deal_of_perform hperform
      have hport : ∀ token ∈ s.world.port, token ∈ m.tokens ++ answer.handed?.toList := by
        intro token htoken
        rcases hpassed token htoken with hold | hown
        · exact List.mem_append_left _ (h.port token hold)
        · exact List.mem_append_left _ (hheld token hown)
      cases hdeal with
      | idle hauthority hhanded hkept =>
          refine h.of_idle hauthority (by simp [hkept]) (fun token htoken => ?_) hport
          rcases List.mem_append.1 htoken with hold | hnew
          · exact hold
          · exact (hhanded token (Option.mem_toList.1 hnew)).elim (h.port token) (hheld token)
      | acquired hid howner hauthority description hhanded =>
          refine h.of_acquired hid howner hauthority (List.append_nil _)
            (fun token htoken => ?_) hport
          rcases List.mem_append.1 htoken with hold | hnew
          · exact Or.inl hold
          · rw [hhanded] at hnew
            rw [List.mem_singleton.1 hnew]
            exact Or.inr ⟨rfl, rfl, rfl, fun _ => Nat.le_refl _⟩
      | released howner hauthority =>
          refine h.of_released (hheld _ rfl) howner hauthority rfl (fun token htoken => ?_) hport
          rcases List.mem_append.1 htoken with hold | hnew
          · exact Or.inl hold
          · rw [List.mem_singleton.1 hnew]
            exact Or.inr rfl
      | renewed hmay hgranted hid hauthority =>
          refine h.of_renewed (hheld _ rfl) hgranted hid hmay.1
            (fun htimely => hmay.1 ▸ hends htimely _ _ rfl) hauthority (List.append_nil _)
            (fun token htoken => ?_) hport
          rcases List.mem_append.1 htoken with hold | hnew
          · exact Or.inl hold
          · exact Or.inr (List.mem_singleton.1 hnew)

/-! ## What is over stays over -/

/-- Whether a grant has ended, and the authority keeps nothing else under its id. -/
structure Frozen (grant : Token) (m : Market) : Prop where
  granted : grant.id < m.system.world.nextToken
  ended : grant.isExpired m.system.world.wallclock = true
  same : ∀ pid, ∀ kept ∈ m.tracked pid, kept.id = grant.id → kept = grant

variable {grant : Token}

theorem isExpired_of_le {now later : Nat} (h : grant.isExpired now = true) (hle : now ≤ later) :
    grant.isExpired later = true :=
  decide_eq_true (Nat.lt_of_lt_of_le (of_decide_eq_true h) hle)

theorem Sound.frozen (h : Sound timely m) (hgrant : grant ∈ m.tracked pid)
    (hended : grant.isExpired m.system.world.wallclock = true) :
    Frozen grant m where
  granted := (h.tidy.kept pid grant hgrant).2.2
  ended := hended
  same := by
    intro other kept hkept hid
    obtain rfl := h.tidy.apart hkept hgrant hid
    exact h.tidy.eq_of_id_eq hkept hgrant hid

/-- A property of all grants holds after the record of one process changed, if it holds of that
record. -/
theorem same_of_authority {P : Token → Prop} {w after : World} {self : Pid}
    {tokens : List Token} {next : Nat}
    (hauthority : after.authority = (w.grants.insert self tokens, next))
    (h : ∀ pid, ∀ kept ∈ w.grantsOf pid, P kept) (hself : ∀ kept ∈ tokens, P kept) :
    ∀ pid, ∀ kept ∈ after.grantsOf pid, P kept := by
  intro pid kept hkept
  rw [World.grantsOf_of_authority hauthority] at hkept
  split at hkept
  · exact hself kept hkept
  · exact h pid kept hkept

/-- Who extends a grant holds a token that has not ended, so neither has the grant. -/
theorem Sound.not_ended (h : Sound timely m) (htimely : timely) {token granted : Token}
    (hheld : token ∈ m.tokens)
    (hgranted : granted ∈ m.tracked pid) (hid : granted.id = token.id)
    (hmay : token.MayUse pid m.system.world.wallclock) :
    granted.isExpired m.system.world.wallclock = false := by
  obtain ⟨-, -, -, htime⟩ := h.backs hheld hgranted hid
  have htoken : m.system.world.wallclock ≤ token.validUntil :=
    Nat.not_lt.1 (of_decide_eq_false hmay.2.2)
  exact decide_eq_false (Nat.not_lt.2 (Nat.le_trans htoken (htime htimely)))

/-- A grant that has ended is not extended any more. -/
theorem Frozen.step (htimely : timely) (hsound : Sound timely m) (h : Frozen grant m)
    (hstep : Step timely m n) :
    Frozen grant n := by
  cases hstep with
  | world step hclock =>
      refine ⟨?_, isExpired_of_le h.ended (hclock htimely), ?_⟩
      · cases step <;> exact h.granted
      · cases step <;> exact h.same
  | spawn pid config =>
      obtain ⟨line, hspawn⟩ := System.spawn_eq pid config m.system
      rw [hspawn]
      exact ⟨h.granted, h.ended, h.same⟩
  | adjust hadjust =>
      obtain ⟨station, adjustments, -, rfl⟩ := System.adjust_eq_some hadjust
      exact ⟨h.granted, h.ended, h.same⟩
  | @operate id operation answer _ s hperform hheld =>
      obtain ⟨self, hdeal, hclock, -⟩ := deal_of_perform hperform
      have hended : grant.isExpired s.world.wallclock = true := hclock ▸ h.ended
      cases hdeal with
      | idle hauthority =>
          have hnext : s.world.nextToken = m.system.world.nextToken := congrArg Prod.snd hauthority
          refine ⟨hnext ▸ h.granted, hended, fun pid kept hkept => ?_⟩
          have hgrants := World.grantsOf_congr (congrArg Prod.fst hauthority) pid
          have hbefore : kept ∈ s.world.grantsOf pid := hkept
          rw [hgrants] at hbefore
          exact h.same pid kept hbefore
      | acquired hid howner hauthority =>
          have hnext : s.world.nextToken = m.system.world.nextToken + 1 :=
            congrArg Prod.snd hauthority
          refine ⟨hnext ▸ Nat.lt_succ_of_lt h.granted, hended, ?_⟩
          refine same_of_authority hauthority h.same fun kept hkept heq => ?_
          rcases List.mem_append.1 hkept with hold | hnew
          · exact h.same self kept hold heq
          · rw [List.mem_singleton.1 hnew, hid] at heq
            exact absurd h.granted (Nat.not_lt.2 (Nat.le_of_eq heq))
      | released howner hauthority =>
          have hnext : s.world.nextToken = m.system.world.nextToken := congrArg Prod.snd hauthority
          refine ⟨hnext ▸ h.granted, hended, ?_⟩
          exact same_of_authority hauthority h.same fun kept hkept =>
            h.same self kept (List.mem_filter.1 hkept).1
      | renewed hmay hgranted hid hauthority =>
          have hnext : s.world.nextToken = m.system.world.nextToken := congrArg Prod.snd hauthority
          refine ⟨hnext ▸ h.granted, hended, ?_⟩
          refine same_of_authority hauthority h.same fun kept hkept heq => ?_
          rcases World.mem_extendFirst hkept with hold | ⟨old, hold, holdid, rfl⟩
          · exact h.same self kept hold heq
          · -- The grant would have been extended for a token that had not ended.
            have hgood := hsound.not_ended htimely (hheld _ rfl) hold holdid hmay
            rw [h.same self old hold heq, h.ended] at hgood
            cases hgood

/-! ## Runs -/

theorem Sound.continues (h : Sound timely m) (hruns : Continues timely m n) : Sound timely n := by
  induction hruns with
  | refl => exact h
  | tail _ hstep ih => exact ih.step hstep

theorem Frozen.continues (htimely : timely) (hsound : Sound timely m) (h : Frozen grant m)
    (hlater : Continues timely m n) :
    Frozen grant n := by
  induction hlater with
  | refl => exact h
  | tail hbefore hstep ih => exact ih.step htimely (hsound.continues hbefore) hstep

/-- What was given back stays given back. -/
theorem released_subset (hruns : Continues timely m n) : m.released ⊆ n.released := by
  induction hruns with
  | refl => exact List.Subset.refl _
  | tail _ hstep ih =>
      cases hstep with
      | operate => exact fun id hid => List.mem_append_left _ (ih hid)
      | _ => exact ih

/-- Whether an operation of a process is answered yes. -/
def Approves (id : StationId) (operation : Operation) (s : System) : Prop :=
  ∃ t, s.perform id operation = some (.value (.flag true), t)

/-- A token that is valid and was not given back is as good as the rights of its process. -/
theorem Sound.approves (htimely : timely) (h : Sound timely m) (htoken : token ∈ m.tokens)
    (hlive : token.id ∉ m.released) {id : StationId} {required : UInt32}
    (hvalid : Approves id (.validate token required) m.system) :
    Approves id (.check required) m.system := by
  obtain ⟨t, hperform⟩ := hvalid
  obtain ⟨station, hstation, hanswer, -⟩ := System.perform_eq_some hperform
  have hgood : true = token.isValidFor station.pid required m.system.world.wallclock :=
    Value.flag.inj (Answer.value.inj hanswer)
  obtain ⟨hid, howner, htime, hcovers⟩ := Token.isValidFor_iff.1 hgood.symm
  rcases h.backed token htoken hid with hgone | ⟨grant, hgrant, hsame, hcapabilities, hlater⟩
  · exact absurd hgone hlive
  · rw [howner] at hgrant
    have hvalid : grant.isValidFor station.pid required m.system.world.wallclock = true :=
      Token.isValidFor_iff.2 ⟨hsame ▸ hid, (h.tidy.kept _ grant hgrant).1,
        Nat.le_trans htime (hlater htimely), hcapabilities ▸ hcovers⟩
    have hheld := Token.includes_held hgrant hvalid
    have hchecked : station.answer (.check required) m.system.world = .value (.flag true) :=
      congrArg (fun b => Answer.value (.flag b)) hheld
    exact ⟨_, hchecked ▸ System.perform_of_station? hstation (.check required)⟩

/-- **Tokens and grants agree, and what is over stays over.**  In every run, what the authority
keeps under the id of a token in circulation is kept for the owner of the token only, with the same
capabilities, and an id that was given back is never kept again.  If no time starts over in the run,
the grant has at least as much time as the token, so a process for which a token is valid has the
rights of it, unless the token was given back; and from then on, a grant that has ended is kept as
it is, if at all. -/
theorem tokens_agree (h : Continues timely start m) :
    (∀ token ∈ m.tokens,
      (∀ pid, ∀ grant ∈ m.tracked pid, grant.id = token.id →
        pid = token.owner ∧ grant.capabilities = token.capabilities ∧
          (timely → token.validUntil ≤ grant.validUntil)) ∧
      (timely → ∀ id required, token.id ∉ m.released →
        Approves id (.validate token required) m.system →
          Approves id (.check required) m.system)) ∧
    ∀ later, Continues timely m later →
      (timely → ∀ pid, ∀ grant ∈ m.tracked pid,
        grant.isExpired m.system.world.wallclock = true →
          ∀ other, ∀ kept ∈ later.tracked other, kept.id = grant.id →
            kept = grant ∧ kept.isExpired later.system.world.wallclock = true) ∧
      ∀ id ∈ m.released, ∀ pid, ∀ grant ∈ later.tracked pid, grant.id ≠ id := by
  have hsound := Sound.start.continues h
  refine ⟨fun token htoken => ⟨fun pid grant hgrant hid => ?_, fun htimely id required hlive =>
    hsound.approves htimely htoken hlive⟩, fun later hlater => ⟨?_, ?_⟩⟩
  · obtain ⟨hpid, -, hbacks⟩ := hsound.backs htoken hgrant hid
    exact ⟨hpid, hbacks⟩
  · intro htimely pid grant hgrant hended other kept hkept hid
    have hfrozen := (hsound.frozen hgrant hended).continues htimely hsound hlater
    obtain rfl := hfrozen.same other kept hkept hid
    exact ⟨rfl, hfrozen.ended⟩
  · intro id hgone pid grant hgrant heq
    exact (hsound.continues hlater).live pid grant hgrant (heq ▸ released_subset hlater hgone)

/-- The market after an operation of one of its processes. -/
def operated (id : StationId) (station : Station) (operation : Operation) (m : Market) : Market :=
  let answer := station.answer operation m.system.world
  { system := m.system.operated id station operation
    tokens := m.tokens ++ answer.handed?.toList
    released := m.released ++ (operation.givenBack? answer).toList }

theorem step_operated {id : StationId} {station : Station} {operation : Operation}
    (h : m.system.station? id = some station)
    (hheld : ∀ token, operation.token? = some token → token ∈ m.tokens)
    (hends : timely → EndsInTime operation (station.answer operation m.system.world) m) :
    Step timely m (m.operated id station operation) :=
  .operate (System.perform_of_station? h operation) hheld hends

/-- A process asks for a token and extends a copy of it.  The token as it was is behind the record
of the authority then, and still it is as good as the rights of the process. -/
theorem tokens_agree_on_stale_copy :
    let holder := Station.start 7 Config.standard
    let token : Token :=
      { id := 1, capabilities := Capability.shutdown, owner := 7, validUntil := 1737504060,
        description := "update" }
    let ask := Operation.acquire Capability.shutdown "update" 60
    let begun : Market := { start with system := (System.start.spawn 7 Config.standard).2 }
    let asked := begun.operated 0 holder ask
    let holder' := holder.resume (holder.after ask begun.system.world)
    let extended := asked.operated 0 holder' (.renew token 40)
    token ∈ extended.tokens ∧ (extended.tracked 7).map Token.validUntil = [1737504100] ∧
      Approves 0 (.check Capability.shutdown) extended.system := by
  intro holder token ask begun asked holder' extended
  have hasked : token ∈ asked.tokens := by decide +kernel
  have hfirst : Step True begun asked :=
    step_operated (show begun.system.station? 0 = some holder from rfl) (by intro _ h; cases h)
      (by intro _ _ _ h; cases h)
  have hends : EndsInTime (.renew token 40) (holder'.answer (.renew token 40) asked.system.world)
      asked := by
    intro _ _ heq
    cases heq
    decide +kernel
  have hsecond : Step True asked extended :=
    step_operated (show asked.system.station? 0 = some holder' from rfl)
      (fun _ h => Option.some.inj h ▸ hasked) fun _ => hends
  have hruns : Continues True start extended :=
    ((Relation.ReflTransGen.single (.spawn 7 Config.standard start)).tail hfirst).tail hsecond
  have htoken : token ∈ extended.tokens := List.mem_append_left _ hasked
  obtain ⟨hagree, -⟩ := tokens_agree hruns
  obtain ⟨-, hgood⟩ := hagree token htoken
  refine ⟨htoken, by decide +kernel, hgood trivial 0 Capability.shutdown (by decide +kernel) ?_⟩
  have hvalid : token.isValidFor 7 Capability.shutdown extended.system.world.wallclock = true := by
    decide +kernel
  let holder'' := holder'.resume (holder'.after (.renew token 40) asked.system.world)
  have hstation : extended.system.station? 0 = some holder'' := rfl
  have hanswer : holder''.answer (.validate token Capability.shutdown) extended.system.world =
      .value (.flag true) :=
    congrArg (fun b => Answer.value (.flag b)) hvalid
  exact ⟨_, hanswer ▸ System.perform_of_station? hstation _⟩

end Market

end Interprocess
