import Interprocess.Grant.Holder
import Interprocess.Proofs.Endpoint.Running
import Interprocess.Simulation.Station

/-!
# Rights that many tokens give together

What a process may do is put together, bit by bit, from the tokens that the authority keeps for it.
Each bit comes from one token or another, and a token that is empty, owned by somebody else or past
its time gives none.

**Input.**  Any kernel, so any list of tokens and any time, and any mask.

**Results.**
* `Capability.includes_iff`: a mask includes another one if it has each of its bits.
* `Token.has_held_iff`: where the bits of a process come from.
* `check_combines_grants`: what the check of a mask answers, and how the answers hang together.
-/

namespace Interprocess

namespace Capability

/-- Whether a bit of a mask is set. -/
def has (mask : UInt32) (bit : Nat) : Bool := mask.toBitVec.getLsbD bit

variable {held required : UInt32} {bit : Nat}

@[simp] theorem has_zero (bit : Nat) : has 0 bit = false := by simp [has]

@[simp] theorem has_or (mask other : UInt32) (bit : Nat) :
    has (mask ||| other) bit = (has mask bit || has other bit) := by
  simp [has]

/-- A mask includes another one if it has each of its bits. -/
theorem includes_iff :
    includes held required = true ↔ ∀ bit, has required bit = true → has held bit = true := by
  have hwords : held &&& required = required ↔
      held.toBitVec &&& required.toBitVec = required.toBitVec := by
    rw [← UInt32.toBitVec_inj, UInt32.toBitVec_and]
  rw [includes, beq_iff_eq, hwords]
  constructor
  · intro h bit hbit
    have hand := congrArg (BitVec.getLsbD · bit) h
    simp only [BitVec.getLsbD_and] at hand
    exact (Bool.and_eq_true_iff.1 (hand.trans hbit)).1
  · intro h
    refine BitVec.eq_of_getLsbD_eq fun bit _ => ?_
    rw [BitVec.getLsbD_and]
    cases hbit : required.toBitVec.getLsbD bit with
    | false => exact Bool.and_false _
    | true => rw [Bool.and_true]; exact h bit hbit

theorem includes_or (mask other : UInt32) :
    includes held (mask ||| other) = (includes held mask && includes held other) := by
  rw [Bool.eq_iff_iff, Bool.and_eq_true]
  simp only [includes_iff, has_or, Bool.or_eq_true]
  exact ⟨fun h => ⟨fun bit hbit => h bit (Or.inl hbit), fun bit hbit => h bit (Or.inr hbit)⟩,
    fun h bit hbit => hbit.elim (h.1 bit) (h.2 bit)⟩

/-- A bit of many masks together is one of the first mask, or comes from a token. -/
theorem has_foldl (tokens : List Token) (mask : UInt32) (bit : Nat) :
    has (tokens.foldl (fun mask t => mask ||| t.capabilities) mask) bit = true ↔
      has mask bit = true ∨ ∃ t ∈ tokens, has t.capabilities bit = true := by
  induction tokens generalizing mask with
  | nil => simp
  | cons first rest ih => simp [ih, or_assoc]

end Capability

namespace Token

variable {caller : Pid} {now : Nat} {tokens : List Token} {required : UInt32} {bit : Nat}

/-- Whether a token gives a right to process `caller` at second `now`. -/
def Gives (caller : Pid) (now : Nat) (bit : Nat) (t : Token) : Prop :=
  t.id ≠ 0 ∧ t.owner = caller ∧ now ≤ t.validUntil ∧ Capability.has t.capabilities bit = true

/-- A process has a right if one of its tokens gives it. -/
theorem has_held_iff :
    Capability.has (held caller now tokens) bit = true ↔
      ∃ t ∈ tokens, t.Gives caller now bit := by
  simp only [held, Capability.has_foldl, Capability.has_zero, Bool.false_eq_true, false_or,
    List.mem_filter, isValidFor_iff, UInt32.and_zero, and_true, Gives, and_assoc]

/-- A process holds a mask if each bit of it is given by one token or another. -/
theorem includes_held_iff :
    Capability.includes (held caller now tokens) required = true ↔
      ∀ bit, Capability.has required bit = true → ∃ t ∈ tokens, t.Gives caller now bit := by
  simp only [Capability.includes_iff, has_held_iff]

/-- A token that is good for a mask gives each bit of it. -/
theorem gives_of_isValidFor {t : Token} (h : t.isValidFor caller required now = true)
    (hbit : Capability.has required bit = true) : t.Gives caller now bit := by
  obtain ⟨hid, howner, htime, hcovers⟩ := isValidFor_iff.1 h
  exact ⟨hid, howner, htime, Capability.includes_iff.1 (beq_iff_eq.2 hcovers) bit hbit⟩

/-- One good token carries its capabilities into what a process holds. -/
theorem includes_held {t : Token} (hmem : t ∈ tokens)
    (h : t.isValidFor caller required now = true) :
    Capability.includes (held caller now tokens) required = true :=
  includes_held_iff.2 fun _ hbit => ⟨t, hmem, gives_of_isValidFor h hbit⟩

/-- What a token gives at some time it gave at every earlier time. -/
theorem Gives.earlier {t : Token} {later : Nat} (h : t.Gives caller later bit)
    (htime : now ≤ later) : t.Gives caller now bit := by
  obtain ⟨hid, howner, hlater, hhas⟩ := h
  exact ⟨hid, howner, Nat.le_trans htime hlater, hhas⟩

/-- More tokens give no fewer rights, and neither does an earlier time. -/
theorem includes_held_mono {tokens' : List Token} {now' : Nat} (htokens : tokens ⊆ tokens')
    (htime : now' ≤ now) (h : Capability.includes (held caller now tokens) required = true) :
    Capability.includes (held caller now' tokens') required = true := by
  rw [includes_held_iff] at h ⊢
  intro bit hbit
  obtain ⟨t, ht, hgives⟩ := h bit hbit
  exact ⟨t, htokens ht, hgives.earlier htime⟩

end Token

namespace Endpoint

variable {σ τ : Type}

/-- **Rights are put together bit by bit.**  A process holds a mask if and only if every bit of it
is given by a token that the authority keeps for the process, and that is not empty, owned by the
process and within its time.  So the order of the tokens does not count, nor how often one of them
is kept; two masks are held together if each of them is held, and the empty one always; another
token takes no right away, and later no right comes back; and a token that is good for a mask on
its own is enough. -/
theorem check_combines_grants (e : Endpoint σ) (s : Session σ) (e' : Endpoint τ) (s' : Session τ)
    (pid : Pid) :
    let now := e.kernel.wallclock s.kernel
    let tokens := e.kernel.grantsOf pid s.kernel
    let now' := e'.kernel.wallclock s'.kernel
    let tokens' := e'.kernel.grantsOf pid s'.kernel
    let holds := fun required => ((e.checkFor required pid).run s).1
    let holds' := fun required => ((e'.checkFor required pid).run s').1
    (∀ required, ((e.checkFor required pid).run s).2 = s ∧
        e.check required = e.checkFor required e.pid) ∧
      (∀ required, holds required = true ↔ ∀ bit, Capability.has required bit = true →
        ∃ t ∈ tokens, t.Gives pid now bit) ∧
      (now' = now → (∀ t, t ∈ tokens' ↔ t ∈ tokens) → holds' = holds) ∧
      (∀ required other, holds (required ||| other) = (holds required && holds other)) ∧
      holds 0 = true ∧
      (now' = now → tokens ⊆ tokens' →
        ∀ required, holds required = true → holds' required = true) ∧
      (now ≤ now' → tokens' = tokens →
        ∀ required, holds required = false → holds' required = false) ∧
      ∀ required, ∀ t ∈ tokens, t.isValidFor pid required now = true → holds required = true := by
  intro now tokens now' tokens' holds holds'
  refine ⟨fun _ => ⟨rfl, rfl⟩, fun _ => Token.includes_held_iff, ?_,
    Capability.includes_or, ?_, ?_, ?_, fun _ t ht hvalid => Token.includes_held ht hvalid⟩
  · intro htime htokens
    funext required
    rw [Bool.eq_iff_iff]
    exact ⟨Token.includes_held_mono (fun t ht => (htokens t).1 ht) (Nat.le_of_eq htime.symm),
      Token.includes_held_mono (fun t ht => (htokens t).2 ht) (Nat.le_of_eq htime)⟩
  · refine Token.includes_held_iff.2 fun bit hbit => ?_
    rw [Capability.has_zero] at hbit
    cases hbit
  · exact fun htime htokens _ => Token.includes_held_mono htokens (Nat.le_of_eq htime)
  · intro htime htokens required hnone
    have hsame : tokens' ⊆ tokens := fun t ht => by rwa [htokens] at ht
    refine Bool.eq_false_iff.2 fun hheld => Bool.eq_false_iff.1 hnone ?_
    exact Token.includes_held_mono hsame htime hheld

/-- Two tokens give what none of them gives alone, in any order.  The right of a third one, which
belongs to somebody else, leaks neither now nor later. -/
theorem check_combines_grants_of_two_tokens :
    let holder := (Station.start 7 Config.standard).endpoint
    let mine : Token := ⟨1, Capability.reboot, 7, 60, ""⟩
    let ending : Token := ⟨2, Capability.shutdown, 7, 50, ""⟩
    let foreign : Token := ⟨3, Capability.killProcess, 8, 60, ""⟩
    let session := fun tokens wallclock => (⟨⟨{ World.start with
      grants := [(7, tokens)], wallclock }, []⟩, Process.start Config.standard⟩ :
        Session KernelState)
    let holds := fun s required => ((holder.checkFor required 7).run s).1
    holds (session [mine, ending, foreign] 50) (Capability.reboot ||| Capability.shutdown) = true ∧
      holds (session [foreign, ending, mine, ending] 50)
        (Capability.reboot ||| Capability.shutdown) = true ∧
      holds (session [mine, ending, foreign] 51) Capability.killProcess = false := by
  intro holder mine ending foreign session holds
  let s := session [mine, ending, foreign] 50
  obtain ⟨-, -, hsame, hor, -, -, -, hgood⟩ := check_combines_grants holder s
    holder (session [foreign, ending, mine, ending] 50) 7
  obtain ⟨-, -, -, -, -, -, hlater, -⟩ := check_combines_grants holder s
    holder (session [mine, ending, foreign] 51) 7
  have hreboot := hgood Capability.reboot mine List.mem_cons_self (by decide)
  have hshutdown := hgood Capability.shutdown ending (by decide) (by decide)
  have hboth : holds s (Capability.reboot ||| Capability.shutdown) = true :=
    (hor _ _).trans (Bool.and_eq_true_iff.2 ⟨hreboot, hshutdown⟩)
  refine ⟨hboth, ?_, hlater (by decide) rfl _ (by decide)⟩
  have hholds := hsame rfl fun t => by
    change t ∈ [foreign, ending, mine, ending] ↔ t ∈ [mine, ending, foreign]
    simp only [List.mem_cons, List.not_mem_nil]
    grind
  exact (congrFun hholds _).trans hboth

end Endpoint

end Interprocess
