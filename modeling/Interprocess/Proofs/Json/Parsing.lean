import Interprocess.Json.Value
import Interprocess.Proofs.Json.Scanning

/-!
# Trees are read as they are written

The text of a tree is that of its lexemes, one after the other.  Each of them is read back
(`Interprocess.Proofs.Json.Scanning`), and this module follows the machine that builds the tree
from them.  The machine has no recursion but a stack, so the statements on it speak of any stack:
where a value must come, the lexemes of a tree put that tree in its place.

**Results.**
* `foldlM_lexemes`: the machine builds the tree whose lexemes it is given.
* `separated_lexemes`: in the lexemes of a tree every number is followed by what ends it.
* `parse?_render`: the text of a plain tree is read as that tree.
-/

namespace Interprocess
namespace Json

/-- Whether a tree is read as it is written. -/
def IsPlain (j : Json) : Prop := ∀ lexeme ∈ j.lexemes, lexeme.IsPlain

/-! ## Lists of items and members -/

theorem itemLexemes_cons (item : Json) {rest : List Json} (h : rest ≠ []) :
    itemLexemes (item :: rest) = item.lexemes ++ .comma :: itemLexemes rest := by
  cases rest with
  | nil => exact absurd rfl h
  | cons next rest => rw [itemLexemes]; exact nofun

theorem memberLexemes_cons (key : StringLiteral) (value : Json)
    {rest : List (StringLiteral × Json)} (h : rest ≠ []) :
    memberLexemes ((key, value) :: rest) =
      .string key :: .colon :: (value.lexemes ++ .comma :: memberLexemes rest) := by
  cases rest with
  | nil => exact absurd rfl h
  | cons next rest => rw [memberLexemes]; exact nofun

/-- A value never begins with the end of an array, and nor do items. -/
theorem exists_itemLexemes_eq_cons (item : Json) (rest : List Json) :
    ∃ lexeme later, itemLexemes (item :: rest) = lexeme :: later ∧ lexeme ≠ .arrayClose := by
  have hitem : ∃ lexeme later, item.lexemes = lexeme :: later ∧ lexeme ≠ .arrayClose := by
    cases item <;> rw [lexemes] <;> exact ⟨_, _, rfl, nofun⟩
  obtain ⟨lexeme, later, heq, hne⟩ := hitem
  by_cases hrest : rest = []
  · rw [hrest, itemLexemes, heq]
    exact ⟨lexeme, later, rfl, hne⟩
  · rw [itemLexemes_cons item hrest, heq]
    exact ⟨lexeme, _, rfl, hne⟩

/-! ## Building -/

namespace Builder

theorem step?_firstItem {lexeme : Lexeme} (h : lexeme ≠ .arrayClose) (stack : List Frame) :
    step? ⟨stack, .firstItem⟩ lexeme = step? ⟨.array [] :: stack, .value⟩ lexeme := by
  cases lexeme with
  | arrayClose => exact absurd rfl h
  | _ => rfl

/-- The first item of an array is taken in as any other value, since it does not close it. -/
theorem foldlM_firstItem (item : Json) (rest : List Json) (later : List Lexeme)
    (stack : List Frame) :
    (itemLexemes (item :: rest) ++ later).foldlM step? ⟨stack, .firstItem⟩ =
      (itemLexemes (item :: rest) ++ later).foldlM step? ⟨.array [] :: stack, .value⟩ := by
  obtain ⟨lexeme, others, heq, hne⟩ := exists_itemLexemes_eq_cons item rest
  rw [heq, List.cons_append, List.foldlM_cons, List.foldlM_cons, step?_firstItem hne]

/-- The first key of an object is taken in as any other key. -/
theorem foldlM_firstKey (member : StringLiteral × Json) (rest : List (StringLiteral × Json))
    (later : List Lexeme) (stack : List Frame) :
    (memberLexemes (member :: rest) ++ later).foldlM step? ⟨stack, .firstKey⟩ =
      (memberLexemes (member :: rest) ++ later).foldlM step? ⟨stack, .key []⟩ := by
  cases rest <;> rfl

end Builder

open Builder

mutual

/-- **The machine builds the tree whose lexemes it is given.** -/
theorem foldlM_lexemes : ∀ (j : Json) (stack : List Frame),
    j.lexemes.foldlM step? ⟨stack, .value⟩ = some (place j stack)
  | .null, _ => rfl
  | .boolean _, _ => rfl
  | .number _, _ => rfl
  | .string _, _ => rfl
  | .array [], _ => rfl
  | .array (item :: rest), stack => by
      have hopen : step? ⟨stack, .value⟩ .arrayOpen = some ⟨stack, .firstItem⟩ := rfl
      rw [lexemes, foldlM_cons_of_step hopen, foldlM_firstItem,
        foldlM_append_of_run (foldlM_itemLexemes (item :: rest) nofun [] stack)]
      simp [step?]
  | .object [], _ => rfl
  | .object (member :: rest), stack => by
      have hopen : step? ⟨stack, .value⟩ .objectOpen = some ⟨stack, .firstKey⟩ := rfl
      rw [lexemes, foldlM_cons_of_step hopen, foldlM_firstKey,
        foldlM_append_of_run (foldlM_memberLexemes (member :: rest) nofun [] stack)]
      simp [step?]

/-- Items go to the array that is open. -/
theorem foldlM_itemLexemes : ∀ (items : List Json), items ≠ [] →
    ∀ (done : List Json) (stack : List Frame),
      (itemLexemes items).foldlM step? ⟨.array done :: stack, .value⟩ =
        some ⟨stack, .afterItem (items.reverse ++ done)⟩
  | [], h, _, _ => absurd rfl h
  | item :: rest, _, done, stack => by
      have hitem : item.lexemes.foldlM step? ⟨.array done :: stack, .value⟩ =
          some ⟨stack, .afterItem (item :: done)⟩ := foldlM_lexemes item _
      by_cases hrest : rest = []
      · rw [hrest, itemLexemes, hitem]
        rfl
      · have hcomma : step? ⟨stack, .afterItem (item :: done)⟩ .comma =
            some ⟨.array (item :: done) :: stack, .value⟩ := rfl
        rw [itemLexemes_cons item hrest, foldlM_append_of_run hitem, foldlM_cons_of_step hcomma,
          foldlM_itemLexemes rest hrest, List.reverse_cons, List.append_assoc]
        rfl

/-- Members go to the object that is open. -/
theorem foldlM_memberLexemes : ∀ (members : List (StringLiteral × Json)), members ≠ [] →
    ∀ (done : List (StringLiteral × Json)) (stack : List Frame),
      (memberLexemes members).foldlM step? ⟨stack, .key done⟩ =
        some ⟨stack, .afterMember (members.reverse ++ done)⟩
  | [], h, _, _ => absurd rfl h
  | (key, value) :: rest, _, done, stack => by
      have hkey : step? ⟨stack, .key done⟩ (.string key) = some ⟨stack, .colon done key⟩ := rfl
      have hcolon : step? ⟨stack, .colon done key⟩ .colon =
          some ⟨.member done key :: stack, .value⟩ := rfl
      have hvalue : value.lexemes.foldlM step? ⟨.member done key :: stack, .value⟩ =
          some ⟨stack, .afterMember ((key, value) :: done)⟩ := foldlM_lexemes value _
      by_cases hrest : rest = []
      · rw [hrest, memberLexemes, foldlM_cons_of_step hkey, foldlM_cons_of_step hcolon, hvalue]
        rfl
      · have hcomma : step? ⟨stack, .afterMember ((key, value) :: done)⟩ .comma =
            some ⟨stack, .key ((key, value) :: done)⟩ := rfl
        rw [memberLexemes_cons key value hrest, foldlM_cons_of_step hkey,
          foldlM_cons_of_step hcolon, foldlM_append_of_run hvalue, foldlM_cons_of_step hcomma,
          foldlM_memberLexemes rest hrest, List.reverse_cons, List.append_assoc]
        rfl

end

theorem ofLexemes?_lexemes (j : Json) : ofLexemes? j.lexemes = some j := by
  rw [ofLexemes?, Builder.start, foldlM_lexemes]
  rfl

/-! ## Separation -/

theorem separated_cons {lexeme : Lexeme} (h : lexeme.isNumber = false) {rest : List Lexeme}
    (hrest : Lexeme.Separated rest) :
    Lexeme.Separated (lexeme :: rest) :=
  List.isChain_cons.2 ⟨fun _ _ hnumber => Bool.noConfusion (h.symm.trans hnumber), hrest⟩

/-- Whether what follows a tree ends a number. -/
def EndsNumber (later : List Lexeme) : Prop :=
  ∀ lexeme ∈ later.head?, lexeme.isDelimiter = true

theorem endsNumber_cons {lexeme : Lexeme} (h : lexeme.isDelimiter = true)
    (later : List Lexeme) :
    EndsNumber (lexeme :: later) := by
  rintro _ ⟨⟩
  exact h

mutual

/-- **In the lexemes of a tree every number is followed by what ends it**, if it is so after
the tree. -/
theorem separated_lexemes : ∀ (j : Json) (later : List Lexeme),
    EndsNumber later → Lexeme.Separated later → Lexeme.Separated (j.lexemes ++ later)
  | .null, _, _, hlater => separated_cons rfl hlater
  | .boolean _, _, _, hlater => separated_cons rfl hlater
  | .number _, _, hends, hlater => List.isChain_cons.2 ⟨fun l hl _ => hends l hl, hlater⟩
  | .string _, _, _, hlater => separated_cons rfl hlater
  | .array items, later, _, hlater => by
      have hitems := separated_itemLexemes items (.arrayClose :: later)
        (endsNumber_cons rfl later) (separated_cons rfl hlater)
      rw [lexemes, List.cons_append, List.append_assoc]
      exact separated_cons rfl hitems
  | .object members, later, _, hlater => by
      have hmembers := separated_memberLexemes members (.objectClose :: later)
        (endsNumber_cons rfl later) (separated_cons rfl hlater)
      rw [lexemes, List.cons_append, List.append_assoc]
      exact separated_cons rfl hmembers

theorem separated_itemLexemes : ∀ (items : List Json) (later : List Lexeme),
    EndsNumber later → Lexeme.Separated later → Lexeme.Separated (itemLexemes items ++ later)
  | [], _, _, hlater => hlater
  | item :: rest, later, hends, hlater => by
      by_cases hrest : rest = []
      · rw [hrest, itemLexemes]
        exact separated_lexemes item later hends hlater
      · have hmore := separated_itemLexemes rest later hends hlater
        rw [itemLexemes_cons item hrest, List.append_assoc]
        exact separated_lexemes item _ (endsNumber_cons rfl _) (separated_cons rfl hmore)

theorem separated_memberLexemes : ∀ (members : List (StringLiteral × Json))
    (later : List Lexeme),
    EndsNumber later → Lexeme.Separated later → Lexeme.Separated (memberLexemes members ++ later)
  | [], _, _, hlater => hlater
  | (key, value) :: rest, later, hends, hlater => by
      by_cases hrest : rest = []
      · rw [hrest, memberLexemes]
        exact separated_cons rfl (separated_cons rfl (separated_lexemes value later hends hlater))
      · have hmore := separated_memberLexemes rest later hends hlater
        rw [memberLexemes_cons key value hrest, List.cons_append, List.cons_append,
          List.append_assoc]
        exact separated_cons rfl (separated_cons rfl
          (separated_lexemes value _ (endsNumber_cons rfl _) (separated_cons rfl hmore)))

end

/-- **A plain tree is read as it is written.** -/
theorem parse?_render {j : Json} (h : j.IsPlain) : parse? j.render = some j := by
  have hseparated := separated_lexemes j [] nofun List.isChain_nil
  rw [List.append_nil] at hseparated
  rw [parse?, render, Lexeme.scan?_render h hseparated, Option.bind_some, ofLexemes?_lexemes]

end Json
end Interprocess
