import Interprocess.Json.Record
import Interprocess.Proofs.Json.Parsing
import Mathlib.Data.List.Nodup

/-!
# Records are read as they are written

A value goes to a tree and the tree to a text.  The way back has the same two parts: a tree that is
plain comes back from its text (`Interprocess.Proofs.Json.Parsing`), and this module says what
comes back from a tree, for scalars and for records in general.

**Results.**
* `isPlain_ofFields`, `isPlain_ofBytes`: the trees that are written are plain.
* `toFields?_ofFields`: the fields of a record are found under their names.
* `decode?_encode_of_ofJson?`: what comes back from the tree of a value comes back from its text.
-/

namespace Interprocess
namespace Json

/-! ## Plain trees -/

@[simp] theorem isPlain_null : IsPlain null := by
  intro lexeme h
  rw [List.mem_singleton.1 h]
  trivial

@[simp] theorem isPlain_ofInt (i : Int) : IsPlain (ofInt i) := by
  intro lexeme h
  rw [List.mem_singleton.1 h]
  rfl

@[simp] theorem isPlain_ofNat (n : Nat) : IsPlain (ofNat n) := isPlain_ofInt n

@[simp] theorem isPlain_ofWord (w : UInt32) : IsPlain (ofWord w) := isPlain_ofNat w.toNat

theorem plain_ofText (s : String) : (Lexeme.string (StringLiteral.ofText s)).IsPlain := by
  intro part hpart
  obtain ⟨b, -, rfl⟩ := List.mem_map.1 hpart
  unfold StringLiteral.ofByte
  split
  · trivial
  · next h => exact Bool.eq_false_iff.2 h

@[simp] theorem isPlain_ofText (s : String) : IsPlain (ofText s) := by
  intro lexeme h
  rw [List.mem_singleton.1 h]
  exact plain_ofText s

theorem mem_itemLexemes {lexeme : Lexeme} {items : List Json} (h : lexeme ∈ itemLexemes items) :
    lexeme = .comma ∨ ∃ item ∈ items, lexeme ∈ item.lexemes := by
  induction items with
  | nil => cases h
  | cons item rest ih =>
      by_cases hrest : rest = []
      · rw [hrest, itemLexemes] at h
        exact Or.inr ⟨item, List.mem_cons_self, h⟩
      · rw [itemLexemes_cons item hrest, List.mem_append, List.mem_cons] at h
        rcases h with hitem | rfl | hlater
        · exact Or.inr ⟨item, List.mem_cons_self, hitem⟩
        · exact Or.inl rfl
        · exact (ih hlater).imp_right fun ⟨other, hmem, hlexeme⟩ =>
            ⟨other, List.mem_cons_of_mem item hmem, hlexeme⟩

theorem mem_memberLexemes {lexeme : Lexeme} {members : List (StringLiteral × Json)}
    (h : lexeme ∈ memberLexemes members) :
    lexeme = .comma ∨ lexeme = .colon ∨
      ∃ member ∈ members, lexeme = .string member.1 ∨ lexeme ∈ member.2.lexemes := by
  induction members with
  | nil => cases h
  | cons member rest ih =>
      obtain ⟨key, value⟩ := member
      have hhere : lexeme = .string key ∨ lexeme = .colon ∨ lexeme ∈ value.lexemes →
          lexeme = .comma ∨ lexeme = .colon ∨ ∃ member ∈ (key, value) :: rest,
            lexeme = .string member.1 ∨ lexeme ∈ member.2.lexemes := by
        rintro (hkey | hcolon | hvalue)
        · exact Or.inr (Or.inr ⟨_, List.mem_cons_self, Or.inl hkey⟩)
        · exact Or.inr (Or.inl hcolon)
        · exact Or.inr (Or.inr ⟨_, List.mem_cons_self, Or.inr hvalue⟩)
      by_cases hrest : rest = []
      · rw [hrest, memberLexemes, List.mem_cons, List.mem_cons] at h
        exact hhere h
      · rw [memberLexemes_cons key value hrest, List.mem_cons, List.mem_cons, List.mem_append,
          List.mem_cons] at h
        rcases h with hkey | hcolon | hvalue | rfl | hlater
        · exact hhere (Or.inl hkey)
        · exact hhere (Or.inr (Or.inl hcolon))
        · exact hhere (Or.inr (Or.inr hvalue))
        · exact Or.inl rfl
        · rcases ih hlater with hcomma | hcolon | ⟨other, hmem, hlexeme⟩
          · exact Or.inl hcomma
          · exact Or.inr (Or.inl hcolon)
          · exact Or.inr (Or.inr ⟨other, List.mem_cons_of_mem _ hmem, hlexeme⟩)

theorem isPlain_array {items : List Json} (h : ∀ item ∈ items, item.IsPlain) :
    IsPlain (array items) := by
  intro lexeme hlexeme
  rw [lexemes, List.mem_cons, List.mem_append, List.mem_singleton] at hlexeme
  rcases hlexeme with rfl | hitem | rfl
  · trivial
  · rcases mem_itemLexemes hitem with rfl | ⟨item, hmem, hin⟩
    · trivial
    · exact h item hmem lexeme hin
  · trivial

@[simp] theorem isPlain_ofBytes (bytes : Bytes) : IsPlain (ofBytes bytes) := by
  refine isPlain_array fun item hitem => ?_
  obtain ⟨b, -, rfl⟩ := List.mem_map.1 hitem
  exact isPlain_ofInt _

/-- A record is written plainly if its fields are. -/
theorem isPlain_ofFields {fields : List (String × Json)} (h : ∀ field ∈ fields, field.2.IsPlain) :
    IsPlain (ofFields fields) := by
  intro lexeme hlexeme
  rw [ofFields, lexemes, List.mem_cons, List.mem_append, List.mem_singleton] at hlexeme
  rcases hlexeme with rfl | hmember | rfl
  · trivial
  · rcases mem_memberLexemes hmember with rfl | rfl | ⟨member, hmem, hin⟩
    · trivial
    · trivial
    · obtain ⟨field, hfield, rfl⟩ := List.mem_map.1 hmem
      rcases hin with rfl | hvalue
      · exact plain_ofText field.1
      · exact h field hfield lexeme hvalue
  · trivial

/-! ## Scalars -/

@[simp] theorem toText?_ofText (s : String) : (ofText s).toText? = some s :=
  StringLiteral.text?_ofText s

theorem toInt?_ofInt (i : Int) : (ofInt i).toInt? = some i :=
  NumberLiteral.toInt?_ofInt i

theorem toNatBelow?_ofNat {n bound : Nat} (h : n < bound) :
    (ofNat n).toNatBelow? bound = some n := by
  rw [toNatBelow?, ofNat, toInt?_ofInt, Option.bind_some, if_pos ⟨by omega, by omega⟩]
  rfl

theorem toLong?_ofNat {n : Nat} (h : n < 0x10000000000000000) : (ofNat n).toLong? = some n :=
  toNatBelow?_ofNat h

@[simp] theorem toWord?_ofWord (w : UInt32) : (ofWord w).toWord? = some w := by
  have hbound : w.toNat < 0x100000000 := by
    have := w.toNat_lt
    omega
  rw [toWord?, ofWord, toNatBelow?_ofNat hbound, Option.map_some, UInt32.ofNat_toNat]

theorem toByte?_ofNat (b : UInt8) : (ofNat b.toNat).toByte? = some b := by
  rw [toByte?, toNatBelow?_ofNat b.toNat_lt, Option.map_some, UInt8.ofNat_toNat]

@[simp] theorem toBytes?_ofBytes (bytes : Bytes) : (ofBytes bytes).toBytes? = some bytes := by
  have hbyte : (toByte? ∘ fun b : UInt8 => ofNat b.toNat) = fun b => (pure b : Option UInt8) := by
    funext b
    rw [Function.comp_apply, toByte?_ofNat, Option.pure_def]
  rw [ofBytes, toBytes?, List.mapM_map, hbyte, List.mapM_pure, List.map_id']
  rfl

/-! ## Records -/

/-- Every field is the only one of its name. -/
theorem onlyMember?_of_nodup {fields : List (String × Json)}
    (h : (fields.map Prod.fst).Nodup) {field : String × Json} (hfield : field ∈ fields) :
    onlyMember? field.1 fields = some (some field.2) := by
  have honly : fields.filter (fun member => member.1 == field.1) = [field] := by
    induction fields with
    | nil => cases hfield
    | cons first rest ih =>
        obtain ⟨hfirst, hrest⟩ := List.nodup_cons.1 h
        rcases List.mem_cons.1 hfield with rfl | hmem
        · have hnone : rest.filter (fun member => member.1 == field.1) = [] := by
            refine List.filter_eq_nil_iff.2 fun member hmember heq => hfirst ?_
            rw [← beq_iff_eq.1 heq]
            exact List.mem_map_of_mem hmember
          rw [List.filter_cons, if_pos (beq_self_eq_true _), hnone]
        · have hne : ¬ (first.1 == field.1) = true := fun heq => by
            rw [beq_iff_eq.1 heq] at hfirst
            exact hfirst (List.mem_map_of_mem hmem)
          rw [List.filter_cons, if_neg hne]
          exact ih hrest hmem
  rw [onlyMember?, honly]

/-- **The fields of a record are found under their names.** -/
theorem toFields?_ofFields {fields : List (String × Json)} (h : (fields.map Prod.fst).Nodup)
    (optional : Nat) :
    (ofFields fields).toFields? (fields.map Prod.fst) optional =
      some (fields.map fun field => some field.2) := by
  have hkeys : (fields.map fun field => (StringLiteral.ofText field.1, field.2)).mapM
      (fun member => (StringLiteral.text? member.1).map fun key => (key, member.2)) =
        some fields := by
    have hfield : ((fun member : StringLiteral × Json =>
        (StringLiteral.text? member.1).map fun key => (key, member.2)) ∘
          fun field : String × Json => (StringLiteral.ofText field.1, field.2)) =
        fun field => pure field := by
      funext field
      simp [StringLiteral.text?_ofText]
    rw [List.mapM_map, hfield, List.mapM_pure, List.map_id']
    rfl
  have hvalues : ∀ found ⊆ fields, (found.map Prod.fst).mapM
      (fun name => onlyMember? name fields) = some (found.map fun field => some field.2) := by
    intro found hfound
    induction found with
    | nil => rfl
    | cons field rest ih =>
        obtain ⟨hfield, hrest⟩ := List.cons_subset.1 hfound
        rw [List.map_cons, List.mapM_cons, onlyMember?_of_nodup h hfield, ih hrest]
        rfl
  rw [ofFields, toFields?, hkeys]
  exact hvalues fields (List.Subset.refl fields)

theorem toFields?_zip {names : List String} {values : List Json} (h : names.Nodup)
    (hlength : names.length = values.length) (optional : Nat) :
    (ofFields (names.zip values)).toFields? names optional = some (values.map some) := by
  have hnames := List.map_fst_zip (Nat.le_of_eq hlength)
  have hvalues := List.map_snd_zip (Nat.le_of_eq hlength.symm)
  have hfields := toFields?_ofFields (hnames.symm ▸ h) optional
  have hmap : (names.zip values).map (fun field => some field.2) = values.map some := by
    conv => rhs; rw [← hvalues, List.map_map]
    rfl
  rw [hnames] at hfields
  rw [hfields, hmap]

theorem toFields?_one (name : String) (value : Json) (optional : Nat) :
    (ofFields [(name, value)]).toFields? [name] optional = some [some value] := by
  let fields : List (String × Json) := [(name, value)]
  have hnames : (fields.map Prod.fst).Nodup := List.nodup_singleton name
  exact toFields?_ofFields hnames optional

theorem toFields?_two {name other : String} (h : name ≠ other) (value otherValue : Json)
    (optional : Nat) :
    (ofFields [(name, value), (other, otherValue)]).toFields? [name, other] optional =
      some [some value, some otherValue] := by
  let fields : List (String × Json) := [(name, value), (other, otherValue)]
  have hnames : (fields.map Prod.fst).Nodup := by simpa [fields] using h
  exact toFields?_ofFields hnames optional

/-- What comes back from the tree of a value comes back from its text. -/
theorem decode?_encode_of_ofJson? {α : Type} [Form α] {a : α}
    (hplain : (Form.toJson a).IsPlain) (h : Form.ofJson? (Form.toJson a) = some a) :
    decode? (encode a) = some a := by
  rw [decode?, encode, parse?_render hplain, Option.bind_some, h]

end Json
end Interprocess
