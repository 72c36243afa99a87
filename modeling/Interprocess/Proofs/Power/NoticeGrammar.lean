import Interprocess.Proofs.Power.Announcement
import Mathlib.Data.List.Induction

/-!
# The grammar of shutdown announcements

An announcement is a line of text that ends in a message, and the message may be any text, the marks
of the line included.  This module says which lines are announcements without looking at how they
are taken apart, and shows that the reader accepts just these.

**Numerals.**  `Text.Spells` builds a numeral digit by digit, with its number.  Zeros may stand in
front, and one plus sign before them.

**Unique reading.**  No numeral holds a colon, so the first mark after it is where the message
begins, and the reader, which looks for the first mark, finds that one.

**Results.**
* `Text.ofDecimal?_eq_some_iff`: the reader of digits follows `Text.Spells`.
* `ofEnvelope?_of_reads`, `reads_of_ofEnvelope?`: the two directions of the grammar.
* `notice_grammar`: which envelopes are announcements, and of what.
-/

namespace Interprocess

namespace Text

/-! ## Numerals -/

/-- Whether decimal digits spell a number.  Zeros may stand in front. -/
inductive Spells : List Char → Nat → Prop
  | digit {d : Nat} (h : d < 10) : Spells [d.digitChar] d
  | append {digits : List Char} {n d : Nat} (hdigits : Spells digits n) (h : d < 10) :
      Spells (digits ++ [d.digitChar]) (10 * n + d)

/-- Whether a numeral stands for a number: digits that spell it, with or without a plus sign. -/
def IsNumeral (numeral : String) (n : Nat) : Prop :=
  ∃ digits, Spells digits n ∧
    (numeral = String.ofList digits ∨ numeral = "+" ++ String.ofList digits)

variable {c : Char} {digits : List Char} {n d : Nat}

theorem isDecimalDigit_digitChar (h : d < 10) : isDecimalDigit d.digitChar = true := by
  have hall : ∀ d : Fin 10, isDecimalDigit (Nat.digitChar d) = true := by decide
  exact hall ⟨d, h⟩

/-- A digit at the end. -/
theorem ofDigitChars_append_digit (digits : List Char) (h : d < 10) :
    Nat.ofDigitChars 10 (digits ++ [d.digitChar]) 0 = 10 * Nat.ofDigitChars 10 digits 0 + d := by
  have hall : ∀ d : Fin 10, (Nat.digitChar d).toNat - 48 = d := by decide
  have hdigit : d.digitChar.toNat - 48 = d := hall ⟨d, h⟩
  rw [Nat.ofDigitChars_append]
  simp [Nat.ofDigitChars, hdigit]

theorem exists_digitChar (h : isDecimalDigit c = true) : ∃ d < 10, c = d.digitChar := by
  have hrange : '0'.toNat ≤ c.toNat ∧ c.toNat ≤ '9'.toNat := by
    simpa [isDecimalDigit, Char.le_def, UInt32.le_iff_toNat_le] using h
  obtain ⟨d, hd⟩ := Nat.exists_eq_add_of_le hrange.1
  have hlt : d < 10 := by
    have hnine : '9'.toNat = '0'.toNat + 9 := rfl
    omega
  have hall : ∀ d : Fin 10, Char.ofNat ('0'.toNat + d) = Nat.digitChar d := by decide
  refine ⟨d, hlt, ?_⟩
  rw [← Char.ofNat_toNat c, hd]
  exact hall ⟨d, hlt⟩

theorem Spells.ne_nil (h : Spells digits n) : digits ≠ [] := by
  cases h <;> simp

theorem Spells.isDecimalDigit_of_mem (h : Spells digits n) (hc : c ∈ digits) :
    isDecimalDigit c = true := by
  induction h with
  | digit h =>
      obtain rfl := List.mem_singleton.1 hc
      exact isDecimalDigit_digitChar h
  | append _ h ih =>
      rcases List.mem_append.1 hc with hc | hc
      · exact ih hc
      · obtain rfl := List.mem_singleton.1 hc
        exact isDecimalDigit_digitChar h

theorem Spells.value (h : Spells digits n) : Nat.ofDigitChars 10 digits 0 = n := by
  induction h with
  | digit h => exact (ofDigitChars_append_digit [] h).trans (Nat.zero_add _)
  | append _ h ih => rw [ofDigitChars_append_digit _ h, ih]

theorem spells_ofDigitChars (hne : digits ≠ []) (h : ∀ c ∈ digits, isDecimalDigit c = true) :
    Spells digits (Nat.ofDigitChars 10 digits 0) := by
  induction digits using List.reverseRecOn with
  | nil => exact absurd rfl hne
  | append_singleton rest c ih =>
      obtain ⟨d, hd, rfl⟩ := exists_digitChar (h c (by simp))
      rw [ofDigitChars_append_digit rest hd]
      by_cases hrest : rest = []
      · subst hrest
        simpa [Nat.ofDigitChars] using Spells.digit hd
      · exact .append (ih hrest fun c hc => h c (List.mem_append_left _ hc)) hd

/-- The reader of digits follows the grammar of numerals. -/
theorem ofDecimal?_eq_some_iff : ofDecimal? digits = some n ↔ Spells digits n := by
  constructor
  · intro h
    unfold ofDecimal? at h
    split at h
    · cases h
    · next hne =>
        split at h
        · next hdigits =>
            cases h
            exact spells_ofDigitChars (by simpa using hne) (List.all_eq_true.1 hdigits)
        · cases h
  · intro h
    rw [ofDecimal?, if_neg (by simpa using h.ne_nil),
      if_pos (List.all_eq_true.2 fun c hc => h.isDecimalDigit_of_mem hc), h.value]

theorem isNumeral_decimal (n : Nat) : IsNumeral (decimal n) n :=
  ⟨_, ofDecimal?_eq_some_iff.1 (ofDecimal?_decimal n), Or.inl (String.ofList_toList).symm⟩

/-- No digit is a plus sign. -/
theorem Spells.afterHead?_plus (h : Spells digits n) : afterHead? ['+'] digits = none := by
  cases digits with
  | nil => rfl
  | cons c rest =>
      have hdigit := h.isDecimalDigit_of_mem List.mem_cons_self
      have hne : '+' ≠ c := by
        rintro rfl
        exact absurd hdigit (by decide)
      rw [afterHead?, if_neg hne]

/-- A numeral is read without its plus sign. -/
theorem isNumeral_iff {numeral : String} :
    IsNumeral numeral n ↔
      ofDecimal? ((afterHead? ['+'] numeral.toList).getD numeral.toList) = some n := by
  rw [ofDecimal?_eq_some_iff]
  constructor
  · rintro ⟨digits, hdigits, rfl | rfl⟩
    · rw [String.toList_ofList, hdigits.afterHead?_plus]
      exact hdigits
    · have hplus : ("+" ++ String.ofList digits).toList = ['+'] ++ digits := by simp
      rw [hplus, afterHead?_append]
      exact hdigits
  · intro h
    refine ⟨_, h, ?_⟩
    cases hplus : afterHead? ['+'] numeral.toList with
    | none => exact Or.inl (by simp)
    | some digits =>
        refine Or.inr (String.toList_inj.1 ?_)
        rw [append_of_afterHead? hplus]
        simp

theorem IsNumeral.unique {numeral : String} {m : Nat} (h : IsNumeral numeral n)
    (hother : IsNumeral numeral m) :
    m = n := by
  rw [isNumeral_iff] at h hother
  exact Option.some.inj (hother.symm.trans h)

theorem IsNumeral.colon_notMem {numeral : String} (h : IsNumeral numeral n) :
    ':' ∉ numeral.toList := by
  obtain ⟨digits, hdigits, hnumeral⟩ := h
  have hcolon : ':' ∉ digits := fun hmem =>
    absurd (hdigits.isDecimalDigit_of_mem hmem) (by decide)
  rcases hnumeral with rfl | rfl
  · simpa using hcolon
  · simpa using hcolon

end Text

namespace ShutdownNotice

/-! ## Lines -/

/-- The line that announces something, with any numeral for the reason. -/
def line (kind : PowerKind) (numeral message : String) : String :=
  (match kind with
    | .shutdown => "SHUTDOWN:"
    | .reboot => "REBOOT:") ++ "reason=" ++ numeral ++ ":message=" ++ message

/-- Whether a payload reads as an announcement: it is such a line, and its numeral stands for a
number. -/
structure Reads (payload : Bytes) (kind : PowerKind) (numeral : String) (number : Nat)
    (message : String) : Prop where
  isNumeral : Text.IsNumeral numeral number
  encoded : payload = Utf8.encode (line kind numeral message)

variable {e : Envelope} {payload : Bytes} {kind : PowerKind} {numeral message : String}
  {number : Nat} {notice : ShutdownNotice}

theorem toList_line (kind : PowerKind) (numeral message : String) :
    (line kind numeral message).toList = (opening kind).toList ++ (reasonMark.toList ++
      (numeral.toList ++ (messageMark.toList ++ message.toList))) := by
  simp only [line, String.toList_append, List.append_assoc]
  cases kind <;> rfl

theorem reads_text (notice : ShutdownNotice) :
    Reads (Utf8.encode notice.text) notice.kind (Text.decimal notice.reason.number)
      notice.reason.number notice.message where
  isNumeral := Text.isNumeral_decimal _
  encoded := congrArg Utf8.encode (String.toList_inj.1 (notice.toList_text.trans
    (toList_line _ _ _).symm))

theorem reason?_of_isNumeral (h : Text.IsNumeral numeral number) :
    reason? numeral.toList = ShutdownReason.ofNumber? number := by
  rw [reason?, Text.isNumeral_iff.1 h]
  rfl

theorem isNumeral_of_reason? {numeral : List Char} {reason : ShutdownReason}
    (h : reason? numeral = some reason) :
    Text.IsNumeral (String.ofList numeral) reason.number := by
  obtain ⟨n, hdigits, hnumber⟩ := Option.bind_eq_some_iff.1 h
  rw [ShutdownReason.number_of_ofNumber? hnumber, Text.isNumeral_iff, String.toList_ofList]
  exact hdigits

/-- A line is read as what it announces, if there is a reason of its number. -/
theorem ofEnvelope?_of_reads (hkind : e.kind = MessageKind.shutdownRequest)
    (h : Reads e.payload kind numeral number message) :
    ofEnvelope? e = (ShutdownReason.ofNumber? number).map fun reason =>
      { kind, reason, message, flags := e.flags, sender := e.sender } := by
  have hline : e.text? = some (line kind numeral message) :=
    Utf8.decode?_eq_some_iff.2 h.encoded.symm
  rw [ofEnvelope?_of_parts hkind hline (toList_line _ _ _) h.isNumeral.colon_notMem,
    reason?_of_isNumeral h.isNumeral, String.ofList_toList]

theorem append_of_afterOpening? {text rest : List Char}
    (h : afterOpening? text = some (kind, rest)) :
    text = (opening kind).toList ++ rest := by
  unfold afterOpening? at h
  split at h
  · next hshutdown =>
      cases h
      exact Text.append_of_afterHead? hshutdown
  · obtain ⟨rest, hreboot, heq⟩ := Option.map_eq_some_iff.1 h
    cases heq
    exact Text.append_of_afterHead? hreboot

/-- What is read was written. -/
theorem reads_of_ofEnvelope? (h : ofEnvelope? e = some notice) :
    e.kind = MessageKind.shutdownRequest ∧
      (∃ numeral, Reads e.payload notice.kind numeral notice.reason.number notice.message) ∧
      notice.flags = e.flags ∧ notice.sender = e.sender := by
  unfold ofEnvelope? at h
  split at h
  · next hkind =>
      simp only [Option.bind_eq_bind, Option.bind_eq_some_iff] at h
      obtain ⟨text, htext, ⟨kind, opened⟩, hopened, marked, hmarked, ⟨numeral, message⟩, hsplit,
        reason, hreason, heq⟩ := h
      cases heq
      have hafter : Text.afterHead? reasonMark.toList opened = some marked := hmarked
      refine ⟨hkind, ⟨String.ofList numeral, ?_, ?_⟩, rfl, rfl⟩
      · exact isNumeral_of_reason? hreason
      · rw [← Utf8.decode?_eq_some_iff.1 htext]
        refine congrArg Utf8.encode (String.toList_inj.1 ?_)
        rw [toList_line, String.toList_ofList, String.toList_ofList,
          append_of_afterOpening? hopened, Text.append_of_afterHead? hafter,
          Text.append_of_splitAtFirst? hsplit]
  · cases h

theorem line_inj {kind' : PowerKind} {numeral' message' : String}
    (h : ':' ∉ numeral.toList) (h' : ':' ∉ numeral'.toList)
    (heq : line kind numeral message = line kind' numeral' message') :
    kind = kind' ∧ numeral = numeral' ∧ message = message' := by
  have hparts := congrArg String.toList heq
  rw [toList_line, toList_line] at hparts
  have hopened := congrArg afterOpening? hparts
  rw [afterOpening?_opening, afterOpening?_opening] at hopened
  obtain ⟨hkind, hrest⟩ := Prod.mk.inj (Option.some.inj hopened)
  have hsplit := congrArg (Text.splitAtFirst? messageMark.toList)
    (List.append_cancel_left hrest)
  rw [splitAtFirst?_messageMark h, splitAtFirst?_messageMark h'] at hsplit
  obtain ⟨hnumeral, hmessage⟩ := Prod.mk.inj (Option.some.inj hsplit)
  exact ⟨hkind, String.toList_inj.1 hnumeral, String.toList_inj.1 hmessage⟩

/-- No payload reads in two ways. -/
theorem Reads.unique {kind' : PowerKind} {numeral' message' : String} {number' : Nat}
    (h : Reads payload kind numeral number message)
    (hother : Reads payload kind' numeral' number' message') :
    kind' = kind ∧ numeral' = numeral ∧ number' = number ∧ message' = message := by
  have hline : line kind' numeral' message' = line kind numeral message := by
    have hread := Utf8.decode?_eq_some_iff.2 h.encoded.symm
    rw [Utf8.decode?_eq_some_iff.2 hother.encoded.symm] at hread
    exact Option.some.inj hread
  obtain ⟨rfl, rfl, rfl⟩ :=
    line_inj hother.isNumeral.colon_notMem h.isNumeral.colon_notMem hline
  exact ⟨rfl, rfl, h.isNumeral.unique hother.isNumeral, rfl⟩

/-- **The grammar of announcements.**  An envelope is an announcement exactly if it has the kind of
one and its payload is a line `SHUTDOWN:reason=<number>:message=<text>`, or one that begins with
`REBOOT:`, whose numeral stands for a number of at most 6.  A payload reads in one way only, and the
announcement says what is read, with the flags and the sender of the envelope.  So an envelope that
carries the text of an announcement is read as that announcement, whatever its message contains. -/
theorem notice_grammar (e : Envelope) :
    ((ofEnvelope? e).isSome = true ↔ e.kind = MessageKind.shutdownRequest ∧
      ∃ kind numeral number message, number ≤ 6 ∧ Reads e.payload kind numeral number message) ∧
    (∀ kind numeral number message, Reads e.payload kind numeral number message →
      (∀ kind' numeral' number' message', Reads e.payload kind' numeral' number' message' →
        kind' = kind ∧ numeral' = numeral ∧ number' = number ∧ message' = message) ∧
      ∀ reason : ShutdownReason, e.kind = MessageKind.shutdownRequest → reason.number = number →
        ofEnvelope? e = some { kind, reason, message, flags := e.flags, sender := e.sender }) ∧
    ∀ notice : ShutdownNotice, e.kind = MessageKind.shutdownRequest →
      e.payload = Utf8.encode notice.text → e.flags = notice.flags → e.sender = notice.sender →
        ofEnvelope? e = some notice := by
  have hread : ∀ kind numeral message (reason : ShutdownReason),
      e.kind = MessageKind.shutdownRequest →
        Reads e.payload kind numeral reason.number message →
          ofEnvelope? e = some { kind, reason, message, flags := e.flags, sender := e.sender } := by
    intro kind numeral message reason hkind h
    rw [ofEnvelope?_of_reads hkind h, ShutdownReason.ofNumber?_number]
    rfl
  refine ⟨⟨?_, ?_⟩, ?_, ?_⟩
  · intro h
    obtain ⟨notice, hnotice⟩ := Option.isSome_iff_exists.1 h
    obtain ⟨hkind, ⟨numeral, hreads⟩, -⟩ := reads_of_ofEnvelope? hnotice
    exact ⟨hkind, _, numeral, _, _, Nat.le_of_lt_succ notice.reason.number_lt, hreads⟩
  · rintro ⟨hkind, kind, numeral, number, message, hnumber, hreads⟩
    rw [ofEnvelope?_of_reads hkind hreads, Option.isSome_map,
      ShutdownReason.ofNumber?_isSome_iff]
    exact Nat.lt_succ_of_le hnumber
  · intro kind numeral number message hreads
    refine ⟨fun _ _ _ _ hother => hreads.unique hother, ?_⟩
    rintro reason hkind rfl
    exact hread kind numeral message reason hkind hreads
  · intro notice hkind hpayload hflags hsender
    have hreads := reads_text notice
    rw [← hpayload] at hreads
    rw [hread _ _ _ _ hkind hreads, hflags, hsender]

/-- A plus sign and zeros stand before the number, and the message holds the marks of a line. -/
theorem notice_grammar_of_marked_message :
    let message := "now:message=REBOOT:reason=1:message="
    let e : Envelope :=
      { kind := MessageKind.shutdownRequest, sender := 3, receiver := Pid.broadcast,
        payload := Utf8.encode ("SHUTDOWN:reason=+006:message=" ++ message), sequence := 0,
        timestamp := 5, flags := 1 }
    let notice : ShutdownNotice :=
      { kind := .shutdown, reason := .panic, message := message, flags := 1, sender := 3 }
    Reads e.payload .shutdown "+006" 6 message ∧ ofEnvelope? e = some notice := by
  intro message e notice
  have hnumeral : Text.IsNumeral "+006" 6 := by
    rw [Text.isNumeral_iff]
    decide
  have hreads : Reads e.payload .shutdown "+006" 6 message := ⟨hnumeral, by decide⟩
  obtain ⟨-, hread, -⟩ := notice_grammar e
  exact ⟨hreads, (hread _ _ _ _ hreads).2 .panic rfl rfl⟩

end ShutdownNotice

end Interprocess
