/-
# Literals and their values

A literal stands in single quotes, and its value is a sequence of 16-bit units: a character beyond the first 65536 has two.
Between the quotes every character stands for itself, except the backslash, which begins an escape: of one character, by a
number of two or four hexadecimal digits or in braces, of the character zero, or of the end of a line, which stands for
nothing.

The text between the quotes is cut into pieces (`literalPieces?`), each a plain character or an escape with its units.  A text
is a literal when it can be cut and no plain piece is a quote, a line feed or a carriage return (`IsLiteralOf`).

* `units_injective`: a text is known from its units.
* `literal_eq_escapeEach`: escaping in one pass is escaping the backslashes first and the quotes afterwards.
* `quotesPieces_literal`: the pieces of a literal that is written.
* `isLiteralOf_literal_iff`: which literals that are written can be read, and what they stand for.
-/
import ApiTypes.Proofs.TypeSyntax.Token
import ApiTypes.Text.Numeral

namespace ApiTypes.TypeSyntax

open TypeText (literal literalChar)

/-! ## Units -/

/-- The units of a code point: the code itself, or the two halves of a pair. -/
def unitsOfCode (code : Nat) : List Nat :=
  if code < 0x10000 then [code] else [0xD800 + (code - 0x10000) / 0x400, 0xDC00 + (code - 0x10000) % 0x400]

/-- The units of a text. -/
def units (text : List Char) : List Nat :=
  text.flatMap fun c => unitsOfCode c.toNat

/-- The codes of the halves of pairs are no characters. -/
theorem toNat_cases (c : Char) : c.toNat < 0xD800 ∨ 0xDFFF < c.toNat ∧ c.toNat < 0x110000 := c.valid

/-- The first units of a text are those of its first character. -/
theorem eq_of_unitsOfCode_append {c d : Char} {rest others : List Nat}
    (h : unitsOfCode c.toNat ++ rest = unitsOfCode d.toNat ++ others) : c = d ∧ rest = others := by
  have hc := toNat_cases c
  have hd := toNat_cases d
  have hcode : c.toNat = d.toNat ∧ rest = others := by
    unfold unitsOfCode at h
    split at h <;> split at h <;> simp only [List.cons_append, List.nil_append, List.cons.injEq] at h
    · exact h
    -- one unit is never the first half of a pair
    · omega
    · omega
    · exact ⟨by omega, h.2.2⟩
  exact ⟨Char.toNat_inj.mp hcode.1, hcode.2⟩

theorem unitsOfCode_ne_nil (code : Nat) : unitsOfCode code ≠ [] := by
  unfold unitsOfCode
  split <;> exact List.cons_ne_nil _ _

/-- **Units.**  A text is known from its units. -/
theorem units_injective : Function.Injective units := by
  intro s t h
  induction s generalizing t with
  | nil =>
      cases t with
      | nil => rfl
      | cons d others => exact absurd (List.append_eq_nil_iff.mp h.symm).1 (unitsOfCode_ne_nil _)
  | cons c rest ih =>
      cases t with
      | nil => exact absurd (List.append_eq_nil_iff.mp h).1 (unitsOfCode_ne_nil _)
      | cons d others =>
          obtain ⟨rfl, hrest⟩ := eq_of_unitsOfCode_append h
          rw [ih hrest]

/-! ## Pieces -/

/-- A piece of the text between the quotes: a character that stands for itself, or an escape with the units that it stands
for. -/
inductive LiteralPiece
  | plain (c : Char)
  | escape (units : List Nat)
  deriving DecidableEq

/-- What a piece stands for. -/
def LiteralPiece.units : LiteralPiece → List Nat
  | plain c => unitsOfCode c.toNat
  | escape units => units

/-- Where the cutting stands: between pieces, or inside an escape.  `zero` is behind an escaped digit zero, `lineEnd` behind
an escaped carriage return.  In an escape by number, `digits` knows how many digits are missing behind the next one, and
`braces` the code read so far. -/
inductive LiteralPlace
  | between
  | backslash
  | zero
  | lineEnd
  | digits (missing code : Nat)
  | number
  | braces (code : Option Nat)

/-- A character between pieces. -/
def beginPiece (c : Char) : List LiteralPiece × LiteralPlace :=
  if c = '\\' then ([], .backslash) else ([.plain c], .between)

/-- A piece that ends before a character. -/
def endBefore (c : Char) (piece : LiteralPiece) : List LiteralPiece × LiteralPlace :=
  (piece :: (beginPiece c).1, (beginPiece c).2)

/-- A hexadecimal digit. -/
def hexDigit? (c : Char) : Option Nat :=
  (Text.digitValue? c).filter (· < 16)

/-- The next digit of an escape with a fixed number of digits. -/
def nextDigit (missing code : Nat) (c : Char) : Option (List LiteralPiece × LiteralPlace) :=
  (hexDigit? c).map fun digit =>
    match missing with
    | 0 => ([.escape [code * 16 + digit]], .between)
    | missing + 1 => ([], .digits missing (code * 16 + digit))

/-- The character behind a backslash. -/
def beginEscape (c : Char) : Option (List LiteralPiece × LiteralPlace) :=
  if c = 'x' then some ([], .digits 1 0)
  else if c = 'u' then some ([], .number)
  else if c = '0' then some ([], .zero)
  else if c = '\r' then some ([], .lineEnd)
  else if c = '\n' ∨ c = '\u2028' ∨ c = '\u2029' then some ([.escape []], .between)
  else (escape? c).map fun d => ([.escape (unitsOfCode d.toNat)], .between)

/-- One character: the pieces that end with it or before it, and the place after it. -/
def advanceLiteral : LiteralPlace → Char → Option (List LiteralPiece × LiteralPlace)
  | .between, c => some (beginPiece c)
  | .backslash, c => beginEscape c
  | .zero, c => if c.isDigit then none else some (endBefore c (.escape [0]))
  | .lineEnd, c => some (if c = '\n' then ([.escape []], .between) else endBefore c (.escape []))
  | .digits missing code, c => nextDigit missing code c
  | .number, c => if c = '{' then some ([], .braces none) else nextDigit 3 0 c
  | .braces code, c =>
    if c = '}' then code.map fun code => ([.escape (unitsOfCode code)], .between)
    else
      ((hexDigit? c).map fun digit => code.getD 0 * 16 + digit).filter (· < 0x110000) |>.map fun code =>
        ([], .braces (some code))

/-- The pieces of a text between quotes, and the place at its end. -/
def cutLiteral : LiteralPlace → List Char → Option (List LiteralPiece × LiteralPlace)
  | place, [] => some ([], place)
  | place, c :: rest =>
    (advanceLiteral place c).bind fun next => (cutLiteral next.2 rest).map fun after => (next.1 ++ after.1, after.2)

/-- What the end of the text completes; no other escape may be left open. -/
def endLiteral : LiteralPlace → Option (List LiteralPiece)
  | .between => some []
  | .zero => some [.escape [0]]
  | .lineEnd => some [.escape []]
  | _ => none

/-- The pieces of a whole text between quotes. -/
def literalPieces? (inner : List Char) : Option (List LiteralPiece) :=
  (cutLiteral .between inner).bind fun cut => (endLiteral cut.2).map (cut.1 ++ ·)

example : literalPieces? "a\\'\\x41\\u\x7b1F600\x7d\\\n\\0".toList =
    some [.plain 'a', .escape [0x27], .escape [0x41], .escape [0xD83D, 0xDE00], .escape [], .escape [0]] := by decide

example : literalPieces? "a\\".toList = none := by decide

/-! ## Literals -/

/-- A text in single quotes with the given pieces between them, none of which is a bare quote. -/
def QuotesPieces (text : String) (pieces : List LiteralPiece) : Prop :=
  ∃ inner, text.toList = '\x27' :: inner ++ ['\x27'] ∧ literalPieces? inner = some pieces ∧ .plain '\x27' ∉ pieces

/-- A text that is a literal, and what it stands for. -/
def IsLiteralOf (text value : String) : Prop :=
  ∃ pieces, QuotesPieces text pieces ∧ .plain '\n' ∉ pieces ∧ .plain '\r' ∉ pieces ∧
    pieces.flatMap LiteralPiece.units = units value.toList

/-- The pieces are known from the text. -/
theorem QuotesPieces.unique {text : String} {pieces others : List LiteralPiece} (h : QuotesPieces text pieces)
    (h' : QuotesPieces text others) : pieces = others := by
  obtain ⟨inner, htext, hpieces, _⟩ := h
  obtain ⟨inner', htext', hpieces', _⟩ := h'
  have hinner : inner = inner' := by
    rw [htext, List.cons_append, List.cons_append, List.cons.injEq] at htext'
    exact List.append_cancel_right htext'.2
  rw [hinner, hpieces'] at hpieces
  exact (Option.some.inj hpieces).symm

/-! ## Literals that are written -/

/-- A backslash in front of each occurrence of a character. -/
def escapeEach (special : Char) (s : List Char) : List Char :=
  s.flatMap fun c => if c = special then ['\\', c] else [c]

/-- **Two passes.**  The backslashes are escaped before the quotes, so that those in front of quotes stay single. -/
theorem literal_eq_escapeEach (value : String) :
    (literal value).toList = '\x27' :: escapeEach '\x27' (escapeEach '\\' value.toList) ++ ['\x27'] := by
  have hchar : ∀ c, escapeEach '\x27' (if c = '\\' then ['\\', c] else [c]) = literalChar c := by
    intro c
    by_cases hbackslash : c = '\\'
    · subst hbackslash
      rfl
    · rw [if_neg hbackslash]
      by_cases hquote : c = '\x27'
      · subst hquote
        rfl
      · simp [escapeEach, literalChar, hbackslash, hquote]
  have hpasses : escapeEach '\x27' (escapeEach '\\' value.toList) = value.toList.flatMap literalChar := by
    rw [escapeEach, escapeEach, List.flatMap_assoc]
    exact List.flatMap_congr fun c _ => hchar c
  rw [hpasses, TypeText.toList_literal]

/-- The piece that a character is written as. -/
def pieceOf (c : Char) : LiteralPiece :=
  if c = '\\' ∨ c = '\x27' then .escape (unitsOfCode c.toNat) else .plain c

theorem units_pieceOf (c : Char) : (pieceOf c).units = unitsOfCode c.toNat := by
  unfold pieceOf
  split <;> rfl

theorem plain_mem_map_pieceOf_iff {c : Char} {s : List Char} :
    .plain c ∈ s.map pieceOf ↔ c ∈ s ∧ c ≠ '\\' ∧ c ≠ '\x27' := by
  have hplain : ∀ d, pieceOf d = .plain c ↔ d = c ∧ c ≠ '\\' ∧ c ≠ '\x27' := by
    intro d
    unfold pieceOf
    split
    · rename_i hescaped
      constructor
      · nofun
      · rintro ⟨rfl, hbackslash, hquote⟩
        exact absurd hescaped (not_or.mpr ⟨hbackslash, hquote⟩)
    · rename_i hplain
      rw [LiteralPiece.plain.injEq]
      exact ⟨fun h => ⟨h, h ▸ not_or.mp hplain⟩, And.left⟩
  simp only [List.mem_map, hplain]
  constructor
  · rintro ⟨_, hmem, rfl, hne⟩
    exact ⟨hmem, hne⟩
  · rintro ⟨hmem, hne⟩
    exact ⟨c, hmem, rfl, hne⟩

theorem cutLiteral_append (place : LiteralPlace) (first second : List Char) :
    cutLiteral place (first ++ second) =
      (cutLiteral place first).bind fun cut =>
        (cutLiteral cut.2 second).map fun after => (cut.1 ++ after.1, after.2) :=
  scanner_append (fun _ => rfl) (fun _ _ _ => rfl) place first second

theorem cutLiteral_literalChar (c : Char) : cutLiteral .between (literalChar c) = some ([pieceOf c], .between) := by
  by_cases hescaped : c = '\\' ∨ c = '\x27'
  · rcases hescaped with rfl | rfl <;> rfl
  · have hbackslash : c ≠ '\\' := (not_or.mp hescaped).1
    rw [literalChar, if_neg hescaped, pieceOf, if_neg hescaped, cutLiteral, advanceLiteral, beginPiece, if_neg hbackslash]
    rfl

/-- The characters of a literal are its pieces. -/
theorem literalPieces?_flatMap_literalChar (s : List Char) :
    literalPieces? (s.flatMap literalChar) = some (s.map pieceOf) := by
  have hcut : cutLiteral .between (s.flatMap literalChar) = some (s.map pieceOf, .between) := by
    induction s with
    | nil => rfl
    | cons c rest ih =>
        rw [List.flatMap_cons, cutLiteral_append, cutLiteral_literalChar, Option.bind_some, ih]
        rfl
  simp [literalPieces?, hcut, endLiteral]

/-- **Written literals.**  Whatever the value, a literal is in quotes, its only quotes inside are escaped and no escape is left
open. -/
theorem quotesPieces_literal (value : String) : QuotesPieces (literal value) (value.toList.map pieceOf) := by
  refine ⟨_, TypeText.toList_literal value, literalPieces?_flatMap_literalChar value.toList, ?_⟩
  rw [plain_mem_map_pieceOf_iff]
  exact fun h => h.2.2 rfl

/-- Its pieces stand for the value. -/
theorem units_map_pieceOf (s : List Char) : (s.map pieceOf).flatMap LiteralPiece.units = units s := by
  rw [units, List.flatMap_map]
  exact List.flatMap_congr fun c _ => units_pieceOf c

/-- **Values.**  A literal that is written is a literal of its value and of nothing else, if no line ends in the value;
otherwise it is no literal. -/
theorem isLiteralOf_literal_iff (value other : String) :
    IsLiteralOf (literal value) other ↔ other = value ∧ '\n' ∉ value.toList ∧ '\r' ∉ value.toList := by
  -- ends of lines are plain pieces
  have hplain : ∀ c ∈ ['\n', '\r'], .plain c ∈ value.toList.map pieceOf ↔ c ∈ value.toList := by
    intro c hc
    rw [plain_mem_map_pieceOf_iff, and_iff_left]
    constructor <;> rintro rfl <;> simp at hc
  have hfeed := hplain '\n' (by decide)
  have hreturn := hplain '\r' (by decide)
  constructor
  · rintro ⟨pieces, hpieces, hnofeed, hnoreturn, hvalue⟩
    rw [hpieces.unique (quotesPieces_literal value)] at hnofeed hnoreturn hvalue
    rw [units_map_pieceOf] at hvalue
    exact ⟨(String.toList_inj.mp (units_injective hvalue)).symm, mt hfeed.mpr hnofeed, mt hreturn.mpr hnoreturn⟩
  · rintro ⟨rfl, hnofeed, hnoreturn⟩
    exact ⟨_, quotesPieces_literal other, mt hfeed.mp hnofeed, mt hreturn.mp hnoreturn, units_map_pieceOf other.toList⟩

end ApiTypes.TypeSyntax
