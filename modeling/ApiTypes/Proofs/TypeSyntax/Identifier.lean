/-
# Identifiers and keys

The texts that can be declared names, and those that can be keys of fields.

An identifier begins with a letter, an underscore or a dollar sign and goes on with these and digits.  Which characters
beyond ASCII count as letters and digits depends on the version of Unicode; it is left open (`IdentifierChars`).  An
identifier written with escapes by number is not looked at.

* `IsIdentifier`: what a declaration can be called: an identifier that is no reserved word.
* `IsKey`: what a field can be called: an identifier, reserved or not, or any text in quotes.
* `isIdentifier_iff_of_isUpper`: behind a capital letter only the other characters matter.
-/
import Mathlib
import ApiTypes.Proofs.TypeSyntax.Token

namespace ApiTypes.TypeSyntax

/-! ## Characters -/

/-- The characters that identifiers begin with and consist of.  Those of ASCII are settled. -/
structure IdentifierChars where
  isStart : Char → Bool
  isPart : Char → Bool
  isPart_of_isStart {c : Char} : isStart c = true → isPart c = true
  isStart_ascii {c : Char} : c.toNat < 0x80 → isStart c = (c.isAlpha || c = '_' || c = '$')
  isPart_ascii {c : Char} : c.toNat < 0x80 → isPart c = isWordChar c

/-- Word characters are ASCII characters. -/
theorem toNat_lt_of_isWordChar {c : Char} (h : isWordChar c = true) : c.toNat < 0x80 := by
  simp only [isWordChar, Char.isAlphanum, Char.isAlpha, Char.isUpper, Char.isLower, Char.isDigit, Bool.or_eq_true,
    Bool.and_eq_true, decide_eq_true_eq] at h
  rcases h with (((hupper | hlower) | hdigit) | rfl) | rfl
  · have hle : c.toNat ≤ 90 := hupper.2
    omega
  · have hle : c.toNat ≤ 122 := hlower.2
    omega
  · have hle : c.toNat ≤ 57 := hdigit.2
    omega
  · decide
  · decide

/-- A letter that is raised stays a letter, and other characters are not changed. -/
theorem apply_toUpper {p : Char → Bool} (h : ∀ c : Char, c.isAlpha = true → p c = true) (c : Char) :
    p c.toUpper = p c := by
  by_cases hlower : c.isLower = true
  · have halpha : c.isAlpha = true := by simp [Char.isAlpha, hlower]
    have hraised : c.toUpper.isAlpha = true := by rw [Char.isAlpha_toUpper_eq_isAlpha, halpha]
    rw [h _ halpha, h _ hraised]
  · rw [Char.toUpper_eq_of_not_isLower hlower]

/-- With ASCII characters only. -/
def IdentifierChars.ascii : IdentifierChars where
  isStart c := c.isAlpha || c = '_' || c = '$'
  isPart := isWordChar
  isPart_of_isStart := by
    intro c h
    simp only [Bool.or_eq_true] at h
    rcases h with (h | h) | h <;> simp [isWordChar, Char.isAlphanum, h]
  isStart_ascii _ := rfl
  isPart_ascii _ := rfl

namespace IdentifierChars

variable (chars : IdentifierChars)

theorem isStart_of_isAlpha {c : Char} (h : c.isAlpha = true) : chars.isStart c = true := by
  have hword : isWordChar c = true := by simp [isWordChar, Char.isAlphanum, h]
  rw [chars.isStart_ascii (toNat_lt_of_isWordChar hword), h]
  rfl

theorem isPart_of_isWordChar {c : Char} (h : isWordChar c = true) : chars.isPart c = true := by
  rw [chars.isPart_ascii (toNat_lt_of_isWordChar h), h]

theorem isPart_of_isAlpha {c : Char} (h : c.isAlpha = true) : chars.isPart c = true :=
  chars.isPart_of_isStart (chars.isStart_of_isAlpha h)

@[simp] theorem isStart_toUpper (c : Char) : chars.isStart c.toUpper = chars.isStart c :=
  apply_toUpper (fun _ => chars.isStart_of_isAlpha) c

@[simp] theorem isPart_toUpper (c : Char) : chars.isPart c.toUpper = chars.isPart c :=
  apply_toUpper (fun _ => chars.isPart_of_isAlpha) c

end IdentifierChars

/-! ## Identifiers -/

/-- A text that is spelled like an identifier. -/
structure IsIdentifierName (chars : IdentifierChars) (text : String) : Prop where
  start : ∃ c ∈ text.toList.head?, chars.isStart c = true
  parts : ∀ c ∈ text.toList, chars.isPart c = true

/-- The words that have a meaning of their own, and the names of the built-in types: none of them can be declared. -/
def reservedWords : List String :=
  ["any", "await", "bigint", "boolean", "break", "case", "catch", "class", "const", "continue", "debugger", "default",
    "delete", "do", "else", "enum", "export", "extends", "false", "finally", "for", "function", "if", "implements", "import",
    "in", "instanceof", "interface", "let", "never", "new", "null", "number", "object", "package", "private", "protected",
    "public", "return", "static", "string", "super", "switch", "symbol", "this", "throw", "true", "try", "typeof",
    "undefined", "unknown", "var", "void", "while", "with", "yield"]

/-- What a declaration can be called. -/
structure IsIdentifier (chars : IdentifierChars) (text : String) : Prop extends IsIdentifierName chars text where
  not_reserved : text ∉ reservedWords

/-- A word that is reserved begins with a small letter. -/
theorem not_mem_reservedWords {text : String} (h : ∀ c ∈ text.toList.head?, c.isLower = false) :
    text ∉ reservedWords := by
  have hlower : reservedWords.all (fun word => word.toList.head?.any Char.isLower) = true := by decide
  intro hmem
  obtain ⟨c, hc, hlow⟩ := Option.any_eq_true _ _ |>.mp (List.all_eq_true.mp hlower text hmem)
  rw [h c hc] at hlow
  cases hlow

/-- Without a small letter at the beginning, what is spelled like an identifier is one. -/
theorem isIdentifier_iff {chars : IdentifierChars} {text : String} (h : ∀ c ∈ text.toList.head?, c.isLower = false) :
    IsIdentifier chars text ↔ IsIdentifierName chars text :=
  ⟨fun hid => hid.toIsIdentifierName, fun hname => ⟨hname, not_mem_reservedWords h⟩⟩

/-- **Behind a capital letter** only the other characters matter. -/
theorem isIdentifier_iff_of_isUpper {chars : IdentifierChars} {text : String} {c : Char} {rest : List Char}
    (h : text.toList = c :: rest) (hupper : c.isUpper = true) :
    IsIdentifier chars text ↔ ∀ d ∈ text.toList, chars.isPart d = true := by
  have hlower : c.isLower = false := by
    rw [← Bool.not_eq_true]
    exact Char.not_isLower_of_isUpper hupper
  rw [isIdentifier_iff (by simp [h, hlower])]
  constructor
  · exact fun hname => hname.parts
  · intro hparts
    exact ⟨⟨c, by simp [h], chars.isStart_of_isAlpha (by simp [Char.isAlpha, hupper])⟩, hparts⟩

example : IsIdentifier .ascii "User_2" :=
  (isIdentifier_iff_of_isUpper rfl (by decide)).mpr (List.all_eq_true.mp (by decide))

/-! ## Keys -/

/-- One character of a text in quotes, or a backslash and the character that it escapes. -/
def IsQuotedPiece (quote : Char) (piece : List Char) : Prop :=
  (∃ c, piece = [c] ∧ c ∉ [quote, '\\', '\n', '\r']) ∨ ∃ c, piece = ['\\', c]

/-- A text in single or double quotes. -/
def IsQuoted (text : String) : Prop :=
  ∃ quote ∈ ['\x27', '"'], ∃ pieces : List (List Char),
    text.toList = quote :: pieces.flatten ++ [quote] ∧ ∀ piece ∈ pieces, IsQuotedPiece quote piece

/-- What a field can be called. -/
def IsKey (chars : IdentifierChars) (text : String) : Prop :=
  IsIdentifierName chars text ∨ IsQuoted text

example (chars : IdentifierChars) : IsKey chars "'a b'" := by
  refine .inr ⟨'\x27', by decide, [['a'], [' '], ['b']], by decide, ?_⟩
  simp [IsQuotedPiece]

end ApiTypes.TypeSyntax
