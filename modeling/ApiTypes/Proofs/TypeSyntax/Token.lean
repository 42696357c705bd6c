/-
# Tokens of types

The words, literals and signs that the text of a type is made of.  Blanks separate tokens and mean nothing else; a literal
stands in single quotes and runs to the next quote that no backslash escapes, whatever characters stand between.

The text is scanned character by character, in one of four modes (`advance`).  The laws say where a text may be cut so that
its parts can be scanned on their own:

* `tokens_append`: before a character that cannot continue a word;
* `tokens_append_of_scan`: after a part that leaves nothing open.
-/
import Mathlib.Data.List.Basic
import ApiTypes.TypeExpr.Printer

namespace ApiTypes.TypeSyntax

/-- A piece of the text of a type. -/
inductive Token
  | word (text : String)
  | literal (value : String)
  | bar
  | amp
  | openParen
  | closeParen
  | openBracket
  | closeBracket
  | openBrace
  | closeBrace
  | openAngle
  | closeAngle
  | comma
  | semicolon
  | colon
  | question

/-! ## Characters -/

/-- A letter, digit, underscore or dollar sign of ASCII. -/
def isWordChar (c : Char) : Bool :=
  c.isAlphanum || c = '_' || c = '$'

/-- What a name consists of: word characters, and dots between the name of a module and a name declared in it. -/
def isNameChar (c : Char) : Bool :=
  isWordChar c || c = '.'

/-- A plain identifier: one or more word characters. -/
def IsWord (text : String) : Prop :=
  text ≠ "" ∧ ∀ c ∈ text.toList, isWordChar c = true

instance (text : String) : Decidable (IsWord text) :=
  decidable_of_iff (text ≠ "" ∧ text.toList.all isWordChar = true) (and_congr_right fun _ => List.all_eq_true)

/-- What may stand in front of a declared name: any word characters and dots. -/
def IsQualifier (text : String) : Prop :=
  ∀ c ∈ text.toList, isNameChar c = true

instance (text : String) : Decidable (IsQualifier text) :=
  decidable_of_iff (text.toList.all isNameChar = true) List.all_eq_true

/-- The sign that a character is. -/
def sign? : Char → Option Token
  | '|' => some .bar
  | '&' => some .amp
  | '(' => some .openParen
  | ')' => some .closeParen
  | '[' => some .openBracket
  | ']' => some .closeBracket
  | '{' => some .openBrace
  | '}' => some .closeBrace
  | '<' => some .openAngle
  | '>' => some .closeAngle
  | ',' => some .comma
  | ';' => some .semicolon
  | ':' => some .colon
  | '?' => some .question
  | _ => none

/-- The character that stands for a backslash and the one after it.  Escapes by number and broken lines are not read. -/
def escape? (c : Char) : Option Char :=
  if c = 'x' ∨ c = 'u' ∨ c = '\n' ∨ c = '\r' ∨ c.isDigit then none
  else if c = 'n' then some '\n'
  else if c = 'r' then some '\r'
  else if c = 't' then some '\t'
  else if c = 'b' then some '\x08'
  else if c = 'v' then some '\x0b'
  else if c = 'f' then some '\x0c'
  else some c

/-! ## Scanning -/

/-- Where the scan stands: between tokens, or in a word, a literal or an escape inside one, with what was read of it. -/
inductive Mode
  | between
  | word (read : List Char)
  | literal (read : List Char)
  | escape (read : List Char)

/-- A character between tokens. -/
def start? (c : Char) : Option (List Token × Mode) :=
  if c = ' ' ∨ c = '\n' then some ([], .between)
  else if c = '\x27' then some ([], .literal [])
  else if isNameChar c then some ([], .word [c])
  else (sign? c).map fun token => ([token], .between)

/-- One character: the tokens that end with it or before it, and the mode after it. -/
def advance : Mode → Char → Option (List Token × Mode)
  | .between, c => start? c
  | .word read, c =>
    if isNameChar c then some ([], .word (read ++ [c]))
    else (start? c).map fun next => (.word (String.ofList read) :: next.1, next.2)
  | .literal read, c =>
    if c = '\x27' then some ([.literal (String.ofList read)], .between)
    else if c = '\\' then some ([], .escape read)
    else some ([], .literal (read ++ [c]))
  | .escape read, c => (escape? c).map fun d => ([], .literal (read ++ [d]))

/-- The tokens of a text, and the mode at its end. -/
def scan : Mode → List Char → Option (List Token × Mode)
  | mode, [] => some ([], mode)
  | mode, c :: rest =>
    (advance mode c).bind fun next => (scan next.2 rest).map fun after => (next.1 ++ after.1, after.2)

/-- What the end of the text completes; a literal must be closed. -/
def finish : Mode → Option (List Token)
  | .between => some []
  | .word read => some [.word (String.ofList read)]
  | .literal _ => none
  | .escape _ => none

/-- The tokens of a text that was scanned to its end. -/
def complete (scanned : List Token × Mode) : Option (List Token) :=
  (finish scanned.2).map (scanned.1 ++ ·)

/-- The tokens of a text. -/
def tokens (text : String) : Option (List Token) :=
  (scan .between text.toList).bind complete

/-! ## Cutting a text -/

/-- A scan that goes character by character, and puts what it finds one behind the other, goes on where it stopped. -/
theorem scanner_append {State Item : Type} {step : State → Char → Option (List Item × State)}
    {run : State → List Char → Option (List Item × State)} (hnil : ∀ s, run s [] = some ([], s))
    (hcons : ∀ s c rest, run s (c :: rest) =
      (step s c).bind fun next => (run next.2 rest).map fun after => (next.1 ++ after.1, after.2))
    (s : State) (first second : List Char) :
    run s (first ++ second) =
      (run s first).bind fun read => (run read.2 second).map fun after => (read.1 ++ after.1, after.2) := by
  induction first generalizing s with
  | nil => simp [hnil]
  | cons c rest ih =>
      rw [List.cons_append, hcons, hcons]
      cases step s c with
      | none => rfl
      | some next =>
          simp only [Option.bind_some, ih next.2]
          cases run next.2 rest with
          | none => rfl
          | some read =>
              simp only [Option.map_some, Option.bind_some, Option.map_map]
              congr 1
              funext after
              simp

theorem scan_append (mode : Mode) (first second : List Char) :
    scan mode (first ++ second) =
      (scan mode first).bind fun read => (scan read.2 second).map fun after => (read.1 ++ after.1, after.2) :=
  scanner_append (fun _ => rfl) (fun _ _ _ => rfl) mode first second

/-- Tokens read before are put in front of what the rest of the text gives. -/
theorem bind_complete_map (read : List Token) (scanned : Option (List Token × Mode)) :
    (scanned.map fun after => (read ++ after.1, after.2)).bind complete = (scanned.bind complete).map (read ++ ·) := by
  cases scanned with
  | none => rfl
  | some after =>
      simp only [Option.map_some, Option.bind_some, complete]
      cases finish after.2 with
      | none => rfl
      | some last => simp

/-- After a part that leaves nothing open, the rest is scanned on its own. -/
theorem tokens_append_of_scan (first : String) (read : List Token)
    (h : scan .between first.toList = some (read, .between)) (second : String) :
    tokens (first ++ second) = (tokens second).map (read ++ ·) := by
  rw [tokens, tokens, String.toList_append, scan_append, h, Option.bind_some, bind_complete_map]

/-- **Cutting a text.**  Before a character that cannot continue a word, a text may be cut into parts that are scanned on
their own. -/
theorem tokens_append {first second : String} {read : List Token} (hfirst : tokens first = some read)
    (hsecond : ∀ c ∈ second.toList.head?, isNameChar c = false) :
    tokens (first ++ second) = (tokens second).map (read ++ ·) := by
  rw [tokens] at hfirst
  cases hscan : scan .between first.toList with
  | none => rw [hscan] at hfirst; exact absurd hfirst (by simp)
  | some before =>
      obtain ⟨done, mode⟩ := before
      rw [hscan, Option.bind_some] at hfirst
      -- a text that has tokens does not end inside a literal
      cases mode with
      | literal pending => exact absurd hfirst (by simp [complete, finish])
      | escape pending => exact absurd hfirst (by simp [complete, finish])
      | between =>
          have hread : done = read := by simpa [complete, finish] using hfirst
          exact tokens_append_of_scan first read (hread ▸ hscan) second
      | word pending =>
          have hread : done ++ [.word (String.ofList pending)] = read := by
            simpa [complete, finish] using hfirst
          subst hread
          rw [tokens, tokens, String.toList_append, scan_append, hscan, Option.bind_some, bind_complete_map]
          cases hchars : second.toList with
          | nil => simp [scan, complete, finish]
          | cons c rest =>
              have hc : isNameChar c = false := hsecond c (by simp [hchars])
              -- the character ends the word and is then read as between tokens
              simp only [scan, advance, hc, Bool.false_eq_true, if_false]
              cases start? c with
              | none => rfl
              | some next =>
                  simp only [Option.bind_some, Option.map_some, bind_complete_map]
                  cases (scan next.2 rest).bind complete with
                  | none => rfl
                  | some after => simp

/-! ## Words and literals -/

theorem scan_word (read letters : List Char) (h : ∀ c ∈ letters, isNameChar c = true) :
    scan (.word read) letters = some ([], .word (read ++ letters)) := by
  induction letters generalizing read with
  | nil => simp [scan]
  | cons c rest ih =>
      have hc : isNameChar c = true := h c List.mem_cons_self
      have hrest := ih (read ++ [c]) fun d hd => h d (List.mem_cons_of_mem _ hd)
      simp [scan, advance, hc, hrest]

theorem isNameChar_of_isWordChar {c : Char} (h : isWordChar c = true) : isNameChar c = true := by
  simp [isNameChar, h]

/-- A name character starts a word. -/
theorem start?_of_isNameChar {c : Char} (h : isNameChar c = true) : start? c = some ([], .word [c]) := by
  have hblank : ¬ (c = ' ' ∨ c = '\n') := by
    rintro (rfl | rfl) <;> exact absurd h (by decide)
  have hquote : c ≠ '\x27' := by
    rintro rfl
    exact absurd h (by decide)
  rw [start?, if_neg hblank, if_neg hquote, if_pos h]

/-- A text of name characters is one word. -/
theorem tokens_word {text : String} (hne : text ≠ "") (h : ∀ c ∈ text.toList, isNameChar c = true) :
    tokens text = some [.word text] := by
  rw [tokens]
  cases hchars : text.toList with
  | nil => exact absurd (String.toList_eq_nil_iff.mp hchars) hne
  | cons c rest =>
      have hc : isNameChar c = true := h c (by simp [hchars])
      have hrest : ∀ d ∈ rest, isNameChar d = true := fun d hd => h d (by simp [hchars, hd])
      simp only [scan, advance, start?_of_isNameChar hc, Option.bind_some, scan_word [c] rest hrest,
        Option.map_some]
      simp [← hchars, complete, finish]

/-- The characters of a literal are read back one by one. -/
theorem scan_literalChars (read value : List Char) :
    scan (.literal read) (value.flatMap TypeText.literalChar) = some ([], .literal (read ++ value)) := by
  induction value generalizing read with
  | nil => simp [scan]
  | cons c rest ih =>
      rw [List.flatMap_cons, scan_append]
      have hchar : scan (.literal read) (TypeText.literalChar c) = some ([], .literal (read ++ [c])) := by
        by_cases hescaped : c = '\\' ∨ c = '\x27'
        · rw [TypeText.literalChar, if_pos hescaped]
          rcases hescaped with rfl | rfl <;> simp [scan, advance, escape?]
        · rw [TypeText.literalChar, if_neg hescaped]
          push Not at hescaped
          simp [scan, advance, hescaped.1, hescaped.2]
      rw [hchar, Option.bind_some, ih (read ++ [c])]
      simp

/-- A literal is one token, and scanning it leaves nothing open. -/
theorem scan_literal (value : String) :
    scan .between (TypeText.literal value).toList = some ([.literal value], .between) := by
  rw [TypeText.toList_literal, List.cons_append, scan, advance, start?, if_neg (by decide), if_pos rfl,
    Option.bind_some, scan_append, scan_literalChars]
  simp [scan, advance]

theorem tokens_literal (value : String) : tokens (TypeText.literal value) = some [.literal value] := by
  rw [tokens, scan_literal]
  rfl

end ApiTypes.TypeSyntax
