/-
# What keeps a text from being cut into tokens

Each reader of a part of a text is followed to the faults that it may report.  All of them say that the text breaks a
rule of YAML, or writes what no value holds, with two exceptions: an escape in double quotes may write a code to which there
is no character, and the version in a directive may have too many digits.

* `onlyFails_bind`: the faults of two steps are those of the first and those of the second.
* `isTextual_of_scan`: the fault behind the tokens of a text is one of these.
-/
import ApiTypes.Yaml.Layout
import Mathlib.Data.List.Basic

namespace ApiTypes.Yaml

/-! ## Faults that may be reported -/

section OnlyFails

variable {α β ε ε' : Type} {p : ε → Prop}

/-- Whether every fault that may be reported satisfies a test. -/
def OnlyFails (p : ε → Prop) (x : Except ε α) : Prop := ∀ e, x = .error e → p e

@[simp] theorem onlyFails_ok (p : ε → Prop) (a : α) : OnlyFails p (.ok a) := nofun

@[simp] theorem onlyFails_pure (p : ε → Prop) (a : α) : OnlyFails p (pure a : Except ε α) := nofun

@[simp] theorem onlyFails_error {e : ε} : OnlyFails p (.error e : Except ε α) ↔ p e := by
  constructor
  · intro h
    exact h e rfl
  · rintro h _ ⟨⟩
    exact h

/-- A fault that is passed on. -/
theorem OnlyFails.error {x : Except ε α} {e : ε} (h : OnlyFails p x) (he : x = .error e) :
    OnlyFails p (.error e : Except ε β) :=
  onlyFails_error.mpr (h e he)

/-- The faults of two steps are those of the first and those of the second. -/
@[simp] theorem onlyFails_bind {x : Except ε α} {f : α → Except ε β} :
    OnlyFails p (x >>= f) ↔ OnlyFails p x ∧ ∀ a, x = .ok a → OnlyFails p (f a) := by
  cases x with
  | error e =>
      show OnlyFails p (.error e) ↔ _
      rw [onlyFails_error, onlyFails_error]
      exact (and_iff_left nofun).symm
  | ok a =>
      show OnlyFails p (f a) ↔ _
      constructor
      · intro h
        refine ⟨onlyFails_ok p a, ?_⟩
        rintro _ ⟨⟩
        exact h
      · rintro ⟨_, h⟩
        exact h a rfl

@[simp] theorem onlyFails_map {x : Except ε α} {f : α → β} : OnlyFails p (x.map f) ↔ OnlyFails p x := by
  cases x <;> simp [Except.map]

@[simp] theorem onlyFails_fmap {x : Except ε α} {f : α → β} : OnlyFails p (f <$> x) ↔ OnlyFails p x :=
  onlyFails_map

@[simp] theorem onlyFails_mapError {p : ε' → Prop} {x : Except ε α} {f : ε → ε'} :
    OnlyFails p (x.mapError f) ↔ OnlyFails (fun e => p (f e)) x := by
  cases x <;> simp [Except.mapError]

@[simp] theorem onlyFails_ite {c : Prop} [Decidable c] {x y : Except ε α} :
    OnlyFails p (if c then x else y) ↔ (c → OnlyFails p x) ∧ (¬ c → OnlyFails p y) := by
  split <;> simp_all

end OnlyFails

/-- Whether a fault of a scalar may be met before there are scalars: a code without a character, or too many digits. -/
def DatumFault.IsTextual : DatumFault → Prop
  | code => True
  | hugeCode => True
  | digits _ => True
  | _ => False

/-- Whether a fault is one in the text, or one of the few of scalars that are met there. -/
def Error.IsTextual (e : Error) : Prop := ∀ fault, e = .datum fault → fault.IsTextual

@[simp] theorem Error.isTextual_malformed (fault : Fault) : (Error.malformed fault).IsTextual := nofun

@[simp] theorem Error.isTextual_unsupported (what : Unsupported) : (Error.unsupported what).IsTextual := nofun

@[simp] theorem Error.isTextual_datum {fault : DatumFault} : (Error.datum fault).IsTextual ↔ fault.IsTextual := by
  constructor
  · intro h
    exact h fault rfl
  · rintro h _ ⟨⟩
    exact h

@[simp] theorem onlyFails_refuse (fault : Fault) {α : Type} : OnlyFails Error.IsTextual (refuse fault : Except Error α) :=
  onlyFails_error.mpr (Error.isTextual_malformed fault)

/-! ## Names, tags and directives -/

@[simp] theorem onlyFails_readAnchorName (c : Cursor) : OnlyFails Error.IsTextual (readAnchorName c) := by
  simp [readAnchorName]

@[simp] theorem onlyFails_readUri (fault : Fault) (c : Cursor) : OnlyFails Error.IsTextual (readUri fault c) := by
  unfold readUri
  split <;> simp

@[simp] theorem onlyFails_readHandle (fault : Fault) (c : Cursor) : OnlyFails Error.IsTextual (readHandle fault c) := by
  unfold readHandle
  split <;> simp

@[simp] theorem onlyFails_readTag (c : Cursor) : OnlyFails Error.IsTextual (readTag c) := by
  simp [readTag]

@[simp] theorem onlyFails_readVersionNumber (c : Cursor) : OnlyFails Error.IsTextual (readVersionNumber c) := by
  simp [readVersionNumber, DatumFault.IsTextual]

@[simp] theorem onlyFails_readVersion (c : Cursor) : OnlyFails Error.IsTextual (readVersion c) := by
  simp [readVersion]

@[simp] theorem onlyFails_readHandleDirective (c : Cursor) : OnlyFails Error.IsTextual (readHandleDirective c) := by
  simp [readHandleDirective]

@[simp] theorem onlyFails_finishLine (fault : Fault) (c : Cursor) : OnlyFails Error.IsTextual (finishLine fault c) := by
  simp only [finishLine]
  split <;> simp

@[simp] theorem onlyFails_readDirective (c : Cursor) : OnlyFails Error.IsTextual (readDirective c) := by
  simp [readDirective]

/-! ## Scalars -/

@[simp] theorem onlyFails_takeIncrement (c : Cursor) : OnlyFails Error.IsTextual (takeIncrement c) := by
  unfold takeIncrement
  split <;> simp

@[simp] theorem onlyFails_readHeader (c : Cursor) : OnlyFails Error.IsTextual (readHeader c) := by
  simp [readHeader]

@[simp] theorem onlyFails_readBlockScalar (folded : Bool) (margin : Nat) (c : Cursor) :
    OnlyFails Error.IsTextual (readBlockScalar folded margin c) := by
  simp [readBlockScalar]

@[simp] theorem onlyFails_charOfCode (code : Nat) : OnlyFails Error.IsTextual (charOfCode code) := by
  unfold charOfCode
  split
  · simp [DatumFault.IsTextual]
  · split
    · simp [DatumFault.IsTextual]
    · split <;> simp

@[simp] theorem onlyFails_readCode (length : Nat) (c : Cursor) : OnlyFails Error.IsTextual (readCode length c) := by
  simp only [readCode]
  split
  · simp
  · split <;> simp

@[simp] theorem onlyFails_quotedBreaks (fuel : Nat) (c : Cursor) : OnlyFails Error.IsTextual (quotedBreaks fuel c) := by
  induction fuel generalizing c with
  | zero => simp [quotedBreaks]
  | succ fuel ih =>
      simp only [quotedBreaks]
      split
      · simp
      · split <;> simp [ih]

@[simp] theorem onlyFails_readQuoted (double : Bool) (fuel : Nat) (done : List Char) (c : Cursor) :
    OnlyFails Error.IsTextual (readQuoted double fuel done c) := by
  induction fuel generalizing done c with
  | zero => simp [readQuoted]
  | succ fuel ih =>
      simp only [readQuoted]
      split
      · simp
      · split
        · -- blanks, and the line ends that may follow them
          split
          · split <;> simp [ih]
          · simp [ih]
        · split
          · simp [ih]
          · split
            · split
              · simp
              · split
                · -- an escape
                  split
                  · simp
                  · split
                    · simp [ih]
                    · simp [ih]
                    · split <;> simp [ih]
                · simp [ih]
            · simp [ih]

@[simp] theorem onlyFails_readQuotedScalar (double : Bool) (c : Cursor) :
    OnlyFails Error.IsTextual (readQuotedScalar double c) := by
  simp [readQuotedScalar]

/-! ## Layout -/

namespace Layout

variable (l : Layout)

@[simp] theorem onlyFails_dropKey : OnlyFails Error.IsTextual l.dropKey := by
  unfold dropKey
  split <;> simp

@[simp] theorem onlyFails_dropStaleKeys : OnlyFails Error.IsTextual l.dropStaleKeys := by
  simp [dropStaleKeys]

@[simp] theorem onlyFails_noteKey : OnlyFails Error.IsTextual l.noteKey := by
  simp [noteKey]

@[simp] theorem onlyFails_endAll : OnlyFails Error.IsTextual l.endAll := by
  simp [endAll]

/-- The faults of a part of a node are those of its reader. -/
@[simp] theorem onlyFails_nodePart {read : Cursor → Except Error (Token × Cursor)}
    (h : ∀ c, OnlyFails Error.IsTextual (read c)) : OnlyFails Error.IsTextual (l.nodePart read) := by
  simp [nodePart, h]

@[simp] theorem onlyFails_named (token : String → Token) : OnlyFails Error.IsTextual (l.named token) := by
  simp [named]

@[simp] theorem onlyFails_plain : OnlyFails Error.IsTextual l.plain := by
  simp [plain]

@[simp] theorem onlyFails_block (folded : Bool) : OnlyFails Error.IsTextual (l.block folded) := by
  simp [block]

@[simp] theorem onlyFails_openBracket (token : Token) : OnlyFails Error.IsTextual (l.openBracket token) := by
  simp [openBracket]

@[simp] theorem onlyFails_closeBracket (token : Token) : OnlyFails Error.IsTextual (l.closeBracket token) := by
  simp [closeBracket]

@[simp] theorem onlyFails_comma : OnlyFails Error.IsTextual l.comma := by
  simp [comma]

@[simp] theorem onlyFails_openFor (token : Token) : OnlyFails Error.IsTextual (l.openFor token) := by
  simp [openFor]

@[simp] theorem onlyFails_dash : OnlyFails Error.IsTextual l.dash := by
  simp [dash]

@[simp] theorem onlyFails_questionMark : OnlyFails Error.IsTextual l.questionMark := by
  simp [questionMark]

@[simp] theorem onlyFails_colon : OnlyFails Error.IsTextual l.colon := by
  unfold colon
  split <;> simp

@[simp] theorem onlyFails_documentMark (token : Token) : OnlyFails Error.IsTextual (l.documentMark token) := by
  simp [documentMark]

@[simp] theorem onlyFails_directive : OnlyFails Error.IsTextual l.directive := by
  simp [directive]

theorem onlyFails_token (ch : Char) : OnlyFails Error.IsTextual (l.token ch) := by
  simp [token]

theorem onlyFails_advance : OnlyFails Error.IsTextual l.advance := by
  simp only [advance, onlyFails_bind, onlyFails_dropStaleKeys, true_and]
  intro next _
  split
  · exact onlyFails_map.mpr (onlyFails_endAll _)
  · exact onlyFails_map.mpr (onlyFails_token _ _)

/-- The fault at which the tokens break off is met by one of the steps. -/
theorem isTextual_of_run {fuel : Nat} {e : Error} (h : (l.run fuel).fault = some e) : e.IsTextual := by
  induction fuel generalizing l with
  | zero => cases h
  | succ fuel ih =>
      rw [run] at h
      split at h
      · rename_i fault hadvance
        cases h
        exact onlyFails_advance l _ hadvance
      · cases h
      · exact ih _ h

end Layout

/-- **The fault behind the tokens of a text** breaks a rule, or is a code without a character or too long a number. -/
theorem isTextual_of_scan {s : List Char} {e : Error} (h : (scan s).fault = some e) : e.IsTextual := by
  rw [scan] at h
  split at h
  · cases h
    exact Error.isTextual_malformed _
  · exact Layout.isTextual_of_run _ h

end ApiTypes.Yaml
