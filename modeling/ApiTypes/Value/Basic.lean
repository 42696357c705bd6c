/-
# Values of a document

What a document file holds once it is read: scalars, lists, mappings from scalars to values, and sets of scalars.
Mappings keep the order in which their keys were first written.

* `Scalar.sameKey` says when two scalars are one key of a mapping.
* `Value.put` adds an entry; an entry with the same key keeps its place and gets the new value.
* `Value.lookup` finds the value under a text key.

A document may write what no value holds (`Unsupported`): a text with half of a pair of codes in it, and a collection that
is a part of itself.
-/
import ApiTypes.Binary64.Basic
import ApiTypes.Text.Numeral
import ApiTypes.Value.Calendar

namespace ApiTypes

/-- A single datum; scalars are what can be a key of a mapping. -/
inductive Scalar
  | null
  | bool (b : Bool)
  | int (n : Int)
  | float (x : Binary64)
  | text (s : String)
  | date (d : Date)
  | moment (m : Moment)
  | bytes (content : List UInt8)
  deriving DecidableEq

/-- A datum of a document. -/
inductive Value
  | scalar (s : Scalar)
  | list (items : List Value)
  | mapping (entries : List (Scalar × Value))
  | set (members : List Scalar)

instance : Inhabited Value := ⟨.scalar .null⟩

/-- What a document may write and no value holds. -/
inductive Unsupported
  | halfPair
  | cycle
  deriving DecidableEq

/-- The entries of a mapping, in order. -/
abbrev Entries := List (Scalar × Value)

namespace Scalar

/-- The number of digits that a whole number is written with. -/
def digitCount : Scalar → Nat
  | int n => (Nat.toDigits 10 n.natAbs).length
  | _ => 0

/-- Whether a datum is a whole number with too many digits to be read or written. -/
def isLong (s : Scalar) : Bool := Text.digitLimit < s.digitCount

/-! ## Keys -/

/-- The whole number that a truth value or an integer counts as. -/
def asInt? : Scalar → Option Int
  | bool b => some (if b then 1 else 0)
  | int n => some n
  | _ => none

/-- Whether two scalars are one key: numbers are compared by value and a truth value counts as one or zero, moments by
the instant, all else by content. -/
def sameKey (a b : Scalar) : Bool :=
  match a.asInt?, b.asInt? with
  | some m, some n => m = n
  | some m, none => match b with
    | float y => y.equalsInt m
    | _ => false
  | none, some n => match a with
    | float x => x.equalsInt n
    | _ => false
  | none, none => match a, b with
    | float x, float y => x.sameKey y
    | moment s, moment t => s.same t
    | _, _ => a = b

/-- Two texts are one key exactly when they are equal. -/
@[simp] theorem sameKey_text (s t : String) : sameKey (text s) (text t) = decide (s = t) := by
  simp [sameKey, asInt?]

/-- Only a text is the same key as a text. -/
theorem sameKey_text_iff {key : Scalar} {name : String} : key.sameKey (text name) = true ↔ key = text name := by
  constructor
  · intro h
    cases key <;> simp_all [sameKey, asInt?]
  · rintro rfl
    simp

end Scalar

/-! ## Mappings -/

namespace Value

/-- Sets the value under a key: a key that is there keeps its spelling and its place. -/
def put (key : Scalar) (value : Value) : Entries → Entries
  | [] => [(key, value)]
  | (k, v) :: rest => if k.sameKey key then (k, value) :: rest else (k, v) :: put key value rest

/-- The value under a text key. -/
def lookup (name : String) : Entries → Option Value
  | [] => none
  | (k, v) :: rest => if k = .text name then some v else lookup name rest

@[simp] theorem lookup_nil (name : String) : lookup name [] = none := rfl

/-- Writing under a text key shows at that key and nowhere else. -/
theorem lookup_put (name other : String) (value : Value) (entries : Entries) :
    lookup name (put (.text other) value entries) = if name = other then some value else lookup name entries := by
  induction entries with
  | nil =>
      by_cases h : name = other
      · simp [put, lookup, h]
      · simp [put, lookup, h, Ne.symm h]
  | cons entry rest ih =>
      obtain ⟨k, v⟩ := entry
      unfold put
      by_cases hk : k.sameKey (.text other)
      · have hkt : k = .text other := Scalar.sameKey_text_iff.mp hk
        subst hkt
        by_cases h : name = other
        · simp [lookup, h]
        · simp [lookup, h, Ne.symm h]
      · simp only [hk, Bool.false_eq_true, if_false, lookup, ih]
        by_cases hn : k = .text name
        · subst hn
          have hne : name ≠ other := by simpa using hk
          simp [hne]
        · simp [hn]

/-- The entries of a mapping; anything else has none to offer. -/
def entries? : Value → Option Entries
  | mapping entries => some entries
  | _ => none

/-- The items of a list. -/
def items? : Value → Option (List Value)
  | list items => some items
  | _ => none

/-- The text of a text scalar. -/
def text? : Value → Option String
  | scalar (.text s) => some s
  | _ => none

theorem mem_filterMap_text?_iff {values : List Value} {name : String} :
    name ∈ values.filterMap text? ↔ scalar (.text name) ∈ values := by
  rw [List.mem_filterMap]
  constructor
  · rintro ⟨value, hmem, hvalue⟩
    cases value with
    | scalar s =>
        cases s <;> cases hvalue
        exact hmem
    | _ => cases hvalue
  · intro hmem
    exact ⟨_, hmem, rfl⟩

/-- The text under a key, unless it is empty. -/
def nonemptyText? (name : String) (entries : Entries) : Option String :=
  match lookup name entries with
  | some (scalar (.text s)) => if s = "" then none else some s
  | _ => none

/-! ## Tests on values -/

/-- Whether a value counts as yes: not null, not false, not zero and not empty. -/
def isTruthy : Value → Bool
  | scalar .null => false
  | scalar (.bool b) => b
  | scalar (.int n) => n ≠ 0
  | scalar (.float x) => !x.isZero
  | scalar (.text s) => s ≠ ""
  | scalar (.bytes content) => !content.isEmpty
  | scalar (.date _) => true
  | scalar (.moment _) => true
  | list items => !items.isEmpty
  | mapping entries => !entries.isEmpty
  | set members => !members.isEmpty

/-- Whether a value counts as given: not null, not false, not zero and not the empty text.  Empty collections are
given. -/
def isGiven : Value → Bool
  | scalar .null => false
  | scalar (.bool b) => b
  | scalar (.int n) => n ≠ 0
  | scalar (.float x) => !x.isZero
  | scalar (.text s) => s ≠ ""
  | _ => true

end Value

end ApiTypes
