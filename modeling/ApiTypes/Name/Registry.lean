/-
# The registry of declared names

While a document is worked through, the names already given to declarations are kept in a `NameSet`.  The name of a
schema is reserved as it is; the name of a request declaration is claimed and, when it is taken, numbered.

The number is the least one that gives a free name.  Of `n` taken names and the `n + 1` spellings `c`, `c1`, …, `cn`
one is free, so that the search needs at most `n` numbers.
-/
import ApiTypes.Name.NameSet

namespace ApiTypes

/-- The names in use. -/
abbrev Registry := NameSet

namespace Registry

/-- A candidate followed by a number. -/
def numbered (candidate : String) (k : Nat) : String :=
  candidate ++ k.repr

/-- The least number from `k` on, among the next `tries`, that makes the candidate free. -/
def freeNumber (taken : Registry) (candidate : String) : (tries k : Nat) → Nat
  | 0, k => k
  | tries + 1, k => if numbered candidate k ∈ taken then freeNumber taken candidate tries (k + 1) else k

/-- The name that a claim hands out: the candidate if it is free, else the candidate with the least free number. -/
def freeName (taken : Registry) (candidate : String) : String :=
  if candidate ∈ taken then numbered candidate (freeNumber taken candidate taken.size 1) else candidate

/-- Marks a name as used without changing it. -/
def reserve (taken : Registry) (name : String) : Registry :=
  taken.insert name

/-- Hands out a free name for the candidate and marks it as used. -/
def claim (taken : Registry) (candidate : String) : String × Registry :=
  (taken.freeName candidate, taken.insert (taken.freeName candidate))

@[simp] theorem fst_claim (taken : Registry) (candidate : String) :
    (taken.claim candidate).1 = taken.freeName candidate := rfl

@[simp] theorem snd_claim (taken : Registry) (candidate : String) :
    (taken.claim candidate).2 = taken.reserve (taken.freeName candidate) := rfl

/-- A free candidate is handed out as it is. -/
theorem freeName_of_not_mem {taken : Registry} {candidate : String} (h : candidate ∉ taken) :
    taken.freeName candidate = candidate := by
  simp [freeName, h]

end Registry

end ApiTypes
