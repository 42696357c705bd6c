/-
# Reading types

A text is read as a type by a machine that takes one token at a time.  It holds the row of operands read so far in the
bracket it is in, and for every open bracket what was read outside it; when a bracket closes, its row becomes one operand
of the row outside.  Precedence has no part in this: it is decided where a row is cut (`Chain.close`).

A run does not look below the brackets that it opened itself (`run_atop`).  A text that is a type on its own can therefore
be read in the same way inside a longer text (`reads_iff`).
-/
import ApiTypes.Proofs.TypeSyntax.Token
import ApiTypes.Proofs.TypeSyntax.Tree

namespace ApiTypes.TypeSyntax

/-! ## The machine -/

/-- What was read last, and so what may follow. -/
inductive Phase
  | operand
  | after (t : TypeTree)
  | bracket (t : TypeTree)
  | field (before : List (String × Bool × TypeTree))
  | mark (before : List (String × Bool × TypeTree)) (name : String)
  | colon (before : List (String × Bool × TypeTree)) (name : String)

/-- What an open bracket holds a type for, with what stands before that type. -/
inductive Opening
  | group
  | arguments (word : String) (before : List TypeTree)
  | field (before : List (String × Bool × TypeTree)) (name : String) (required : Bool)

/-- An open bracket, with the row outside it. -/
structure Frame where
  opening : Opening
  outside : Chain

/-- Where the machine stands: in a row, inside open brackets. -/
structure State where
  phase : Phase
  chain : Chain
  stack : List Frame

/-- One token. -/
def step : State → Token → Option State
  | ⟨.operand, chain, stack⟩, .word text => some ⟨.after (.name text), chain, stack⟩
  | ⟨.operand, chain, stack⟩, .literal value => some ⟨.after (.literal value), chain, stack⟩
  | ⟨.operand, chain, stack⟩, .openParen => some ⟨.operand, [], ⟨.group, chain⟩ :: stack⟩
  | ⟨.operand, chain, stack⟩, .openBrace => some ⟨.field [], chain, stack⟩
  | ⟨.after t, chain, stack⟩, .bar => some ⟨.operand, chain ++ [(t, .bar)], stack⟩
  | ⟨.after t, chain, stack⟩, .amp => some ⟨.operand, chain ++ [(t, .amp)], stack⟩
  | ⟨.after t, chain, stack⟩, .openBracket => some ⟨.bracket t, chain, stack⟩
  | ⟨.bracket t, chain, stack⟩, .closeBracket => some ⟨.after (.array t), chain, stack⟩
  | ⟨.after t, chain, ⟨.group, outside⟩ :: stack⟩, .closeParen => some ⟨.after (chain.close t), outside, stack⟩
  | ⟨.after (.name word), chain, stack⟩, .openAngle => some ⟨.operand, [], ⟨.arguments word [], chain⟩ :: stack⟩
  | ⟨.after t, chain, ⟨.arguments word before, outside⟩ :: stack⟩, .comma =>
    some ⟨.operand, [], ⟨.arguments word (before ++ [chain.close t]), outside⟩ :: stack⟩
  | ⟨.after t, chain, ⟨.arguments word before, outside⟩ :: stack⟩, .closeAngle =>
    some ⟨.after (.applied word (before ++ [chain.close t])), outside, stack⟩
  | ⟨.field before, chain, stack⟩, .word name => some ⟨.mark before name, chain, stack⟩
  | ⟨.field before, chain, stack⟩, .closeBrace => some ⟨.after (.object before), chain, stack⟩
  | ⟨.mark before name, chain, stack⟩, .question => some ⟨.colon before name, chain, stack⟩
  | ⟨.mark before name, chain, stack⟩, .colon => some ⟨.operand, [], ⟨.field before name true, chain⟩ :: stack⟩
  | ⟨.colon before name, chain, stack⟩, .colon => some ⟨.operand, [], ⟨.field before name false, chain⟩ :: stack⟩
  | ⟨.after t, chain, ⟨.field before name required, outside⟩ :: stack⟩, .semicolon =>
    some ⟨.field (before ++ [(name, required, chain.close t)]), outside, stack⟩
  | ⟨.after t, chain, ⟨.field before name required, outside⟩ :: stack⟩, .closeBrace =>
    some ⟨.after (.object (before ++ [(name, required, chain.close t)])), outside, stack⟩
  | _, _ => none

/-- Several tokens. -/
def run : State → List Token → Option State
  | s, [] => some s
  | s, token :: rest => (step s token).bind fun next => run next rest

/-- The row that has been read, if no bracket is open and no operand is missing. -/
def State.row? : State → Option Row
  | ⟨.after t, chain, []⟩ => some (chain, t)
  | _ => none

/-- The row that a text is read as. -/
def row? (text : String) : Option Row :=
  (tokens text).bind fun read => (run ⟨.operand, [], []⟩ read).bind State.row?

/-- The type that a text is read as. -/
def readType (text : String) : Option TypeTree :=
  (row? text).map Row.type

theorem run_append (s : State) (first second : List Token) :
    run s (first ++ second) = (run s first).bind fun next => run next second := by
  induction first generalizing s with
  | nil => rfl
  | cons token rest ih =>
      rw [List.cons_append, run, run, Option.bind_assoc]
      congr 1
      funext next
      exact ih next

/-! ## Reading inside a longer text -/

/-- A row inside brackets, continued at the bottom: what was read before it stands in front of it, and the brackets around
it are below its own. -/
def atop (outer : Chain) (below : List Frame) : Chain → List Frame → Chain × List Frame
  | chain, [] => (outer ++ chain, below)
  | chain, frame :: rest =>
    (chain, ⟨frame.opening, (atop outer below frame.outside rest).1⟩ :: (atop outer below frame.outside rest).2)

/-- A state inside a longer text. -/
def State.atop (s : State) (outer : Chain) (below : List Frame) : State :=
  ⟨s.phase, (TypeSyntax.atop outer below s.chain s.stack).1, (TypeSyntax.atop outer below s.chain s.stack).2⟩

/-- An operand read after a row stands after it also inside a longer text. -/
theorem atop_append (outer : Chain) (below : List Frame) (chain : Chain) (operand : TypeTree × Joint)
    (stack : List Frame) :
    atop outer below (chain ++ [operand]) stack =
      ((atop outer below chain stack).1 ++ [operand], (atop outer below chain stack).2) := by
  cases stack with
  | nil => simp [atop]
  | cons frame rest => rfl

/-- **One token inside a longer text** is read as in the text on its own. -/
theorem step_atop {s next : State} {token : Token} (h : step s token = some next) (outer : Chain)
    (below : List Frame) : step (s.atop outer below) token = some (next.atop outer below) := by
  -- one case for each row of the table; none of them looks below a bracket that is open on its own
  unfold step at h
  split at h
  all_goals cases h
  all_goals simp [State.atop, atop, atop_append, step]

/-- **A run inside a longer text** goes as in the text on its own. -/
theorem run_atop {s final : State} {read : List Token} (h : run s read = some final) (outer : Chain)
    (below : List Frame) : run (s.atop outer below) read = some (final.atop outer below) := by
  induction read generalizing s with
  | nil =>
      injection h with h
      rw [h]
      rfl
  | cons token rest ih =>
      rw [run] at h
      obtain ⟨next, hstep, hrest⟩ := Option.bind_eq_some_iff.mp h
      rw [run, step_atop hstep outer below, Option.bind_some]
      exact ih hrest

/-- The text is read as the row wherever an operand may stand. -/
def Reads (text : String) (row : Row) : Prop :=
  ∃ read, tokens text = some read ∧ ∀ outer below,
    run ⟨.operand, outer, below⟩ read = some ⟨.after row.2, outer ++ row.1, below⟩

/-- **Reading does not depend on the place.**  What a text is read as on its own it is read as everywhere. -/
theorem reads_iff {text : String} {row : Row} : Reads text row ↔ row? text = some row := by
  constructor
  · rintro ⟨read, htokens, hrun⟩
    have h : run ⟨.operand, [], []⟩ read = some ⟨.after row.2, row.1, []⟩ := hrun [] []
    rw [row?, htokens, Option.bind_some, h]
    rfl
  · intro h
    rw [row?] at h
    obtain ⟨read, htokens, h⟩ := Option.bind_eq_some_iff.mp h
    obtain ⟨final, hrun, hrow⟩ := Option.bind_eq_some_iff.mp h
    refine ⟨read, htokens, fun outer below => ?_⟩
    -- the run on its own ends with no bracket open, and goes the same way on top of what stands outside
    have hfinal : final = ⟨.after row.2, row.1, []⟩ := by
      unfold State.row? at hrow
      split at hrow
      · injection hrow with hrow
        rw [← hrow]
      · exact absurd hrow (by simp)
    subst hfinal
    simpa [State.atop, atop] using run_atop hrun outer below

end ApiTypes.TypeSyntax
