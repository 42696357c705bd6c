/-
# Reading YAML

`Yaml.read` reads a text as the value of its one document.

Collections are built level by level from the outside in, so that of several faults one nearer to the root is reported
first; `Build` notes for each fault how deep it lies.  In a mapping, the entries that are merged into it come before its own.

Left out is what no value holds: a collection that is a part of itself, and a text with half of a pair of codes, stop the
reader where they stand, whatever follows.  A pair of a list of pairs is a list of two values.  A part that an alias repeats
is built anew in each place.  Texts may be of any size and nested to any depth: that memory or the stack of calls come to an
end is not described.  And the text is taken as a whole, so that bytes that are no text, and characters that no text may
have, count before anything else.
-/
import ApiTypes.Yaml.Datum
import ApiTypes.Yaml.Layout
import ApiTypes.Yaml.Node

namespace ApiTypes.Yaml

/-! ## Faults by depth -/

/-- A fault with the number of collections around it. -/
structure DeepError where
  depth : Nat
  error : Error

/-- A part that is being built. -/
abbrev Build (α : Type) := Except DeepError α

namespace Build

/-- A fault on the level that is being built. -/
def fault {α : Type} (fault : Fault) : Build α := .error ⟨0, .malformed fault⟩

/-- Builds inside a collection. -/
def inside {α : Type} (part : Build α) : Build α :=
  part.mapError fun e => ⟨e.depth + 1, e.error⟩

/-- Builds two parts side by side; of two faults the outer one counts, and the first of two on one level. -/
def both {α β γ : Type} (join : α → β → γ) : Build α → Build β → Build γ
  | .ok a, .ok b => .ok (join a b)
  | .error e, .ok _ => .error e
  | .ok _, .error e => .error e
  | .error e, .error f => .error (if f.depth < e.depth then f else e)

end Build

/-! ## Merging -/

mutual

/-- The first entry to merge that is neither a mapping nor a sequence of mappings. -/
def mergeFault : List (Node × Node) → Option Fault
  | [] => none
  | (key, value) :: rest => if key.tag = .merge then (mergeFaultAt value).or (mergeFault rest) else mergeFault rest

/-- The fault of a node that is to be merged. -/
def mergeFaultAt : Node → Option Fault
  | .mapping _ entries => mergeFault entries
  | .sequence _ items => mergeFaultIn items
  | .scalar _ _ => some .merge

/-- The fault of nodes that are to be merged one after the other. -/
def mergeFaultIn : List Node → Option Fault
  | [] => none
  | .mapping _ entries :: rest => (mergeFault entries).or (mergeFaultIn rest)
  | _ :: _ => some .merge

end

/-! ## Values -/

mutual

/-- The text that a node stands for where a scalar is wanted: its own, or that of a mapping. -/
def scalarText : Node → Option String
  | .scalar _ text => some text
  | .sequence _ _ => none
  | .mapping _ entries => scalarUnder entries

/-- The text of a mapping that stands for a scalar: that of the value of its key `=`. -/
def scalarUnder : List (Node × Node) → Option String
  | [] => none
  | (key, value) :: rest => if key.tag = .value then scalarText value else scalarUnder rest

end

/-- Whether a tag is one of a scalar. -/
def Tag.isScalar : Tag → Bool
  | null | bool | int | float | timestamp | binary | text => true
  | _ => false

/-- A scalar under its tag. -/
def buildDatum (tag : Tag) (text : String) : Build Scalar :=
  match tag with
  | .sequence | .mapping | .set | .pairs => (Build.fault .wrongNode).inside
  | _ => (readDatum tag text).mapError fun e => ⟨0, e⟩

/-- The scalar that a mapping stands for under a tag.  A date or a moment is looked for in the text of the node itself,
which a mapping does not have. -/
def buildStandIn (tag : Tag) (entries : List (Node × Node)) : Build Scalar :=
  match scalarUnder entries with
  | none => Build.fault .wrongNode
  | some text => if tag = .timestamp then .error ⟨0, .datum .noText⟩ else buildDatum tag text

/-- The tag under which a key is built: the key `=` is a text like others. -/
def keyTag : Tag → Tag
  | .value => .text
  | tag => tag

/-- The key that is made of a value; collections are no keys. -/
def asKey : Build Value → Build Scalar
  | .ok (.scalar s) => .ok s
  | .ok _ => Build.fault .collectionAsKey
  | .error e => if e.depth = 0 then .error e else Build.fault .collectionAsKey

/-- Enters pairs of keys and values in order. -/
def enterAll (pairs : Entries) : Entries :=
  pairs.foldl (fun entries pair => Value.put pair.1 pair.2 entries) []

mutual

/-- The value of a node under a tag, which need not be its own. -/
def buildAs (tag : Tag) : Node → Build Value
  | .scalar _ text => (buildDatum tag text).map Value.scalar
  | .sequence _ items =>
    match tag with
    | .sequence => (buildItems items).inside.map Value.list
    | .pairs => (buildPairs items).inside.map Value.list
    | .mapping | .set => (Build.fault .wrongNode).inside
    | _ => Build.fault (if tag.isScalar then .wrongNode else .unknownTag)
  | .mapping _ entries =>
    let merged : Build Entries :=
      match mergeFault entries with
      | some fault => Build.fault fault
      | none => Build.both (· ++ ·) (buildMerged entries) (buildOwn entries)
    match tag with
    | .mapping => merged.inside.map fun pairs => .mapping (enterAll pairs)
    | .set => merged.inside.map fun pairs => .set ((enterAll pairs).map Prod.fst)
    | .sequence | .pairs => (Build.fault .wrongNode).inside
    | _ => if tag.isScalar then (buildStandIn tag entries).map Value.scalar else Build.fault .unknownTag

/-- The values of the items of a sequence. -/
def buildItems : List Node → Build (List Value)
  | [] => .ok []
  | item :: rest => Build.both List.cons (buildAs item.tag item) (buildItems rest)

/-- The pairs of a sequence. -/
def buildPairs : List Node → Build (List Value)
  | [] => .ok []
  | item :: rest => Build.both List.cons (buildPair item) (buildPairs rest)

/-- The pair that a mapping with one entry stands for. -/
def buildPair : Node → Build Value
  | .mapping _ [(key, value)] =>
    Build.both (fun key value => .list [key, value]) (buildAs key.tag key) (buildAs value.tag value)
  | _ => Build.fault .wrongNode

/-- The entries that a mapping has of its own. -/
def buildOwn : List (Node × Node) → Build Entries
  | [] => .ok []
  | (key, value) :: rest =>
    if key.tag = .merge then buildOwn rest
    else
      Build.both List.cons (Build.both Prod.mk (asKey (buildAs (keyTag key.tag) key)) (buildAs value.tag value))
        (buildOwn rest)

/-- The entries that are merged into a mapping. -/
def buildMerged : List (Node × Node) → Build Entries
  | [] => .ok []
  | (key, value) :: rest =>
    if key.tag = .merge then Build.both (· ++ ·) (buildMergedAt value) (buildMerged rest) else buildMerged rest

/-- The entries of a node that is merged: those of a mapping or of a sequence of mappings. -/
def buildMergedAt : Node → Build Entries
  | .mapping _ entries => Build.both (· ++ ·) (buildMerged entries) (buildOwn entries)
  | .sequence _ items => buildMergedIn items
  | .scalar _ _ => Build.fault .merge

/-- The entries of mappings that are merged, the last mapping first, so that an earlier one wins. -/
def buildMergedIn : List Node → Build Entries
  | [] => .ok []
  | item :: rest => Build.both (· ++ ·) (buildMergedIn rest) (buildMergedAt item)

end

/-- The value of a node. -/
def build (node : Node) : Build Value := buildAs node.tag node

/-! ## Reading -/

/-- The value of a YAML text; one without a document is null. -/
def read (s : List Char) : Except Error Value :=
  match Node.ofScan (scan s) with
  | .error e => .error e
  | .ok none => .ok (.scalar .null)
  | .ok (some node) => (build node).mapError DeepError.error

end ApiTypes.Yaml
