/-
# Nodes of YAML

The tree that a document writes: scalars, sequences and mappings, each with its tag.  A part that is given a name by an
anchor stands wherever an alias repeats the name; an alias inside the part that it names would make a tree without end, and
stops the reader.

The tree is read from the tokens by descent.  When the text breaks off behind the tokens with a fault, that fault is met where
a token is asked for and none is left; what is wrong with the tokens before counts first.

The first number given to the readers bounds the depth of calls; a call that takes no token is followed by one that does, so
that four times the number of tokens is never used up.
-/
import ApiTypes.Yaml.Layout
import ApiTypes.Yaml.Tag

namespace ApiTypes.Yaml

/-- A part of a document. -/
inductive Node
  | scalar (tag : Tag) (text : String)
  | sequence (tag : Tag) (items : List Node)
  | mapping (tag : Tag) (entries : List (Node × Node))

instance : Inhabited Node := ⟨.scalar .null ""⟩

namespace Node

/-- The tag of a node. -/
def tag : Node → Tag
  | scalar tag _ => tag
  | sequence tag _ => tag
  | mapping tag _ => tag

/-- The node that stands where nothing is written. -/
def empty : Node := .scalar .null ""

/-! ## Reading -/

/-- The named parts so far, the latest first; a part that is still being read has no node yet. -/
abbrev Anchors := List (String × Option Node)

/-- What is left to read. -/
structure Source where
  tokens : List Token
  anchors : Anchors

/-- A reader of a part of a document. -/
abbrev Reading (α : Type) := Except Error (α × Source)

/-- What stays the same while a document is read: the handles of its tags, and the fault behind the last token. -/
structure Setting where
  handles : List (String × String)
  fault : Option Error

namespace Setting

/-- Asks for a token in front of what is left: where nothing is, the text may break off with its fault. -/
def demand (c : Setting) (tokens : List Token) : Except Error Unit :=
  match tokens, c.fault with
  | [], some e => .error e
  | _, _ => .ok ()

/-- An answer for a token that must not stand here. -/
def misplaced {α : Type} (c : Setting) (tokens : List Token) : Except Error α := do
  c.demand tokens
  .error (.malformed .unexpectedToken)

end Setting

/-- What the properties in front of a node say. -/
structure Properties where
  anchor : Option String
  tag : Option (Option String × String)

/-- The properties in front of a node, at most one of each kind. -/
def takeProperties : List Token → Properties × List Token
  | .anchor name :: .tag handle suffix :: rest => (⟨some name, some (handle, suffix)⟩, rest)
  | .tag handle suffix :: .anchor name :: rest => (⟨some name, some (handle, suffix)⟩, rest)
  | .anchor name :: rest => (⟨some name, none⟩, rest)
  | .tag handle suffix :: rest => (⟨none, some (handle, suffix)⟩, rest)
  | rest => (⟨none, none⟩, rest)

/-- The name of a tag, its handle replaced by what it stands for. -/
def tagName (handles : List (String × String)) : Option (Option String × String) → Except Error (Option String)
  | none => .ok none
  | some (none, suffix) => .ok (some suffix)
  | some (some handle, suffix) =>
    match handles.lookup handle with
    | some uri => .ok (some (uri ++ suffix))
    | none => .error (.malformed .undefinedHandle)

/-- The tag of a scalar: the one that is written, or the one of its form, which only plain scalars have unless the tag is
a lone exclamation mark. -/
def scalarTag (written : Option String) (plain : Bool) (text : String) : Tag :=
  match written with
  | none => if plain then Tag.ofForm text else .text
  | some name => if name = "!" then Tag.ofForm text else Tag.ofUri name

/-- The tag of a collection: the one that is written, or the common one. -/
def collectionTag (written : Option String) (common : Tag) : Tag :=
  match written with
  | none => common
  | some name => if name = "!" then common else Tag.ofUri name

/-- Names a part that is about to be read. -/
def openAnchor (anchor : Option String) (anchors : Anchors) : Except Error Anchors :=
  match anchor with
  | none => .ok anchors
  | some name => if (anchors.lookup name).isSome then .error (.malformed .repeatedAnchor) else .ok ((name, none) :: anchors)

/-- Fills in the part that was named. -/
def closeAnchor (anchor : Option String) (node : Node) (anchors : Anchors) : Anchors :=
  match anchor with
  | none => anchors
  | some name => (name, some node) :: anchors

/-- Reads the properties in front of a node and names the node: gives the anchor and the tag.  Whether an anchor follows a tag
is known before the tag is looked up, and whether its name is new is asked when the first token of the content is there. -/
def openNode (c : Setting) (source : Source) : Except Error (Option String × Option String × Source) := do
  let (properties, rest) := takeProperties source.tokens
  if properties.anchor.isNone then c.demand rest
  let written ← tagName c.handles properties.tag
  c.demand rest
  let anchors ← openAnchor properties.anchor source.anchors
  pure (properties.anchor, written, ⟨rest, anchors⟩)

/-- Where a node stands decides which collections may start there: inside brackets, at an item, or at a key or value, where
items need no indentation. -/
inductive Position
  | flow
  | item
  | entry
  deriving DecidableEq

/-- Whether a token ends an entry of a block without a node. -/
def endsEntry : List Token → Bool
  | .key :: _ => true
  | .value :: _ => true
  | .blockEnd :: _ => true
  | _ => false

/-- Whether a token ends an item of a block without a node. -/
def endsItem : List Token → Bool
  | .blockEntry :: _ => true
  | .blockEnd :: _ => true
  | _ => false

/-- Whether a token ends a part of brackets without a node, given the closing bracket. -/
def endsPart (close : Token) : List Token → Bool
  | .flowEntry :: _ => true
  | token :: _ => token = close
  | [] => false

/-- Whether a value follows or a part of brackets ends. -/
def endsKey (close : Token) : List Token → Bool
  | .value :: _ => true
  | rest => endsPart close rest

mutual

/-- Reads a node. -/
def read (c : Setting) : Nat → Position → Source → Reading Node
  | 0, _, source => c.misplaced source.tokens
  | fuel + 1, position, source =>
    match source.tokens with
    | .alias name :: rest =>
      match source.anchors.lookup name with
      | some (some node) => .ok (node, { source with tokens := rest })
      | some none => .error (.unsupported .cycle)
      | none => .error (.malformed .undefinedAlias)
    | _ =>
      match openNode c source with
      | .error e => .error e
      | .ok (anchor, written, source) =>
        match readContent c fuel position written (anchor.isSome || written.isSome) source with
        | .error e => .error e
        | .ok (node, source) => .ok (node, { source with anchors := closeAnchor anchor node source.anchors })

/-- Reads the content of a node whose properties are known. -/
def readContent (c : Setting) : Nat → Position → (written : Option String) → (mayBeEmpty : Bool) →
    Source → Reading Node
  | 0, _, _, _, source => c.misplaced source.tokens
  | fuel + 1, position, written, mayBeEmpty, source =>
    let sequence := Node.sequence (collectionTag written .sequence)
    let mapping := Node.mapping (collectionTag written .mapping)
    let wrap {α : Type} (build : α → Node) (reading : Reading α) : Reading Node :=
      reading.map fun (part, source) => (build part, source)
    let nothing : Reading Node :=
      if mayBeEmpty then .ok (.scalar (scalarTag written true "") "", source) else c.misplaced source.tokens
    match source.tokens with
    | .scalar text plain :: rest => .ok (.scalar (scalarTag written plain text) text, { source with tokens := rest })
    | .flowSequenceStart :: rest => wrap sequence (readFlowItems c fuel true [] { source with tokens := rest })
    | .flowMappingStart :: rest => wrap mapping (readFlowEntries c fuel true [] { source with tokens := rest })
    | .blockSequenceStart :: rest =>
      if position = .flow then nothing else wrap sequence (readItems c fuel [] { source with tokens := rest })
    | .blockMappingStart :: rest =>
      if position = .flow then nothing else wrap mapping (readEntries c fuel [] { source with tokens := rest })
    | .blockEntry :: _ =>
      if position = .entry then wrap sequence (readLooseItems c fuel [] source) else nothing
    | _ => nothing

/-- Reads the items of a block up to its end. -/
def readItems (c : Setting) : Nat → List Node → Source → Reading (List Node)
  | 0, _, source => c.misplaced source.tokens
  | fuel + 1, done, source =>
    match source.tokens with
    | .blockEntry :: rest =>
      if endsItem rest then readItems c fuel (empty :: done) { source with tokens := rest }
      else
        match read c fuel .item { source with tokens := rest } with
        | .error e => .error e
        | .ok (item, source) => readItems c fuel (item :: done) source
    | .blockEnd :: rest => .ok (done.reverse, { source with tokens := rest })
    | _ => c.misplaced source.tokens

/-- Reads items that are not indented, as long as there are any. -/
def readLooseItems (c : Setting) : Nat → List Node → Source → Reading (List Node)
  | 0, _, source => c.misplaced source.tokens
  | fuel + 1, done, source =>
    match source.tokens with
    | .blockEntry :: rest =>
      if endsItem rest || endsEntry rest then readLooseItems c fuel (empty :: done) { source with tokens := rest }
      else
        match read c fuel .item { source with tokens := rest } with
        | .error e => .error e
        | .ok (item, source) => readLooseItems c fuel (item :: done) source
    | _ => .ok (done.reverse, source)

/-- Reads a key or a value of a block after its sign, or nothing where none is written. -/
def readPart (c : Setting) : Nat → Source → Reading Node
  | 0, source => c.misplaced source.tokens
  | fuel + 1, source =>
    if endsEntry source.tokens then .ok (empty, source) else read c fuel .entry source

/-- Reads the value of an entry of a block, which may be missing. -/
def readValue (c : Setting) : Nat → Source → Reading Node
  | 0, source => c.misplaced source.tokens
  | fuel + 1, source =>
    match source.tokens with
    | .value :: rest => readPart c fuel { source with tokens := rest }
    | _ => .ok (empty, source)

/-- Reads the entries of a block up to its end. -/
def readEntries (c : Setting) : Nat → List (Node × Node) → Source → Reading (List (Node × Node))
  | 0, _, source => c.misplaced source.tokens
  | fuel + 1, done, source =>
    match source.tokens with
    | .key :: rest =>
      match readPart c fuel { source with tokens := rest } with
      | .error e => .error e
      | .ok (key, source) =>
        match readValue c fuel source with
        | .error e => .error e
        | .ok (value, source) => readEntries c fuel ((key, value) :: done) source
    | .blockEnd :: rest => .ok (done.reverse, { source with tokens := rest })
    | _ => c.misplaced source.tokens

/-- Reads a key and a value inside brackets, after the sign of the key; either may be missing. -/
def readPair (c : Setting) (close : Token) : Nat → Source → Reading (Node × Node)
  | 0, source => c.misplaced source.tokens
  | fuel + 1, source =>
    match (if endsKey close source.tokens then .ok (empty, source) else read c fuel .flow source) with
    | .error e => .error e
    | .ok (key, source) =>
      match source.tokens with
      | .value :: rest =>
        if endsPart close rest then .ok ((key, empty), { source with tokens := rest })
        else (read c fuel .flow { source with tokens := rest }).map fun (value, source) => ((key, value), source)
      | _ => .ok ((key, empty), source)

/-- Reads the items between square brackets; a key makes an item that is a mapping with one entry. -/
def readFlowItems (c : Setting) : Nat → (first : Bool) → List Node → Source → Reading (List Node)
  | 0, _, _, source => c.misplaced source.tokens
  | fuel + 1, first, done, source =>
    match source.tokens with
    | .flowSequenceEnd :: rest => .ok (done.reverse, { source with tokens := rest })
    | tokens =>
      match (if first then some tokens else match tokens with | .flowEntry :: rest => some rest | _ => none) with
      | none => c.misplaced source.tokens
      | some (.flowSequenceEnd :: rest) => .ok (done.reverse, { source with tokens := rest })
      | some (.key :: rest) =>
        match readPair c .flowSequenceEnd fuel { source with tokens := rest } with
        | .error e => .error e
        | .ok (pair, source) => readFlowItems c fuel false (.mapping .mapping [pair] :: done) source
      | some rest =>
        match read c fuel .flow { source with tokens := rest } with
        | .error e => .error e
        | .ok (item, source) => readFlowItems c fuel false (item :: done) source

/-- Reads the entries between curly brackets; a node that is no key is one without a value. -/
def readFlowEntries (c : Setting) : Nat → (first : Bool) → List (Node × Node) → Source →
    Reading (List (Node × Node))
  | 0, _, _, source => c.misplaced source.tokens
  | fuel + 1, first, done, source =>
    match source.tokens with
    | .flowMappingEnd :: rest => .ok (done.reverse, { source with tokens := rest })
    | tokens =>
      match (if first then some tokens else match tokens with | .flowEntry :: rest => some rest | _ => none) with
      | none => c.misplaced source.tokens
      | some (.flowMappingEnd :: rest) => .ok (done.reverse, { source with tokens := rest })
      | some (.key :: rest) =>
        match readPair c .flowMappingEnd fuel { source with tokens := rest } with
        | .error e => .error e
        | .ok (pair, source) => readFlowEntries c fuel false (pair :: done) source
      | some rest =>
        match read c fuel .flow { source with tokens := rest } with
        | .error e => .error e
        | .ok (key, source) => readFlowEntries c fuel false ((key, empty) :: done) source

end

/-! ## Documents -/

/-- The handles that every document knows. -/
def commonHandles : List (String × String) := [("!", "!"), ("!!", tagSpace)]

/-- Reads the directives in front of a document: at most one version, which must be of the first generation, and handles
that differ. -/
def readDirectives : (versionSeen : Bool) → List (String × String) → List Token →
    Except Error (List (String × String) × List Token)
  | versionSeen, handles, .directive (.version major _) :: rest =>
    if versionSeen || major ≠ 1 then .error (.malformed .directive) else readDirectives true handles rest
  | versionSeen, handles, .directive (.handle handle uri) :: rest =>
    if (handles.lookup handle).isSome then .error (.malformed .directive)
    else readDirectives versionSeen ((handle, uri) :: handles) rest
  | versionSeen, handles, .directive .other :: rest => readDirectives versionSeen handles rest
  | _, handles, rest => .ok (handles ++ commonHandles, rest)

/-- Whether a document has no node. -/
def isEmptyDocument : List Token → Bool
  | [] => true
  | .directive _ :: _ => true
  | .documentStart :: _ => true
  | .documentEnd :: _ => true
  | _ => false

/-- Ends a document behind its node: nothing but marks of its end may follow. -/
def finish (c : Setting) (node : Node) (tokens : List Token) : Except Error Node := do
  let rest := tokens.dropWhile (· = .documentEnd)
  c.demand rest
  if rest.isEmpty then pure node
  else
    let (_, rest) ← readDirectives false [] rest
    match rest with
    | .documentStart :: _ => .error (.malformed .severalDocuments)
    | _ => c.misplaced rest

/-- Reads the node of a document and ends it. -/
def readRoot (c : Setting) (tokens : List Token) : Except Error Node := do
  let (node, source) ← read c (4 * tokens.length + 4) .item ⟨tokens, []⟩
  finish c node source.tokens

/-- Reads a document that opens with directives or with the mark of its start. -/
def readMarked (fault : Option Error) (tokens : List Token) : Except Error Node := do
  let (handles, rest) ← readDirectives false [] tokens
  let c : Setting := ⟨handles, fault⟩
  match rest with
  | .documentStart :: rest =>
    c.demand rest
    if isEmptyDocument rest then finish c empty rest else readRoot c rest
  | _ => c.misplaced rest

/-- The node of the one document that a text writes, if there is one. -/
def ofScan (scan : Scan) : Except Error (Option Node) :=
  let c : Setting := ⟨commonHandles, scan.fault⟩
  match scan.tokens with
  | [] => (c.demand []).map fun _ => none
  | first :: _ =>
    if first matches .directive _ || first = .documentStart then (readMarked scan.fault scan.tokens).map some
    else (readRoot c scan.tokens).map some

end Node

end ApiTypes.Yaml
