/-
# Tokens of YAML

The words of YAML text: marks of documents, brackets and indicators, names of anchors and tags, and scalars.  Where
indentation opens or closes a collection, the text is given tokens for it.
-/
namespace ApiTypes.Yaml

/-- A line that instructs the reader: the version, a handle for tags, or something that is ignored. -/
inductive Directive
  | version (major minor : Nat)
  | handle (handle uri : String)
  | other
  deriving DecidableEq

/-- A word of YAML text. -/
inductive Token
  | directive (content : Directive)
  | documentStart
  | documentEnd
  | blockSequenceStart
  | blockMappingStart
  | blockEnd
  | flowSequenceStart
  | flowSequenceEnd
  | flowMappingStart
  | flowMappingEnd
  | blockEntry
  | flowEntry
  | key
  | value
  | alias (name : String)
  | anchor (name : String)
  | tag (handle : Option String) (suffix : String)
  | scalar (text : String) (plain : Bool)
  deriving DecidableEq

end ApiTypes.Yaml
