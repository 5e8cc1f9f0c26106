/-!
# Tokens of a YAML text

A text is a sequence of tokens. Indentation shows in tokens of its own, which begin
and end the collections written in lines.
-/

namespace SelfUpdate.Yaml

/-- The smallest meaningful part of a text. A tag may begin with a handle, and plain scalars are
written without quotation marks or indentation. -/
inductive Token where
  | versionDirective (major minor : Nat)
  | tagDirective (handle : List Char)
  | documentStart
  | documentEnd
  | blockSequenceStart
  | blockMappingStart
  | blockEnd
  | flowSequenceStart
  | flowSequenceEnd
  | flowMappingStart
  | flowMappingEnd
  | blockEntry
  | flowEntry
  | key
  | value
  | alias (name : List Char)
  | anchor (name : List Char)
  | tag (handle : Option (List Char))
  | scalar (text : String) (plain : Bool)
  deriving DecidableEq, Repr

end SelfUpdate.Yaml
