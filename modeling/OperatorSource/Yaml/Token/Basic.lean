import OperatorSource.Yaml.Glyph

/-!
# Tokens

A document is a list of tokens: indicators, names, tags, scalars, and the beginnings and ends of
block collections, which show only as indentation in the text.
-/

namespace OperatorSource.Yaml

/-- How the text of a scalar was written, as far as its reading depends on it. -/
inductive ScalarStyle where
  | plain
  /-- Between single or double quotes, or as a folded block. -/
  | quoted
  /-- As a literal block. -/
  | literal
  deriving DecidableEq

inductive TokenKind where
  | streamEnd
  | versionDirective (major minor : Nat)
  /-- A handle and the octets that it stands for. -/
  | tagDirective (handle : String) (expansion : List UInt8)
  | documentStart
  | documentEnd
  | blockSequenceStart
  | blockMappingStart
  | blockEnd
  | flowSequenceStart
  | flowSequenceEnd
  | flowMappingStart
  | flowMappingEnd
  | blockEntry
  | flowEntry
  | key
  | value
  | alias (name : String)
  | anchor (name : String)
  /-- A tag as its handle and the octets behind it; without a handle the octets are the tag. -/
  | tag (handle : String) (suffix : List UInt8)
  | scalar (style : ScalarStyle) (text : String)
  deriving DecidableEq

/-- A token with the positions where it begins and where reading went on. -/
structure Token where
  kind : TokenKind
  start : Mark
  stop : Mark
  deriving DecidableEq

end OperatorSource.Yaml
