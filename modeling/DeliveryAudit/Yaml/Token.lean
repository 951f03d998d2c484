import DeliveryAudit.Text.CodePoint
import DeliveryAudit.Yaml.Mark
/-!
# Tokens

The tokens of a YAML text, each with the places where it starts and ends.
Besides what is written there are tokens for the start and the end of the
stream and of the collections that indentation delimits.
-/

namespace DeliveryAudit.Yaml

/-- A directive at the head of a document. -/
inductive Directive where
  | version (major minor : Nat)
  | tag (handle stem : String)
  | other

/-- What a token is. -/
inductive Token.Kind where
  | streamStart
  | streamEnd
  | directive (d : Directive)
  | documentStart
  | documentEnd
  | blockSequenceStart
  | blockMappingStart
  | blockEnd
  | flowSequenceStart
  | flowMappingStart
  | flowSequenceEnd
  | flowMappingEnd
  | key
  | value
  | blockEntry
  | flowEntry
  | reference (name : String)
  | anchor (name : String)
  /-- A tag: a handle, unless it is written in full, and what follows. -/
  | tag (handle : Option String) (suffix : String)
  | scalar (content : Text) (plain : Bool)

/-- A token between two places. -/
structure Token where
  kind : Token.Kind
  first : Mark
  last : Mark

namespace Token.Kind

/-- What a token is called in a message. -/
def name : Token.Kind → String
  | streamStart => "<stream start>"
  | streamEnd => "<stream end>"
  | directive _ => "<directive>"
  | documentStart => "<document start>"
  | documentEnd => "<document end>"
  | blockSequenceStart => "<block sequence start>"
  | blockMappingStart => "<block mapping start>"
  | blockEnd => "<block end>"
  | flowSequenceStart => "["
  | flowMappingStart => "\x7b"
  | flowSequenceEnd => "]"
  | flowMappingEnd => "\x7d"
  | key => "?"
  | value => ":"
  | blockEntry => "-"
  | flowEntry => ","
  | reference _ => "<alias>"
  | anchor _ => "<anchor>"
  | tag _ _ => "<tag>"
  | scalar _ _ => "<scalar>"

end Token.Kind

end DeliveryAudit.Yaml
