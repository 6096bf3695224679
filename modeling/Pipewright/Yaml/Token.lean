import Pipewright.Yaml.Fault

/-!
# Tokens

A text is cut into tokens.  The beginnings and ends of block collections, which
only the indentation shows, and the marks of keys are tokens too.
-/

namespace Pipewright

namespace Yaml

/-- How a scalar is written. -/
inductive ScalarStyle where
  | plain
  | singleQuoted
  | doubleQuoted
  | literal
  | folded
deriving DecidableEq, Repr, Inhabited

/-- The octets of a tag or of a part of one. -/
abbrev Octets := List UInt8

/-- The octets of an ASCII text. -/
def octetsOf (text : String) : Octets := text.toUTF8.toList

/-- What a token is.  A tag without a handle is complete in itself. -/
inductive TokenKind where
  | versionDirective (major minor : Nat)
  | tagDirective (handle : String) (replacement : Octets)
  | documentStart
  | documentEnd
  | streamEnd
  | blockSequenceStart
  | blockMappingStart
  | blockEnd
  | flowSequenceStart
  | flowSequenceEnd
  | flowMappingStart
  | flowMappingEnd
  | blockEntry
  | flowEntry
  | key
  | value
  | aliasLabel (name : String)
  | anchor (name : String)
  | tag (handle : String) (suffix : Octets)
  | scalar (style : ScalarStyle) (text : String)
deriving DecidableEq, Repr, Inhabited

/-- A token, the place where it begins and the place behind it. -/
structure Token where
  kind : TokenKind
  start : Place
  stop : Place
deriving DecidableEq, Repr, Inhabited

/-- The tokens that can be had from a text, and how it ends: at a place or with a
fault. -/
structure TokenStream where
  tokens : List Token
  ending : Except SyntaxFault Place

namespace TokenStream

/-- The next token; the end of the text is a token that stays. -/
def next (stream : TokenStream) : Except SyntaxFault Token :=
  match stream.tokens with
  | token :: _ => .ok token
  | [] => stream.ending.map fun place => ⟨.streamEnd, place, place⟩

/-- The stream behind the next token. -/
def skip (stream : TokenStream) : TokenStream :=
  ⟨stream.tokens.tail, stream.ending⟩

end TokenStream

end Yaml

end Pipewright
