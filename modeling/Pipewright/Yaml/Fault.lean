import Pipewright.Yaml.Cursor

/-!
# Faults in the syntax of a text

A fault has a problem and the place where it was noticed and, for most problems,
the construct that was being read and the place where that construct began.
-/

namespace Pipewright

namespace Yaml

/-- What is wrong with a text. -/
inductive Problem where
  | controlCharacter
  | colonMissing
  | entryNotAllowed
  | keyNotAllowed
  | valueNotAllowed
  | strayCharacter
  | directiveNameMissing
  | directiveNameInvalid
  | directiveUnknown
  | lineEndMissing
  | versionPointMissing
  | versionTooLong
  | versionMissing
  | blankMissing
  | blankOrBreakMissing
  | labelMissing
  | tagMarkMissing
  | tagBracketMissing
  | tagTextMissing
  | octetMissing
  | octetNotLeading
  | octetNotTrailing
  | indentationZero
  | tabForIndentation
  | documentMarker
  | endOfText
  | escapeUnknown
  | escapeDigitsMissing
  | escapeInvalid
  | colonUnexpected
  | tabInIndentation
  | documentStartMissing
  | versionDuplicate
  | versionUnsupported
  | handleDuplicate
  | contentMissing
  | handleUndefined
  | hyphenMissing
  | keyMissing
  | sequenceCommaMissing
  | mappingCommaMissing
deriving DecidableEq, Repr

/-- The wording of a problem. -/
def Problem.message : Problem → String
  | .controlCharacter => "control characters are not allowed"
  | .colonMissing => "could not find expected ':'"
  | .entryNotAllowed => "block sequence entries are not allowed in this context"
  | .keyNotAllowed => "mapping keys are not allowed in this context"
  | .valueNotAllowed => "mapping values are not allowed in this context"
  | .strayCharacter => "found character that cannot start any token"
  | .directiveNameMissing => "could not find expected directive name"
  | .directiveNameInvalid => "found unexpected non-alphabetical character"
  | .directiveUnknown => "found unknown directive name"
  | .lineEndMissing => "did not find expected comment or line break"
  | .versionPointMissing => "did not find expected digit or '.' character"
  | .versionTooLong => "found extremely long version number"
  | .versionMissing => "did not find expected version number"
  | .blankMissing => "did not find expected whitespace"
  | .blankOrBreakMissing => "did not find expected whitespace or line break"
  | .labelMissing => "did not find expected alphabetic or numeric character"
  | .tagMarkMissing => "did not find expected '!'"
  | .tagBracketMissing => "did not find the expected '>'"
  | .tagTextMissing => "did not find expected tag URI"
  | .octetMissing => "did not find URI escaped octet"
  | .octetNotLeading => "found an incorrect leading UTF-8 octet"
  | .octetNotTrailing => "found an incorrect trailing UTF-8 octet"
  | .indentationZero => "found an indentation indicator equal to 0"
  | .tabForIndentation => "found a tab character where an indentation space is expected"
  | .documentMarker => "found unexpected document indicator"
  | .endOfText => "found unexpected end of stream"
  | .escapeUnknown => "found unknown escape character"
  | .escapeDigitsMissing => "did not find expected hexdecimal number"
  | .escapeInvalid => "found invalid Unicode character escape code"
  | .colonUnexpected => "found unexpected ':'"
  | .tabInIndentation => "found a tab character that violates indentation"
  | .documentStartMissing => "did not find expected <document start>"
  | .versionDuplicate => "found duplicate %YAML directive"
  | .versionUnsupported => "found incompatible YAML document"
  | .handleDuplicate => "found duplicate %TAG directive"
  | .contentMissing => "did not find expected node content"
  | .handleUndefined => "found undefined tag handle"
  | .hyphenMissing => "did not find expected '-' indicator"
  | .keyMissing => "did not find expected key"
  | .sequenceCommaMissing => "did not find expected ',' or ']'"
  | .mappingCommaMissing => "did not find expected ',' or '\x7d'"

/-- What was being read when a problem was noticed. -/
inductive Construct where
  | nextToken
  | simpleKey
  | directive
  | versionDirective
  | tagDirective
  | handleOfDirective
  | endOfHandle
  | textOfDirective
  | anchor
  | aliasLabel
  | tag
  | textOfTag
  | blockScalar
  | quotedScalar
  | escape
  | plainScalar
  | blockCollection
  | blockMapping
  | flowSequence
  | flowMapping
  | blockNode
  | flowNode
  | node
deriving DecidableEq, Repr

/-- The wording of a construct. -/
def Construct.message : Construct → String
  | .nextToken => "while scanning for the next token"
  | .simpleKey => "while scanning a simple key"
  | .directive => "while scanning a directive"
  | .versionDirective => "while scanning a %YAML directive"
  | .tagDirective => "while scanning a %TAG directive"
  | .handleOfDirective => "while scanning a tag directive"
  | .endOfHandle => "while parsing a tag directive"
  | .textOfDirective => "while parsing a %TAG directive"
  | .anchor => "while scanning an anchor"
  | .aliasLabel => "while scanning an alias"
  | .tag => "while scanning a tag"
  | .textOfTag => "while parsing a tag"
  | .blockScalar => "while scanning a block scalar"
  | .quotedScalar => "while scanning a quoted scalar"
  | .escape => "while parsing a quoted scalar"
  | .plainScalar => "while scanning a plain scalar"
  | .blockCollection => "while parsing a block collection"
  | .blockMapping => "while parsing a block mapping"
  | .flowSequence => "while parsing a flow sequence"
  | .flowMapping => "while parsing a flow mapping"
  | .blockNode => "while parsing a block node"
  | .flowNode => "while parsing a flow node"
  | .node => "while parsing a node"

/-- Why and where a text breaks the syntax. -/
inductive SyntaxFault where
  | atByte (problem : Problem) (offset : Nat)
  | atPlace (problem : Problem) (place : Place)
  | within (construct : Construct) (start : Place) (problem : Problem) (place : Place)
deriving DecidableEq, Repr

namespace SyntaxFault

/-- The wording of a fault.  The beginning of the construct is left out where the
problem has the same place. -/
def message : SyntaxFault → String
  | .atByte problem offset =>
      problem.message ++ (if offset = 0 then "" else " at position " ++ toString offset)
  | .atPlace problem place => problem.message ++ place.suffix
  | .within construct start problem place =>
      problem.message ++ place.suffix ++ ", " ++ construct.message ++
        (if start.same place then "" else start.suffix)

end SyntaxFault

end Yaml

end Pipewright
