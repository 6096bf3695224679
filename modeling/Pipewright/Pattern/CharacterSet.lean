import Pipewright.Unicode.Blank
import Pipewright.Unicode.CaseFolding
import Pipewright.Unicode.Category
import Pipewright.Unicode.Property
import Pipewright.Unicode.Script

/-!
# Sets of characters

The sets that patterns can name, combine and close under changes of case, and
the names under which character properties are known.
-/

namespace Pipewright

/-- A set of characters. -/
inductive CharacterSet where
  | points (ranges : CharacterTable.Ranges)
  | categories (labels : List String)
  | script (label : String)
  | scriptExtension (label : String)
  | union (left right : CharacterSet)
  | intersection (left right : CharacterSet)
  | complement (inner : CharacterSet)
  | caseClosure (inner : CharacterSet)
  | asciiCaseClosure (inner : CharacterSet)
deriving Repr

namespace CharacterSet

/-- A letter of the alphabet in both cases, and any other character alone. -/
def asciiCaseVariants (character : Char) : List Char :=
  if character.isAlpha then [character.toLower, character.toUpper] else [character]

/-- Is the character in the set? -/
def holds : CharacterSet → Char → Bool
  | .points ranges, character => CharacterTable.holds ranges character
  | .categories labels, character => labels.contains (generalCategory character)
  | .script label, character => Pipewright.script character == label
  | .scriptExtension label, character => (scriptExtensions character).contains label
  | .union left right, character => left.holds character || right.holds character
  | .intersection left right, character => left.holds character && right.holds character
  | .complement inner, character => !inner.holds character
  | .caseClosure inner, character => (caseVariants character).any inner.holds
  | .asciiCaseClosure inner, character => (asciiCaseVariants character).any inner.holds

/-- No character. -/
def none : CharacterSet := .points []

/-- Every character. -/
def all : CharacterSet := .points [(0, 0x10FFFF)]

/-- The one character. -/
def single (character : Char) : CharacterSet :=
  .points [(character.toNat, character.toNat)]

/-- The characters of a list. -/
def ofList (characters : List Char) : CharacterSet :=
  .points (characters.map fun character => (character.toNat, character.toNat))

/-- The characters between two, ends included. -/
def between (first last : Char) : CharacterSet :=
  .points [(first.toNat, last.toNat)]

/-- The union of some sets. -/
def unions : List CharacterSet → CharacterSet
  | [] => none
  | [set] => set
  | set :: rest => .union set (unions rest)

/-- The complement of a set, if asked for. -/
def negateIf (negated : Bool) (set : CharacterSet) : CharacterSet :=
  if negated then .complement set else set

/-- Decimal digits of all scripts. -/
def digits : CharacterSet := .categories ["Nd"]

/-- Blank characters. -/
def blanks : CharacterSet := .points CharacterProperty.whiteSpace

/-- Letters, marks, decimal digits, connecting punctuation and joiners. -/
def words : CharacterSet :=
  unions [.points CharacterProperty.alphabetic, .points CharacterProperty.joinControl,
    .categories ["Mn", "Mc", "Me", "Nd", "Pc"]]

/-- ASCII digits. -/
def asciiDigits : CharacterSet := between '0' '9'

/-- ASCII blanks. -/
def asciiBlanks : CharacterSet := ofList [' ', '\t', '\n', '\x0b', '\x0c', '\r']

/-- ASCII letters, digits and the underscore. -/
def asciiWords : CharacterSet :=
  .points [(0x30, 0x39), (0x41, 0x5A), (0x5F, 0x5F), (0x61, 0x7A)]

/-! ## Names of properties -/

/-- A name in small letters, without separators and without a leading `is`.  The
name `isc` keeps its prefix, since it is not the name of a category. -/
def normalizeName (name : List Char) : String :=
  let lower := name.map Char.toLower
  let startsWithIs := ['i', 's'].isPrefixOf lower
  let body := if startsWithIs then lower.drop 2 else lower
  let kept := body.filter fun character =>
    character.toNat < 128 && !([' ', '_', '-'].contains character)
  if startsWithIs && kept == ['c'] then "isc" else String.ofList kept

/-- Names of properties that are no sets of characters or are not offered as
such. -/
def otherProperties : List String := [
  "age", "bc", "bidiclass", "bidimirroringglyph", "bidipairedbracket",
  "bidipairedbrackettype", "blk", "block", "bmg", "bpb", "bpt",
  "canonicalcombiningclass", "casefolding", "ccc", "ce", "cf",
  "changeswhennfkccasefolded", "compex", "compositionexclusion", "cwkcf",
  "decompositionmapping", "decompositiontype", "dm", "dt", "ea", "eastasianwidth",
  "expandsonnfc", "expandsonnfd", "expandsonnfkc", "expandsonnfkd", "fcnfkc",
  "fcnfkcclosure", "fullcompositionexclusion", "gc", "gcb", "generalcategory",
  "graphemeclusterbreak", "graphemelink", "grlink", "hangulsyllabletype", "hst",
  "hyphen", "indicpositionalcategory", "indicsyllabiccategory", "inpc", "insc",
  "isc", "isocomment", "jamoshortname", "jg", "joininggroup", "joiningtype", "jsn",
  "jt", "lb", "lc", "linebreak", "lowercasemapping", "na", "na1", "name",
  "namealias", "nfcqc", "nfcquickcheck", "nfdqc", "nfdquickcheck", "nfkccasefold",
  "nfkccf", "nfkcqc", "nfkcquickcheck", "nfkdqc", "nfkdquickcheck", "nt",
  "numerictype", "numericvalue", "nv", "sb", "sc", "scf", "script",
  "scriptextensions", "scx", "sentencebreak", "sfc", "simplecasefolding",
  "simplelowercasemapping", "simpletitlecasemapping", "simpleuppercasemapping",
  "slc", "stc", "suc", "tc", "titlecasemapping", "uc", "unicode1name",
  "uppercasemapping", "verticalorientation", "vo", "wb", "wordbreak", "xonfc",
  "xonfd", "xonfkc", "xonfkd"]

/-- Names that denote a category although a property abbreviates to them. -/
def categoryFirst : List String := ["cf", "sc", "lc"]

/-- The set of a category name. -/
def ofCategory? (name : String) : Option CharacterSet :=
  match name with
  | "any" => some all
  | "ascii" => some (.points [(0, 0x7F)])
  | "assigned" => some (.complement (.categories ["Cn"]))
  | _ => (GeneralCategory.covered? name).map .categories

/-- The set of a name that stands alone: a property, a category or a script, in
this order. -/
def ofName? (name : String) : Option CharacterSet :=
  let property :=
    if categoryFirst.contains name then .none else CharacterProperty.ofName? name
  match property with
  | some ranges => some (.points ranges)
  | .none =>
      if otherProperties.contains name && !categoryFirst.contains name then .none
      else
        match ofCategory? name with
        | some set => some set
        | .none => (Script.ofName? name).map .script

end CharacterSet

end Pipewright
