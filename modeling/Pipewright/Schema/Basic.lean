import Pipewright.Digest.Sha256
import Pipewright.Json.Pointer
import Pipewright.Json.Reader
import Pipewright.Json.Text
import Pipewright.Schema.Form

/-!
# Schemas

A schema has an identity, a root node and named definitions.  A definition is
known under one reference: its section and its name, written as a pointer from
the root of the document.
-/

namespace Pipewright

/-- A loaded schema. -/
structure Schema where
  id : String
  root : Node
  definitions : List (String × Node)

/-- Why a text or a document is not a schema. -/
inductive LoadFault where
  | notJson (fault : JsonFault)
  | malformed
deriving DecidableEq, Repr

namespace LoadFault

/-- What went wrong, without the words around it. -/
def detail : LoadFault → String
  | .notJson fault => fault.message
  | .malformed => "at JSON path . → data did not match any variant of untagged enum RawSchema"

/-- The wording of a fault. -/
def message (fault : LoadFault) : String :=
  match fault with
  | .notJson _ => "schema is not valid JSON: " ++ fault.detail
  | .malformed => "schema is malformed " ++ fault.detail

end LoadFault

/-- A pattern that a schema uses and that is left out. -/
structure RejectedPattern where
  source : String
  fault : PatternFault
deriving DecidableEq, Repr

namespace Schema

/-- The reference of the definition `name` in a section. -/
def referenceTo (section_ name : String) : String :=
  "#/" ++ section_ ++ "/" ++ Pointer.escape name

/-- The definitions of one section. -/
def definitionsOf (section_ : String) (table : List (String × Form)) : List (String × Node) :=
  table.map fun entry => (referenceTo section_ entry.1, entry.2.toNode)

/-- The named definitions of a form. -/
def definitionsOfForm : Form → List (String × Node)
  | .boolean _ => []
  | .keywords values =>
      definitionsOf "definitions" values.definitions ++
        definitionsOf "$defs" values.localDefinitions

/-- The identity of a schema: the digest of its compact text. -/
def identity (source : Json) : String :=
  Sha256.hexOfText source.compact

/-- Load a schema from a document. -/
def load (source : Json) : Except LoadFault Schema :=
  match Form.read? source with
  | some form => .ok ⟨identity source, form.toNode, definitionsOfForm form⟩
  | none => .error .malformed

/-- Load a schema from a text. -/
def ofText (text : String) : Except LoadFault Schema :=
  match Json.read text with
  | .ok source => load source
  | .error fault => .error (.notJson fault)

/-- The node that a reference names; a number sign alone names the root. -/
def definition? (schema : Schema) (reference : String) : Option Node :=
  if reference = "#" then some schema.root else schema.definitions.lookup reference

end Schema

namespace Form

mutual

/-- The rejected patterns of a form, in the order in which its nodes are made. -/
def rejected : Form → List RejectedPattern
  | .boolean _ => []
  | .keywords ⟨_, _, oneOf, anyOf, allOf, properties, patternProperties, additional, items, _, _,
      _, _, _⟩ =>
      rejectedInTable properties ++ rejectedInPatterns patternProperties ++
        rejectedInAdditional additional ++ rejectedInItems items ++
        rejectedInAll oneOf ++ rejectedInAll anyOf ++ rejectedInAll allOf

/-- The rejected patterns of some forms. -/
def rejectedInAll : List Form → List RejectedPattern
  | [] => []
  | form :: rest => form.rejected ++ rejectedInAll rest

/-- The rejected patterns of a table of forms. -/
def rejectedInTable : List (String × Form) → List RejectedPattern
  | [] => []
  | (_, form) :: rest => form.rejected ++ rejectedInTable rest

/-- The rejected patterns among some patterns and in the forms behind the
others. -/
def rejectedInPatterns : List (String × Form) → List RejectedPattern
  | [] => []
  | (source, form) :: rest =>
      match Pattern.compile source with
      | .ok _ => form.rejected ++ rejectedInPatterns rest
      | .error fault => ⟨source, fault⟩ :: rejectedInPatterns rest

/-- The rejected patterns of what is said about additional keys. -/
def rejectedInAdditional : Option Form → List RejectedPattern
  | none => []
  | some form => form.rejected

/-- The rejected patterns of the form for the elements of an array. -/
def rejectedInItems : ItemsForm Form → List RejectedPattern
  | .single form => form.rejected
  | .tuple _ => []
  | .absent => []

end

/-- The rejected patterns of a whole schema, definitions first. -/
def allRejected : Form → List RejectedPattern
  | .boolean _ => []
  | .keywords values =>
      rejectedInTable values.definitions ++ rejectedInTable values.localDefinitions ++
        rejected (.keywords values)

end Form

end Pipewright
