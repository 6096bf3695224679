import Pipewright.Unicode.UpperCase

/-!
# Builder method names

Document keys are hyphenated and builder methods are in camel case.  A key has a
method of its own when the method's name is an identifier that the builder does
not need itself and that leads back to the key.
-/

namespace Pipewright

namespace Naming

/-- Names that the builder and every object already have. -/
def reserved : List String :=
  ["build", "set", "constructor", "toString", "valueOf", "hasOwnProperty"]

/-- A segment with its first character in upper case. -/
def capitalize : List Char → List Char
  | [] => []
  | first :: rest => upperCase first ++ rest

/-- Join the hyphenated segments of a key, each but the first capitalized. -/
def camelCase (key : List Char) : List Char :=
  match key.splitOn '-' with
  | [] => []
  | first :: rest => first ++ rest.flatMap capitalize

/-- Write each ASCII capital as a hyphen and its small letter. -/
def hyphenate (name : List Char) : List Char :=
  name.flatMap fun character =>
    if character.isUpper then ['-', character.toLower] else [character]

/-- May this character start an identifier? -/
def startsIdentifier (character : Char) : Bool :=
  character.isAlpha || character == '_' || character == '$'

/-- May this character continue an identifier? -/
def continuesIdentifier (character : Char) : Bool :=
  character.isAlphanum || character == '_' || character == '$'

/-- Is the name a non-empty ASCII identifier? -/
def isIdentifier : List Char → Bool
  | [] => false
  | first :: rest => startsIdentifier first && rest.all continuesIdentifier

end Naming

/-- The camel-case form of a document key. -/
def methodName (key : String) : String :=
  String.ofList (Naming.camelCase key.toList)

/-- The hyphenated form of a method name. -/
def documentKey (method : String) : String :=
  String.ofList (Naming.hyphenate method.toList)

/-- The method of a key that has one of its own. -/
def methodFor? (key : String) : Option String :=
  let method := methodName key
  if Naming.isIdentifier method.toList && !Naming.reserved.contains method &&
      documentKey method == key then
    some method
  else none

end Pipewright
