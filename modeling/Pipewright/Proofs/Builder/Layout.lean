import Pipewright.Builder.Emitter
import Pipewright.Proofs.Canonical.Respacing

/-!
# Laid out documents

A layout is a document together with how the emitter treats each of its values.  It
determines the source that is written, and the document that the source stands for.
-/

namespace Pipewright

/-- How a document is written: a value that no node applies to as a JSON literal, and
the others by their kind. -/
inductive Layout where
  | opaqueValue (value : Json)
  | scalar (value : Json) (isScalar : value.isScalar = true)
  | array (elements : List Layout)
  | object (members : List (String × Layout))

namespace Layout

open Canonical

mutual

/-- The document that is laid out. -/
def document : Layout → Json
  | .opaqueValue value => value
  | .scalar value _ => value
  | .array elements => .array (documents elements)
  | .object members => .object (memberDocuments members)

/-- The elements that are laid out. -/
def documents : List Layout → List Json
  | [] => []
  | element :: rest => element.document :: documents rest

/-- The members that are laid out. -/
def memberDocuments : List (String × Layout) → Members
  | [] => []
  | (key, member) :: rest => (key, member.document) :: memberDocuments rest

end

/-! ## Source -/

/-- A line break and the indentation of a level. -/
def newLine (level : Nat) : List Char :=
  '\n' :: List.replicate (level * EmitterConfig.standard.indentWidth) ' '

/-- The literal of a value that is neither an object nor an array by its kind. -/
def leafText : Layout → List Char
  | .opaqueValue value => value.compactChars
  | .scalar value _ => Emitter.scalarLiteral EmitterConfig.standard value
  | .array _ => []
  | .object _ => []

/-- Do the elements stand on one line? -/
def isInline (elements : List Layout) : Bool :=
  (documents elements).all Emitter.isInline

mutual

/-- The source of a value on a line of the given level. -/
def text (level : Nat) : Layout → List Char
  | .opaqueValue value => value.compactChars
  | .scalar value _ => Emitter.scalarLiteral EmitterConfig.standard value
  | .array elements =>
      if isInline elements then
        '[' :: List.intercalate [',', ' '] (elements.map leafText) ++ [']']
      else '[' :: elementLines (level + 1) elements ++ newLine level ++ [']']
  | .object members => "node()".toList ++ calls (level + 1) members

/-- The source of the elements of an array, one on each line. -/
def elementLines (level : Nat) : List Layout → List Char
  | [] => []
  | element :: rest =>
      newLine level ++ element.text level ++ ',' :: elementLines level rest

/-- The source of the members of an object, one call on each line. -/
def calls (level : Nat) : List (String × Layout) → List Char
  | [] => []
  | (key, member) :: rest =>
      newLine level ++ Emitter.callStart key ++ member.text level ++ ')' :: calls level rest

end

@[simp] theorem text_opaqueValue (level : Nat) (value : Json) :
    (opaqueValue value).text level = value.compactChars :=
  rfl

@[simp] theorem text_scalar (level : Nat) (value : Json) (isScalar : value.isScalar = true) :
    (scalar value isScalar).text level =
      Emitter.scalarLiteral EmitterConfig.standard value :=
  rfl

@[simp] theorem text_object (level : Nat) (members : List (String × Layout)) :
    (object members).text level = "node()".toList ++ calls (level + 1) members :=
  rfl

theorem text_array (level : Nat) (elements : List Layout) :
    (array elements).text level =
      if isInline elements then
        '[' :: List.intercalate [',', ' '] (elements.map leafText) ++ [']']
      else '[' :: elementLines (level + 1) elements ++ newLine level ++ [']'] :=
  rfl

theorem text_inline {elements : List Layout} (inline : isInline elements = true) (level : Nat) :
    (array elements).text level =
      '[' :: List.intercalate [',', ' '] (elements.map leafText) ++ [']'] := by
  rw [text_array, if_pos inline]

theorem text_lines {elements : List Layout} (lines : isInline elements = false) (level : Nat) :
    (array elements).text level =
      '[' :: elementLines (level + 1) elements ++ newLine level ++ [']'] := by
  rw [text_array, lines, if_neg Bool.false_ne_true]

/-! ## The document that the source stands for -/

/-- A scalar as the builder sees it. -/
def rebuiltScalar : Json → Json
  | .string content => .string (String.ofList (spaceExpressions content.toList))
  | other => other

mutual

/-- The document that the builder builds. -/
def rebuilt : Layout → Json
  | .opaqueValue value => value
  | .scalar value _ => rebuiltScalar value
  | .array elements => .array (rebuiltItems elements)
  | .object members => .object (rebuiltMembers members)

/-- The elements that the builder builds. -/
def rebuiltItems : List Layout → List Json
  | [] => []
  | element :: rest => element.rebuilt :: rebuiltItems rest

/-- The members that the builder builds. -/
def rebuiltMembers : List (String × Layout) → Members
  | [] => []
  | (key, member) :: rest => (key, member.rebuilt) :: rebuiltMembers rest

end

mutual

theorem respaced (layout : Layout) : Respaced layout.document layout.rebuilt := by
  match layout with
  | .opaqueValue value => exact Respaced.refl value
  | .scalar value isScalar =>
      cases value with
      | null => exact .null
      | boolean value => exact .boolean value
      | number value => exact .number value
      | string content => exact .spaced content
      | array => cases isScalar
      | object => cases isScalar
  | .array elements => exact .array (respacedItems elements)
  | .object members => exact .object (respacedMembers members)

theorem respacedItems (elements : List Layout) :
    RespacedItems (documents elements) (rebuiltItems elements) := by
  match elements with
  | [] => exact .nil
  | element :: rest => exact .cons (respaced element) (respacedItems rest)

theorem respacedMembers (members : List (String × Layout)) :
    RespacedMembers (memberDocuments members) (rebuiltMembers members) := by
  match members with
  | [] => exact .nil
  | (_, member) :: rest => exact .cons (respaced member) (respacedMembers rest)

end

end Layout

end Pipewright
