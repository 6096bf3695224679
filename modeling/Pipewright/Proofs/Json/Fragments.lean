import Pipewright.Number.Digit
import Pipewright.Proofs.Json.Pointers
import Pipewright.Proofs.Unicode.ByteOrder

/-!
# Pointers in fragments

A pointer that is the fragment of a URI is percent-encoded (RFC 6901, section 6).  The
fragment is decoded first, and the text it stands for is evaluated as a pointer then.  Decoding
changes only fragments with a percent sign: characters that a URI would have to encode are read
as they are.
-/

namespace Pipewright

namespace Pointer

/-- The octets that a fragment stands for.  A percent sign and two hexadecimal digits are one
octet, other characters are encoded in UTF-8, and no percent sign stands alone. -/
def fragmentOctets? : List Char → Option (List UInt8)
  | [] => some []
  | '%' :: high :: low :: rest =>
      (numberOfDigits? 16 [high, low]).bind fun octet =>
        (fragmentOctets? rest).map (UInt8.ofNat octet :: ·)
  | '%' :: _ => none
  | character :: rest => (fragmentOctets? rest).map (String.utf8EncodeChar character ++ ·)

/-- The pointer that a fragment stands for. -/
def ofFragment? (fragment : String) : Option String :=
  (fragmentOctets? fragment.toList).bind fun octets => String.fromUTF8? ⟨octets.toArray⟩

example : ofFragment? "/c%25d" = some "/c%d" := by decide

theorem fragmentOctets?_cons {character : Char} (plain : character ≠ '%') (rest : List Char) :
    fragmentOctets? (character :: rest) =
      (fragmentOctets? rest).map (String.utf8EncodeChar character ++ ·) := by
  rw [fragmentOctets?]
  · rintro _ _ _ rfl
    exact absurd rfl plain
  · exact plain

theorem fragmentOctets?_of_plain {fragment : List Char} (plain : '%' ∉ fragment) :
    fragmentOctets? fragment = some (fragment.flatMap String.utf8EncodeChar) := by
  induction fragment with
  | nil => rfl
  | cons character rest inner =>
      obtain ⟨different, plainRest⟩ := List.ne_and_not_mem_of_not_mem_cons plain
      rw [fragmentOctets?_cons different.symm, inner plainRest, Option.map_some,
        List.flatMap_cons]

theorem ofFragment?_eq_some {fragment pointer : String}
    (octets : fragmentOctets? fragment.toList = some (encodedBytes pointer)) :
    ofFragment? fragment = some pointer := by
  rw [ofFragment?, octets, Option.bind_some]
  exact dif_pos pointer.isValidUTF8

/-- Without a percent sign a fragment is the pointer it stands for. -/
theorem ofFragment?_of_plain {fragment : String} (plain : '%' ∉ fragment.toList) :
    ofFragment? fragment = some fragment := by
  refine ofFragment?_eq_some ?_
  rw [fragmentOctets?_of_plain plain, encodedBytes_eq]

theorem percent_not_mem_escapeChars {token : List Char} (plain : '%' ∉ token) :
    '%' ∉ escapeChars token := by
  intro percent
  rcases mem_escapeChars percent with escaped | ⟨listed, -⟩
  · exact absurd escaped (by decide)
  · exact plain listed

end Pointer

theorem percent_not_mem_pointerTo {path : List Step}
    (plain : ∀ step ∈ path, '%' ∉ step.name.toList) : '%' ∉ (pointerTo path).toList := by
  rw [toList_pointerTo]
  intro percent
  obtain ⟨_, listed, written⟩ := List.mem_flatMap.mp percent
  obtain ⟨step, among, rfl⟩ := List.mem_map.mp listed
  rcases List.mem_cons.mp written with slash | escaped
  · exact absurd slash (by decide)
  · exact Pointer.percent_not_mem_escapeChars (plain step among) escaped

namespace Json

/-- The part of a document that a reference selects: the one that the pointer in the fragment
leads to, by the rules of RFC 6901. -/
def fragment? (document : Json) (reference : String) : Option Json :=
  match reference.toList with
  | '#' :: fragment => (Pointer.ofFragment? (String.ofList fragment)).bind document.evaluate?
  | _ => none

theorem fragment?_number_sign (document : Json) (fragment : String) :
    document.fragment? ("#" ++ fragment) =
      (Pointer.ofFragment? fragment).bind document.evaluate? := by
  have split : ("#" ++ fragment).toList = '#' :: fragment.toList := by
    rw [String.toList_append]
    rfl
  rw [fragment?, split]
  simp only [String.ofList_toList]

/-- Along names without a percent sign, the pointer itself is the fragment. -/
theorem fragment?_pointerTo {document value : Json} {path : List Step}
    (found : document.valueAt? path = some value)
    (plain : ∀ step ∈ path, '%' ∉ step.name.toList) :
    document.fragment? ("#" ++ pointerTo path) = some value := by
  rw [fragment?_number_sign, Pointer.ofFragment?_of_plain (percent_not_mem_pointerTo plain)]
  exact evaluate?_pointerTo found

end Json

end Pipewright
