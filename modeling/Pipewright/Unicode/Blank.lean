/-!
# Blanks

The characters with the property `White_Space`, and the two ways in which blanks
separate text: around it and inside it.
-/

namespace Pipewright

/-- Is this a blank character? -/
def isBlank (character : Char) : Bool :=
  let point := character.toNat
  (9 ≤ point && point ≤ 13) || point == 0x20 || point == 0x85 || point == 0xA0 ||
    point == 0x1680 || (0x2000 ≤ point && point ≤ 0x200A) || point == 0x2028 ||
    point == 0x2029 || point == 0x202F || point == 0x205F || point == 0x3000

/-- The text without the blanks around it. -/
def trimBlanks (text : List Char) : List Char :=
  ((text.dropWhile isBlank).reverse.dropWhile isBlank).reverse

/-- Add a character in front of the tokens of the text after it; `joined` says
that this text starts with a token. -/
def consToken (character : Char) (joined : Bool) (tokens : List (List Char)) :
    List (List Char) :=
  match joined, tokens with
  | true, token :: rest => (character :: token) :: rest
  | _, tokens => [character] :: tokens

/-- The longest runs of characters that are not blank, in order. -/
def blankTokens : List Char → List (List Char)
  | [] => []
  | character :: rest =>
      if isBlank character then blankTokens rest
      else
        let joined := (rest.head?.map fun next => !isBlank next).getD false
        consToken character joined (blankTokens rest)

end Pipewright
