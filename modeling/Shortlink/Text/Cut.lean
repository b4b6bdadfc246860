import Shortlink.Text.Quoted

/-!
# Cutting text

The part of a text between two places that are counted in bytes.  A character may
take several bytes, and a place within one of those is no place to cut at.
-/

namespace Shortlink.Text

/-- An end of a part of a text. -/
inductive Edge
  | start
  | stop
  deriving DecidableEq, Repr

/-- The name of an edge. -/
def Edge.name : Edge → String
  | .start => "start"
  | .stop => "end"

/-- A cut that would go through a character. -/
structure CutFault where
  /-- The edge that the cut would have made. -/
  edge : Edge
  /-- Where the cut would have gone. -/
  place : Nat
  /-- The character that is there. -/
  character : Char
  /-- Where this character begins. -/
  first : Nat
  deriving DecidableEq, Repr

/-- The wording of a cut that would go through a character. -/
def CutFault.message (fault : CutFault) : String :=
  fault.edge.name ++ " byte index " ++ toString fault.place ++
    " is not a char boundary; it is inside '" ++
    String.ofList (quotedCharacter fault.character) ++ "' (bytes " ++ toString fault.first ++
    ".." ++ toString (fault.first + fault.character.utf8Size) ++ " of string)"

/-- The character that a place is within, and where it begins.  The characters given
begin at `first`. -/
def characterAcross? (place first : Nat) : List Char → Option (Char × Nat)
  | [] => none
  | character :: rest =>
      let next := first + character.utf8Size
      if place ≤ first then none
      else if place < next then some (character, first)
      else characterAcross? place next rest

/-- The characters that begin between two places.  The characters given begin at
`first`. -/
def charactersBetween (start stop first : Nat) : List Char → List Char
  | [] => []
  | character :: rest =>
      let later := charactersBetween start stop (first + character.utf8Size) rest
      if start ≤ first && first < stop then character :: later else later

/-- Makes sure that a place is not within a character. -/
def checkEdge (characters : List Char) (edge : Edge) (place : Nat) : Except CutFault Unit :=
  match characterAcross? place 0 characters with
  | some (character, first) => .error { edge, place, character, first }
  | none => .ok ()

/-- The part of a text between two places. -/
def cut (text : String) (start stop : Nat) : Except CutFault String := do
  checkEdge text.toList .start start
  checkEdge text.toList .stop stop
  return String.ofList (charactersBetween start stop 0 text.toList)

end Shortlink.Text
