/-!
# Similarity of words

How similar two words are, between zero and one: the characters that they have in
common at about the same places count in favour, and those in another order
against.
-/

namespace Shortlink.Text

/-- A character and whether it has a partner in the other word. -/
abbrev Marked := Char × Bool

/-- Finds a partner for a character among those places of a word that lie from
`low` up to `high` and have none yet. -/
def pairUp (character : Char) (low high : Nat) : Nat → List Marked → Option (List Marked)
  | _, [] => none
  | place, (other, taken) :: rest =>
      if high ≤ place then none
      else if low ≤ place && !taken && other = character then some ((other, true) :: rest)
      else (pairUp character low high (place + 1) rest).map ((other, taken) :: ·)

/-- Finds partners for the characters of a word, the first of which is at `place`.
The partners lie no more than `range` places away. -/
def pairAll (range : Nat) : Nat → List Char → List Marked → List Marked × List Marked
  | _, [], second => ([], second)
  | place, character :: rest, second =>
      match pairUp character (place - range) (place + range + 1) 0 second with
      | some second =>
          let (first, second) := pairAll range (place + 1) rest second
          ((character, true) :: first, second)
      | none =>
          let (first, second) := pairAll range (place + 1) rest second
          ((character, false) :: first, second)

/-- The characters that have a partner. -/
def paired (word : List Marked) : List Char :=
  (word.filter Prod.snd).map Prod.fst

/-- How similar two words are. -/
def similarity (first second : String) : Float :=
  let firstLength := first.toList.length
  let secondLength := second.toList.length
  let range := max firstLength secondLength / 2 - 1
  let (firstMarked, secondMarked) :=
    pairAll range 0 first.toList (second.toList.map fun character => (character, false))
  let firstPaired := paired firstMarked
  let secondPaired := paired secondMarked
  let common := firstPaired.length
  let displaced := ((firstPaired.zip secondPaired).countP fun (one, other) => one != other) / 2
  if firstLength = 0 && secondLength = 0 then 1.0
  else if common = 0 then 0.0
  else
    (common.toFloat / firstLength.toFloat + common.toFloat / secondLength.toFloat +
      (common - displaced).toFloat / common.toFloat) / 3.0

/-- The most similar of some words, the last one if there are several, provided that
it is similar enough to be what was meant. -/
def mostSimilar? (word : String) (candidates : List String) : Option String :=
  let step (best : Option (Float × String)) (candidate : String) : Option (Float × String) :=
    let value := similarity word candidate
    if value > 0.7 then
      match best with
      | some (highest, _) => if value < highest then best else some (value, candidate)
      | none => some (value, candidate)
    else best
  (candidates.foldl step none).map Prod.snd

end Shortlink.Text
