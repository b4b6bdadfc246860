import Shortlink.Pattern.Fault
import Shortlink.Text.Blank

/-!
# A cursor in a pattern

Patterns are read through a cursor: the characters that are left, and the place where
they begin.  In loose layout it can pass over blanks and remarks.
-/

namespace Shortlink.Pattern

/-- Where reading has got to. -/
structure Cursor where
  /-- The characters that are left. -/
  rest : List Char
  /-- Where they begin. -/
  place : Place := {}
  /-- Whether blanks and remarks do not count. -/
  loose : Bool := false
  deriving DecidableEq, Repr

namespace Cursor

/-- Whether nothing is left. -/
def atEnd (cursor : Cursor) : Bool :=
  cursor.rest.isEmpty

def next? (cursor : Cursor) : Option Char :=
  cursor.rest.head?

/-- Passes over one character, if one is left. -/
def step (cursor : Cursor) : Cursor :=
  match cursor.rest with
  | [] => cursor
  | character :: rest => { cursor with rest, place := cursor.place.after character }

def steps (cursor : Cursor) : Nat → Cursor
  | 0 => cursor
  | count + 1 => cursor.step.steps count

/-- Passes over blanks and remarks, given whether the cursor is in a remark. -/
def layoutFrom (inRemark : Bool) (place : Place) : List Char → List Char × Place
  | [] => ([], place)
  | character :: rest =>
      if inRemark then layoutFrom (character ≠ '\n') (place.after character) rest
      else if Text.isBlank character then layoutFrom false (place.after character) rest
      else if character = '#' then layoutFrom true (place.after character) rest
      else (character :: rest, place)

/-- Passes over what does not count. -/
def skipLayout (cursor : Cursor) : Cursor :=
  if cursor.loose then
    let (rest, place) := layoutFrom false cursor.place cursor.rest
    { cursor with rest, place }
  else cursor

/-- Passes over one character and over what does not count after it. -/
def stepOn (cursor : Cursor) : Cursor :=
  cursor.step.skipLayout

/-- Passes over the characters in front that fit, and over what does not count after
each of them; at most `fuel` times. -/
def stepOnWhile (fits : Char → Bool) (cursor : Cursor) : Nat → Cursor
  | 0 => cursor
  | fuel + 1 => if cursor.next?.any fits then cursor.stepOn.stepOnWhile fits fuel else cursor

/-- Passes over the characters in front that fit, and over what does not count after
each of them. -/
def stepOnAll (fits : Char → Bool) (cursor : Cursor) : Cursor :=
  cursor.stepOnWhile fits cursor.rest.length

/-- Passes over all that is left. -/
def toEnd (cursor : Cursor) : Cursor :=
  cursor.steps cursor.rest.length

/-- Passes over some characters if they are the next ones. -/
def take? (cursor : Cursor) (wanted : String) : Option Cursor :=
  if wanted.toList.isPrefixOf cursor.rest then some (cursor.steps wanted.length) else none

/-- Passes over blanks, whether they count or not. -/
def blanksFrom (place : Place) : List Char → List Char × Place
  | [] => ([], place)
  | character :: rest =>
      if Text.isBlank character then blanksFrom (place.after character) rest
      else (character :: rest, place)

/-- Passes over blanks, whether they count or not. -/
def skipBlanks (cursor : Cursor) : Cursor :=
  let (rest, place) := blanksFrom cursor.place cursor.rest
  { cursor with rest, place }

/-- The character after the next one. -/
def second? (cursor : Cursor) : Option Char :=
  cursor.rest.tail.head?

/-- The first character that is neither blank nor the start of a remark. -/
def countingFrom (inRemark : Bool) : List Char → Option Char
  | [] => none
  | character :: rest =>
      if Text.isBlank character then countingFrom inRemark rest
      else if !inRemark && character = '#' then countingFrom true rest
      else some character

/-- The character after the next one, or in loose layout the one after that and blanks. -/
def secondCounting? (cursor : Cursor) : Option Char :=
  if cursor.loose then countingFrom false cursor.rest.tail else cursor.second?

/-- The empty span where the cursor is. -/
def here (cursor : Cursor) : Span :=
  .point cursor.place

/-- The span of the next character. -/
def nextSpan (cursor : Cursor) : Span :=
  ⟨cursor.place, cursor.step.place⟩

/-- The span from a place to the cursor. -/
def since (cursor : Cursor) (first : Place) : Span :=
  ⟨first, cursor.place⟩

/-- Complains about a part of the pattern. -/
def fail {α : Type} (complaint : Complaint) (span : Span) : Except Fault α :=
  .error { complaint, span }

end Cursor

end Shortlink.Pattern
