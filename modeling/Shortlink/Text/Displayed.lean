/-!
# What a terminal shows

A text may hold sequences that steer a terminal: they begin with an escape and set
colours, titles and the like.  A terminal shows none of them, and no other control
either, except for the blank ones.  Here they are taken out of a text, character by
character.
-/

namespace Shortlink.Text

/-- Where in a steering sequence a character stands. -/
inductive Steering
  /-- In none. -/
  | idle
  | escape
  /-- After the escape and marks. -/
  | escapeMarks
  /-- In a control, which a letter ends. -/
  | control
  /-- At the beginning of a string for a device. -/
  | deviceStart
  /-- In the parameters of such a string. -/
  | deviceParameters
  | deviceMarks
  /-- In the string itself, or in one that nobody reads.  Only the byte 9C ends it. -/
  | string
  /-- In a command to the system, which a bell ends. -/
  | command
  deriving DecidableEq, Repr

namespace Steering

/-- Whether a control is blank. -/
def isBlankControl (character : Char) : Bool :=
  character = '\t' || character = '\n' || character = '\x0c' || character = '\r'

/-- Whether a character is a mark: one in the columns of digits and punctuation in
front of the letters. -/
def isMark (character : Char) : Bool :=
  ' ' ≤ character && character ≤ '/'

/-- Whether a character ends a control: a letter, or a sign among the letters. -/
def isFinal (character : Char) : Bool :=
  '@' ≤ character && character ≤ '~'

/-- Whether a character is a parameter: a digit, or a sign after the digits. -/
def isParameter (character : Char) : Bool :=
  '0' ≤ character && character ≤ '?'

/-- Where a character after the escape leads. -/
def afterEscape (character : Char) : Steering :=
  if isMark character then .escapeMarks
  else if character = '[' then .control
  else if character = ']' then .command
  else if character = 'P' then .deviceStart
  else if character = 'X' || character = '^' || character = '_' then .string
  else if isParameter character || isFinal character then .idle
  else .escape

/-- Where a character inside a sequence leads. -/
def inside (place : Steering) (character : Char) : Steering :=
  match place with
  | .idle => .idle
  | .escape => afterEscape character
  | .escapeMarks => if isParameter character || isFinal character then .idle else .escapeMarks
  | .control => if isFinal character then .idle else .control
  | .deviceStart =>
      if isMark character then .deviceMarks
      else if isParameter character then .deviceParameters
      else if isFinal character then .string
      else .deviceStart
  | .deviceParameters =>
      if isMark character then .deviceMarks
      else if '<' ≤ character && character ≤ '~' then .string
      else .deviceParameters
  | .deviceMarks =>
      if isParameter character || isFinal character then .string else .deviceMarks
  | .string => if (String.utf8EncodeChar character).contains 0x9C then .idle else .string
  | .command => if character = '\x07' then .idle else .command

/-- Whether a character is shown where it stands. -/
def shows (place : Steering) (character : Char) : Bool :=
  match place with
  | .idle => (' ' ≤ character && character ≠ '\x7f') || isBlankControl character
  | .escape | .escapeMarks | .control => isBlankControl character
  | .deviceStart | .deviceParameters | .deviceMarks | .string | .command => false

/-- Where a character that is not shown leads.  An escape begins a sequence anywhere,
and two controls break one off anywhere. -/
def next (place : Steering) (character : Char) : Steering :=
  if character = '\x1b' then .escape
  else if character = '\x18' || character = '\x1a' then .idle
  else place.inside character

end Steering

/-- Where a text is shown. -/
inductive Medium
  /-- On a page.  Once a character is shown, the sequence that it stands in is over. -/
  | page
  /-- On a stream.  What follows the character is shown too, up to the next control;
  then the sequence goes on, unless there was a character of several bytes. -/
  | stream
  deriving DecidableEq, Repr

/-- How far a text has been read. -/
structure Reading where
  /-- The place in a steering sequence. -/
  place : Steering := .idle
  /-- Whether the character before is shown. -/
  showing : Bool := false
  deriving DecidableEq, Repr

namespace Reading

/-- Whether the next character is shown. -/
def shows (reading : Reading) (character : Char) : Bool :=
  (if reading.showing then Steering.idle else reading.place).shows character

def next (medium : Medium) (reading : Reading) (character : Char) : Reading :=
  if reading.shows character then
    { place := if medium = .stream && character.utf8Size = 1 then reading.place else .idle
      showing := true }
  else { place := reading.place.next character, showing := false }

end Reading

/-- What is shown of the characters that are still to be read. -/
def shownFrom (medium : Medium) (reading : Reading) : List Char → List Char
  | [] => []
  | character :: rest =>
      let shown := shownFrom medium (reading.next medium character) rest
      if reading.shows character then character :: shown else shown

/-- What is shown of a text. -/
def displayed (medium : Medium) (text : String) : String :=
  String.ofList (shownFrom medium {} text.toList)

end Shortlink.Text
