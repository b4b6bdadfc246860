import Shortlink.Pattern.Program
import Shortlink.Text.Utf8

/-!
# Searching a text

A program is carried out on the bytes of a text by threads in the order of their
preference.  A new thread starts at every byte, less preferred than those before it,
until one comes to its end; from then on only the threads preferred to that one go on.
-/

namespace Shortlink.Pattern

/-- One way of carrying out a program. -/
inductive Thread
  /-- It comes to a step. -/
  | ready (step : Nat)
  /-- It takes a character, of which it has the first bytes. -/
  | taking (set : CharSet) (next : Nat) (bytes : List UInt8)
  /-- It has come to its end. -/
  | ended
  deriving DecidableEq, Repr

/-- The bytes on both sides of a place in a text. -/
structure Neighbours where
  /-- The byte in front. -/
  before? : Option UInt8
  /-- The byte behind. -/
  behind? : Option UInt8
  deriving DecidableEq, Repr

namespace Neighbours

/-- Whether a byte belongs to a word of ASCII. -/
def isWordByte (byte : UInt8) : Bool :=
  (0x30 ≤ byte && byte ≤ 0x39) || (0x41 ≤ byte && byte ≤ 0x5A) || byte == 0x5F ||
    (0x61 ≤ byte && byte ≤ 0x7A)

/-- Whether there is an edge between two bytes.  Between a carriage return and a line
feed there is no edge of a line, where lines may end with both. -/
def holds (neighbours : Neighbours) : Edge → Bool
  | .textStart => neighbours.before?.isNone
  | .textEnd => neighbours.behind?.isNone
  | .lineStart => neighbours.before?.all (· == 0x0A)
  | .lineEnd => neighbours.behind?.all (· == 0x0A)
  | .returnedLineStart =>
      neighbours.before?.all fun byte =>
        byte == 0x0A || (byte == 0x0D && neighbours.behind? != some 0x0A)
  | .returnedLineEnd =>
      neighbours.behind?.all fun byte =>
        byte == 0x0D || (byte == 0x0A && neighbours.before? != some 0x0D)
  | .word kind _ =>
      let before := neighbours.before?.any isWordByte
      let behind := neighbours.behind?.any isWordByte
      match kind with
      | .either => before != behind
      | .neither => before == behind
      | .start => !before && behind
      | .finish => before && !behind

end Neighbours

namespace Program

/-- Follows threads at a place to where they take a character or end.  A step that a
preferred thread has come to is not followed again; at most `fuel` steps are followed. -/
def follow (program : Program) (neighbours : Neighbours) (seen : List Nat)
    (threads : List Thread) : Nat → List Thread
  | 0 => []
  | fuel + 1 =>
      match threads with
      | [] => []
      | .ready step :: threads =>
          if seen.contains step then program.follow neighbours seen threads fuel
          else
            let seen := step :: seen
            match program.steps[step]? with
            | some .accept => .ended :: program.follow neighbours seen threads fuel
            | some (.take set next) =>
                .taking set next [] :: program.follow neighbours seen threads fuel
            | some (.ask edge next) =>
                program.follow neighbours seen
                  (if neighbours.holds edge then .ready next :: threads else threads) fuel
            | some (.fork preferred other) =>
                program.follow neighbours seen (.ready preferred :: .ready other :: threads) fuel
            | none => program.follow neighbours seen threads fuel
      | thread :: threads => thread :: program.follow neighbours seen threads fuel

/-- Follows threads as far as they go without taking a byte.  Each step adds at most
two threads. -/
def followAll (program : Program) (neighbours : Neighbours) (threads : List Thread) :
    List Thread :=
  program.follow neighbours [] threads (threads.length + 2 * program.steps.size + 1)

end Program

/-- The number of bytes of the character that a byte begins. -/
def characterLength (lead : UInt8) : Nat :=
  if lead < 0x80 then 1 else if lead < 0xE0 then 2 else if lead < 0xF0 then 3 else 4

/-- Takes one more byte, unless the thread has none to take or it does not fit. -/
def Thread.take? (byte : UInt8) : Thread → Option Thread
  | .ready _ | .ended => none
  | .taking set next bytes =>
      let bytes := bytes ++ [byte]
      if bytes.length < characterLength (bytes.headD byte) then some (.taking set next bytes)
      else match Utf8.next? bytes with
        | some (character, []) => if set.contains character then some (.ready next) else none
        | _ => none

/-- The threads that are left when one of them has ended: those preferred to it. -/
def survivors (threads : List Thread) : List Thread :=
  threads.takeWhile (· ≠ .ended)

namespace Program

/-- Carries out a program on the bytes behind a place, and tells whether the preferred
thread of those that end comes to its end with the text.  `isOpen` tells whether new
threads still start. -/
def reachesEnd (program : Program) (before? : Option UInt8) (isOpen : Bool)
    (threads : List Thread) : List UInt8 → Bool
  | [] => (program.followAll ⟨before?, none⟩
      (threads ++ if isOpen then [.ready program.start] else [])).contains .ended
  | byte :: rest =>
      let followed := program.followAll ⟨before?, some byte⟩
        (threads ++ if isOpen then [.ready program.start] else [])
      program.reachesEnd (some byte) (isOpen && !followed.contains .ended)
        ((survivors followed).filterMap (Thread.take? byte)) rest

end Program

end Shortlink.Pattern
