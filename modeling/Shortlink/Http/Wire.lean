import Shortlink.Http.Message
import Shortlink.Http.PercentEncoding

/-!
# Messages on the wire

Requests are taken from the bytes that have come in on a connection, and responses
are written as bytes.  The body of a request is as long as its head says, or comes
in chunks, each of which says how long it is.
-/

namespace Shortlink.Http.Wire

/-- What the bytes that have come in amount to. -/
inductive Reading
  /-- A request, and the bytes after it.  The connection may be used again or not. -/
  | request (message : Request) (persistent : Bool) (rest : List UInt8)
  /-- A request of which something is missing.  The client may be waiting for a sign
  to go on. -/
  | incomplete (waiting : Bool)
  | malformed

/-- The head of a message in front, and what comes after its blank line. -/
def splitHead (done : List UInt8) : List UInt8 → Option (List UInt8 × List UInt8)
  | 0x0D :: 0x0A :: 0x0D :: 0x0A :: rest => some (done.reverse, rest)
  | 0x0A :: 0x0A :: rest => some (done.reverse, rest)
  | byte :: rest => splitHead (byte :: done) rest
  | [] => none

/-- The pieces of bytes between separators. -/
def splitBytes (separator : UInt8) : List UInt8 → List (List UInt8)
  | [] => [[]]
  | byte :: rest =>
      if byte = separator then [] :: splitBytes separator rest
      else match splitBytes separator rest with
        | [] => [[byte]]
        | piece :: pieces => (byte :: piece) :: pieces

/-- Bytes without a carriage return at their end. -/
def withoutReturn (bytes : List UInt8) : List UInt8 :=
  if bytes.getLast? = some 0x0D then bytes.dropLast else bytes

/-- Whether a byte is a space or a tab. -/
def isSpace (byte : UInt8) : Bool :=
  byte == 0x20 || byte == 0x09

/-- Bytes without the spaces at both ends. -/
def trimSpaces (bytes : List UInt8) : List UInt8 :=
  ((bytes.dropWhile isSpace).reverse.dropWhile isSpace).reverse

/-- The text of bytes, or that of each byte if they are not the text of anything. -/
def textOf (bytes : List UInt8) : String :=
  (Utf8.toString? bytes).getD (Target.ascii bytes)

def readHeader (line : List UInt8) : Except RequestError Header :=
  match line.dropWhile (· ≠ 0x3A) with
  | [] => .error .headerName
  | _ :: value => checkHeader (textOf (line.takeWhile (· ≠ 0x3A)), textOf (trimSpaces value))

/-- The head of a request. -/
structure Head where
  /-- The request without its body. -/
  message : Request
  /-- Whether the version of the protocol keeps connections open. -/
  keepsOpen : Bool

/-- Reads the head of a request. -/
def readHead (bytes : List UInt8) : Except RequestError Head := do
  match (splitBytes 0x0A bytes).map withoutReturn with
  | [] => throw .method
  | line :: lines =>
      match splitBytes 0x20 line with
      | [method, target, version] =>
          if textOf version ≠ "HTTP/1.1" && textOf version ≠ "HTTP/1.0" then throw .method
          let headers ← lines.mapM readHeader
          let message ← Request.make (textOf method) target headers []
          return { message, keepsOpen := textOf version = "HTTP/1.1" }
      | _ => throw .method

/-- The value of a header, in lower case. -/
def Head.value? (head : Head) (name : String) : Option String :=
  (head.message.headers.find? fun header => header.fst = name).map fun header =>
    String.ofList (header.snd.toList.map Char.toLower)

/-- Whether the connection may be used again. -/
def Head.isPersistent (head : Head) : Bool :=
  match head.value? "connection" with
  | some "close" => false
  | some "keep-alive" => true
  | _ => head.keepsOpen

/-- The number that hexadecimal digits spell. -/
def hexNumber? (digits : List UInt8) : Option Nat :=
  if digits.isEmpty then none
  else digits.foldlM (fun number digit =>
    (hexValue? digit).map fun value => number * 16 + value.toNat) 0

/-- The number that decimal digits spell. -/
def decimalNumber? (text : String) : Option Nat :=
  if text.isEmpty || !text.toList.all Char.isDigit then none else text.toNat?

/-- The body of a message and what comes after it, as far as it has come in. -/
inductive Body
  | whole (bytes rest : List UInt8)
  | partly
  | malformed

/-- Reads at most `count` chunks, after the bytes `done`. -/
def readChunks (done : List UInt8) (bytes : List UInt8) : Nat → Body
  | 0 => .partly
  | count + 1 =>
      match bytes.dropWhile (· ≠ 0x0A) with
      | [] => .partly
      | _ :: rest =>
          match hexNumber? ((withoutReturn (bytes.takeWhile (· ≠ 0x0A))).takeWhile (· ≠ 0x3B)) with
          | none => .malformed
          | some 0 =>
              match rest with
              | 0x0D :: 0x0A :: rest => .whole done rest
              | 0x0A :: rest => .whole done rest
              | _ =>
                  match splitHead [] rest with
                  | some (_, rest) => .whole done rest
                  | none => .partly
          | some size =>
              let after := rest.drop size
              match after with
              | 0x0D :: 0x0A :: next => readChunks (done ++ rest.take size) next count
              | [] | [0x0D] => .partly
              | _ => .malformed

/-- Reads the body that a head asks for. -/
def Head.readBody (head : Head) (bytes : List UInt8) : Body :=
  match head.value? "transfer-encoding", head.value? "content-length" with
  | some "chunked", _ => readChunks [] bytes bytes.length
  | some _, _ => .malformed
  | none, none => .whole [] bytes
  | none, some text =>
      match decimalNumber? text with
      | none => .malformed
      | some length =>
          if bytes.length < length then .partly
          else .whole (bytes.take length) (bytes.drop length)

/-- What the bytes that have come in on a connection amount to. -/
def read (bytes : List UInt8) : Reading :=
  match splitHead [] bytes with
  | none => .incomplete false
  | some (headBytes, rest) =>
      match readHead headBytes with
      | .error _ => .malformed
      | .ok head =>
          match head.readBody rest with
          | .whole body rest => .request { head.message with body } head.isPersistent rest
          | .partly => .incomplete (head.value? "expect" = some "100-continue")
          | .malformed => .malformed

/-- The sign to go on. -/
def goOn : String := "HTTP/1.1 100 Continue\r\n\r\n"

/-- A response as it is written. -/
def write (response : Response) : String :=
  "HTTP/1.1 " ++ toString response.status ++ " " ++ reason response.status ++ "\r\n" ++
    String.join (response.headers.map fun (name, value) => name ++ ": " ++ value ++ "\r\n") ++
    "\r\n" ++ response.body

end Shortlink.Http.Wire
