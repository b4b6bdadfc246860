import Shortlink.Text.Utf8

/-!
# Request targets

What a request line asks for: a path with perhaps a query, the same behind a
scheme and an authority, or an authority alone.  A fragment may be written and is
dropped.
-/

namespace Shortlink.Http

/-- Why bytes are no request target. -/
inductive TargetError
  | empty
  /-- There are more than 65534. -/
  | tooLong
  /-- One of them may not stand where it does. -/
  | character
  /-- They are of none of the forms. -/
  | form
  /-- The authority is not of the form of an authority. -/
  | authority
  /-- The scheme has more than 64 bytes. -/
  | schemeTooLong
  deriving DecidableEq, Repr

/-- The wording of a failure. -/
def TargetError.message : TargetError → String
  | .empty => "empty string"
  | .tooLong => "uri too long"
  | .character => "invalid uri character"
  | .form => "invalid format"
  | .authority => "invalid authority"
  | .schemeTooLong => "scheme too long"

/-- What a request line asks for. -/
structure Target where
  /-- The scheme, in the form that has one. -/
  scheme? : Option String := none
  /-- The authority, in the forms that have one. -/
  authority? : Option String := none
  /-- The path as it is written, without decoding anything. -/
  path : String
  /-- What follows the question mark, if there is one. -/
  query? : Option String := none
  deriving DecidableEq, Repr

namespace Target

/-- A target as it is written. -/
def text (target : Target) : String :=
  target.scheme?.elim "" (fun scheme => scheme ++ "://") ++ target.authority?.getD "" ++
    target.path ++ target.query?.elim "" (fun query => "?" ++ query)

/-- The most bytes that a target may have. -/
def maximumLength : Nat := 65534

/-- The most bytes that a scheme may have. -/
def maximumSchemeLength : Nat := 64

/-- The text of ASCII bytes. -/
def ascii (bytes : List UInt8) : String :=
  String.ofList (bytes.map fun byte => Char.ofNat byte.toNat)

/-- Whether a byte is a letter of ASCII. -/
def isLetter (byte : UInt8) : Bool :=
  (0x41 ≤ byte && byte ≤ 0x5A) || (0x61 ≤ byte && byte ≤ 0x7A)

/-- Whether a byte is a digit of ASCII. -/
def isDigit (byte : UInt8) : Bool :=
  0x30 ≤ byte && byte ≤ 0x39

/-- The lower-case form of a letter; any other byte stays what it is. -/
def lower (byte : UInt8) : UInt8 :=
  if 0x41 ≤ byte && byte ≤ 0x5A then byte + 0x20 else byte

/-- Whether a byte may stand in a path. -/
def isPathByte (byte : UInt8) : Bool :=
  byte == 0x21 || byte == 0x22 || (0x24 ≤ byte && byte ≤ 0x3B) || byte == 0x3D ||
    (0x40 ≤ byte && byte ≤ 0x5F) || 0x61 ≤ byte

/-- Whether a byte may stand in a query. -/
def isQueryByte (byte : UInt8) : Bool :=
  byte == 0x21 || (0x24 ≤ byte && byte ≤ 0x3B) || byte == 0x3D || 0x3F ≤ byte

/-- Whether a byte may stand in a scheme. -/
def isSchemeByte (byte : UInt8) : Bool :=
  isLetter byte || isDigit byte || byte == 0x2B || byte == 0x2D || byte == 0x2E ||
    byte == 0x7E

/-- Whether a byte ends an authority. -/
def endsAuthority (byte : UInt8) : Bool :=
  byte == 0x2F || byte == 0x3F || byte == 0x23

/-- Whether a byte may stand in an authority: a letter, a digit, or a mark out of
`!$&'()*+,-.:;=@[]_~%`. -/
def isAuthorityByte (byte : UInt8) : Bool :=
  isLetter byte || isDigit byte ||
    [0x21, 0x24, 0x25, 0x26, 0x27, 0x28, 0x29, 0x2A, 0x2B, 0x2C, 0x2D, 0x2E, 0x3A, 0x3B, 0x3D,
      0x40, 0x5B, 0x5D, 0x5F, 0x7E].contains byte

/-- Reads a path with its query. -/
def ofPath (bytes : List UInt8) : Except TargetError Target :=
  let isEnd (byte : UInt8) : Bool := byte == 0x3F || byte == 0x23
  let path := bytes.takeWhile fun byte => !isEnd byte
  let query? := match bytes.dropWhile fun byte => !isEnd byte with
    | 0x3F :: rest => some (rest.takeWhile (· != 0x23))
    | _ => none
  if path.all isPathByte && (query?.getD []).all isQueryByte then
    match Utf8.toString? path, query?.mapM Utf8.toString? with
    | some path, some query? => .ok { path, query? }
    | _, _ => .error .character
  else .error .character

/-- What has been seen of an authority. -/
structure AuthorityScan where
  /-- The colons that may still turn out to belong to a port. -/
  colons : Nat := 0
  opened : Bool := false
  closed : Bool := false
  /-- There has been a percent sign that may still turn out to belong to a host. -/
  percent : Bool := false
  /-- The last byte was an at sign. -/
  atSign : Bool := false

/-- Takes one more byte of an authority.  Colons and percent signs are forgiven
before an at sign and inside brackets. -/
def AuthorityScan.take (scan : AuthorityScan) (byte : UInt8) :
    Except TargetError AuthorityScan :=
  let scan := { scan with atSign := false }
  if byte == 0x3A then
    if 8 ≤ scan.colons then .error .authority else .ok { scan with colons := scan.colons + 1 }
  else if byte == 0x5B then
    if scan.percent || scan.opened then .error .authority else .ok { scan with opened := true }
  else if byte == 0x5D then
    if !scan.opened || scan.closed then .error .authority
    else .ok { scan with closed := true, colons := 0, percent := false }
  else if byte == 0x40 then .ok { scan with colons := 0, percent := false, atSign := true }
  else if byte == 0x25 then .ok { scan with percent := true }
  else if isAuthorityByte byte then .ok scan
  else .error .character

/-- Whether what has been seen is a whole authority. -/
def AuthorityScan.isWhole (scan : AuthorityScan) : Bool :=
  scan.opened == scan.closed && scan.colons ≤ 1 && !scan.atSign && !scan.percent

/-- Splits off the authority in front. -/
def splitAuthority (bytes : List UInt8) : Except TargetError (List UInt8 × List UInt8) := do
  let authority := bytes.takeWhile fun byte => !endsAuthority byte
  let scan ← authority.foldlM AuthorityScan.take {}
  if scan.isWhole then
    return (authority, bytes.dropWhile fun byte => !endsAuthority byte)
  else throw .authority

/-- Splits off the scheme in front and the three bytes after it.  The schemes
`http` and `https` are written in lower case. -/
def splitScheme (bytes : List UInt8) : Except TargetError (Option (String × List UInt8)) :=
  let scheme := bytes.takeWhile isSchemeByte
  match bytes.dropWhile isSchemeByte with
  | 0x3A :: 0x2F :: 0x2F :: rest =>
      let lowered := ascii (scheme.map lower)
      if lowered = "http" || lowered = "https" then .ok (some (lowered, rest))
      else if bytes.length ≤ 3 then .ok none
      else if maximumSchemeLength < scheme.length then .error .schemeTooLong
      else .ok (some (ascii scheme, rest))
  | _ => .ok none

/-- Reads a target that does not start with a slash. -/
def ofAbsolute (bytes : List UInt8) : Except TargetError Target := do
  match ← splitScheme bytes with
  | none =>
      let (authority, rest) ← splitAuthority bytes
      if rest.isEmpty then return { authority? := some (ascii authority), path := "" }
      else throw .form
  | some (scheme, rest) =>
      let (authority, rest) ← splitAuthority rest
      if authority.isEmpty then throw .form
      let target ← ofPath rest
      return { target with
        scheme? := some scheme
        authority? := some (ascii authority)
        path := if target.path.isEmpty then "/" else target.path }

def parse (bytes : List UInt8) : Except TargetError Target :=
  if maximumLength < bytes.length then .error .tooLong
  else match bytes with
  | [] => .error .empty
  | [0x2A] => .ok { path := "*" }
  | [byte] =>
      if byte == 0x2F then .ok { path := "/" }
      else if endsAuthority byte then .error .character
      else ofAbsolute [byte]
  | 0x2F :: _ => ofPath bytes
  | _ => ofAbsolute bytes

end Target

end Shortlink.Http
