import Shortlink.Pattern.Expression
import Shortlink.Pattern.Fault

/-!
# From syntax to meaning

The meaning of a node depends on the flags that are in force where it stands, and a
node may change the flags for what follows it.  Nothing is known about characters
beyond ASCII but their numbers, so that some patterns have no meaning.
-/

namespace Shortlink.Pattern

/-- The flags in force. -/
structure Flags where
  eitherCase : Bool := false
  multiLine : Bool := false
  dotMatchesAll : Bool := false
  lazy : Bool := false
  unicode : Bool := true
  carriageReturns : Bool := false
  deriving DecidableEq, Repr

namespace Flags

/-- Turns a flag on or off. -/
def set (flags : Flags) : Flag → Bool → Flags
  | .eitherCase, on => { flags with eitherCase := on }
  | .multiLine, on => { flags with multiLine := on }
  | .dotMatchesAll, on => { flags with dotMatchesAll := on }
  | .lazy, on => { flags with lazy := on }
  | .unicode, on => { flags with unicode := on }
  | .carriageReturns, on => { flags with carriageReturns := on }
  | .looseLayout, _ => flags

/-- Turns flags on and off. -/
def setAll (flags : Flags) (settings : FlagSettings) : Flags :=
  settings.foldl (fun flags (flag, on) => flags.set flag on) flags

/-- Complains about a span. -/
def refuse {α : Type} (complaint : Complaint) (span : Span) : Except Fault α :=
  .error { complaint, span }

/-- A set and its letters of the other case, if the case does not count.  Which letters
beyond ASCII differ only in case is not known. -/
def folded (flags : Flags) (span : Span) (bare : Bool) (set : CharSet) :
    Except Fault CharSet :=
  if !flags.eitherCase then .ok set
  else if !flags.unicode then .ok (.eitherCase set)
  else if bare then .ok set
  else refuse .caseUnknown span

/-- A set or, if it is negated, all others.  The latter would take bytes that are part
of no character, where classes are about bytes. -/
def negatedIf (flags : Flags) (span : Span) (negated : Bool) (set : CharSet) :
    Except Fault CharSet :=
  if !negated then .ok set
  else if flags.unicode then .ok (.complement set)
  else refuse .loneBytes span

/-- The meaning of a character.  A byte beyond ASCII is part of a character, and no
character itself. -/
def character (flags : Flags) (written : Literal) : Except Fault Char :=
  if !flags.unicode && written.isByte && 0x80 ≤ written.character.toNat then
    refuse .loneBytes written.span
  else .ok written.character

/-- The meaning of a character in a class. -/
def classCharacter (flags : Flags) (written : Literal) : Except Fault Char := do
  let character ← flags.character written
  if !flags.unicode && 0x80 ≤ character.toNat then refuse .beyondAscii written.span
  else return character

/-- The meaning of a class that has a letter. -/
def letter (flags : Flags) (span : Span) (negated : Bool) (kind : LetterClass) :
    Except Fault CharSet :=
  if flags.unicode then refuse .classUnknown span
  else flags.negatedIf span negated (.ofRanges kind.named.ranges)

/-- The meaning of a property. -/
def property {α : Type} (flags : Flags) (span : Span) : Except Fault α :=
  refuse (if flags.unicode then .propertyUnknown else .beyondAscii) span

end Flags

mutual

/-- Whether a set is written without any character, so that case does not matter. -/
def ClassSet.isBare : ClassSet → Bool
  | .empty _ => true
  | .literal _ | .range .. | .named .. | .letter .. | .property _ => false
  | .bracketed _ _ content => content.isBare
  | .union _ parts => areBare parts
  | .operation _ _ left right => left.isBare && right.isBare

/-- Whether all parts of a set are written without any character. -/
def ClassSet.areBare : List ClassSet → Bool
  | [] => true
  | part :: parts => part.isBare && areBare parts

end

mutual

/-- The meaning of the content of a class. -/
def ClassSet.meaning (flags : Flags) : ClassSet → Except Fault CharSet
  | .empty _ => .ok .none
  | .literal written => do return .single (← flags.classCharacter written)
  | .range _ first last => do
      return .range (← flags.classCharacter first) (← flags.classCharacter last)
  | .named span negated name => do
      flags.negatedIf span negated (← flags.folded span false (.ofRanges name.ranges))
  | .letter span negated kind => flags.letter span negated kind
  | .property span => flags.property span
  | .bracketed span negated content => do
      flags.negatedIf span negated (← flags.folded span content.isBare (← content.meaning flags))
  | .union _ parts => meanings flags parts
  | .operation _ kind left right => do
      let first ← left.meaning flags
      let second ← right.meaning flags
      let second ← flags.folded right.span right.isBare second
      let first ← flags.folded left.span left.isBare first
      return .combine kind first second

/-- The meaning of the parts of a class together. -/
def ClassSet.meanings (flags : Flags) : List ClassSet → Except Fault CharSet
  | [] => .ok .none
  | part :: parts => do return .union (← part.meaning flags) (← meanings flags parts)

end

/-- The meaning of a dot: a character, but not one that ends a line unless flags say so. -/
def Flags.dot (flags : Flags) (span : Span) : Except Fault CharSet :=
  if !flags.unicode then refuse .loneBytes span
  else if flags.dotMatchesAll then .ok .all
  else if flags.carriageReturns then .ok (.complement (.ofList ['\r', '\n']))
  else .ok (.complement (.single '\n'))

/-- The meaning of an edge. -/
def Flags.edge (flags : Flags) : EdgeMark → Edge
  | .textStart => .textStart
  | .textEnd => .textEnd
  | .lineStart =>
      if !flags.multiLine then .textStart
      else if flags.carriageReturns then .returnedLineStart
      else .lineStart
  | .lineEnd =>
      if !flags.multiLine then .textEnd
      else if flags.carriageReturns then .returnedLineEnd
      else .lineEnd
  | .wordEdge => .word .either flags.unicode
  | .noWordEdge => .word .neither flags.unicode
  | .wordStart => .word .start flags.unicode
  | .wordEnd => .word .finish flags.unicode

/-- The meaning of a character outside a class. -/
def Flags.literal (flags : Flags) (written : Literal) : Except Fault CharSet := do
  let set := CharSet.single (← flags.character written)
  flags.folded written.span false set

mutual

/-- The meaning of a pattern, and the flags in force after it. -/
def Node.meaning (flags : Flags) : Node → Except Fault (Expression × Flags)
  | .empty _ => .ok (.empty, flags)
  | .flags _ settings => .ok (.empty, flags.setAll settings)
  | .literal written => do return (.one (← flags.literal written), flags)
  | .dot span => do return (.one (← flags.dot span), flags)
  | .edge _ mark => .ok (.edge (flags.edge mark), flags)
  | .property span => flags.property span
  | .letter span negated kind => do return (.one (← flags.letter span negated kind), flags)
  | .bracketed span negated content => do
      let set ← flags.folded span content.isBare (← content.meaning flags)
      return (.one (← flags.negatedIf span negated set), flags)
  | .repetition _ count greedy body => do
      let (body, flags) ← body.meaning flags
      return (.repetition count (greedy != flags.lazy) body, flags)
  | .group _ settings body => do
      let (body, _) ← body.meaning (flags.setAll settings)
      return (body, flags)
  | .sequence _ parts => sequenceMeaning flags parts
  | .choice _ branches => choiceMeaning flags branches

/-- The meaning of one pattern after the other. -/
def Node.sequenceMeaning (flags : Flags) : List Node → Except Fault (Expression × Flags)
  | [] => .ok (.empty, flags)
  | part :: parts => do
      let (first, flags) ← part.meaning flags
      let (second, flags) ← sequenceMeaning flags parts
      return (.sequence first second, flags)

/-- The meaning of one pattern or another. -/
def Node.choiceMeaning (flags : Flags) : List Node → Except Fault (Expression × Flags)
  | [] => .ok (.one .none, flags)
  | branch :: branches => do
      let (preferred, flags) ← branch.meaning flags
      let (other, flags) ← choiceMeaning flags branches
      return (.choice preferred other, flags)

end

end Shortlink.Pattern
