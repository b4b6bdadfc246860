import Shortlink.Json.Text
import Shortlink.Json.Number

/-!
# Skipping a value

A value whose content does not matter is skipped with nothing remembered but the
lists and objects that are open around the place reached, so that nesting may
go as deep as the document is long.
-/

namespace Shortlink.Json

/-- Whether a byte is blank between the parts of a document. -/
def isBlank (byte : UInt8) : Bool :=
  byte == 0x20 || byte == 0x0A || byte == 0x09 || byte == 0x0D

/-- The bytes after the blanks in front. -/
def skipBlanks (bytes : List UInt8) : List UInt8 :=
  bytes.dropWhile isBlank

/-- Skips the rest of a word. -/
def skipWord : List UInt8 → List UInt8 → Except Fault (List UInt8)
  | [], bytes => .ok bytes
  | _ :: _, [] => .error ⟨.endInValue, []⟩
  | letter :: letters, byte :: rest =>
      if byte == letter then skipWord letters rest else .error ⟨.expectedWord, rest⟩

/-- The rest of the word `null`. -/
def restOfNull : List UInt8 := [0x75, 0x6C, 0x6C]

/-- The rest of the word `true`. -/
def restOfTrue : List UInt8 := [0x72, 0x75, 0x65]

/-- The rest of the word `false`. -/
def restOfFalse : List UInt8 := [0x61, 0x6C, 0x73, 0x65]

/-- Skips a value that holds no others, given its first byte. -/
def skipScalar (first : UInt8) (rest : List UInt8) : Except Fault (List UInt8) :=
  if first == 0x22 then skipText rest
  else if first == 0x6E then skipWord restOfNull rest
  else if first == 0x74 then skipWord restOfTrue rest
  else if first == 0x66 then skipWord restOfFalse rest
  else if first == 0x2D then skipNumber rest
  else if isDigit first then skipNumber (first :: rest)
  else .error ⟨.expectedValue, rest⟩

/-- A value that holds others. -/
inductive Container
  /-- Values in brackets. -/
  | list
  /-- Named values in braces. -/
  | object
  deriving DecidableEq, Repr

/-- The flaw of a document that ends inside a container. -/
def Container.cutShort : Container → Flaw
  | .list => .endInList
  | .object => .endInObject

/-- The flaw of a container in which neither a comma nor the end follows a value. -/
def Container.expectedEnd : Container → Flaw
  | .list => .expectedListEnd
  | .object => .expectedObjectEnd

/-- The byte that ends a container. -/
def Container.closing : Container → UInt8
  | .list => 0x5D
  | .object => 0x7D

/-- Where skipping has got to. -/
inductive Place
  | value
  /-- A container has just been opened: its end, or its first value or name, is due. -/
  | opened
  /-- A value has ended: the end of its container, or a comma, is due. -/
  | after
  /-- The name of a member is due. -/
  | name
  /-- The colon after a name is due. -/
  | colon
  deriving DecidableEq, Repr

/-- Where skipping goes on after a comma, and where a container begins if it does not end. -/
def Container.inside : Container → Place
  | .list => .value
  | .object => .name

/-- What one move of skipping leads to. -/
inductive Move
  /-- Skipping goes on at a place, with some containers open and some bytes left. -/
  | go (place : Place) (opened : List Container) (rest : List UInt8)
  /-- The value has been skipped. -/
  | done (rest : List UInt8)

/-- The place after a value, if any container is open around it. -/
def Move.ended (opened : List Container) (rest : List UInt8) : Move :=
  match opened with
  | [] => .done rest
  | _ :: _ => .go .after opened rest

/-- Takes a value, or only the opening of one that holds others. -/
def takeValue (opened : List Container) : List UInt8 → Except Fault Move
  | [] => .error ⟨.endInValue, []⟩
  | first :: rest =>
      if first == 0x5B then .ok (.go .opened (.list :: opened) rest)
      else if first == 0x7B then .ok (.go .opened (.object :: opened) rest)
      else (skipScalar first rest).map (Move.ended opened)

/-- Takes the name of a member. -/
def takeName (opened : List Container) : List UInt8 → Except Fault Move
  | [] => .error ⟨.endInObject, []⟩
  | first :: rest =>
      if first == 0x22 then (skipText rest).map (Move.go .colon opened)
      else .error ⟨.nameNotString, rest⟩

/-- One move from a place, at bytes that do not begin with a blank. -/
def move (place : Place) (opened : List Container) (bytes : List UInt8) : Except Fault Move :=
  match place, opened with
  | .value, _ => takeValue opened bytes
  | .name, _ => takeName opened bytes
  | .colon, _ =>
      match bytes with
      | [] => .error ⟨.endInObject, []⟩
      | first :: rest =>
          if first == 0x3A then .ok (.go .value opened rest) else .error ⟨.expectedColon, rest⟩
  | .opened, container :: outer =>
      match bytes with
      | [] => .error ⟨container.cutShort, []⟩
      | first :: rest =>
          if first == container.closing then .ok (Move.ended outer rest)
          else match container with
            | .list => takeValue opened bytes
            | .object => takeName opened bytes
  | .after, container :: outer =>
      match bytes with
      | [] => .error ⟨container.cutShort, []⟩
      | first :: rest =>
          if first == container.closing then .ok (Move.ended outer rest)
          else if first == 0x2C then .ok (.go container.inside opened rest)
          else .error ⟨container.expectedEnd, rest⟩
  | .opened, [] | .after, [] => .ok (.done bytes)

/-- Skipping digits takes none back. -/
theorem length_skipDigits_le (bytes : List UInt8) :
    (skipDigits bytes).length ≤ bytes.length := by
  exact (List.dropWhile_suffix _).length_le

/-- Skipping blanks takes none back. -/
theorem length_skipBlanks_le (bytes : List UInt8) :
    (skipBlanks bytes).length ≤ bytes.length := by
  exact (List.dropWhile_suffix _).length_le

/-- Skipping an exponent takes nothing back. -/
theorem length_le_of_skipExponent {bytes rest : List UInt8}
    (skipped : skipExponent bytes = .ok rest) : rest.length ≤ bytes.length := by
  unfold skipExponent at skipped
  simp only [] at skipped
  split at skipped
  · simp at skipped
  · rename_i byte after unsigned
    split at skipped
    · simp only [Except.ok.injEq] at skipped
      subst skipped
      have shorter := length_skipDigits_le after
      have same : after.length + 1 ≤ bytes.length := by
        have := congrArg List.length unsigned
        split at this
        · simp only [List.length_tail, List.length_cons] at this; omega
        · simp only [List.length_cons] at this; omega
      omega
    · simp at skipped

/-- Skipping an exponent that may be missing takes nothing back. -/
theorem length_le_of_skipExponentIfAny {bytes rest : List UInt8}
    (skipped : skipExponentIfAny bytes = .ok rest) : rest.length ≤ bytes.length := by
  unfold skipExponentIfAny at skipped
  split at skipped
  · simp only [Except.ok.injEq] at skipped; subst skipped; simp
  · split at skipped
    · have := length_le_of_skipExponent skipped
      simp only [List.length_cons]; omega
    · simp only [Except.ok.injEq] at skipped; subst skipped; simp

/-- Skipping the end of a number takes nothing back. -/
theorem length_le_of_skipAfterInteger {bytes rest : List UInt8}
    (skipped : skipAfterInteger bytes = .ok rest) : rest.length ≤ bytes.length := by
  unfold skipAfterInteger at skipped
  split at skipped
  · split at skipped
    · simp at skipped
    · split at skipped
      · rename_i more _
        have := length_le_of_skipExponentIfAny skipped
        have := length_skipDigits_le more
        simp only [List.length_cons]; omega
      · simp at skipped
  · exact length_le_of_skipExponentIfAny skipped

/-- Skipping a number takes at least one digit. -/
theorem length_lt_of_skipNumber {bytes rest : List UInt8}
    (skipped : skipNumber bytes = .ok rest) : rest.length < bytes.length := by
  unfold skipNumber at skipped
  split at skipped
  · simp at skipped
  · rename_i byte after
    split at skipped
    · split at skipped
      · simp at skipped
      · have := length_le_of_skipAfterInteger skipped
        simp only [List.length_cons]; omega
    · split at skipped
      · have := length_le_of_skipAfterInteger skipped
        have := length_skipDigits_le after
        simp only [List.length_cons]; omega
      · simp at skipped

/-- Skipping a word takes nothing back. -/
theorem length_le_of_skipWord {letters bytes rest : List UInt8}
    (skipped : skipWord letters bytes = .ok rest) : rest.length ≤ bytes.length := by
  fun_induction skipWord letters bytes with
  | case1 => cases skipped; exact Nat.le_refl _
  | case2 => cases skipped
  | case3 letter letters byte bytes _ ih =>
      have := ih skipped
      simp only [List.length_cons]; omega
  | case4 => cases skipped

/-- Skipping a value that holds no others takes at least one byte. -/
theorem length_le_of_skipScalar {first : UInt8} {bytes rest : List UInt8}
    (skipped : skipScalar first bytes = .ok rest) : rest.length ≤ bytes.length := by
  unfold skipScalar at skipped
  repeat' split at skipped
  · exact Nat.le_of_lt (length_lt_of_skipText skipped)
  · exact length_le_of_skipWord skipped
  · exact length_le_of_skipWord skipped
  · exact length_le_of_skipWord skipped
  · exact Nat.le_of_lt (length_lt_of_skipNumber skipped)
  · have := length_lt_of_skipNumber skipped
    simp only [List.length_cons] at this; omega
  · simp at skipped

/-- The bytes after a move. -/
def Move.rest : Move → List UInt8
  | .go _ _ left | .done left => left

/-- Leaving a container takes nothing. -/
theorem Move.rest_ended (opened : List Container) (left : List UInt8) :
    (Move.ended opened left).rest = left := by
  cases opened <;> rfl

/-- Taking a value takes at least one byte. -/
theorem length_lt_of_takeValue {opened : List Container} {bytes : List UInt8} {next : Move}
    (taken : takeValue opened bytes = .ok next) : next.rest.length < bytes.length := by
  unfold takeValue at taken
  split at taken
  · simp at taken
  · rename_i first after
    repeat' split at taken
    · simp only [Except.ok.injEq] at taken; subst taken; simp [Move.rest]
    · simp only [Except.ok.injEq] at taken; subst taken; simp [Move.rest]
    · cases skipped : skipScalar first after with
      | error flawed => simp [skipped, Except.map] at taken
      | ok left =>
          simp only [skipped, Except.map, Except.ok.injEq] at taken
          subst taken
          have := length_le_of_skipScalar skipped
          simp only [Move.rest_ended, List.length_cons]; omega

/-- Taking a name takes at least one byte. -/
theorem length_lt_of_takeName {opened : List Container} {bytes : List UInt8} {next : Move}
    (taken : takeName opened bytes = .ok next) : next.rest.length < bytes.length := by
  unfold takeName at taken
  split at taken
  · simp at taken
  · rename_i first after
    split at taken
    · cases skipped : skipText after with
      | error flawed => simp [skipped, Except.map] at taken
      | ok left =>
          simp only [skipped, Except.map, Except.ok.injEq] at taken
          subst taken
          have := length_lt_of_skipText skipped
          simp only [Move.rest, List.length_cons]; omega
    · simp at taken

/-- A move that does not end the skipping takes at least one byte. -/
theorem length_lt_of_move {place next : Place} {opened after : List Container}
    {bytes rest : List UInt8} (moved : move place opened bytes = .ok (.go next after rest)) :
    rest.length < bytes.length := by
  unfold move at moved
  repeat' split at moved
  all_goals first
    | exact length_lt_of_takeValue moved
    | exact length_lt_of_takeName moved
    | (simp at moved; done)
    | (simp only [Except.ok.injEq] at moved
       have same := congrArg Move.rest moved
       rw [Move.rest_ended] at same
       rw [show rest = _ from same.symm]
       simp)
    | (simp only [Except.ok.injEq, Move.go.injEq] at moved
       obtain ⟨-, -, rfl⟩ := moved
       simp)

/-- Skips on from a place until the value that the skipping began with has ended. -/
def skipFrom (place : Place) (opened : List Container) (bytes : List UInt8) :
    Except Fault (List UInt8) :=
  match moved : move place opened (skipBlanks bytes) with
  | .error flawed => .error flawed
  | .ok (.done rest) => .ok rest
  | .ok (.go next after rest) =>
      have : rest.length < bytes.length :=
        Nat.lt_of_lt_of_le (length_lt_of_move moved) (length_skipBlanks_le bytes)
      skipFrom next after rest
termination_by bytes.length

/-- Skips a value and the blanks in front of it. -/
def skipValue (bytes : List UInt8) : Except Fault (List UInt8) :=
  skipFrom .value [] bytes

end Shortlink.Json
