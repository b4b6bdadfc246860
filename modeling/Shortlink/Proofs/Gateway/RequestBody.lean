import Shortlink.Gateway.ShortenRequest
import Shortlink.Proofs.Json.Skipping

/-!
# Bodies that ask for a URL

A body asks to shorten a URL if it is an object with exactly one member `url`, the
string that spells the URL, or a list of exactly one such string.  What the names and
the URL are is a matter of what they spell, not of how; the values of other members
may be anything.  These are the bodies that are read, and with that URL.
-/

namespace Shortlink.Gateway.ShortenRequest

open Json

/-! ## Bodies -/

/-- A member whose value does not matter: its name is not that of the URL. -/
def IsOther (member : Member) : Prop :=
  ∃ name ≠ urlName, Spells member.name name ∧ IsValue member.element.value

/-- The member that holds a URL. -/
def Holds (member : Member) (url : String) : Prop :=
  Spells member.name urlName ∧ Quotes member.element.value url

/-- A body asks to shorten a URL. -/
inductive Asks : List UInt8 → String → Prop
  /-- An object with one member that holds the URL, among others. -/
  | object (before after : Blanks) {earlier later : List Member} {member : Member}
      {url : String} :
      (∀ other ∈ earlier, IsOther other) → Holds member url → (∀ other ∈ later, IsOther other) →
        Asks (before.val ++ 0x7B ::
          (separated ((earlier ++ member :: later).map Member.bytes) ++ 0x7D :: after.val)) url
  /-- A list of the URL. -/
  | list (before after : Blanks) {element : Element} {url : String} :
      Quotes element.value url →
        Asks (before.val ++ 0x5B :: (element.bytes ++ 0x5D :: after.val)) url

/-! ## Members, one after the other -/

/-- What is known of the URL goes from one state to another with a member. -/
inductive Takes : Option String → Member → Option String → Prop
  /-- Another member changes nothing. -/
  | other {member : Member} (found : Option String) : IsOther member → Takes found member found
  /-- The URL must not be known before. -/
  | url {member : Member} {url : String} : Holds member url → Takes none member (some url)

/-- What is known of the URL goes from one state to another with all members. -/
inductive Gives : Option String → List Member → Option String → Prop
  /-- Without members nothing changes. -/
  | nil (found : Option String) : Gives found [] found
  | cons {found next last : Option String} {member : Member} {members : List Member} :
      Takes found member next → Gives next members last → Gives found (member :: members) last

theorem others_of_gives {url last : String} {members : List Member}
    (gives : Gives (some url) members (some last)) :
    url = last ∧ ∀ other ∈ members, IsOther other := by
  -- A known URL stays known, so no later member can hold one.
  generalize start : some url = found at gives
  generalize stop : some last = result at gives
  induction gives with
  | nil =>
      subst start
      exact ⟨(Option.some.inj stop).symm, fun _ inside => absurd inside List.not_mem_nil⟩
  | cons takes _ ih =>
      cases takes with
      | other _ isOther =>
          obtain ⟨same, others⟩ := ih start stop
          exact ⟨same, List.forall_mem_cons.mpr ⟨isOther, others⟩⟩
      | url => contradiction

theorem gives_of_others {members : List Member} (others : ∀ other ∈ members, IsOther other)
    (found : Option String) : Gives found members found := by
  induction members with
  | nil => exact .nil found
  | cons member members ih =>
      obtain ⟨isOther, more⟩ := List.forall_mem_cons.mp others
      exact .cons (.other found isOther) (ih more)

theorem Gives.exists_name {found result : Option String} {member : Member}
    {members : List Member} (gives : Gives found (member :: members) result) :
    ∃ name, Spells member.name name := by
  cases gives with
  | cons takes _ =>
      cases takes with
      | other _ isOther =>
          obtain ⟨name, _, spells, _⟩ := isOther
          exact ⟨name, spells⟩
      | url holds => exact ⟨urlName, holds.1⟩

/-- Members give a URL when one of them holds it and the others do not matter. -/
theorem gives_iff {members : List Member} {url : String} :
    Gives none members (some url) ↔
      ∃ earlier member later, members = earlier ++ member :: later ∧
        (∀ other ∈ earlier, IsOther other) ∧ Holds member url ∧
          ∀ other ∈ later, IsOther other := by
  constructor
  · intro gives
    induction members with
    | nil => cases gives
    | cons first members ih =>
        cases gives with
        | cons takes gives =>
            cases takes with
            | other _ isOther =>
                obtain ⟨earlier, member, later, rfl, before, holds, after⟩ := ih gives
                exact ⟨first :: earlier, member, later, rfl,
                  List.forall_mem_cons.mpr ⟨isOther, before⟩, holds, after⟩
            | url holds =>
                obtain ⟨rfl, after⟩ := others_of_gives gives
                exact ⟨[], first, members, rfl, fun _ inside => absurd inside List.not_mem_nil,
                  holds, after⟩
  · rintro ⟨earlier, member, later, rfl, before, holds, after⟩
    induction earlier with
    | nil => exact .cons (.url holds) (gives_of_others after (some url))
    | cons first earlier ih =>
        obtain ⟨isOther, more⟩ := List.forall_mem_cons.mp before
        exact .cons (.other none isOther) (ih more)

/-! ## Names, colons and ends -/

theorem nameAfterQuote_eq_ok_iff {bytes : List UInt8} {next : NameOrEnd} :
    nameAfterQuote bytes = .ok next ↔
      ∃ name content rest, next = .name name rest ∧ Spells content name ∧
        bytes = content ++ 0x22 :: rest := by
  constructor
  · intro read
    unfold nameAfterQuote at read
    split at read
    · rename_i name rest result
      obtain rfl := Except.ok.inj read
      obtain ⟨content, spells, whole⟩ := readText_eq_ok_iff.mp result
      exact ⟨name, content, rest, rfl, spells, whole⟩
    · contradiction
  · rintro ⟨name, content, rest, rfl, spells, rfl⟩
    have result : readText (content ++ 0x22 :: rest) = .ok (name, rest) :=
      readText_eq_ok_iff.mpr ⟨content, spells, rfl⟩
    simp only [nameAfterQuote, result]

theorem exists_of_nextName {bytes : List UInt8} {next : NameOrEnd}
    (read : nextName bytes = .ok next) :
    ∃ after : Blanks, (∃ rest, next = .close rest ∧ bytes = after.val ++ 0x7D :: rest) ∨
      ∃ (before : Blanks) (name : String) (content rest : List UInt8),
        next = .name name rest ∧ Spells content name ∧
          bytes = after.val ++ 0x2C :: (before.val ++ 0x22 :: (content ++ 0x22 :: rest)) := by
  unfold nextName at read
  split at read
  · contradiction
  rename_i first tail skipped
  obtain ⟨after, rfl⟩ := exists_blanks_of_skipBlanks skipped
  refine ⟨after, ?_⟩
  split at read
  · rename_i isBrace
    obtain rfl := eq_of_beq isBrace
    exact .inl ⟨tail, (Except.ok.inj read).symm, rfl⟩
  split at read
  · rename_i isComma
    obtain rfl := eq_of_beq isComma
    unfold nameAfterComma at read
    split at read
    · contradiction
    rename_i second more skippedTail
    obtain ⟨before, rfl⟩ := exists_blanks_of_skipBlanks skippedTail
    split at read
    · rename_i isQuote
      obtain rfl := eq_of_beq isQuote
      obtain ⟨name, content, rest, rfl, spells, rfl⟩ := nameAfterQuote_eq_ok_iff.mp read
      exact .inr ⟨before, name, content, rest, rfl, spells, rfl⟩
    split at read <;> contradiction
  · contradiction

theorem nextName_close (after : Blanks) (rest : List UInt8) :
    nextName (after.val ++ 0x7D :: rest) = .ok (.close rest) := by
  rw [nextName, skipBlanks_blanks_cons after rfl]
  rfl

theorem nextName_name (after before : Blanks) {name : String} {content : List UInt8}
    (spells : Spells content name) (rest : List UInt8) :
    nextName (after.val ++ 0x2C :: (before.val ++ 0x22 :: (content ++ 0x22 :: rest))) =
      .ok (.name name rest) := by
  have second : nameAfterComma (before.val ++ 0x22 :: (content ++ 0x22 :: rest)) =
      .ok (.name name rest) := by
    rw [nameAfterComma, skipBlanks_blanks_cons before rfl]
    exact nameAfterQuote_eq_ok_iff.mpr ⟨name, content, rest, rfl, spells, rfl⟩
  rw [nextName, skipBlanks_blanks_cons after rfl]
  exact second

theorem exists_of_firstName {bytes rest : List UInt8} {name : String}
    (read : firstName bytes = .ok (.name name rest)) :
    ∃ (before : Blanks) (content : List UInt8), Spells content name ∧
      bytes = before.val ++ 0x22 :: (content ++ 0x22 :: rest) := by
  unfold firstName at read
  split at read
  · contradiction
  rename_i first tail skipped
  obtain ⟨before, rfl⟩ := exists_blanks_of_skipBlanks skipped
  split at read
  · cases Except.ok.inj read
  split at read
  · rename_i isQuote
    obtain rfl := eq_of_beq isQuote
    obtain ⟨_, content, _, same, spells, rfl⟩ := nameAfterQuote_eq_ok_iff.mp read
    obtain ⟨rfl, rfl⟩ := NameOrEnd.name.inj same
    exact ⟨before, content, spells, rfl⟩
  · contradiction

theorem firstName_name (before : Blanks) {name : String} {content : List UInt8}
    (spells : Spells content name) (rest : List UInt8) :
    firstName (before.val ++ 0x22 :: (content ++ 0x22 :: rest)) = .ok (.name name rest) := by
  rw [firstName, skipBlanks_blanks_cons before rfl]
  exact nameAfterQuote_eq_ok_iff.mpr ⟨name, content, rest, rfl, spells, rfl⟩

theorem takeColon_eq_ok_iff {bytes rest : List UInt8} :
    takeColon bytes = .ok rest ↔ ∃ blanks : Blanks, bytes = blanks.val ++ 0x3A :: rest := by
  constructor
  · intro taken
    unfold takeColon at taken
    split at taken
    · contradiction
    rename_i first tail skipped
    obtain ⟨blanks, rfl⟩ := exists_blanks_of_skipBlanks skipped
    split at taken
    · rename_i isColon
      obtain rfl := eq_of_beq isColon
      obtain rfl := Except.ok.inj taken
      exact ⟨blanks, rfl⟩
    · contradiction
  · rintro ⟨blanks, rfl⟩
    rw [takeColon, skipBlanks_blanks_cons blanks rfl]
    rfl

/-! ## Members that are read -/

theorem exists_of_memberValue {found next : Option String} {name : String}
    {bytes rest content : List UInt8} (read : memberValue found name bytes = .ok (next, rest))
    (spells : Spells content name) :
    ∃ (between before : Blanks) (value : List UInt8),
      (∀ front after, Takes found ⟨front, content, between, ⟨before, value, after⟩⟩ next) ∧
        bytes = between.val ++ 0x3A :: (before.val ++ (value ++ rest)) := by
  unfold memberValue at read
  split at read
  · rename_i isUrl
    subst isUrl
    split at read
    · contradiction
    split at read
    · contradiction
    rename_i tail colon
    obtain ⟨between, rfl⟩ := takeColon_eq_ok_iff.mp colon
    split at read
    · contradiction
    rename_i url left text
    obtain ⟨rfl, rfl⟩ := Prod.mk.inj (Except.ok.inj read)
    obtain ⟨before, quoted, quotes, rfl⟩ := expectText_eq_ok_iff.mp text
    exact ⟨between, before, quoted, fun _ _ => .url ⟨spells, quotes⟩, rfl⟩
  · rename_i noUrl
    split at read
    · contradiction
    rename_i tail colon
    obtain ⟨between, rfl⟩ := takeColon_eq_ok_iff.mp colon
    split at read
    · contradiction
    rename_i left skipped
    obtain ⟨rfl, rfl⟩ := Prod.mk.inj (Except.ok.inj read)
    obtain ⟨before, value, isValue, rfl⟩ := exists_value_of_skipValue skipped
    exact ⟨between, before, value, fun _ _ => .other _ ⟨name, noUrl, spells, isValue⟩, rfl⟩

theorem memberValue_of_takes {found next : Option String} {member : Member} {name : String}
    {rest : List UInt8} (takes : Takes found member next) (spells : Spells member.name name)
    (ends : EndsNumber rest) :
    memberValue found name (member.between.val ++ 0x3A :: (member.element.before.val ++
      (member.element.value ++ rest))) = .ok (next, rest) := by
  have colon (more : List UInt8) : takeColon (member.between.val ++ 0x3A :: more) = .ok more :=
    takeColon_eq_ok_iff.mpr ⟨member.between, rfl⟩
  cases takes with
  | other _ isOther =>
      -- The name that has been read is the one that makes the member another one.
      obtain ⟨other, noUrl, spellsOther, isValue⟩ := isOther
      obtain rfl := spells.unique spellsOther
      have skipped := (skipValue_eq_ok_iff ends).mpr
        ⟨member.element.before, member.element.value, isValue, rfl⟩
      unfold memberValue
      simp only [if_neg noUrl, colon, skipped]
  | url holds =>
      obtain rfl := spells.unique holds.1
      have text : expectText (member.element.before.val ++ (member.element.value ++ rest)) = _ :=
        expectText_eq_ok_iff.mpr ⟨member.element.before, _, holds.2, rfl⟩
      unfold memberValue
      simp only [if_true, colon, text]

/-- What follows a member: the members after it and the end of the object. -/
def afterMember : List Member → List UInt8 → List UInt8
  | [], rest => 0x7D :: rest
  | member :: others, rest => 0x2C :: (member.bytes ++ afterMember others rest)

theorem separated_members (first : Member) (others : List Member) (rest : List UInt8) :
    separated ((first :: others).map Member.bytes) ++ 0x7D :: rest =
      first.bytes ++ afterMember others rest := by
  induction others generalizing first with
  | nil => rw [List.map_singleton, separated_singleton, afterMember]
  | cons second others ih =>
      rw [afterMember, ← ih second, List.map_cons, separated_cons _ (by simp), List.append_assoc,
        List.cons_append]

theorem finish_eq_ok_iff {found : Option String} {bytes rest : List UInt8} {url : String} :
    finish found bytes = .ok (url, rest) ↔ found = some url ∧ bytes = rest := by
  cases found <;> simp [finish]

theorem exists_of_members {found : Option String} {name url : String}
    {bytes rest content : List UInt8} (read : members found name bytes = .ok (url, rest))
    (spells : Spells content name) :
    ∃ (between : Blanks) (element : Element) (others : List Member),
      (∀ front, Gives found (⟨front, content, between, element⟩ :: others) (some url)) ∧
        bytes = between.val ++ 0x3A :: (element.bytes ++ afterMember others rest) := by
  -- The blanks after a value are only found when what follows is read, so a member is put
  -- together from two readings.
  fun_induction members found name bytes generalizing content with
  | case1 => contradiction
  | case2 => contradiction
  | case3 found name bytes next left taken _ closed =>
      obtain ⟨between, before, value, takes, rfl⟩ := exists_of_memberValue taken spells
      obtain ⟨after, ⟨more, same, rfl⟩ | ⟨_, _, _, _, same, _⟩⟩ := exists_of_nextName closed
      · obtain rfl := NameOrEnd.close.inj same
        obtain ⟨rfl, rfl⟩ := finish_eq_ok_iff.mp read
        refine ⟨between, ⟨before, value, after⟩, [], fun front => ?_, ?_⟩
        · exact .cons (takes front after) (.nil _)
        · simp [Element.bytes, afterMember]
      · cases same
  | case4 found name bytes next left taken _ more named fewer ih =>
      obtain ⟨between, before, value, takes, rfl⟩ := exists_of_memberValue taken spells
      obtain ⟨after, ⟨_, same, _⟩ | ⟨front, _, content, _, same, spellsNext, rfl⟩⟩ :=
        exists_of_nextName named
      · cases same
      · obtain ⟨rfl, rfl⟩ := NameOrEnd.name.inj same
        obtain ⟨colon, element, others, gives, rfl⟩ := ih read spellsNext
        refine ⟨between, ⟨before, value, after⟩, ⟨front, content, colon, element⟩ :: others,
          fun first => ?_, ?_⟩
        · exact .cons (takes first after) (gives front)
        · simp [Element.bytes, Member.bytes, afterMember]

theorem endsNumber_afterMember (others : List Member) (rest : List UInt8) :
    EndsNumber (afterMember others rest) := by
  cases others <;> exact endsNumber_cons rfl rfl (by decide)

theorem members_eq (found : Option String) (name : String) (bytes : List UInt8) :
    members found name bytes =
      match memberValue found name bytes with
      | .error rejection => .error rejection
      | .ok (next, left) =>
          match nextName left with
          | .error rejection => .error rejection
          | .ok (.close rest) => finish next rest
          | .ok (.name name rest) => members next name rest := by
  rw [members]
  split
  · rename_i taken
    simp only [taken]
  · rename_i taken
    simp only [taken]
    split <;> rename_i named <;> simp only [named]

theorem members_of_gives {found : Option String} {first : Member} {others : List Member}
    {name url : String} (gives : Gives found (first :: others) (some url))
    (spells : Spells first.name name) (rest : List UInt8) :
    members found name (first.between.val ++
      0x3A :: (first.element.bytes ++ afterMember others rest)) = .ok (url, rest) := by
  induction others generalizing found first name with
  | nil =>
      cases gives with
      | cons takes gives =>
          cases gives
          rw [Element.bytes, List.append_assoc, List.append_assoc, members_eq,
            memberValue_of_takes takes spells
              (endsNumber_blanks _ (endsNumber_afterMember [] rest)), afterMember]
          simp only [nextName_close]
          rfl
  | cons second others ih =>
      cases gives with
      | @cons _ next _ _ _ takes gives =>
          obtain ⟨name, spellsNext⟩ := gives.exists_name
          rw [Element.bytes, List.append_assoc, List.append_assoc, members_eq,
            memberValue_of_takes takes spells
              (endsNumber_blanks _ (endsNumber_afterMember _ rest)), afterMember]
          have named := nextName_name first.element.after second.before spellsNext
            (second.between.val ++ 0x3A :: (second.element.bytes ++ afterMember others rest))
          simp only [Member.bytes, List.append_assoc, List.cons_append, named]
          exact ih gives spellsNext

theorem object_eq_ok_iff {bytes rest : List UInt8} {url : String} :
    object bytes = .ok (url, rest) ↔
      ∃ members, Gives none members (some url) ∧
        bytes = separated (members.map Member.bytes) ++ 0x7D :: rest := by
  constructor
  · intro read
    unfold object at read
    split at read
    · contradiction
    · cases finish_eq_ok_iff.mp read |>.1
    · rename_i name left named
      obtain ⟨before, content, spells, rfl⟩ := exists_of_firstName named
      obtain ⟨between, element, others, gives, rfl⟩ := exists_of_members read spells
      refine ⟨⟨before, content, between, element⟩ :: others, gives before, ?_⟩
      rw [separated_members]
      simp [Member.bytes]
  · rintro ⟨members, gives, rfl⟩
    cases members with
    | nil => cases gives
    | cons first others =>
        obtain ⟨name, spells⟩ := gives.exists_name
        have named := firstName_name first.before spells
          (first.between.val ++ 0x3A :: (first.element.bytes ++ afterMember others rest))
        rw [separated_members]
        unfold object
        simp only [Member.bytes, List.append_assoc, List.cons_append, named]
        exact members_of_gives gives spells rest

/-! ## Lists -/

theorem listEnd_eq_ok_iff {bytes rest : List UInt8} :
    listEnd bytes = .ok rest ↔ ∃ blanks : Blanks, bytes = blanks.val ++ 0x5D :: rest := by
  constructor
  · intro ended
    unfold listEnd at ended
    split at ended
    · contradiction
    rename_i first tail skipped
    obtain ⟨blanks, rfl⟩ := exists_blanks_of_skipBlanks skipped
    split at ended
    · rename_i isBracket
      obtain rfl := eq_of_beq isBracket
      obtain rfl := Except.ok.inj ended
      exact ⟨blanks, rfl⟩
    split at ended
    · split at ended <;> contradiction
    · contradiction
  · rintro ⟨blanks, rfl⟩
    rw [listEnd, skipBlanks_blanks_cons blanks rfl]
    rfl

theorem expectText_skipBlanks (bytes : List UInt8) :
    expectText (skipBlanks bytes) = expectText bytes := by
  obtain ⟨blanks, whole⟩ := exists_blanks bytes
  have skipped : skipBlanks (skipBlanks bytes) = skipBlanks bytes := by
    rw [← skipBlanks_append blanks, ← whole]
  rw [expectText, skipped]
  rfl

theorem list_eq_ok_iff {bytes rest : List UInt8} {url : String} :
    list bytes = .ok (url, rest) ↔
      ∃ element : Element, Quotes element.value url ∧ bytes = element.bytes ++ 0x5D :: rest := by
  constructor
  · intro read
    unfold list at read
    split at read
    · contradiction
    rename_i first tail skipped
    split at read
    · contradiction
    split at read
    · contradiction
    rename_i text left taken
    rw [← skipped, expectText_skipBlanks] at taken
    obtain ⟨before, quoted, quotes, rfl⟩ := expectText_eq_ok_iff.mp taken
    cases ended : listEnd left with
    | error rejection =>
        rw [ended] at read
        contradiction
    | ok more =>
        rw [ended] at read
        obtain ⟨rfl, rfl⟩ := Prod.mk.inj (Except.ok.inj read)
        obtain ⟨after, rfl⟩ := listEnd_eq_ok_iff.mp ended
        exact ⟨⟨before, quoted, after⟩, quotes, by simp [Element.bytes]⟩
  · rintro ⟨element, quotes, rfl⟩
    have taken : expectText (element.before.val ++
        (element.value ++ (element.after.val ++ 0x5D :: rest))) = _ :=
      expectText_eq_ok_iff.mpr ⟨element.before, _, quotes, rfl⟩
    have ended : listEnd (element.after.val ++ 0x5D :: rest) = .ok rest :=
      listEnd_eq_ok_iff.mpr ⟨element.after, rfl⟩
    obtain ⟨content, _, whole⟩ := quotes
    rw [whole, ← expectText_skipBlanks, List.cons_append,
      skipBlanks_blanks_cons element.before rfl] at taken
    rw [Element.bytes, List.append_assoc, List.append_assoc, whole, List.cons_append]
    unfold list
    rw [skipBlanks_blanks_cons element.before rfl]
    simp only [taken, ended]
    rfl

/-! ## Whole bodies -/

theorem value_bracket (blanks : Blanks) (rest : List UInt8) :
    value (blanks.val ++ 0x5B :: rest) = list rest := by
  rw [value, skipBlanks_blanks_cons blanks rfl]
  rfl

theorem value_brace (blanks : Blanks) (rest : List UInt8) :
    value (blanks.val ++ 0x7B :: rest) = object rest := by
  rw [value, skipBlanks_blanks_cons blanks rfl]
  rfl

theorem exists_of_value {bytes rest : List UInt8} {url : String}
    (read : value bytes = .ok (url, rest)) :
    ∃ (blanks : Blanks) (more : List UInt8),
      (bytes = blanks.val ++ 0x5B :: more ∧ list more = .ok (url, rest)) ∨
        (bytes = blanks.val ++ 0x7B :: more ∧ object more = .ok (url, rest)) := by
  unfold value at read
  split at read
  · contradiction
  rename_i first tail skipped
  obtain ⟨blanks, rfl⟩ := exists_blanks_of_skipBlanks skipped
  split at read
  · rename_i isBracket
    obtain rfl := eq_of_beq isBracket
    exact ⟨blanks, tail, .inl ⟨rfl, read⟩⟩
  split at read
  · rename_i isBrace
    obtain rfl := eq_of_beq isBrace
    exact ⟨blanks, tail, .inr ⟨rfl, read⟩⟩
  · contradiction

theorem read_eq_ok_iff {body : List UInt8} {url : String} :
    read body = .ok url ↔ ∃ after : Blanks, value body = .ok (url, after.val) := by
  unfold read
  cases value body with
  | error rejection =>
      constructor
      · intro read
        cases read
      · rintro ⟨_, found⟩
        cases found
  | ok found =>
      obtain ⟨text, rest⟩ := found
      change (expectEnd rest >>= fun _ => pure text) = _ ↔ _
      constructor
      · intro read
        cases ended : expectEnd rest with
        | error rejection =>
            rw [ended] at read
            cases read
        | ok =>
            rw [ended] at read
            obtain rfl := Except.ok.inj read
            obtain ⟨after, rfl⟩ := expectEnd_eq_ok_iff.mp ended
            exact ⟨after, rfl⟩
      · rintro ⟨after, found⟩
        obtain ⟨rfl, rfl⟩ := Prod.mk.inj (Except.ok.inj found)
        rw [expectEnd_eq_ok_iff.mpr ⟨after, rfl⟩]
        rfl

/-- The bodies that are read are those that ask for a URL. -/
theorem read_eq_ok_iff_asks {body : List UInt8} {url : String} :
    read body = .ok url ↔ Asks body url := by
  rw [read_eq_ok_iff]
  constructor
  · rintro ⟨after, found⟩
    obtain ⟨before, more, ⟨rfl, taken⟩ | ⟨rfl, taken⟩⟩ := exists_of_value found
    · obtain ⟨element, quotes, rfl⟩ := list_eq_ok_iff.mp taken
      exact .list before after quotes
    · obtain ⟨members, gives, rfl⟩ := object_eq_ok_iff.mp taken
      obtain ⟨earlier, member, later, rfl, others, holds, more⟩ := gives_iff.mp gives
      exact .object before after others holds more
  · intro asks
    cases asks with
    | list before after quotes =>
        exact ⟨after, (value_bracket before _).trans
          (list_eq_ok_iff.mpr ⟨_, quotes, rfl⟩)⟩
    | object before after others holds more =>
        refine ⟨after, (value_brace before _).trans (object_eq_ok_iff.mpr ⟨_, ?_, rfl⟩)⟩
        exact gives_iff.mpr ⟨_, _, _, rfl, others, holds, more⟩

end Shortlink.Gateway.ShortenRequest
