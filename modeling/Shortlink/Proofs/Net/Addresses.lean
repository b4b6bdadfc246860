import Mathlib.Data.List.TakeWhile
import Shortlink.Net.Address
import Shortlink.Proofs.Decimal.Numerals
import Shortlink.Proofs.Text.Digits
import Shortlink.Proofs.Text.Splitting

/-!
# Addresses and their texts

Every address is read back from its text: all of version 4, and those of version 6 whether
they are written out, with a gap for zeros, or with an address of version 4 in them.
-/

namespace Shortlink.Net

open Text (hex)

/-! ## Numbers -/

section Numbers

variable {base : Nat} {value? : Char → Option Nat}

theorem numberOf?_append_singleton (digits : List Char) (last : Char) :
    numberOf? base value? (digits ++ [last]) =
      (numberOf? base value? digits).bind fun number =>
        (value? last).map (number * base + ·) := by
  simp [numberOf?, List.foldlM_append]

/-- The digits of a number spell it, if each digit has its value. -/
theorem numberOf?_toDigits (large : 1 < base)
    (each : ∀ digit < base, value? (Nat.digitChar digit) = some digit) (number : Nat) :
    numberOf? base value? (Nat.toDigits base number) = some number := by
  have positive := Nat.zero_lt_of_lt large
  induction number using Nat.strongRecOn with
  | _ number ih =>
      by_cases small : number < base
      · rw [Nat.toDigits_of_lt_base small]
        simp [numberOf?, each number small]
      · have atLeast := Nat.le_of_not_lt small
        have before := ih (number / base)
          (Nat.div_lt_self (Nat.lt_of_lt_of_le positive atLeast) large)
        rw [Nat.toDigits_of_base_le large atLeast, numberOf?_append_singleton, before,
          Option.bind_some, each _ (Nat.mod_lt _ positive), Option.map_some, Nat.div_add_mod']

theorem digitValue?_digitChar {digit : Nat} (small : digit < 10) :
    Decimal.digitValue? (Nat.digitChar digit) = some digit := by
  have each : ∀ digit < 10, Decimal.digitValue? (Nat.digitChar digit) = some digit := by decide
  exact each digit small

theorem hexadecimalValue?_digitChar {digit : Nat} (small : digit < 16) :
    hexadecimalValue? (Nat.digitChar digit) = some digit := by
  have each : ∀ digit < 16, hexadecimalValue? (Nat.digitChar digit) = some digit := by decide
  exact each digit small

end Numbers

/-! ## Version 4 -/

/-- The characters of an octet. -/
def octetText (octet : UInt8) : List Char :=
  Nat.toDigits 10 octet.toNat

theorem readOctet?_octetText (octet : UInt8) : readOctet? (octetText octet) = some octet := by
  have bounded := octet.toNat_lt
  have nonempty : (octetText octet).isEmpty = false := by
    rw [Bool.eq_false_iff, Ne, List.isEmpty_iff]
    exact Nat.toDigits_ne_nil
  have short : (octetText octet).length ≤ 3 :=
    (Nat.length_toDigits_le_iff (by decide) (by decide)).mpr (by omega)
  have canonical : ¬((octetText octet).head? = some '0' ∧ 1 < (octetText octet).length) := by
    rintro ⟨zero, long⟩
    rcases Nat.eq_zero_or_pos octet.toNat with none | positive
    · rw [octetText, none] at long
      contradiction
    · exact Text.head?_toDigits_ne_zero positive zero
  have number : numberOf? 10 Decimal.digitValue? (octetText octet) = some octet.toNat :=
    numberOf?_toDigits (by decide) (fun _ => digitValue?_digitChar) _
  have fits : octet.toNat.toUInt8 = octet := UInt8.ofNat_toNat
  simp [readOctet?, nonempty, short, canonical, number, bounded, fits]

theorem not_mem_octetText {character : Char} (noDigit : character.isDigit = false)
    (octet : UInt8) : character ∉ octetText octet := by
  intro member
  rw [Nat.isDigit_of_mem_toDigits (by decide) (by decide) member] at noDigit
  contradiction

/-- The octets of an address. -/
def IPv4.octets (address : IPv4) : List UInt8 :=
  [address.first, address.second, address.third, address.fourth]

theorem IPv4.toList_text (address : IPv4) :
    address.text.toList = ['.'].intercalate (address.octets.map octetText) := by
  rw [text, String.toList_intercalate, List.map_map]
  refine congrArg _ (List.map_congr_left fun octet _ => ?_)
  exact Nat.toList_repr

theorem IPv4.colon_not_mem_text (address : IPv4) : ':' ∉ address.text.toList := by
  rw [address.toList_text]
  exact Text.not_mem_intercalate (by decide)
    (List.forall_mem_map.mpr fun octet _ => not_mem_octetText rfl octet)

theorem mapM_map_of_inverse {α β : Type} {read : α → Option β} {write : β → α}
    (inverse : ∀ item, read (write item) = some item) (items : List β) :
    (items.map write).mapM read = some items := by
  induction items with
  | nil => rfl
  | cons item rest ih => simp [inverse, ih]

theorem IPv4.split_text (address : IPv4) :
    Text.split '.' address.text.toList = address.octets.map octetText := by
  rw [address.toList_text]
  exact Text.split_intercalate (List.cons_ne_nil _ _)
    (List.forall_mem_map.mpr fun octet _ => not_mem_octetText rfl octet)

/-- An address of version 4 is read back from its text. -/
theorem readIPv4?_text (address : IPv4) : readIPv4? address.text.toList = some address := by
  rw [readIPv4?, address.split_text, mapM_map_of_inverse readOctet?_octetText]
  rfl

theorem readIPv4?_of_not_mem {characters : List Char} (absent : '.' ∉ characters) :
    readIPv4? characters = none := by
  rw [readIPv4?, Text.split_of_not_mem absent, List.mapM_cons, List.mapM_nil]
  cases readOctet? characters <;> rfl

/-! ## Groups -/

/-- The characters of a group. -/
def groupText (group : UInt16) : List Char :=
  hex group.toNat

theorem groupText_ne_nil (group : UInt16) : groupText group ≠ [] := by
  rw [groupText, Text.hex_eq_toDigits]
  exact Nat.toDigits_ne_nil

theorem readGroup?_groupText (group : UInt16) : readGroup? (groupText group) = some group := by
  have bounded := group.toNat_lt
  have nonempty : (groupText group).isEmpty = false := by
    rw [Bool.eq_false_iff, Ne, List.isEmpty_iff]
    exact groupText_ne_nil group
  have short : (groupText group).length ≤ 4 := by
    rw [groupText, Text.hex_eq_toDigits]
    exact (Nat.length_toDigits_le_iff (by decide) (by decide)).mpr (by omega)
  have number : numberOf? 16 hexadecimalValue? (groupText group) = some group.toNat := by
    rw [groupText, Text.hex_eq_toDigits]
    exact numberOf?_toDigits (by decide) (fun _ => hexadecimalValue?_digitChar) _
  have fits : group.toNat.toUInt16 = group := UInt16.ofNat_toNat
  simp [readGroup?, nonempty, short, number, fits]

/-- A group is written with digits, and neither with colons nor with points. -/
theorem not_mem_groupText {character : Char}
    (noDigit : ∀ digit < 16, Nat.digitChar digit ≠ character) (group : UInt16) :
    character ∉ groupText group := by
  have each : ∀ written ∈ Nat.toDigits 16 group.toNat, written ≠ character :=
    Text.forall_mem_toDigits (by decide) noDigit _
  rw [groupText, Text.hex_eq_toDigits]
  exact fun member => each character member rfl

theorem colon_not_mem_groupText (group : UInt16) : ':' ∉ groupText group :=
  not_mem_groupText (by decide) group

theorem point_not_mem_groupText (group : UInt16) : '.' ∉ groupText group :=
  not_mem_groupText (by decide) group

theorem toList_groupsText (groups : List UInt16) :
    (groupsText groups).toList = [':'].intercalate (groups.map groupText) := by
  rw [groupsText, String.toList_intercalate, List.map_map]
  refine congrArg _ (List.map_congr_left fun group _ => ?_)
  exact String.toList_ofList

@[simp]
theorem toList_groupsText_singleton (group : UInt16) :
    (groupsText [group]).toList = groupText group := by
  rw [toList_groupsText, List.map_singleton, List.intercalate_singleton]

@[simp]
theorem toList_groupsText_cons_cons (group next : UInt16) (more : List UInt16) :
    (groupsText (group :: next :: more)).toList =
      groupText group ++ ':' :: (groupsText (next :: more)).toList := by
  simp only [toList_groupsText, List.map_cons, List.intercalate_cons_cons, List.append_assoc,
    List.singleton_append]

/-- The text of one group or more begins with the text of the first one. -/
theorem exists_toList_groupsText_cons (group : UInt16) (rest : List UInt16) :
    ∃ more, (groupsText (group :: rest)).toList = groupText group ++ more := by
  cases rest with
  | nil => exact ⟨[], by simp⟩
  | cons next more => exact ⟨_, toList_groupsText_cons_cons group next more⟩

theorem isEmpty_groupsText_cons (group : UInt16) (rest : List UInt16) :
    (groupsText (group :: rest)).toList.isEmpty = false := by
  obtain ⟨more, same⟩ := exists_toList_groupsText_cons group rest
  rw [same, List.isEmpty_eq_false_iff]
  exact List.append_ne_nil_of_left_ne_nil (groupText_ne_nil group) more

theorem split_groupsText_cons (group : UInt16) (rest : List UInt16) :
    Text.split ':' (groupsText (group :: rest)).toList = (group :: rest).map groupText := by
  rw [toList_groupsText]
  exact Text.split_intercalate (List.cons_ne_nil _ _)
    (List.forall_mem_map.mpr fun group _ => colon_not_mem_groupText group)

theorem point_not_mem_groupsText (groups : List UInt16) : '.' ∉ (groupsText groups).toList := by
  rw [toList_groupsText]
  exact Text.not_mem_intercalate (by decide)
    (List.forall_mem_map.mpr fun group _ => point_not_mem_groupText group)

/-- Groups are read back from their text. -/
theorem readPlainGroups?_groupsText (groups : List UInt16) :
    readPlainGroups? (groupsText groups).toList = some groups := by
  cases groups with
  | nil => rfl
  | cons group rest =>
      simp only [readPlainGroups?, isEmpty_groupsText_cons, split_groupsText_cons,
        mapM_map_of_inverse readGroup?_groupText]
      rfl

theorem readPieces?_map_groupText (groups : List UInt16) :
    readPieces? (groups.map groupText) = some groups := by
  induction groups with
  | nil => rfl
  | cons group rest ih =>
      cases rest with
      | nil =>
          rw [List.map_singleton, readPieces?, readIPv4?_of_not_mem (point_not_mem_groupText group),
            readGroup?_groupText]
          rfl
      | cons next more =>
          rw [List.map_cons, readPieces?, readGroup?_groupText, ih]
          · rfl
          · exact List.cons_ne_nil _ _

theorem readGroups?_groupsText (groups : List UInt16) :
    readGroups? (groupsText groups).toList = some groups := by
  cases groups with
  | nil => rfl
  | cons group rest =>
      simp only [readGroups?, isEmpty_groupsText_cons, split_groupsText_cons,
        readPieces?_map_groupText]
      rfl

/-! ## Gaps -/

/-- A character other than a colon is no part of a gap. -/
theorem cutAtGap?_cons_of_ne {character : Char} (other : character ≠ ':') (rest : List Char) :
    cutAtGap? (character :: rest) =
      (cutAtGap? rest).map fun (before, after) => (character :: before, after) := by
  rw [cutAtGap?]
  rintro _ rfl
  exact absurd rfl other

/-- A colon is no part of a gap if no colon follows it. -/
theorem cutAtGap?_colon {rest : List Char} (alone : rest.head? ≠ some ':') :
    cutAtGap? (':' :: rest) =
      (cutAtGap? rest).map fun (before, after) => (':' :: before, after) := by
  rw [cutAtGap?]
  rintro _ - rfl
  exact alone rfl

theorem cutAtGap?_append {characters : List Char} (absent : ':' ∉ characters)
    (rest : List Char) :
    cutAtGap? (characters ++ rest) =
      (cutAtGap? rest).map fun (before, after) => (characters ++ before, after) := by
  induction characters with
  | nil => simp
  | cons character others ih =>
      rw [List.mem_cons, not_or] at absent
      rw [List.cons_append, cutAtGap?_cons_of_ne (Ne.symm absent.1), ih absent.2, Option.map_map]
      rfl

theorem head?_groupsText_ne_colon (groups : List UInt16) (rest : List Char)
    (nonempty : groups ≠ []) : ((groupsText groups).toList ++ rest).head? ≠ some ':' := by
  obtain ⟨group, others, rfl⟩ := List.exists_cons_of_ne_nil nonempty
  obtain ⟨more, same⟩ := exists_toList_groupsText_cons group others
  obtain ⟨first, last, digits⟩ := List.exists_cons_of_ne_nil (groupText_ne_nil group)
  have noColon := colon_not_mem_groupText group
  rw [same, digits]
  rintro ⟨⟩
  exact noColon (digits ▸ List.mem_cons_self)

/-- There is no gap within the text of groups, and none that begins in it. -/
theorem cutAtGap?_groupsText_append (groups : List UInt16) (rest : List Char) :
    cutAtGap? ((groupsText groups).toList ++ rest) =
      (cutAtGap? rest).map fun (before, after) =>
        ((groupsText groups).toList ++ before, after) := by
  induction groups with
  | nil => simp [toList_groupsText]
  | cons group others ih =>
      cases others with
      | nil => simpa using cutAtGap?_append (colon_not_mem_groupText group) rest
      | cons next more =>
          have alone := head?_groupsText_ne_colon (next :: more) rest (List.cons_ne_nil _ _)
          rw [toList_groupsText_cons_cons, List.append_assoc, List.cons_append,
            cutAtGap?_append (colon_not_mem_groupText group), cutAtGap?_colon alone, ih,
            Option.map_map, Option.map_map]
          simp [Function.comp_def]

/-! ## Runs of zeros -/

theorem le_zerosFrom_longestZeros (groups : List UInt16) :
    (longestZeros groups).snd ≤ zerosFrom groups (longestZeros groups).fst := by
  have kept (starts : List Nat) (best : Nat × Nat) (least : best.snd ≤ zerosFrom groups best.fst) :
      let found := starts.foldl (fun best start =>
        if best.snd < zerosFrom groups start then (start, zerosFrom groups start) else best) best
      found.snd ≤ zerosFrom groups found.fst := by
    induction starts generalizing best with
    | nil => exact least
    | cons start rest ih =>
        rw [List.foldl_cons]
        split
        · exact ih _ (Nat.le_refl _)
        · exact ih best least
  exact kept _ _ (Nat.zero_le _)

/-- Where zeros are left out there are zeros. -/
theorem eq_take_append_zeros (groups : List UInt16) {start length : Nat}
    (least : length ≤ zerosFrom groups start) :
    groups = groups.take start ++ (List.replicate length 0 ++ groups.drop (start + length)) := by
  have run : (groups.drop start).takeWhile (· == 0) =
      List.replicate (zerosFrom groups start) 0 := by
    refine List.eq_replicate_iff.mpr ⟨rfl, fun group member => ?_⟩
    have zero := List.mem_takeWhile_imp (p := (· == 0)) member
    exact eq_of_beq zero
  have zeros : (groups.drop start).take length = List.replicate length 0 := by
    rw [← List.takeWhile_append_dropWhile (p := (· == 0)) (l := groups.drop start), run,
      List.take_append_of_le_length (by rwa [List.length_replicate]), List.take_replicate,
      Nat.min_eq_left least]
  rw [← zeros, ← List.drop_drop, List.take_append_drop, List.take_append_drop]

/-! ## Version 6 -/

theorem ofGroups?_groups (address : IPv6) : IPv6.ofGroups? address.groups = some address := by
  rw [IPv6.ofGroups?, dif_pos address.length_eq]

/-- An address without a gap is read back. -/
theorem readIPv6?_groupsText (address : IPv6) :
    readIPv6? (groupsText address.groups).toList = some address := by
  have noGap := cutAtGap?_groupsText_append address.groups []
  rw [List.append_nil] at noGap
  rw [readIPv6?, noGap]
  change (readGroups? _).bind IPv6.ofGroups? = _
  rw [readGroups?_groupsText, Option.bind_some, ofGroups?_groups]

/-- What stands around a gap is read, and the groups that are missing are zeros. -/
theorem readIPv6?_gap {address : IPv6} {before after : List UInt16} {rest : List Char}
    {zeros : Nat} (positive : 0 < zeros) (read : readGroups? rest = some after)
    (whole : address.groups = before ++ (List.replicate zeros 0 ++ after)) :
    readIPv6? ((groupsText before).toList ++ ':' :: ':' :: rest) = some address := by
  have length := address.length_eq
  rw [whole, List.length_append, List.length_append, List.length_replicate] at length
  have missing : 8 - before.length - after.length = zeros := by omega
  have few : before.length + after.length < 8 := by omega
  rw [readIPv6?, cutAtGap?_groupsText_append]
  simp [cutAtGap?, readPlainGroups?_groupsText, read, few, missing, ← whole, ofGroups?_groups]

/-- The parts of a group are the octets of the address that it is taken from. -/
theorem groups_of_octets (high low : UInt16) :
    IPv4.groups
      { first := (high / 256).toUInt8
        second := high.toUInt8
        third := (low / 256).toUInt8
        fourth := low.toUInt8 } = [high, low] := by
  have together (group : UInt16) :
      (group / 256).toUInt8.toUInt16 * 256 + group.toUInt8.toUInt16 = group := by
    rw [← UInt16.toNat_inj]
    have bounded := group.toNat_lt
    simp
    omega
  rw [IPv4.groups, together, together]

theorem IPv6.mapped?_eq_some {address : IPv6} {mapped : IPv4}
    (found : address.mapped? = some mapped) :
    address.groups = List.replicate 5 0 ++ (0xFFFF :: mapped.groups) := by
  unfold mapped? at found
  split at found
  · rename_i high low same
    obtain rfl := Option.some.inj found
    rw [same, groups_of_octets]
    rfl
  · contradiction

theorem readGroups?_mapped (mapped : IPv4) :
    readGroups? ("ffff".toList ++ ':' :: mapped.text.toList) = some (0xFFFF :: mapped.groups) := by
  have ones : readGroup? "ffff".toList = some 0xFFFF := by decide
  have last : readPieces? [mapped.text.toList] = some mapped.groups := by
    rw [readPieces?, readIPv4?_text]
  rw [readGroups?, if_neg (by simp), Text.split_append_cons (by decide),
    Text.split_of_not_mem mapped.colon_not_mem_text, readPieces?, ones, last]
  · rfl
  · exact List.cons_ne_nil _ _

/-- An address of version 6 is read back from its text. -/
theorem readIPv6?_text (address : IPv6) : readIPv6? address.text.toList = some address := by
  unfold IPv6.text
  split
  · rename_i mapped found
    have characters : ("::ffff:" ++ mapped.text).toList =
        (groupsText []).toList ++ ':' :: ':' :: ("ffff:".toList ++ mapped.text.toList) := by
      rw [String.toList_append]
      rfl
    rw [characters]
    refine readIPv6?_gap (by decide : 0 < 5) (readGroups?_mapped mapped) ?_
    rw [List.nil_append, IPv6.mapped?_eq_some found]
  · dsimp only
    split
    · exact readIPv6?_groupsText address
    · rename_i many
      have whole := eq_take_append_zeros address.groups
        (le_zerosFrom_longestZeros address.groups)
      rw [String.toList_append, String.toList_append, List.append_assoc]
      exact readIPv6?_gap (by omega) (readGroups?_groupsText _) whole

/-- No address of version 6 is written like one of version 4. -/
theorem readIPv4?_text_ipv6 (address : IPv6) : readIPv4? address.text.toList = none := by
  unfold IPv6.text
  split
  · rename_i mapped _
    -- What stands before the first point is too long for an octet.
    have cut : Text.split '.' ("::ffff:" ++ mapped.text).toList =
        ("::ffff:".toList ++ octetText mapped.first) :: mapped.octets.tail.map octetText := by
      rw [String.toList_append, Text.split_append (by decide), mapped.split_text]
      rfl
    have long : readOctet? ("::ffff:".toList ++ octetText mapped.first) = none := by
      simp [readOctet?]
    rw [readIPv4?, cut, List.mapM_cons, long]
    rfl
  · apply readIPv4?_of_not_mem
    dsimp only
    split
    · exact point_not_mem_groupsText address.groups
    · simp [String.toList_append, point_not_mem_groupsText]

/-- An address is read back from its text. -/
theorem Address.parse?_text (address : Address) : Address.parse? address.text = some address := by
  cases address with
  | v4 address => simp only [parse?, text, readIPv4?_text]
  | v6 address => simp only [parse?, text, readIPv4?_text_ipv6, readIPv6?_text, Option.map_some]

end Shortlink.Net
