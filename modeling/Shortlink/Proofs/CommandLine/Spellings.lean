import Shortlink.CommandLine.Parse

/-!
# Spellings of settings

A setting is given by its name or by its letter, with its value in the same argument or in
the next one.  In whatever way settings are spelled, to take the arguments is to give the
settings their values, one after the other.
-/

namespace Shortlink.CommandLine

/-- A setting and the text that is given for it. -/
abbrev Assignment := Setting × String

/-! ## Spellings -/

/-- Arguments give a text for a setting: the name of the setting and the text in one argument
or in two, or for the port a letter instead of the name. -/
inductive Spells : Setting → String → List String → Prop
  /-- The text is an argument of its own after the name. -/
  | afterName {setting : Setting} {text : String} (plain : text.toList.head? ≠ some '-') :
      Spells setting text ["--" ++ setting.name, text]
  /-- The text follows the name and an equals sign. -/
  | atName {setting : Setting} {text : String} :
      Spells setting text ["--" ++ setting.name ++ "=" ++ text]
  /-- The text is an argument of its own after the letter. -/
  | afterLetter {text : String} (plain : text.toList.head? ≠ some '-') :
      Spells .port text ["-p", text]
  /-- The text follows the letter. -/
  | atLetter {text : String} (nonempty : text ≠ "") (plain : text.toList.head? ≠ some '=') :
      Spells .port text ["-p" ++ text]

/-- Arguments give texts for settings, one after the other. -/
inductive SpellsAll : List Assignment → List String → Prop
  | nil : SpellsAll [] []
  | cons {setting : Setting} {text : String} {rest : List Assignment}
      {arguments more : List String} (first : Spells setting text arguments)
      (others : SpellsAll rest more) : SpellsAll ((setting, text) :: rest) (arguments ++ more)

theorem ofName?_name (setting : Setting) : Flag.ofName? setting.name = some (.setting setting) := by
  cases setting <;> rfl

theorem not_mem_name (setting : Setting) : ∀ character ∈ setting.name.toList, character ≠ '=' := by
  cases setting <;> simp [Setting.name]

theorem exists_name_eq_cons (setting : Setting) :
    ∃ first rest, setting.name.toList = first :: rest := by
  cases setting <;> exact ⟨_, _, rfl⟩

/-! ## Kinds of arguments -/

theorem ofText_name (setting : Setting) :
    Argument.ofText ("--" ++ setting.name) = .name setting.name none := by
  cases setting <;> rfl

theorem ofText_of_dashes {text : String} {first : Char} {rest : List Char}
    (same : text.toList = '-' :: '-' :: first :: rest) :
    Argument.ofText text = .name (String.ofList ((first :: rest).takeWhile (· ≠ '=')))
      (((first :: rest).dropWhile (· ≠ '=')).tail?.map String.ofList) := by
  simp only [Argument.ofText, same]
  cases (first :: rest).dropWhile (· ≠ '=') <;> rfl

theorem ofText_atName (setting : Setting) (text : String) :
    Argument.ofText ("--" ++ setting.name ++ "=" ++ text) = .name setting.name (some text) := by
  have stops : ∀ character ∈ setting.name.toList, decide (character ≠ '=') = true :=
    fun character member => decide_eq_true (not_mem_name setting character member)
  have before : (setting.name.toList ++ '=' :: text.toList).takeWhile (· ≠ '=') =
      setting.name.toList := by
    rw [List.takeWhile_append_of_pos stops, List.takeWhile_cons_of_neg (by decide),
      List.append_nil]
  have after : (setting.name.toList ++ '=' :: text.toList).dropWhile (· ≠ '=') =
      '=' :: text.toList := by
    rw [List.dropWhile_append_of_pos stops, List.dropWhile_cons_of_neg (by decide)]
  obtain ⟨first, rest, name⟩ := exists_name_eq_cons setting
  rw [name] at before after
  have characters : ("--" ++ setting.name ++ "=" ++ text).toList =
      '-' :: '-' :: first :: (rest ++ '=' :: text.toList) := by
    simp [String.toList_append, name]
  rw [ofText_of_dashes characters, ← List.cons_append, before, after, ← name,
    String.ofList_toList]
  exact congrArg (Argument.name setting.name <| some ·) String.ofList_toList

theorem ofText_atLetter (text : String) :
    Argument.ofText ("-p" ++ text) = .letter 'p' text.toList := by
  unfold Argument.ofText
  have characters : ("-p" ++ text).toList = '-' :: 'p' :: text.toList := by
    simp [String.toList_append]
  rw [characters]
  simp

theorem ofText_value {text : String} (plain : text.toList.head? ≠ some '-') :
    Argument.ofText text = .value text := by
  unfold Argument.ofText
  split
  · rename_i same
    simp [same] at plain
  · rename_i same
    simp [same] at plain
  · rename_i same
    simp [same] at plain
  · rfl

theorem attachment?_toList {text : String} (nonempty : text ≠ "")
    (plain : text.toList.head? ≠ some '=') : Progress.attachment? text.toList = some text := by
  unfold Progress.attachment?
  split
  · rename_i empty
    exact absurd (String.toList_eq_nil_iff.mp empty) nonempty
  · rename_i same
    simp [same] at plain
  · rw [String.ofList_toList]

/-! ## Taking arguments -/

namespace Progress

/-- Gives settings their values, one after the other. -/
def giveAll (progress : Progress) : List Assignment → Except Stop Progress
  | [] => .ok progress
  | (setting, text) :: rest => do giveAll (← progress.give setting text) rest

variable {progress after : Progress}

theorem exists_of_give {setting : Setting} {text : String}
    (gave : progress.give setting text = .ok after) :
    setting ∉ progress.used ∧ ∃ given, progress.given.read setting text = .ok given ∧
      after = { progress with given, used := progress.used ++ [setting] } := by
  unfold give at gave
  split at gave
  · contradiction
  · rename_i unused
    split at gave
    · contradiction
    · rename_i given read
      exact ⟨unused, given, read, (Except.ok.inj gave).symm⟩

theorem pending_give {setting : Setting} {text : String}
    (gave : progress.give setting text = .ok after) : after.pending = progress.pending := by
  obtain ⟨-, given, -, rfl⟩ := exists_of_give gave
  rfl

theorem settle_of_none (settled : progress.pending = .none) : progress.settle = .ok progress := by
  rw [settle, settled]

/-- To hold a text back is to look at it when the next flag turns up. -/
theorem settle_holding (settled : progress.pending = .none) (setting : Setting) (text : String) :
    ({ progress with pending := .holding setting text } : Progress).settle =
      progress.give setting text := by
  obtain ⟨given, used, pending⟩ := progress
  obtain rfl : pending = .none := settled
  rfl

theorem pending_settle (settled : progress.settle = .ok after) : after.pending = .none := by
  unfold settle at settled
  split at settled
  · rename_i none
    rwa [← Except.ok.inj settled]
  · contradiction
  · rw [pending_give settled]

/-- What goes on after a value has been looked at can take for granted that no other one is
held back. -/
theorem settle_bind_congr {first second : Progress → Except Stop Progress}
    (same : ∀ settled : Progress, settled.pending = .none → first settled = second settled) :
    progress.settle >>= first = progress.settle >>= second := by
  cases settled : progress.settle with
  | error stop => rfl
  | ok after => exact same after (pending_settle settled)

theorem takeSetting_none_bind (setting : Setting) (next : Progress → Except Stop Progress) :
    progress.takeSetting setting none >>= next =
      progress.settle >>= fun settled => next { settled with pending := .awaiting setting } := by
  rw [takeSetting]
  cases progress.settle <;> rfl

theorem takeSetting_some_bind (setting : Setting) (text : String)
    (next : Progress → Except Stop Progress) :
    progress.takeSetting setting (some text) >>= next =
      progress.settle >>= fun settled => settled.give setting text >>= next := by
  rw [takeSetting]
  cases progress.settle <;> rfl

end Progress

open Progress

section Flags

variable {progress : Progress} {rest : List String}

theorem takeAll_of_name {argument : String} {setting : Setting} {attached? : Option String}
    (kind : Argument.ofText argument = .name setting.name attached?) :
    takeAll progress (argument :: rest) =
      progress.takeSetting setting attached? >>= (takeAll · rest) := by
  rw [takeAll.eq_def]
  simp only [kind, takeName, ofName?_name]

theorem takeAll_of_letter {argument : String} {attached : List Char}
    (kind : Argument.ofText argument = .letter 'p' attached) :
    takeAll progress (argument :: rest) =
      progress.takeSetting .port (attachment? attached) >>= (takeAll · rest) := by
  have known : Flag.ofLetter? 'p' = some (.setting .port) := rfl
  rw [takeAll.eq_def]
  simp only [kind, takeLetter, known]

theorem takeAll_of_value {argument text : String} (kind : Argument.ofText argument = .value text) :
    takeAll progress (argument :: rest) = progress.takeValue text >>= (takeAll · rest) := by
  rw [takeAll.eq_def]
  simp only [kind]

end Flags

/-- A setting that is spelled out is given its value, at once or when the next flag turns up. -/
theorem takeAll_append {setting : Setting} {text : String} {arguments : List String}
    (spells : Spells setting text arguments) (progress : Progress) {more : List String}
    {rest : List Assignment}
    (others : ∀ progress, takeAll progress more = progress.settle >>= (giveAll · rest)) :
    takeAll progress (arguments ++ more) =
      progress.settle >>= (giveAll · ((setting, text) :: rest)) := by
  -- A value that is an argument of its own is held back.
  have apart {settled : Progress} (none : settled.pending = .none)
      (plain : text.toList.head? ≠ some '-') :
      takeAll { settled with pending := .awaiting setting } (text :: more) =
        giveAll settled ((setting, text) :: rest) := by
    rw [takeAll_of_value (ofText_value plain)]
    change takeAll { settled with pending := .holding setting text } more = _
    rw [others, settle_holding none]
    rfl
  -- A value in the argument of its flag is looked at, and nothing is held back.
  have together {settled : Progress} (none : settled.pending = .none) :
      settled.give setting text >>= (takeAll · more) =
        giveAll settled ((setting, text) :: rest) := by
    rw [giveAll]
    cases gave : settled.give setting text with
    | error stop => rfl
    | ok next =>
        change takeAll next more = giveAll next rest
        rw [others, settle_of_none ((pending_give gave).trans none)]
        rfl
  cases spells with
  | afterName plain =>
      rw [List.cons_append, List.singleton_append, takeAll_of_name (ofText_name setting),
        takeSetting_none_bind]
      exact settle_bind_congr fun settled none => apart none plain
  | atName =>
      rw [List.singleton_append, takeAll_of_name (ofText_atName setting text),
        takeSetting_some_bind]
      exact settle_bind_congr fun settled none => together none
  | afterLetter plain =>
      have alone : Argument.ofText "-p" = .letter 'p' [] := rfl
      rw [List.cons_append, List.singleton_append, takeAll_of_letter alone, attachment?,
        takeSetting_none_bind]
      exact settle_bind_congr fun settled none => apart none plain
  | atLetter nonempty plain =>
      rw [List.singleton_append, takeAll_of_letter (ofText_atLetter text),
        attachment?_toList nonempty plain, takeSetting_some_bind]
      exact settle_bind_congr fun settled none => together none

/-- To take arguments that spell settings is to give the settings their values. -/
theorem takeAll_eq {flags : List Assignment} {arguments : List String}
    (spells : SpellsAll flags arguments) (progress : Progress) :
    takeAll progress arguments = progress.settle >>= (giveAll · flags) := by
  induction spells generalizing progress with
  | nil =>
      rw [takeAll]
      cases progress.settle <;> rfl
  | cons first others ih => exact takeAll_append first progress ih

end Shortlink.CommandLine
