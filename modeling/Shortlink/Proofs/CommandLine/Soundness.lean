import Shortlink.Proofs.CommandLine.Spellings
import Shortlink.Proofs.CommandLine.Values

/-!
# Accepted command lines

Whatever the arguments and the environment look like: if a command line is accepted, each
setting has a value that some text denotes.  A request is given at least one second, in
particular.
-/

namespace Shortlink.CommandLine

namespace Progress

/-- Every setting that has been given a value has one that some text denotes. -/
def IsSound (progress : Progress) : Prop :=
  ∀ setting value, progress.given.value? setting = some value →
    ∃ text, setting.Denotes text value

namespace IsSound

theorem empty : ({} : Progress).IsSound := by
  intro setting value found
  rw [Given.value?_empty] at found
  contradiction

variable {progress after : Progress}

theorem give (sound : progress.IsSound) {setting : Setting} {text : String}
    (gave : progress.give setting text = .ok after) : after.IsSound := by
  obtain ⟨-, given, read, rfl⟩ := exists_of_give gave
  rw [Given.read_eq_map, exceptMap_eq_ok_iff] at read
  obtain ⟨value, found, rfl⟩ := read
  intro other held present
  by_cases same : other = setting
  · subst same
    rw [Given.value?_put_self, Option.some.injEq] at present
    exact ⟨text, present ▸ Setting.read_eq_ok_iff.mp found⟩
  · exact sound other held ((Given.value?_put_of_ne _ same value).symm.trans present)

theorem settle (sound : progress.IsSound) (settled : progress.settle = .ok after) :
    after.IsSound := by
  unfold Progress.settle at settled
  split at settled
  · rwa [← Except.ok.inj settled]
  · contradiction
  · have waiting : IsSound { progress with pending := .none } := sound
    exact waiting.give settled

theorem takeSetting (sound : progress.IsSound) {setting : Setting} {attached? : Option String}
    (taken : progress.takeSetting setting attached? = .ok after) : after.IsSound := by
  unfold Progress.takeSetting at taken
  obtain ⟨next, settled, rest⟩ := exceptBind_eq_ok_iff.mp taken
  have nextSound : next.IsSound := sound.settle settled
  cases attached? with
  | some text => exact nextSound.give rest
  | none =>
      obtain rfl := Except.ok.inj rest
      exact nextSound

theorem not_takeHelp (progress : Progress) : progress.takeHelp ≠ .ok after := by
  intro helped
  obtain ⟨_, -, shown⟩ := exceptBind_eq_ok_iff.mp helped
  contradiction

theorem takeName (sound : progress.IsSound) {name : String} {attached? : Option String}
    (taken : progress.takeName name attached? = .ok after) : after.IsSound := by
  unfold Progress.takeName at taken
  split at taken
  · exact sound.takeSetting taken
  · exact absurd taken (not_takeHelp progress)
  · contradiction
  · contradiction

theorem takeLetter (sound : progress.IsSound) {letter : Char} {rest : List Char}
    (taken : progress.takeLetter letter rest = .ok after) : after.IsSound := by
  unfold Progress.takeLetter at taken
  split at taken
  · exact sound.takeSetting taken
  · exact absurd taken (not_takeHelp progress)
  · contradiction

theorem takeValue (sound : progress.IsSound) {text : String}
    (taken : progress.takeValue text = .ok after) : after.IsSound := by
  unfold Progress.takeValue at taken
  split at taken
  · obtain rfl := Except.ok.inj taken
    exact sound
  · contradiction
  · contradiction

end IsSound

end Progress

open Progress

theorem isSound_takeAll {progress after : Progress} (sound : progress.IsSound)
    {arguments : List String} (taken : takeAll progress arguments = .ok after) :
    after.IsSound := by
  induction arguments generalizing progress with
  | nil => exact sound.settle taken
  | cons argument rest ih =>
      rw [takeAll.eq_def] at taken
      dsimp only at taken
      split at taken
      · split at taken
        · exact sound.settle taken
        · contradiction
      · obtain ⟨next, one, others⟩ := exceptBind_eq_ok_iff.mp taken
        exact ih (sound.takeName one) others
      · obtain ⟨next, one, others⟩ := exceptBind_eq_ok_iff.mp taken
        exact ih (sound.takeLetter one) others
      · obtain ⟨next, one, others⟩ := exceptBind_eq_ok_iff.mp taken
        exact ih (sound.takeValue one) others

theorem isSound_takeEnvironment {environment : Environment} {progress after : Progress}
    (sound : progress.IsSound) {settings : List Setting}
    (taken : takeEnvironment environment progress settings = .ok after) : after.IsSound := by
  induction settings generalizing progress with
  | nil => exact Except.ok.inj taken ▸ sound
  | cons setting rest ih =>
      rw [takeEnvironment] at taken
      split at taken
      · exact ih sound taken
      · split at taken
        · exact ih sound taken
        · obtain ⟨next, gave, others⟩ := exceptBind_eq_ok_iff.mp taken
          exact ih (sound.give gave) others

/-- If a command line is accepted, some text denotes the value of each setting. -/
theorem exists_denotes_of_parse {environment : Environment} {arguments : List String}
    {settings : Settings} (parsed : parse environment arguments = .ok settings)
    (setting : Setting) : ∃ text, setting.Denotes text (settings.value setting) := by
  obtain ⟨first, taken, parsed⟩ := exceptBind_eq_ok_iff.mp parsed
  obtain ⟨progress, filled, parsed⟩ := exceptBind_eq_ok_iff.mp parsed
  have sound : progress.IsSound :=
    isSound_takeEnvironment (isSound_takeAll .empty taken) filled
  split at parsed
  · rename_i port found
    obtain rfl := Except.ok.inj parsed
    cases given : progress.given.value? setting with
    | some value =>
        rw [Given.value_withDefaults found given]
        exact sound setting value given
    | none =>
        obtain ⟨text, -, denotes⟩ := Given.denotes_withDefaults found given
        exact ⟨text, denotes⟩
  · contradiction

/-- Nobody can ask for requests to be given up at once. -/
theorem requestTimeout_pos_of_parse {environment : Environment} {arguments : List String}
    {settings : Settings} (parsed : parse environment arguments = .ok settings) :
    1 ≤ settings.requestTimeout := by
  obtain ⟨text, -, positive⟩ := exists_denotes_of_parse parsed .requestTimeout
  exact positive

end Shortlink.CommandLine
