import Mathlib.Data.List.Nodup
import Shortlink.Program
import Shortlink.Proofs.CommandLine.Spellings
import Shortlink.Proofs.CommandLine.Values

/-!
# Command line, environment, default

A setting has the value that the command line gives it, or else the environment, or else its
default.  All texts that are chosen in this way must denote values, and there must be one
for the port; what the environment has for a setting of the command line does not matter.
-/

namespace Shortlink.CommandLine

open Progress

/-! ## What is given -/

/-- The settings have been given the values that their texts denote. -/
structure HasGiven (before : Progress) (assignments : List Assignment) (after : Progress) :
    Prop where
  /-- The settings have turned up. -/
  used : after.used = before.used ++ assignments.map Prod.fst
  /-- Texts denote the values of their settings. -/
  denotes : ∀ setting text, (setting, text) ∈ assignments →
    ∃ value, setting.Denotes text value ∧ after.given.value? setting = some value
  /-- Other settings are as they were. -/
  others : ∀ setting, setting ∉ assignments.map Prod.fst →
    after.given.value? setting = before.given.value? setting

theorem hasGiven_of_give {progress after : Progress} {setting : Setting} {text : String}
    (gave : progress.give setting text = .ok after) :
    HasGiven progress [(setting, text)] after := by
  obtain ⟨-, given, read, rfl⟩ := exists_of_give gave
  rw [Given.read_eq_map, exceptMap_eq_ok_iff] at read
  obtain ⟨value, found, rfl⟩ := read
  refine ⟨rfl, ?_, ?_⟩
  · rintro _ _ member
    obtain ⟨rfl, rfl⟩ := Prod.mk.inj (List.mem_singleton.mp member)
    exact ⟨value, Setting.read_eq_ok_iff.mp found, Given.value?_put_self ..⟩
  · intro other different
    exact Given.value?_put_of_ne _ (fun same => different (by simp [same])) value

theorem hasGiven_of_giveAll {assignments : List Assignment}
    (distinct : (assignments.map Prod.fst).Nodup) {progress after : Progress}
    (gave : progress.giveAll assignments = .ok after) : HasGiven progress assignments after := by
  induction assignments generalizing progress with
  | nil =>
      obtain rfl := Except.ok.inj gave
      exact ⟨(List.append_nil _).symm, nofun, fun _ _ => rfl⟩
  | cons assignment rest ih =>
      obtain ⟨setting, text⟩ := assignment
      obtain ⟨new, restDistinct⟩ := List.nodup_cons.mp distinct
      rw [giveAll] at gave
      cases first : progress.give setting text with
      | error stop =>
          rw [first] at gave
          contradiction
      | ok next =>
          rw [first] at gave
          have firstGiven := hasGiven_of_give first
          have restGiven := ih restDistinct gave
          refine ⟨?_, ?_, ?_⟩
          · rw [restGiven.used, firstGiven.used, List.append_assoc]
            rfl
          · intro other otherText member
            rcases List.mem_cons.mp member with same | later
            · obtain ⟨rfl, rfl⟩ := Prod.mk.inj same
              rw [restGiven.others _ new]
              exact firstGiven.denotes _ _ List.mem_cons_self
            · exact restGiven.denotes other otherText later
          · intro other absent
            obtain ⟨different, later⟩ := List.ne_and_not_mem_of_not_mem_cons absent
            rw [restGiven.others other later, firstGiven.others other (by simpa using different)]

/-- Settings that have not turned up can be given whatever values their texts denote. -/
theorem exists_giveAll {assignments : List Assignment}
    (distinct : (assignments.map Prod.fst).Nodup) {progress : Progress}
    (new : ∀ setting ∈ assignments.map Prod.fst, setting ∉ progress.used)
    (valid : ∀ setting text, (setting, text) ∈ assignments → ∃ value, setting.Denotes text value) :
    ∃ after, progress.giveAll assignments = .ok after := by
  induction assignments generalizing progress with
  | nil => exact ⟨progress, rfl⟩
  | cons assignment rest ih =>
      obtain ⟨setting, text⟩ := assignment
      obtain ⟨notLater, restDistinct⟩ := List.nodup_cons.mp distinct
      obtain ⟨value, denotes⟩ := valid setting text List.mem_cons_self
      have gave : progress.give setting text =
          .ok { progress with
            given := progress.given.put setting value, used := progress.used ++ [setting] } := by
        rw [give, if_neg (new setting List.mem_cons_self), Given.read_eq_map,
          Setting.read_eq_ok_iff.mpr denotes]
        rfl
      rw [giveAll, gave]
      refine ih restDistinct (fun other member used => ?_)
        fun other otherText member => valid other otherText (List.mem_cons_of_mem _ member)
      rcases List.mem_append.mp used with earlier | now
      · exact new other (List.mem_cons_of_mem _ member) earlier
      · exact notLater (List.mem_singleton.mp now ▸ member)

/-! ## The environment -/

/-- What the environment gives for settings that have not turned up. -/
def assignmentsFrom (environment : Environment) (used settings : List Setting) :
    List Assignment :=
  settings.filterMap fun setting =>
    if setting ∈ used then none
    else (environment setting.variableName).map fun text => (setting, text)

theorem mem_assignmentsFrom_iff {environment : Environment} {used settings : List Setting}
    {setting : Setting} {text : String} :
    (setting, text) ∈ assignmentsFrom environment used settings ↔
      setting ∈ settings ∧ setting ∉ used ∧ environment setting.variableName = some text := by
  rw [assignmentsFrom, List.mem_filterMap]
  constructor
  · rintro ⟨other, member, found⟩
    split at found
    · contradiction
    · rename_i unused
      obtain ⟨value, given, same⟩ := Option.map_eq_some_iff.mp found
      obtain ⟨rfl, rfl⟩ := Prod.mk.inj same
      exact ⟨member, unused, given⟩
  · rintro ⟨member, unused, given⟩
    exact ⟨setting, member, by rw [if_neg unused, given, Option.map_some]⟩

theorem nodup_assignmentsFrom (environment : Environment) (used : List Setting)
    {settings : List Setting} (distinct : settings.Nodup) :
    ((assignmentsFrom environment used settings).map Prod.fst).Nodup := by
  have own {setting other : Setting}
      (found : other ∈ (if setting ∈ used then none
        else (environment setting.variableName).map fun text => (setting, text)).map Prod.fst) :
      other = setting := by
    split at found
    · contradiction
    · obtain ⟨_, given, rfl⟩ := Option.map_eq_some_iff.mp found
      obtain ⟨_, -, rfl⟩ := Option.map_eq_some_iff.mp given
      rfl
  rw [assignmentsFrom, List.map_filterMap]
  exact distinct.filterMap fun _ _ _ first second => (own first).symm.trans (own second)

theorem takeEnvironment_eq (environment : Environment) {settings : List Setting}
    (distinct : settings.Nodup) (progress : Progress) :
    takeEnvironment environment progress settings =
      progress.giveAll (assignmentsFrom environment progress.used settings) := by
  induction settings generalizing progress with
  | nil => rfl
  | cons setting rest ih =>
      obtain ⟨new, restDistinct⟩ := List.nodup_cons.mp distinct
      rw [takeEnvironment, assignmentsFrom, List.filterMap_cons]
      by_cases used : setting ∈ progress.used
      · simp only [if_pos used]
        rw [← assignmentsFrom, ← ih restDistinct]
        split <;> rfl
      · simp only [if_neg used]
        cases given : environment setting.variableName with
        | none => exact ih restDistinct progress
        | some text =>
            simp only [Option.map_some, giveAll]
            cases gave : progress.give setting text with
            | error stop => rfl
            | ok next =>
                refine (ih restDistinct next).trans (congrArg _ ?_)
                refine List.filterMap_congr fun other member => ?_
                have different : other ≠ setting := fun same => new (same ▸ member)
                rw [(hasGiven_of_give gave).used]
                simp [different]

/-! ## The whole command line -/

/-- The text that is given for a setting, on the command line or else in the environment. -/
def given? (environment : Environment) (flags : List Assignment) (setting : Setting) :
    Option String :=
  (flags.lookup setting).or (environment setting.variableName)

/-- The text that is chosen for a setting: the one that is given, or else the default. -/
def chosen? (environment : Environment) (flags : List Assignment) (setting : Setting) :
    Option String :=
  (given? environment flags setting).or setting.default?

/-- The settings have the values that the texts chosen for them denote. -/
def Settings.AreChosen (settings : Settings) (environment : Environment)
    (flags : List Assignment) : Prop :=
  ∀ setting, ∃ text, chosen? environment flags setting = some text ∧
    setting.Denotes text (settings.value setting)

/-- The settings at the end, if there is a port. -/
def Progress.conclude (progress : Progress) : Except Stop Settings :=
  match progress.given.port? with
  | some port => .ok (progress.given.withDefaults port)
  | none => .error (.error (.portRequired (progress.used.map .setting)))

section Whole

variable {environment : Environment} {flags : List Assignment} {arguments : List String}

theorem parse_eq (spells : SpellsAll flags arguments) :
    parse environment arguments =
      ({} : Progress).giveAll flags >>= fun progress =>
        progress.giveAll (assignmentsFrom environment progress.used Setting.all) >>= conclude := by
  rw [parse, takeAll_eq spells]
  have settled : ({} : Progress).settle = .ok {} := rfl
  rw [settled]
  simp only [takeEnvironment_eq environment (by decide : Setting.all.Nodup)]
  rfl

theorem lookup_eq_none_iff {setting : Setting} :
    flags.lookup setting = none ↔ setting ∉ flags.map Prod.fst := by
  rw [List.lookup_eq_none_iff, List.mem_map]
  constructor
  · rintro absent ⟨assignment, member, rfl⟩
    simpa using absent assignment member
  · intro absent assignment member
    exact bne_iff_ne.mpr fun same => absent ⟨assignment, member, same.symm⟩

theorem mem_of_lookup {setting : Setting} {text : String}
    (found : flags.lookup setting = some text) : (setting, text) ∈ flags := by
  obtain ⟨before, after, rfl, -⟩ := List.lookup_eq_some_iff.mp found
  exact List.mem_append_right before List.mem_cons_self

theorem lookup_of_mem (distinct : (flags.map Prod.fst).Nodup) {setting : Setting} {text : String}
    (member : (setting, text) ∈ flags) : flags.lookup setting = some text := by
  cases found : flags.lookup setting with
  | none => exact absurd (List.mem_map_of_mem member) (lookup_eq_none_iff.mp found)
  | some other =>
      have same := List.inj_on_of_nodup_map distinct (mem_of_lookup found) member rfl
      exact congrArg some (Prod.mk.inj same).2

/-- What is given for settings has been taken, and nothing else. -/
structure HasTaken (environment : Environment) (flags : List Assignment) (given : Given) :
    Prop where
  /-- Texts that are given denote the values of their settings. -/
  denotes : ∀ setting text, given? environment flags setting = some text →
    ∃ value, setting.Denotes text value ∧ given.value? setting = some value
  /-- Settings that are not given have no values. -/
  missing : ∀ setting, given? environment flags setting = none → given.value? setting = none

theorem mem_assignmentsFrom_all_iff {setting : Setting} {text : String} :
    (setting, text) ∈ assignmentsFrom environment (flags.map Prod.fst) Setting.all ↔
      flags.lookup setting = none ∧ environment setting.variableName = some text := by
  have listed : setting ∈ Setting.all := by cases setting <;> decide
  rw [mem_assignmentsFrom_iff, lookup_eq_none_iff]
  exact ⟨fun found => found.2, fun found => ⟨listed, found⟩⟩

theorem hasTaken {progress final : Progress} (first : HasGiven {} flags progress)
    (second : HasGiven progress (assignmentsFrom environment progress.used Setting.all) final) :
    HasTaken environment flags final.given := by
  have used : progress.used = flags.map Prod.fst := first.used
  rw [used] at second
  -- What the environment has for a setting of the command line is passed over.
  have kept {setting : Setting} (spared : flags.lookup setting = none →
      environment setting.variableName = none) :
      final.given.value? setting = progress.given.value? setting := by
    refine second.others setting fun member => ?_
    obtain ⟨⟨_, text⟩, found, rfl⟩ := List.mem_map.mp member
    obtain ⟨absent, given⟩ := mem_assignmentsFrom_all_iff.mp found
    exact nomatch (spared absent).symm.trans given
  constructor
  · intro setting text given
    rcases Option.or_eq_some_iff.mp given with flag | ⟨absent, fromVariable⟩
    · rw [kept fun absent => nomatch absent.symm.trans flag]
      exact first.denotes setting text (mem_of_lookup flag)
    · exact second.denotes setting text
        (mem_assignmentsFrom_all_iff.mpr ⟨absent, fromVariable⟩)
  · intro setting missing
    obtain ⟨absent, unset⟩ := Option.or_eq_none_iff.mp missing
    rw [kept fun _ => unset, first.others setting (lookup_eq_none_iff.mp absent)]
    exact Given.value?_empty setting

theorem HasTaken.areChosen {given : Given} (taken : HasTaken environment flags given)
    {port : UInt16} (found : given.port? = some port) :
    (given.withDefaults port).AreChosen environment flags := by
  intro setting
  cases same : given? environment flags setting with
  | some text =>
      obtain ⟨value, denotes, present⟩ := taken.denotes setting text same
      rw [Given.value_withDefaults found present]
      exact ⟨text, by rw [chosen?, same, Option.some_or], denotes⟩
  | none =>
      obtain ⟨text, default, denotes⟩ :=
        Given.denotes_withDefaults found (taken.missing setting same)
      exact ⟨text, by rw [chosen?, same, Option.none_or, default], denotes⟩

theorem exists_of_conclude {progress : Progress} {settings : Settings}
    (concluded : progress.conclude = .ok settings) :
    ∃ port, progress.given.port? = some port ∧ progress.given.withDefaults port = settings := by
  unfold conclude at concluded
  split at concluded
  · rename_i port found
    exact ⟨port, found, Except.ok.inj concluded⟩
  · contradiction

/-- Settings that are read have the values that are chosen for them. -/
theorem areChosen_of_parse (spells : SpellsAll flags arguments)
    (distinct : (flags.map Prod.fst).Nodup) {settings : Settings}
    (parsed : parse environment arguments = .ok settings) :
    settings.AreChosen environment flags := by
  rw [parse_eq spells] at parsed
  cases gave : ({} : Progress).giveAll flags with
  | error stop =>
      rw [gave] at parsed
      contradiction
  | ok progress =>
      rw [gave] at parsed
      change progress.giveAll _ >>= conclude = _ at parsed
      cases rest : progress.giveAll
          (assignmentsFrom environment progress.used Setting.all) with
      | error stop =>
          rw [rest] at parsed
          contradiction
      | ok final =>
          rw [rest] at parsed
          obtain ⟨port, found, rfl⟩ := exists_of_conclude parsed
          have new :=
            nodup_assignmentsFrom environment progress.used (by decide : Setting.all.Nodup)
          have taken := hasTaken (hasGiven_of_giveAll distinct gave) (hasGiven_of_giveAll new rest)
          exact taken.areChosen found

/-- If all texts that are chosen denote values, settings can be read. -/
theorem exists_parse (spells : SpellsAll flags arguments)
    (distinct : (flags.map Prod.fst).Nodup)
    (valid : ∀ setting, ∃ text value,
      chosen? environment flags setting = some text ∧ setting.Denotes text value) :
    ∃ settings, parse environment arguments = .ok settings := by
  have denoted {setting : Setting} {text : String}
      (given : given? environment flags setting = some text) :
      ∃ value, setting.Denotes text value := by
    obtain ⟨other, value, chosen, denotes⟩ := valid setting
    rw [chosen?, given, Option.some_or, Option.some.injEq] at chosen
    exact ⟨value, chosen ▸ denotes⟩
  obtain ⟨progress, gave⟩ : ∃ after, ({} : Progress).giveAll flags = .ok after :=
    exists_giveAll distinct (fun _ _ => List.not_mem_nil) fun setting text member =>
      denoted (by rw [given?, lookup_of_mem distinct member, Option.some_or])
  have first := hasGiven_of_giveAll distinct gave
  have used : progress.used = flags.map Prod.fst := first.used
  have new := nodup_assignmentsFrom environment progress.used (by decide : Setting.all.Nodup)
  obtain ⟨final, rest⟩ : ∃ after, progress.giveAll
      (assignmentsFrom environment progress.used Setting.all) = .ok after := by
    refine exists_giveAll new (fun setting member => ?_) fun setting text member => denoted ?_
    · obtain ⟨⟨_, text⟩, found, rfl⟩ := List.mem_map.mp member
      exact (mem_assignmentsFrom_iff.mp found).2.1
    · rw [used, mem_assignmentsFrom_all_iff] at member
      rw [given?, member.1, Option.none_or, member.2]
  have taken := hasTaken first (hasGiven_of_giveAll new rest)
  -- The port has no default, so it has been given.
  obtain ⟨text, _, chosen, -⟩ := valid .port
  rw [chosen?, Setting.default?, Option.or_none] at chosen
  obtain ⟨port, -, found⟩ : ∃ port, _ ∧ final.given.port? = some port :=
    taken.denotes .port text chosen
  refine ⟨final.given.withDefaults port, ?_⟩
  rw [parse_eq spells, gave]
  change progress.giveAll _ >>= conclude = _
  rw [rest]
  change final.conclude = _
  rw [conclude, found]

theorem Settings.AreChosen.unique {settings others : Settings}
    (first : settings.AreChosen environment flags) (second : others.AreChosen environment flags) :
    settings = others := by
  refine Settings.ext_value fun setting => ?_
  obtain ⟨text, chosen, denotes⟩ := first setting
  obtain ⟨otherText, otherChosen, otherDenotes⟩ := second setting
  obtain rfl := Option.some.inj (chosen.symm.trans otherChosen)
  have read := Setting.read_eq_ok_iff.mpr denotes
  exact Except.ok.inj (read.symm.trans (Setting.read_eq_ok_iff.mpr otherDenotes))

theorem parse_congr (spells : SpellsAll flags arguments) (distinct : (flags.map Prod.fst).Nodup)
    {other : Environment}
    (same : ∀ setting, setting ∉ flags.map Prod.fst →
      other setting.variableName = environment setting.variableName) :
    parse other arguments = parse environment arguments := by
  rw [parse_eq spells, parse_eq spells]
  cases gave : ({} : Progress).giveAll flags with
  | error stop => rfl
  | ok progress =>
      have used : progress.used = flags.map Prod.fst := (hasGiven_of_giveAll distinct gave).used
      have alike : assignmentsFrom other progress.used Setting.all =
          assignmentsFrom environment progress.used Setting.all := by
        refine List.filterMap_congr fun setting _ => ?_
        split
        · rfl
        · rename_i new
          rw [same setting (used ▸ new)]
      change progress.giveAll _ >>= conclude = progress.giveAll _ >>= conclude
      rw [alike]

/-- The command line comes before the environment, and the environment before the default:
whatever settings the command line gives, in whatever order and spelling, settings are read
exactly if all texts that are chosen denote values, and these are the values they have.
What the environment has for a setting of the command line makes no difference. -/
theorem parse_eq_ok_iff_areChosen (spells : SpellsAll flags arguments)
    (distinct : (flags.map Prod.fst).Nodup) (environment : Environment) :
    (∀ settings, parse environment arguments = .ok settings ↔
        settings.AreChosen environment flags) ∧
      ((∃ settings, parse environment arguments = .ok settings) ↔
        ∀ setting, ∃ text value,
          chosen? environment flags setting = some text ∧ setting.Denotes text value) ∧
      (∀ setup : Program.Setup, parse environment arguments = .ok setup.settings →
        setup.gateway.listenAddress =
            { host := setup.settings.host, port := setup.settings.port } ∧
          setup.gateway.timeoutMilliseconds = setup.settings.requestTimeout.toNat * 1000) ∧
      ∀ other : Environment,
        (∀ setting, setting ∉ flags.map Prod.fst →
          other setting.variableName = environment setting.variableName) →
        parse other arguments = parse environment arguments := by
  refine ⟨fun settings => ⟨areChosen_of_parse spells distinct, fun chosen => ?_⟩, ⟨?_, ?_⟩,
    fun setup _ => ⟨rfl, rfl⟩, fun other same => parse_congr spells distinct same⟩
  · obtain ⟨found, parsed⟩ := exists_parse spells distinct fun setting => by
      obtain ⟨text, same, denotes⟩ := chosen setting
      exact ⟨text, _, same, denotes⟩
    rw [parsed, (areChosen_of_parse spells distinct parsed).unique chosen]
  · rintro ⟨settings, parsed⟩ setting
    obtain ⟨text, same, denotes⟩ := areChosen_of_parse spells distinct parsed setting
    exact ⟨text, _, same, denotes⟩
  · exact exists_parse spells distinct

/-- The port and the format are on the command line, and the environment has an unusable
format and a timeout. -/
theorem parse_eq_ok_iff_areChosen_of_two_flags :
    let flags := [(Setting.logFormat, "text"), (Setting.port, "+8080")]
    let arguments := ["--log-format=text", "-p", "+8080"]
    let environment : Environment := fun name =>
      if name = "PORTAL_LOG_FORMAT" then some "xml"
      else if name = "PORTAL_GATEWAY_REQUEST_TIMEOUT_SECS" then some "3" else none
    SpellsAll flags arguments ∧ (flags.map Prod.fst).Nodup ∧
      parse environment arguments = .ok
        { port := 8080, host := .unspecified, requestTimeout := 3, logFormat := .text,
          logLevel := "info" } := by
  intro flags arguments environment
  have spells : SpellsAll flags arguments :=
    .cons .atName (.cons (.afterLetter (by decide)) .nil)
  have distinct : (flags.map Prod.fst).Nodup := by decide
  refine ⟨spells, distinct, ?_⟩
  refine ((parse_eq_ok_iff_areChosen spells distinct environment).1 _).mpr fun setting => ?_
  cases setting with
  | port => exact ⟨"+8080", rfl, Setting.read_eq_ok_iff.mp rfl⟩
  | host => exact ⟨"0.0.0.0", rfl, Setting.read_eq_ok_iff.mp rfl⟩
  | requestTimeout => exact ⟨"3", rfl, Setting.read_eq_ok_iff.mp rfl⟩
  | logFormat => exact ⟨"text", rfl, Setting.read_eq_ok_iff.mp rfl⟩
  | logLevel => exact ⟨"info", rfl, Setting.read_eq_ok_iff.mp rfl⟩

end Whole

end Shortlink.CommandLine
