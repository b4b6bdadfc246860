import Shortlink.Program
import Shortlink.Proofs.CommandLine.Precedence
import Shortlink.Proofs.CommandLine.Soundness
import Shortlink.Proofs.Net.Addresses

/-!
# Settings written out

Settings that have been read can be written out in full, each as a flag with the text by
which its value is shown.  The same settings are read from that, whatever the order of the
flags is and whatever the environment has.
-/

namespace Shortlink.CommandLine

/-! ## Values -/

/-- The text by which a value of a setting is shown. -/
def Setting.shown : (setting : Setting) → setting.Value → String
  | .port, number => toString number.toNat
  | .host, address => address.text
  | .requestTimeout, seconds => toString seconds.toNat
  | .logFormat, format => Settings.formatName format
  | .logLevel, level => level

/-- A value that some text denotes is denoted by the text by which it is shown. -/
theorem Setting.denotes_shown {setting : Setting} {text : String} {value : setting.Value}
    (denotes : setting.Denotes text value) : setting.Denotes (setting.shown value) value := by
  cases setting with
  | port => exact ⟨.inl ⟨_, Decimal.denotes_toString _, rfl⟩, denotes.2⟩
  | host => exact Net.Address.parse?_text value
  | requestTimeout => exact ⟨Decimal.denotes_toString _, denotes.2⟩
  | logFormat =>
      cases value with
      | json => exact .inl ⟨rfl, rfl⟩
      | text => exact .inr ⟨rfl, rfl⟩
  | logLevel => rfl

/-! ## Arguments -/

/-- The argument that gives a setting the value that it has. -/
def Settings.argument (settings : Settings) : Setting → String
  | .port => "--port=" ++ toString settings.port.toNat
  | .host => "--host=" ++ settings.host.text
  | .requestTimeout => "--request-timeout-secs=" ++ toString settings.requestTimeout.toNat
  | .logFormat => "--log-format=" ++ formatName settings.logFormat
  | .logLevel => "--log-level=" ++ settings.logLevel

section Arguments

variable {settings : Settings} {order : List Setting}

/-- The texts of settings, in an order. -/
def Settings.assignments (settings : Settings) (order : List Setting) : List Assignment :=
  order.map fun setting => (setting, setting.shown (settings.value setting))

theorem Settings.spells_argument (settings : Settings) (setting : Setting) :
    Spells setting (setting.shown (settings.value setting)) [settings.argument setting] := by
  cases setting <;> exact .atName

theorem Settings.spellsAll_arguments (settings : Settings) (order : List Setting) :
    SpellsAll (settings.assignments order) (order.map settings.argument) := by
  induction order with
  | nil => exact .nil
  | cons setting rest ih => exact .cons (settings.spells_argument setting) ih

theorem Settings.map_fst_assignments (settings : Settings) (order : List Setting) :
    (settings.assignments order).map Prod.fst = order := by
  rw [Settings.assignments, List.map_map]
  exact List.map_id order

theorem Settings.nodup_assignments (settings : Settings) (complete : order.Perm Setting.all) :
    ((settings.assignments order).map Prod.fst).Nodup := by
  rw [map_fst_assignments]
  exact complete.nodup_iff.mpr (by decide)

/-- Arguments for all settings leave nothing to be chosen from elsewhere. -/
theorem areChosen_assignments
    (denoted : ∀ setting : Setting, ∃ text, setting.Denotes text (settings.value setting))
    (complete : order.Perm Setting.all) (environment : Environment) :
    settings.AreChosen environment (settings.assignments order) := by
  intro setting
  have listed : setting ∈ order := complete.mem_iff.mpr (by cases setting <;> decide)
  have given : (settings.assignments order).lookup setting =
      some (setting.shown (settings.value setting)) :=
    lookup_of_mem (settings.nodup_assignments complete) (List.mem_map_of_mem listed)
  obtain ⟨text, denotes⟩ := denoted setting
  exact ⟨_, by rw [chosen?, given?, given, Option.some_or, Option.some_or],
    Setting.denotes_shown denotes⟩

/-- Settings with values that can be given at all are read from their arguments. -/
theorem parse_map_argument
    (denoted : ∀ setting : Setting, ∃ text, setting.Denotes text (settings.value setting))
    (complete : order.Perm Setting.all) (environment : Environment) :
    parse environment (order.map settings.argument) = .ok settings := by
  have spells := settings.spellsAll_arguments order
  have distinct := settings.nodup_assignments complete
  have chosen := areChosen_assignments denoted complete environment
  obtain ⟨found, parsed⟩ := exists_parse spells distinct fun setting => by
    obtain ⟨text, same, denotes⟩ := chosen setting
    exact ⟨text, _, same, denotes⟩
  rw [parsed, (areChosen_of_parse spells distinct parsed).unique chosen]

/-- Settings that have been read are read again from what they are written out as, whatever
the order of the flags and the environment.  The program then listens in the same place and
gives requests the same time. -/
theorem parse_arguments_of_parse {environment : Environment} {arguments : List String}
    (parsed : parse environment arguments = .ok settings) (complete : order.Perm Setting.all)
    (other : Environment) :
    parse other (order.map settings.argument) = .ok settings ∧
      ∀ setup again : Program.Setup, parse environment arguments = .ok setup.settings →
        parse other (order.map settings.argument) = .ok again.settings →
        again.gateway.listenAddress = setup.gateway.listenAddress ∧
          again.addressText = setup.addressText ∧
          again.gateway.timeoutMilliseconds = setup.gateway.timeoutMilliseconds := by
  have reparsed : parse other (order.map settings.argument) = .ok settings :=
    parse_map_argument (exists_denotes_of_parse parsed) complete other
  refine ⟨reparsed, fun setup again first second => ?_⟩
  have same : again.settings = setup.settings :=
    (Except.ok.inj (second.symm.trans reparsed)).trans (Except.ok.inj (parsed.symm.trans first))
  simp only [Program.Setup.addressText, Program.Setup.gateway, same, and_self]

end Arguments

/-- An address with an address of version 4 in it, an empty filter and a port with a sign,
written out in the opposite order in an environment that has nothing usable. -/
theorem parse_arguments_of_parse_reversed :
    let arguments := ["-p+80", "--host=0:0:0:0:0:FFFF:1.2.3.4", "--log-level="]
    let environment : Environment := fun name =>
      if name = "PORTAL_LOG_FORMAT" then some "text" else none
    let other : Environment := fun _ => some "-"
    let written := ["--log-level=", "--log-format=text", "--request-timeout-secs=15",
      "--host=::ffff:1.2.3.4", "--port=80"]
    let host : Net.Address := .v6 ⟨[0, 0, 0, 0, 0, 0xFFFF, 0x0102, 0x0304], rfl⟩
    let settings : Settings :=
      { port := 80, host, requestTimeout := 15, logFormat := .text, logLevel := "" }
    let filter : Log.Filter :=
      { plain := [], spanned := [], plainMaximum := .off, spannedMaximum := .off }
    let setup : Program.Setup :=
      { settings, logger := { format := .text, filter, colours := true } }
    let again : Program.Setup :=
      { settings, logger := { format := .json, filter, colours := false } }
    parse environment arguments = .ok settings ∧ Setting.all.reverse.Perm Setting.all ∧
      Setting.all.reverse.map settings.argument = written ∧
      parse other written = .ok settings ∧
      again.gateway.listenAddress = setup.gateway.listenAddress ∧
      again.gateway.timeoutMilliseconds = setup.gateway.timeoutMilliseconds := by
  intro arguments environment other written host settings filter setup again
  have parsed : parse environment arguments = .ok settings := by
    rfl
  have complete : Setting.all.reverse.Perm Setting.all := List.reverse_perm _
  have same : Setting.all.reverse.map settings.argument = written := by
    decide +kernel
  obtain ⟨reparsed, program⟩ := parse_arguments_of_parse parsed complete other
  obtain ⟨address, -, time⟩ := program setup again parsed reparsed
  exact ⟨parsed, complete, same, same ▸ reparsed, address, time⟩

end Shortlink.CommandLine
