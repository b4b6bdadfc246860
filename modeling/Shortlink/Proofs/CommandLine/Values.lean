import Shortlink.CommandLine.Value
import Shortlink.Proofs.Decimal.Numerals

/-!
# Values of settings

Every setting has values of its own kind, and texts that denote them.  The settings read so
far are a table of such values: to read a setting is to put the value that its text denotes
into the table, and to leave the rest of the table alone.
-/

namespace Shortlink.CommandLine

namespace Setting

/-- The values that a setting can have. -/
abbrev Value : Setting → Type
  | .port => UInt16
  | .host => Net.Address
  | .requestTimeout => UInt64
  | .logFormat => Log.Format
  | .logLevel => String

/-- A text denotes a value of a setting: a port and a number of seconds by a decimal numeral
of a number that is not zero, an address by its text, a format by its name, and the filter
of the log by whatever it is. -/
def Denotes : (setting : Setting) → String → setting.Value → Prop
  | .port, text, number => Decimal.DenotesInt text number.toNat ∧ 1 ≤ number
  | .host, text, address => Net.Address.parse? text = some address
  | .requestTimeout, text, seconds => Decimal.Denotes text seconds.toNat ∧ 1 ≤ seconds
  | .logFormat, text, format => text = "json" ∧ format = .json ∨ text = "text" ∧ format = .text
  | .logLevel, text, level => text = level

/-- Reads a value of a setting. -/
def read : (setting : Setting) → String → Except ValueProblem setting.Value
  | .port, text => readPort text
  | .host, text => readHost text
  | .requestTimeout, text => readTimeout text
  | .logFormat, text => readFormat text
  | .logLevel, text => .ok text

end Setting

/-! ## Reading -/

theorem readPort_eq_ok_iff {text : String} {port : UInt16} :
    readPort text = .ok port ↔ Decimal.DenotesInt text port.toNat ∧ 1 ≤ port := by
  have bounded := port.toNat_lt
  constructor
  · intro read
    unfold readPort at read
    split at read
    · contradiction
    · rename_i number found
      split at read
      · rename_i inRange
        obtain ⟨denotes, -⟩ := Decimal.readSigned_eq_ok_iff.mp found
        obtain rfl := Except.ok.inj read
        have same : number.toNat.toUInt16.toNat = number.toNat :=
          UInt16.toNat_ofNat_of_lt' (show number.toNat < 2 ^ 16 by omega)
        refine ⟨?_, ?_⟩
        · rwa [same, Int.toNat_of_nonneg (by omega)]
        · rw [UInt16.le_iff_toNat_le, same]
          change 1 ≤ number.toNat
          omega
      · contradiction
  · rintro ⟨denotes, positive⟩
    have atLeast : 1 ≤ port.toNat := UInt16.le_iff_toNat_le.mp positive
    have found := Decimal.readSigned_eq_ok_iff.mpr ⟨denotes, by omega, by omega⟩
    rw [readPort, found]
    dsimp only
    rw [if_pos (by omega), Int.toNat_natCast]
    exact congrArg Except.ok UInt16.ofNat_toNat

theorem readTimeout_eq_ok_iff {text : String} {seconds : UInt64} :
    readTimeout text = .ok seconds ↔ Decimal.Denotes text seconds.toNat ∧ 1 ≤ seconds := by
  rw [← Decimal.readUnsigned_eq_ok_iff, readTimeout]
  cases Decimal.readUnsigned text with
  | error failure => simp
  | ok number =>
      have positive : 1 ≤ number ↔ number ≠ 0 := by
        rw [UInt64.le_iff_toNat_le, Ne, ← UInt64.toNat_inj]
        exact Nat.one_le_iff_ne_zero
      by_cases zero : number = 0
      · simp only [if_pos zero, Except.ok.injEq]
        constructor
        · exact nofun
        · rintro ⟨rfl, atLeast⟩
          exact absurd zero (positive.mp atLeast)
      · simp only [if_neg zero, Except.ok.injEq]
        constructor
        · rintro rfl
          exact ⟨rfl, positive.mpr zero⟩
        · exact fun ⟨same, _⟩ => same

theorem readHost_eq_ok_iff {text : String} {host : Net.Address} :
    readHost text = .ok host ↔ Net.Address.parse? text = some host := by
  rw [readHost]
  cases Net.Address.parse? text <;> simp

theorem readFormat_eq_ok_iff {text : String} {format : Log.Format} :
    readFormat text = .ok format ↔
      text = "json" ∧ format = .json ∨ text = "text" ∧ format = .text := by
  rw [readFormat]
  by_cases json : text = "json"
  · subst json
    simp [eq_comm]
  · by_cases plain : text = "text"
    · subst plain
      simp [eq_comm]
    · simp [json, plain]

/-- What can be read as a value are the texts that denote it. -/
theorem Setting.read_eq_ok_iff {setting : Setting} {text : String} {value : setting.Value} :
    setting.read text = .ok value ↔ setting.Denotes text value := by
  cases setting with
  | port => exact readPort_eq_ok_iff
  | host => exact readHost_eq_ok_iff
  | requestTimeout => exact readTimeout_eq_ok_iff
  | logFormat => exact readFormat_eq_ok_iff
  | logLevel => exact ⟨Except.ok.inj, congrArg Except.ok⟩

/-! ## Tables of values -/

namespace Given

/-- The value that a setting has been given. -/
def value? (given : Given) : (setting : Setting) → Option setting.Value
  | .port => given.port?
  | .host => given.host?
  | .requestTimeout => given.requestTimeout?
  | .logFormat => given.logFormat?
  | .logLevel => given.logLevel?

/-- Gives a setting a value. -/
def put (given : Given) : (setting : Setting) → setting.Value → Given
  | .port, port => { given with port? := some port }
  | .host, host => { given with host? := some host }
  | .requestTimeout, seconds => { given with requestTimeout? := some seconds }
  | .logFormat, format => { given with logFormat? := some format }
  | .logLevel, level => { given with logLevel? := some level }

@[simp]
theorem value?_put_self (given : Given) (setting : Setting) (value : setting.Value) :
    (given.put setting value).value? setting = some value := by
  cases setting <;> rfl

theorem value?_put_of_ne (given : Given) {setting other : Setting} (different : other ≠ setting)
    (value : setting.Value) : (given.put setting value).value? other = given.value? other := by
  cases setting <;> cases other <;> first | rfl | contradiction

@[simp]
theorem value?_empty (setting : Setting) : ({} : Given).value? setting = none := by
  cases setting <;> rfl

theorem read_eq_map (given : Given) (setting : Setting) (text : String) :
    given.read setting text = (setting.read text).map (given.put setting) := by
  cases setting <;> rfl

end Given

/-- The value of a setting. -/
def Settings.value (settings : Settings) : (setting : Setting) → setting.Value
  | .port => settings.port
  | .host => settings.host
  | .requestTimeout => settings.requestTimeout
  | .logFormat => settings.logFormat
  | .logLevel => settings.logLevel

theorem Settings.ext_value {settings others : Settings}
    (same : ∀ setting, settings.value setting = others.value setting) : settings = others := by
  obtain ⟨port, host, seconds, format, level⟩ := settings
  obtain ⟨otherPort, otherHost, otherSeconds, otherFormat, otherLevel⟩ := others
  obtain rfl : port = otherPort := same .port
  obtain rfl : host = otherHost := same .host
  obtain rfl : seconds = otherSeconds := same .requestTimeout
  obtain rfl : format = otherFormat := same .logFormat
  obtain rfl : level = otherLevel := same .logLevel
  rfl

namespace Given

variable {given : Given} {port : UInt16}

/-- What has been given stays as it is. -/
theorem value_withDefaults (found : given.port? = some port) {setting : Setting}
    {value : setting.Value} (present : given.value? setting = some value) :
    (given.withDefaults port).value setting = value := by
  cases setting with
  | port => exact Option.some.inj (found.symm.trans present)
  | host => exact congrArg (Option.getD · _) present
  | requestTimeout => exact congrArg (Option.getD · _) present
  | logFormat => exact congrArg (Option.getD · _) present
  | logLevel => exact congrArg (Option.getD · _) present

/-- What has not been given has a default, which denotes the value that is filled in. -/
theorem denotes_withDefaults (found : given.port? = some port) {setting : Setting}
    (missing : given.value? setting = none) :
    ∃ text, setting.default? = some text ∧
      setting.Denotes text ((given.withDefaults port).value setting) := by
  cases setting with
  | port => exact nomatch found.symm.trans missing
  | host =>
      have filled : (given.withDefaults port).host = .unspecified :=
        congrArg (Option.getD · _) missing
      exact ⟨"0.0.0.0", rfl, Setting.read_eq_ok_iff.mp (congrArg Except.ok filled.symm)⟩
  | requestTimeout =>
      have filled : (given.withDefaults port).requestTimeout = 15 :=
        congrArg (Option.getD · _) missing
      exact ⟨"15", rfl, Setting.read_eq_ok_iff.mp (congrArg Except.ok filled.symm)⟩
  | logFormat =>
      have filled : (given.withDefaults port).logFormat = .json :=
        congrArg (Option.getD · _) missing
      exact ⟨"json", rfl, Setting.read_eq_ok_iff.mp (congrArg Except.ok filled.symm)⟩
  | logLevel =>
      have filled : (given.withDefaults port).logLevel = "info" :=
        congrArg (Option.getD · _) missing
      exact ⟨"info", rfl, Setting.read_eq_ok_iff.mp (congrArg Except.ok filled.symm)⟩

end Given

end Shortlink.CommandLine
