import SlateMark.Command.Run
import SlateMark.Config.Standard
import SlateMark.Proofs.Config.Failure
import SlateMark.Proofs.Json.Rendering
import SlateMark.Proofs.Options
import SlateMark.Proofs.Text.Utf8

/-!
Whose word counts for a setting. A flag that is given comes first, then the configuration unless
none is wanted, then the default; nothing else has an influence on the options. A value that is
passed over in this way is never looked at, so it may be of any kind.
-/
namespace SlateMark.Command

open Options (Keyed applyKeys lastValue? lastValue?_filter settingOfKey?)

namespace Flags

/-- What the flags say about a setting. -/
def given (flags : Flags) : Setting → Option Value
  | .ns => flags.ns.map .str
  | .xmlns => flags.xmlns.map .str
  | .childlessPolicy => flags.childlessPolicy.map fun policy => .str policy.name
  | .strictHeadings => flags.strictHeadings.map .bool

/-- The value that counts for a setting: what the flags say, else what the last key for it in the
configuration says unless none is wanted, else the default. -/
def resolved (flags : Flags) (configuration : Entries) (setting : Setting) : Value :=
  match flags.given setting with
  | some value => value
  | none =>
    (if flags.noConfig then none else lastValue? configuration.byText setting).getD
      (Options.default.settings.get setting)

theorem exists_setting_of_mem_settings {flags : Flags} {entry : String × Value}
    (h : entry ∈ flags.settings) : ∃ setting : Setting, entry.1 = setting.name := by
  simp only [settings, List.mem_append, Option.mem_toList, Option.map_eq_some_iff] at h
  rcases h with ((⟨_, -, rfl⟩ | ⟨_, -, rfl⟩) | ⟨_, -, rfl⟩) | ⟨_, -, rfl⟩
  · exact ⟨.ns, rfl⟩
  · exact ⟨.xmlns, rfl⟩
  · exact ⟨.childlessPolicy, rfl⟩
  · exact ⟨.strictHeadings, rfl⟩

theorem keyed_merge (flags : Flags) (configuration : Entries) :
    Keyed (flags.merge configuration) := by
  apply (Options.keyed_ofList_underscored configuration.byText).foldl_set
  intro entry hentry
  obtain ⟨setting, hname⟩ := exists_setting_of_mem_settings hentry
  rw [hname, Options.underscored_name]

theorem get?_foldl_set_toList (values : Named Value) (name : String) (value? : Option Value)
    (key : String) :
    Fields.get? ((value?.map fun value => (name, value)).toList.foldl
        (fun values entry => Fields.set entry.1 entry.2 values) values) key =
      if name = key then value?.or (Fields.get? values key) else Fields.get? values key := by
  cases value? with
  | none => simp
  | some value => exact Fields.get?_set values name value key

theorem get?_merge (flags : Flags) (configuration : Entries) (setting : Setting) :
    Fields.get? (flags.merge configuration) setting.name =
      (flags.given setting).or (lastValue? configuration.byText setting) := by
  rw [← Options.get?_ofList_underscored]
  simp only [merge, settings, List.foldl_append, get?_foldl_set_toList]
  cases setting <;> simp [Setting.name, given]

theorem get_applyKeys_merge (flags : Flags) (configuration : Entries) (setting : Setting) :
    (applyKeys Options.default.settings (flags.merge configuration)).get setting =
      ((flags.given setting).or (lastValue? configuration.byText setting)).getD
        (Options.default.settings.get setting) := by
  rw [Options.get_applyKeys, (keyed_merge flags configuration).lastValue?_eq, get?_merge]

/-- The part of a configuration that is heeded: nothing of it if none is wanted. -/
def heeded (flags : Flags) (configuration : Entries) : Entries :=
  if flags.noConfig then [] else configuration

theorem lastValue?_heeded (flags : Flags) (configuration : Entries) (setting : Setting) :
    lastValue? (flags.heeded configuration).byText setting =
      if flags.noConfig then none else lastValue? configuration.byText setting := by
  rw [heeded]
  split <;> rfl

theorem options_eq {flags : Flags} {s : Config.Surroundings} {configuration : Entries}
    (h : flags.noConfig = true ∨ Config.resolve s flags.config true = .ok configuration) :
    flags.options s = flags.optionsFrom (flags.heeded configuration) := by
  rw [options, Flags.configuration, heeded]
  cases hno : flags.noConfig with
  | true => rfl
  | false =>
    rw [h.resolve_left (by simp [hno])]
    rfl

section Resolved

variable {flags : Flags} {configuration : Entries}

/-- The options are what the values that count make of them. -/
theorem exists_settings_of_optionsFrom (flags : Flags) (configuration : Entries) :
    ∃ merged : Settings, (∀ setting, merged.get setting = flags.resolved configuration setting) ∧
      flags.optionsFrom (flags.heeded configuration) =
        merged.validate.mapError fun e => .validation (.invalidOptions e) := by
  refine ⟨applyKeys Options.default.settings (flags.merge (flags.heeded configuration)),
    fun setting => ?_, rfl⟩
  rw [get_applyKeys_merge, lastValue?_heeded, resolved]
  cases flags.given setting <;> rfl

theorem resolved_eq_of_filter {configuration' : Entries}
    (h : (configuration'.filter fun entry => (settingOfKey? entry.1.text).isSome) =
      configuration.filter fun entry => (settingOfKey? entry.1.text).isSome) (setting : Setting) :
    flags.resolved configuration' setting = flags.resolved configuration setting := by
  have hfilter : ∀ entries : Entries,
      (entries.byText.filter fun entry => (settingOfKey? entry.1).isSome) =
        Entries.byText (entries.filter fun entry => (settingOfKey? entry.1.text).isSome) := by
    intro entries
    rw [Entries.byText, List.filter_map]
    rfl
  have hlast : lastValue? configuration'.byText setting =
      lastValue? configuration.byText setting := by
    rw [← lastValue?_filter configuration'.byText, hfilter, h, ← hfilter, lastValue?_filter]
  rw [resolved, resolved, hlast]

theorem optionsFrom_of_admits
    (h : ∀ setting : Setting, setting.Admits (flags.resolved configuration setting)) :
    ∃ o, flags.optionsFrom (flags.heeded configuration) = .ok o ∧
      ∀ setting, o.settings.get setting = flags.resolved configuration setting := by
  obtain ⟨merged, hmerged, hoptions⟩ := exists_settings_of_optionsFrom flags configuration
  rcases merged.validate_cases with ⟨o, hvalid, hsettings⟩ | ⟨e, setting, -, -, hno⟩
  · refine ⟨o, ?_, fun setting => ?_⟩
    · rw [hoptions, hvalid]
      rfl
    · rw [hsettings, hmerged]
  · rw [hmerged] at hno
    exact absurd (h setting) hno

theorem optionsFrom_of_not_admits
    (h : ∃ setting : Setting, ¬ setting.Admits (flags.resolved configuration setting)) :
    ∃ (e : OptionError) (setting : Setting) (rest : String),
      flags.optionsFrom (flags.heeded configuration) = .error (.validation (.invalidOptions e)) ∧
        e.message = setting.name ++ rest ∧
        ¬ setting.Admits (flags.resolved configuration setting) := by
  obtain ⟨merged, hmerged, hoptions⟩ := exists_settings_of_optionsFrom flags configuration
  obtain ⟨setting, hno⟩ := h
  rcases merged.validate_cases with ⟨o, -, hsettings⟩ | ⟨e, culprit, hinvalid, habout, hculprit⟩
  · have hadmits := o.admits_settings setting
    rw [hsettings, hmerged] at hadmits
    exact absurd hadmits hno
  · obtain ⟨rest, hmessage⟩ := OptionError.exists_message_eq habout
    refine ⟨e, culprit, rest, ?_, hmessage, hmerged culprit ▸ hculprit⟩
    rw [hoptions, hinvalid]
    rfl

theorem optionsFrom_eq_of_filter {configuration' : Entries}
    (h : (configuration'.filter fun entry => (settingOfKey? entry.1.text).isSome) =
      configuration.filter fun entry => (settingOfKey? entry.1.text).isSome) :
    flags.optionsFrom (flags.heeded configuration') =
      flags.optionsFrom (flags.heeded configuration) := by
  obtain ⟨merged, hmerged, hoptions⟩ := exists_settings_of_optionsFrom flags configuration
  obtain ⟨merged', hmerged', hoptions'⟩ := exists_settings_of_optionsFrom flags configuration'
  have hsame : merged' = merged := by
    apply Settings.ext_get
    intro setting
    rw [hmerged', hmerged, resolved_eq_of_filter h]
  rw [hoptions, hoptions', hsame]

end Resolved

/-- Whatever the configuration, and also if several of its keys have one text: options are there
exactly if every value that counts is admitted, and then they hold these values. Otherwise they are
refused, and the message names a setting whose value counts and is not admitted. Keys that name no
setting have no influence. -/
theorem options_resolved (flags : Flags) (configuration : Entries) :
    (∀ s, flags.noConfig = true ∨ Config.resolve s flags.config true = .ok configuration →
        flags.options s = flags.optionsFrom (flags.heeded configuration)) ∧
      ((∀ setting : Setting, setting.Admits (flags.resolved configuration setting)) →
        ∃ o, flags.optionsFrom (flags.heeded configuration) = .ok o ∧
          ∀ setting, o.settings.get setting = flags.resolved configuration setting) ∧
      ((∃ setting : Setting, ¬ setting.Admits (flags.resolved configuration setting)) →
        ∃ (e : OptionError) (setting : Setting) (rest : String),
          flags.optionsFrom (flags.heeded configuration) =
              .error (.validation (.invalidOptions e)) ∧
            e.message = setting.name ++ rest ∧
            ¬ setting.Admits (flags.resolved configuration setting)) ∧
      ∀ configuration' : Entries,
        (configuration'.filter fun entry => (settingOfKey? entry.1.text).isSome) =
          (configuration.filter fun entry => (settingOfKey? entry.1.text).isSome) →
        flags.optionsFrom (flags.heeded configuration') =
          flags.optionsFrom (flags.heeded configuration) :=
  ⟨fun _ => options_eq, optionsFrom_of_admits, optionsFrom_of_not_admits,
    fun _ => optionsFrom_eq_of_filter⟩

/-- A file with a value of the wrong kind and with a key in two spellings, of which the last counts.
A flag in place of the wrong value mends it. -/
theorem options_resolved_respelled :
    let members : Fields :=
      [("namespace", .int 7), ("strict-headings", .int 7), ("strict_headings", .bool true)]
    let content : List UInt8 := Text.encodeUtf8 (Json.documentText none (.obj members))
    let configuration : Entries := Value.ofFields members
    let s : Config.Surroundings :=
      ⟨.directory [("c.json", .file content)], [], .absolute [], none, .standard⟩
    let flags : Flags := { config := some "c.json" }
    let mended : Flags := { flags with ns := some "a.b" }
    Config.resolve s flags.config true = .ok configuration ∧
      (∃ e, flags.options s = .error (.validation (.invalidOptions e))) ∧
      ∃ o, mended.options s = .ok o ∧
        o.settings = ⟨.str "a.b", .str "slate", .str "error", .bool true⟩ := by
  intro members content configuration s flags mended
  let text : String := Json.documentText none (.obj members)
  have hdecode : Text.decodeUtf8 content = .ok text.toList := Text.decodeUtf8_eq_ok_iff.mpr rfl
  -- From here on only what the bytes decode to matters.
  clear_value content
  have hlines : Text.unifyNewlines text.toList = text.toList :=
    Text.unifyNewlines_of_notMem (by decide +kernel)
  have hplain : Json.Plain (.obj members) := by
    simp [members, Fields.names]
  have hread : s.readers.json content = .found (.mapping configuration) := by
    change Config.Reading.ofText Config.readJson content = _
    rw [Config.Reading.ofText, hdecode]
    dsimp only
    rw [Config.readJson, hlines, String.ofList_toList, Json.parse_documentText hplain none]
    rfl
  have hload : Config.resolve s flags.config true =
      Config.decodeJson s.readers (.parse "c.json") content := by rfl
  have hresolve : Config.resolve s flags.config true = .ok configuration := by
    rw [hload, Config.decodeJson, hread]
    rfl
  have hadmits : ∀ setting : Setting,
      setting.Admits (mended.resolved configuration setting) := by
    intro setting
    cases setting with
    | ns =>
      obtain ⟨hne, hdot⟩ := isDottedName_iff.mp (show IsDottedName "a.b" by decide)
      exact .ns hne hdot
    | xmlns => exact .xmlns "slate"
    | childlessPolicy => exact .childlessPolicy (.inl rfl)
    | strictHeadings => exact .strictHeadings true
  refine ⟨hresolve, ?_, ?_⟩
  · have hns : ¬ Setting.ns.Admits (flags.resolved configuration .ns) := by
      intro h
      cases h
    obtain ⟨hoptions, -, hrefused, -⟩ := options_resolved flags configuration
    obtain ⟨e, -, -, herror, -⟩ := hrefused ⟨.ns, hns⟩
    exact ⟨e, (hoptions s (.inr hresolve)).trans herror⟩
  · obtain ⟨hoptions, hheld, -, -⟩ := options_resolved mended configuration
    obtain ⟨o, hok, hget⟩ := hheld hadmits
    refine ⟨o, (hoptions s (.inr hresolve)).trans hok, Settings.ext_get fun setting => ?_⟩
    rw [hget]
    cases setting <;> rfl

end Flags

end SlateMark.Command
