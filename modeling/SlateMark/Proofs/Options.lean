import Mathlib.Data.List.Induction
import SlateMark.Options
import SlateMark.Proofs.Json.Fields

/-!
Settings from mappings, and options from settings. Of the keys that name the same setting the last
counts, also if the keys are first rewritten without dashes and collected anew. Settings become
options if every value is one that its setting admits, and the options then say the same; if not,
the error is about a setting whose value is not admitted, and its message names that setting.
-/
namespace SlateMark

namespace Setting

theorem ofName?_name (setting : Setting) : Setting.ofName? setting.name = some setting := by
  cases setting <;> rfl

theorem ofName?_eq_some_iff {s : String} {setting : Setting} :
    Setting.ofName? s = some setting ↔ s = setting.name :=
  find?_name_eq_some_iff ofName?_name

theorem name_injective : Function.Injective Setting.name := by
  intro setting other h
  have hfound := ofName?_name setting
  rw [h, ofName?_name other] at hfound
  exact (Option.some.inj hfound).symm

/-- The values that a setting may have. -/
inductive Admits : Setting → Value → Prop
  | ns {s : String} (hne : s ≠ "") (hdot : ∀ front, s ≠ front ++ ".") : Admits .ns (.str s)
  | xmlns (s : String) : Admits .xmlns (.str s)
  | childlessPolicy {s : String} (hpolicy : s = "error" ∨ s = "drop") :
      Admits .childlessPolicy (.str s)
  | strictHeadings (strict : Bool) : Admits .strictHeadings (.bool strict)

end Setting

theorem isDottedName_iff {s : String} : IsDottedName s ↔ s ≠ "" ∧ ∀ front, s ≠ front ++ "." := by
  have hempty : s.toList = [] ↔ s = "" := by
    rw [← String.toList_inj]
    rfl
  have hdot : s.toList.getLast? = some '.' ↔ ∃ front, s = front ++ "." := by
    rw [List.getLast?_eq_some_iff]
    constructor
    · rintro ⟨front, hfront⟩
      refine ⟨String.ofList front, String.toList_inj.mp ?_⟩
      rw [hfront, String.toList_append, String.toList_ofList]
      rfl
    · rintro ⟨front, rfl⟩
      exact ⟨front.toList, String.toList_append⟩
  rw [IsDottedName, Ne, hempty, Ne, hdot, not_exists]

namespace ChildlessPolicy

theorem ofName?_name (policy : ChildlessPolicy) : ofName? policy.name = some policy := by
  cases policy <;> rfl

theorem ofName?_eq_some_iff {s : String} {policy : ChildlessPolicy} :
    ofName? s = some policy ↔ s = policy.name :=
  find?_name_eq_some_iff ofName?_name

theorem name_eq (policy : ChildlessPolicy) : policy.name = "error" ∨ policy.name = "drop" := by
  cases policy
  · exact .inl rfl
  · exact .inr rfl

theorem exists_name_eq {s : String} (h : s = "error" ∨ s = "drop") :
    ∃ policy : ChildlessPolicy, s = policy.name := by
  rcases h with rfl | rfl
  · exact ⟨.error, rfl⟩
  · exact ⟨.drop, rfl⟩

end ChildlessPolicy

namespace OptionError

/-- The setting that the error is about. -/
def setting? : OptionError → Option Setting
  | .notAString setting _ => some setting
  | .strictHeadingsNotABoolean _ => some .strictHeadings
  | .invalidNamespace _ => some .ns
  | .unknownPolicy _ => some .childlessPolicy
  | .unknownSetting _ => none

/-- The message starts with the name of the setting. -/
theorem exists_message_eq {e : OptionError} {setting : Setting} (h : e.setting? = some setting) :
    ∃ rest, e.message = setting.name ++ rest := by
  cases e with
  | notAString named found =>
    obtain rfl := Option.some.inj h
    exact ⟨" must be a string, got " ++ found, String.append_assoc⟩
  | strictHeadingsNotABoolean found =>
    obtain rfl := Option.some.inj h
    refine ⟨" must be a boolean, got " ++ found.display, ?_⟩
    rw [← String.append_assoc]
    rfl
  | invalidNamespace ns =>
    obtain rfl := Option.some.inj h
    refine ⟨" must be a non-empty dotted name, got " ++ Text.quoted ns, ?_⟩
    rw [← String.append_assoc]
    rfl
  | unknownPolicy found =>
    obtain rfl := Option.some.inj h
    refine ⟨" must be one of error, drop, got " ++ found.display, ?_⟩
    rw [← String.append_assoc]
    rfl
  | unknownSetting name => cases h

end OptionError

namespace Settings

theorem ext_get {settings others : Settings}
    (h : ∀ setting, settings.get setting = others.get setting) : settings = others := by
  obtain ⟨ns, xmlns, policy, strict⟩ := settings
  obtain ⟨ns', xmlns', policy', strict'⟩ := others
  obtain rfl : ns = ns' := h .ns
  obtain rfl : xmlns = xmlns' := h .xmlns
  obtain rfl : policy = policy' := h .childlessPolicy
  obtain rfl : strict = strict' := h .strictHeadings
  rfl

theorem get_set (settings : Settings) (setting : Setting) (value : Value) (other : Setting) :
    (settings.set setting value).get other =
      if setting = other then value else settings.get other := by
  cases setting <;> cases other <;> rfl

/-- With values of the right kinds only the namespace and the policy can be at fault. -/
theorem validate_of_kinds (ns xmlns : String) (policy : Value) (strict : Bool) :
    let settings : Settings := ⟨.str ns, .str xmlns, policy, .bool strict⟩
    (∃ o, settings.validate = .ok o ∧ o.settings = settings) ∨
      ∃ e setting, settings.validate = .error e ∧ e.setting? = some setting ∧
        ¬ setting.Admits (settings.get setting) := by
  intro settings
  by_cases hdotted : IsDottedName ns
  · cases policy with
    | str name =>
      cases hname : ChildlessPolicy.ofName? name with
      | some policy =>
        refine .inl ⟨⟨ns, xmlns, policy, strict, hdotted⟩, ?_, ?_⟩
        · simp only [settings, validate, dif_pos hdotted, hname]
        · rw [Options.settings, ← ChildlessPolicy.ofName?_eq_some_iff.mp hname]
      | none =>
        refine .inr ⟨.unknownPolicy (.str name), .childlessPolicy, ?_, rfl, ?_⟩
        · simp only [settings, validate, dif_pos hdotted, hname]
        · rintro ⟨⟩
          obtain ⟨policy, rfl⟩ := ChildlessPolicy.exists_name_eq ‹_›
          cases (ChildlessPolicy.ofName?_name policy).symm.trans hname
    | _ => exact .inr ⟨_, .childlessPolicy, dif_pos hdotted, rfl, nofun⟩
  · refine .inr ⟨.invalidNamespace ns, .ns, ?_, rfl, ?_⟩
    · simp only [settings, validate, dif_neg hdotted]
    · rintro ⟨hne, hdot⟩
      exact hdotted (isDottedName_iff.mpr ⟨hne, hdot⟩)

/-- Either the settings are those of some options, or one of them has a value it does not admit. -/
theorem validate_cases (settings : Settings) :
    (∃ o, settings.validate = .ok o ∧ o.settings = settings) ∨
      ∃ e setting, settings.validate = .error e ∧ e.setting? = some setting ∧
        ¬ setting.Admits (settings.get setting) := by
  obtain ⟨ns, xmlns, policy, strict⟩ := settings
  cases ns with
  | str ns =>
    cases xmlns with
    | str xmlns =>
      cases strict with
      | bool strict => exact validate_of_kinds ns xmlns policy strict
      | _ => exact .inr ⟨_, .strictHeadings, rfl, rfl, nofun⟩
    | _ => exact .inr ⟨_, .xmlns, rfl, rfl, nofun⟩
  | _ => exact .inr ⟨_, .ns, rfl, rfl, nofun⟩

end Settings

namespace Options

/-- Options hold values that are admitted, whatever they were made from. -/
theorem admits_settings (o : Options) (setting : Setting) :
    setting.Admits (o.settings.get setting) := by
  cases setting with
  | ns =>
    obtain ⟨hne, hdot⟩ := isDottedName_iff.mp o.ns_dotted
    exact .ns hne hdot
  | xmlns => exact .xmlns o.xmlns
  | childlessPolicy => exact .childlessPolicy o.childlessPolicy.name_eq
  | strictHeadings => exact .strictHeadings o.strictHeadings

/-! Keys. -/

theorem underscored_underscored (key : String) :
    underscored (underscored key) = underscored key := by
  have hletter : ∀ c : Char, (if (if c = '-' then '_' else c) = '-' then '_' else
      if c = '-' then '_' else c) = if c = '-' then '_' else c := by
    intro c
    by_cases h : c = '-'
    · simp [h]
    · simp [h]
  rw [underscored, underscored, String.toList_ofList, List.map_map]
  exact congrArg String.ofList (List.map_congr_left fun c _ => hletter c)

theorem underscored_name (setting : Setting) : underscored setting.name = setting.name := by
  cases setting <;> rfl

theorem settingOfKey?_eq_some_iff {key : String} {setting : Setting} :
    settingOfKey? key = some setting ↔ underscored key = setting.name :=
  Setting.ofName?_eq_some_iff

/-- The value under the last of the keys that name the setting. -/
def lastValue? (values : Named Value) (setting : Setting) : Option Value :=
  (values.filter fun entry => underscored entry.1 = setting.name).getLast?.map Prod.snd

theorem lastValue?_concat (values : Named Value) (entry : String × Value) (setting : Setting) :
    lastValue? (values ++ [entry]) setting =
      if underscored entry.1 = setting.name then some entry.2 else lastValue? values setting := by
  by_cases h : underscored entry.1 = setting.name
  · simp [lastValue?, h]
  · simp [lastValue?, h]

theorem lastValue?_cons (entry : String × Value) (values : Named Value) (setting : Setting) :
    lastValue? (entry :: values) setting = (lastValue? values setting).or
      (if underscored entry.1 = setting.name then some entry.2 else none) := by
  by_cases h : underscored entry.1 = setting.name
  · simp [lastValue?, h, List.getLast?_cons]
  · simp [lastValue?, h]

/-- Keys that name no setting do not matter. -/
theorem lastValue?_filter (values : Named Value) (setting : Setting) :
    lastValue? (values.filter fun entry => (settingOfKey? entry.1).isSome) setting =
      lastValue? values setting := by
  rw [lastValue?, lastValue?, List.filter_filter]
  refine congrArg (fun entries => (List.getLast? entries).map Prod.snd) (List.filter_congr ?_)
  intro entry _
  by_cases h : underscored entry.1 = setting.name
  · simp [h, settingOfKey?_eq_some_iff.mpr h]
  · simp [h]

theorem applyKeys_concat_of_named (settings : Settings) (values : Named Value)
    {entry : String × Value} {named : Setting} (h : underscored entry.1 = named.name) :
    applyKeys settings (values ++ [entry]) = (applyKeys settings values).set named entry.2 := by
  rw [applyKeys, List.foldl_append, List.foldl_cons, List.foldl_nil,
    settingOfKey?_eq_some_iff.mpr h]
  rfl

theorem applyKeys_concat_of_unnamed (settings : Settings) (values : Named Value)
    {entry : String × Value} (h : settingOfKey? entry.1 = none) :
    applyKeys settings (values ++ [entry]) = applyKeys settings values := by
  rw [applyKeys, List.foldl_append, List.foldl_cons, List.foldl_nil, h]
  rfl

theorem get_applyKeys (settings : Settings) (values : Named Value) (setting : Setting) :
    (applyKeys settings values).get setting =
      (lastValue? values setting).getD (settings.get setting) := by
  induction values using List.reverseRecOn with
  | nil => rfl
  | append_singleton front entry ih =>
    rw [lastValue?_concat]
    cases hnamed : settingOfKey? entry.1 with
    | none =>
      have hne : underscored entry.1 ≠ setting.name := by
        intro h
        cases (settingOfKey?_eq_some_iff.mpr h).symm.trans hnamed
      rw [applyKeys_concat_of_unnamed settings front hnamed, if_neg hne, ih]
    | some named =>
      rw [settingOfKey?_eq_some_iff] at hnamed
      rw [applyKeys_concat_of_named settings front hnamed, Settings.get_set, hnamed]
      by_cases h : named = setting
      · rw [if_pos h, if_pos (congrArg Setting.name h), Option.getD_some]
      · rw [if_neg h, if_neg fun hname => h (Setting.name_injective hname), ih]

/-- Keys are all different and have no dashes. -/
structure Keyed (values : Named Value) : Prop where
  nodup : (Fields.names values).Nodup
  underscored_eq : ∀ key ∈ Fields.names values, underscored key = key

theorem Keyed.set {values : Named Value} (h : Keyed values) {key : String}
    (hkey : underscored key = key) (value : Value) : Keyed (Fields.set key value values) := by
  constructor
  · rw [Fields.names_set]
    split
    case isTrue => exact h.nodup
    case isFalse hnew =>
      rw [List.nodup_append]
      refine ⟨h.nodup, List.pairwise_singleton _ key, ?_⟩
      rintro name hname _ hlast rfl
      exact hnew (List.mem_singleton.mp hlast ▸ hname)
  · intro name hname
    rw [Fields.names_set] at hname
    split at hname
    case isTrue => exact h.underscored_eq name hname
    case isFalse =>
      rcases List.mem_append.mp hname with hold | hnew
      · exact h.underscored_eq name hold
      · rw [List.mem_singleton.mp hnew, hkey]

theorem Keyed.foldl_set {values : Named Value} (h : Keyed values) {members : Named Value}
    (hmembers : ∀ member ∈ members, underscored member.1 = member.1) :
    Keyed (members.foldl (fun values member => Fields.set member.1 member.2 values) values) := by
  induction members generalizing values with
  | nil => exact h
  | cons member rest ih =>
    obtain ⟨hmember, hrest⟩ := List.forall_mem_cons.mp hmembers
    exact ih (h.set hmember member.2) hrest

/-- Of such keys at most one names a setting, and it is the setting's name. -/
theorem Keyed.lastValue?_eq {values : Named Value} (h : Keyed values) (setting : Setting) :
    lastValue? values setting = Fields.get? values setting.name := by
  induction values with
  | nil => rfl
  | cons member rest ih =>
    obtain ⟨hnew, hrest⟩ := List.nodup_cons.mp h.nodup
    obtain ⟨hmember, hkeys⟩ := List.forall_mem_cons.mp h.underscored_eq
    rw [lastValue?_cons, ih ⟨hrest, hkeys⟩, hmember, Fields.get?_cons]
    by_cases hname : member.1 = setting.name
    · have hnone : Fields.get? rest setting.name = none :=
        Fields.get?_eq_none_of_notMem (hname ▸ hnew)
      rw [if_pos hname, if_pos hname, hnone, Option.none_or]
    · rw [if_neg hname, if_neg hname, Option.or_none]

/-- Collecting values under keys without dashes keeps the last value for each setting. -/
theorem get?_ofList_underscored (values : Named Value) (setting : Setting) :
    Fields.get? (Fields.ofList (values.map fun entry => (underscored entry.1, entry.2)))
      setting.name = lastValue? values setting := by
  induction values using List.reverseRecOn with
  | nil => rfl
  | append_singleton front entry ih =>
    rw [List.map_append, List.map_singleton, Fields.ofList_concat, Fields.get?_set, ih,
      lastValue?_concat]

theorem keyed_ofList_underscored (values : Named Value) :
    Keyed (Fields.ofList (values.map fun entry => (underscored entry.1, entry.2))) := by
  have hempty : Keyed [] := ⟨List.nodup_nil, nofun⟩
  apply hempty.foldl_set
  intro member hmember
  obtain ⟨entry, -, rfl⟩ := List.mem_map.mp hmember
  exact underscored_underscored entry.1

end Options

end SlateMark
