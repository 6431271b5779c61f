import SlateMark.CommonMark.Basic
import SlateMark.Value

/-!
Conversion options. Settings come as values of any kind and become options once all four are valid;
a later setting of the same name replaces an earlier one, and dashes in names count as underscores.
-/
namespace SlateMark

/-- What to do with children of an element whose CommonMark node has no place for them. -/
inductive ChildlessPolicy where
  | error
  | drop
  deriving DecidableEq, Repr

def ChildlessPolicy.name : ChildlessPolicy → String
  | .error => "error"
  | .drop => "drop"

def ChildlessPolicy.all : List ChildlessPolicy := [.error, .drop]

def ChildlessPolicy.ofName? (s : String) : Option ChildlessPolicy :=
  all.find? fun policy => policy.name = s

/-- A dotted name is not empty and has no dot at its end. -/
def IsDottedName (s : String) : Prop := s.toList ≠ [] ∧ s.toList.getLast? ≠ some '.'

instance (s : String) : Decidable (IsDottedName s) := inferInstanceAs (Decidable (_ ∧ _))

structure Options where
  ns : String
  xmlns : String
  childlessPolicy : ChildlessPolicy
  strictHeadings : Bool
  ns_dotted : IsDottedName ns
  deriving DecidableEq

def Options.default : Options :=
  ⟨CommonMark.defaultNamespace, CommonMark.defaultXmlns, .error, false, by
    constructor
    · simp [CommonMark.defaultNamespace]
    · simp [CommonMark.defaultNamespace]⟩

/-- The names of the settings. -/
inductive Setting where
  | ns
  | xmlns
  | childlessPolicy
  | strictHeadings
  deriving DecidableEq, Repr

def Setting.name : Setting → String
  | .ns => "namespace"
  | .xmlns => "document_xmlns"
  | .childlessPolicy => "childless_policy"
  | .strictHeadings => "strict_headings"

def Setting.all : List Setting := [.ns, .xmlns, .childlessPolicy, .strictHeadings]

def Setting.ofName? (s : String) : Option Setting := all.find? fun setting => setting.name = s

inductive OptionError where
  | notAString (setting : Setting) (found : String)
  | strictHeadingsNotABoolean (found : Value)
  | invalidNamespace (ns : String)
  | unknownPolicy (found : Value)
  | unknownSetting (name : String)

def OptionError.message : OptionError → String
  | .notAString setting found => s!"{setting.name} must be a string, got {found}"
  | .strictHeadingsNotABoolean found => s!"strict_headings must be a boolean, got {found.display}"
  | .invalidNamespace ns => s!"namespace must be a non-empty dotted name, got {Text.quoted ns}"
  | .unknownPolicy found =>
    "childless_policy must be one of " ++
      ", ".intercalate (ChildlessPolicy.all.map ChildlessPolicy.name) ++ ", got " ++ found.display
  | .unknownSetting name =>
    s!"ConversionOptions.__init__() got an unexpected keyword argument '{name}'"

/-- A value for each setting, valid or not. -/
structure Settings where
  ns : Value
  xmlns : Value
  childlessPolicy : Value
  strictHeadings : Value

namespace Settings

def set (settings : Settings) (setting : Setting) (value : Value) : Settings :=
  match setting with
  | .ns => { settings with ns := value }
  | .xmlns => { settings with xmlns := value }
  | .childlessPolicy => { settings with childlessPolicy := value }
  | .strictHeadings => { settings with strictHeadings := value }

def get (settings : Settings) : Setting → Value
  | .ns => settings.ns
  | .xmlns => settings.xmlns
  | .childlessPolicy => settings.childlessPolicy
  | .strictHeadings => settings.strictHeadings

/-- The kinds of the values are checked before the values themselves. -/
def validate (settings : Settings) : Except OptionError Options :=
  match settings.ns with
  | .str ns =>
    match settings.xmlns with
    | .str xmlns =>
      match settings.strictHeadings with
      | .bool strict =>
        if dotted : IsDottedName ns then
          match settings.childlessPolicy with
          | .str name =>
            match ChildlessPolicy.ofName? name with
            | some policy => .ok ⟨ns, xmlns, policy, strict, dotted⟩
            | none => .error (.unknownPolicy (.str name))
          | other => .error (.unknownPolicy other)
        else .error (.invalidNamespace ns)
      | other => .error (.strictHeadingsNotABoolean other)
    | other => .error (.notAString .xmlns other.typeName)
  | other => .error (.notAString .ns other.typeName)

end Settings

namespace Options

def settings (o : Options) : Settings :=
  ⟨.str o.ns, .str o.xmlns, .str o.childlessPolicy.name, .bool o.strictHeadings⟩

/-- A key with its dashes read as underscores. -/
def underscored (key : String) : String :=
  String.ofList (key.toList.map fun c => if c = '-' then '_' else c)

/-- The setting that a key names when its dashes are read as underscores. -/
def settingOfKey? (key : String) : Option Setting := Setting.ofName? (underscored key)

/-- Keys that name no setting have no influence. -/
def applyKeys (settings : Settings) (values : Named Value) : Settings :=
  values.foldl
    (fun settings entry =>
      match settingOfKey? entry.1 with
      | some setting => settings.set setting entry.2
      | none => settings)
    settings

def ofMapping (values : Named Value) : Except OptionError Options :=
  (applyKeys default.settings values).validate

/-- Here a key has to be the exact name of a setting; the first that is not is the error. -/
def update (o : Options) (changes : Named Value) : Except OptionError Options :=
  match changes.find? fun entry => (Setting.ofName? entry.1).isNone with
  | some (name, _) => .error (.unknownSetting name)
  | none => (applyKeys o.settings changes).validate

end Options

end SlateMark
