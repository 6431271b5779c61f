import SlateMark.Config.Readers
import SlateMark.Config.Toml
import SlateMark.Config.Yaml

/-!
The readers of the program itself. TOML and JSON are read in full; of YAML the part is read that
configurations are written in.
-/
namespace SlateMark.Config

/-- A reader of texts as a reader of bytes. -/
def Reading.ofText {α : Type} (read : List Char → Except String α) (content : List UInt8) :
    Reading α :=
  match Text.decodeUtf8 content with
  | .error e => .undecodable e
  | .ok text =>
    match read text with
    | .error message => .malformed message
    | .ok content => .found content

def readToml (text : List Char) : Except String Entries :=
  match Toml.parse text with
  | none => .error "Malformed document"
  | some table => .ok (Toml.entriesOf table)

/-- In files other than those of TOML every line end is a line feed. -/
def readYaml (text : List Char) : Except String Value :=
  match Yaml.parse (Text.unifyNewlines text) with
  | none => .error "Malformed document"
  | some v => .ok (.ofJson v)

def readJson (text : List Char) : Except String Value :=
  match Json.parse (String.ofList (Text.unifyNewlines text)) with
  | .error e => .error e.message
  | .ok v => .ok (.ofJson v)

def Readers.standard : Readers := ⟨.ofText readToml, .ofText readYaml, .ofText readJson⟩

theorem Reading.not_isText_of_ofText {α : Type} {read : List Char → Except String α}
    {content : List UInt8} {e : Text.Utf8Error} (h : Reading.ofText read content = .undecodable e) :
    ¬ IsText content := by
  rintro ⟨text, htext⟩
  rw [Reading.ofText, htext] at h
  dsimp only at h
  split at h <;> cases h

theorem Readers.standard_lawful : Readers.standard.Lawful :=
  ⟨Reading.not_isText_of_ofText, Reading.not_isText_of_ofText, Reading.not_isText_of_ofText⟩

end SlateMark.Config
