import SlateMark.Config.Load
import SlateMark.Proofs.Failure

/-!
How a configuration fails to be read, whatever its reader accepts. Wherever it comes from, the error
is one of the configuration, with the path of the file, or one that escapes as it is: the reader
finds no text, or what a project file has for tools is no table.
-/
namespace SlateMark.Config

open Files (Path)

/-- The reader of the format says that the content is no text. -/
def Readers.FindsNoText (readers : Readers) (content : List UInt8) (e : Text.Utf8Error) :
    Format → Prop
  | .project => readers.toml content = .undecodable e
  | .toml => readers.toml content = .undecodable e
  | .yaml => readers.yaml content = .undecodable e
  | .json => readers.json content = .undecodable e

theorem Readers.Lawful.not_isText {readers : Readers} (h : readers.Lawful) {content : List UInt8}
    {e : Text.Utf8Error} {format : Format} (hfinds : readers.FindsNoText content e format) :
    ¬ IsText content := by
  cases format with
  | project => exact h.toml hfinds
  | toml => exact h.toml hfinds
  | yaml => exact h.yaml hfinds
  | json => exact h.json hfinds

/-- The errors that content of a format makes escape. -/
inductive Escapes (readers : Readers) (content : List UInt8) : Format → Error → Prop
  | undecodable {e : Text.Utf8Error} (format : Format)
      (hfinds : readers.FindsNoText content e format) :
      Escapes readers content format (.undecodable e)
  | toolNotATable {data : Entries} {tool : Value} (hdata : readers.toml content = .found data)
      (htool : Entries.get? data "tool" = some tool) (hno : ∀ entries, tool ≠ .mapping entries) :
      Escapes readers content .project (.toolNotATable tool.qualifiedName)

/-- An error of the configuration at this path. -/
def IsReported (path : Path) (e : Error) : Prop :=
  ∃ fault, e = .configuration ⟨fault, path.text⟩

/-- The errors with which content of a format is refused. -/
def Refuses (readers : Readers) (path : Path) (format : Format) (content : List UInt8)
    (e : Error) : Prop :=
  IsReported path e ∨ Escapes readers content format e

section Decode

variable {readers : Readers} {path : Path} {content : List UInt8}

theorem fail_failsWith {α : Type} {P : Error → Prop} (path : Path) (fault : ConfigurationFault) :
    FailsWith (fun e => IsReported path e ∨ P e) (fail path fault : Except Error α) :=
  .error (.inl ⟨fault, rfl⟩)

theorem Reading.result_failsWith {α : Type} {P : Error → Prop} {reading : Reading α}
    (hundecodable : ∀ e, reading = .undecodable e → P (.undecodable e)) (path : Path)
    (fault : String → ConfigurationFault) :
    FailsWith (fun e => IsReported path e ∨ P e) (reading.result path fault) := by
  cases reading with
  | found content => exact .ok content
  | malformed message => exact fail_failsWith path (fault message)
  | undecodable e => exact .error (.inr (hundecodable e rfl))

theorem Reading.result_eq_ok_iff {α : Type} {reading : Reading α}
    {fault : String → ConfigurationFault} {content : α} :
    reading.result path fault = .ok content ↔ reading = .found content := by
  cases reading <;> simp [Reading.result, fail]

theorem decodeProject_failsWith (readers : Readers) (path : Path) (content : List UInt8) :
    FailsWith (Refuses readers path .project content) (decodeProject readers path content) := by
  have htoml := Reading.result_failsWith (P := Escapes readers content .project)
    (fun e h => .undecodable .project h) path .invalidProjectToml
  unfold decodeProject
  cases hdata : (readers.toml content).result path .invalidProjectToml with
  | error e => exact .error (htoml e hdata)
  | ok data =>
    rw [Reading.result_eq_ok_iff] at hdata
    change FailsWith _ (projectSectionOf path data)
    unfold projectSectionOf
    cases htool : Entries.get? data "tool" with
    | none => exact .ok []
    | some tool =>
      cases tool with
      | mapping entries =>
        dsimp only [Option.getD_some]
        split
        · exact .ok _
        · exact fail_failsWith path _
      | _ => exact .error (.inr (.toolNotATable hdata htool nofun))

theorem decodeYaml_failsWith (readers : Readers) (path : Path) (content : List UInt8) :
    FailsWith (Refuses readers path .yaml content) (decodeYaml readers path content) := by
  refine .bind (Reading.result_failsWith (fun e h => .undecodable .yaml h) path _) fun v => ?_
  split
  · exact .ok _
  · exact .ok _
  · exact fail_failsWith path _

theorem decodeJson_failsWith (readers : Readers) (path : Path) (content : List UInt8) :
    FailsWith (Refuses readers path .json content) (decodeJson readers path content) := by
  refine .bind (Reading.result_failsWith (fun e h => .undecodable .json h) path _) fun v => ?_
  split
  · exact .ok _
  · exact fail_failsWith path _

theorem decode_failsWith (readers : Readers) (path : Path) (format : Format)
    (content : List UInt8) :
    FailsWith (Refuses readers path format content) (decode readers path format content) := by
  cases format with
  | project => exact decodeProject_failsWith readers path content
  | toml => exact Reading.result_failsWith (fun e h => .undecodable .toml h) path .invalidToml
  | yaml => exact decodeYaml_failsWith readers path content
  | json => exact decodeJson_failsWith readers path content

/-- What escapes is not turned into an error of the configuration. -/
theorem decode_eq_error_of_escapes {format : Format} {e : Error}
    (h : Escapes readers content format e) : decode readers path format content = .error e := by
  cases h with
  | undecodable format hfinds =>
    cases format with
    | project =>
      have htoml : readers.toml content = .undecodable _ := hfinds
      rw [decode, decodeProject, htoml]
      rfl
    | toml =>
      have htoml : readers.toml content = .undecodable _ := hfinds
      rw [decode, decodeToml, htoml]
      rfl
    | yaml =>
      have hyaml : readers.yaml content = .undecodable _ := hfinds
      rw [decode, decodeYaml, hyaml]
      rfl
    | json =>
      have hjson : readers.json content = .undecodable _ := hfinds
      rw [decode, decodeJson, hjson]
      rfl
  | @toolNotATable data tool hdata htool hno =>
    have hsection : projectSectionOf path data = .error (.toolNotATable tool.qualifiedName) := by
      unfold projectSectionOf
      rw [htool]
      cases tool with
      | mapping entries => exact absurd rfl (hno entries)
      | _ => rfl
    rw [decode, decodeProject, hdata]
    exact hsection

end Decode

/-- The errors that reading a file makes escape. -/
def EscapesAt (s : Surroundings) (path : Path) (e : Error) : Prop :=
  ∃ content format, s.files.read s.cwd path = .ok content ∧ formatOf? path = some format ∧
    Escapes s.readers content format e

theorem load_failsWith (s : Surroundings) (path : Path) :
    FailsWith (fun e => IsReported path e ∨ EscapesAt s path e) (load s path) := by
  unfold load
  split
  case h_1 => exact fail_failsWith path _
  case h_2 content hread =>
    split
    case h_1 format hformat =>
      intro e he
      rcases decode_failsWith s.readers path format content e he with hreported | hescapes
      · exact .inl hreported
      · exact .inr ⟨content, format, hread, hformat, hescapes⟩
    case h_2 => exact fail_failsWith path _

theorem load_eq_error_of_escapesAt {s : Surroundings} {path : Path} {e : Error}
    (h : EscapesAt s path e) : load s path = .error e := by
  obtain ⟨content, format, hread, hformat, hescapes⟩ := h
  rw [load, hread]
  dsimp only
  rw [hformat]
  exact decode_eq_error_of_escapes hescapes

inductive Fault : Error → Prop
  | configuration (e : ConfigurationError) : Fault (.configuration e)
  | undecodable (e : Text.Utf8Error) : Fault (.undecodable e)
  | toolNotATable (found : String) : Fault (.toolNotATable found)

theorem Escapes.fault {readers : Readers} {content : List UInt8} {format : Format} {e : Error}
    (h : Escapes readers content format e) : Fault e := by
  cases h with
  | undecodable => exact .undecodable _
  | toolNotATable => exact .toolNotATable _

theorem fault_of_load {s : Surroundings} {path : Path} : FailsWith Fault (load s path) := by
  intro e he
  rcases load_failsWith s path e he with ⟨fault, rfl⟩ | ⟨content, format, -, -, hescapes⟩
  · exact .configuration _
  · exact hescapes.fault

end SlateMark.Config
