import SlateMark.Config.Readers
import SlateMark.Error
import SlateMark.Files.Tree
import SlateMark.Text.Case

/-!
Configuration files. The format follows from the name; the file of a project holds the configuration
in a section of its own. Whatever the format, a configuration is a mapping from keys to values.
-/
namespace SlateMark.Config

open Files (Path Tree)

/-- What a configuration depends on: the files, the current directory, the home directory, the path
that the environment gives, and the readers of the formats. -/
structure Surroundings where
  files : Tree
  cwd : List String
  home : Path
  environment : Option String
  readers : Readers

def fail (path : Path) (fault : ConfigurationFault) : Except Error α :=
  .error (.configuration ⟨fault, path.text⟩)

def projectFileName : String := "pyproject.toml"

/-- What a reader has found in a file. A reader's own error is one of the configuration. -/
def Reading.result {α : Type} (path : Path) (fault : String → ConfigurationFault) :
    Reading α → Except Error α
  | .found content => .ok content
  | .malformed message => fail path (fault message)
  | .undecodable e => .error (.undecodable e)

/-- The section of a project file, empty if it has none. -/
def projectSectionOf (path : Path) (data : Entries) : Except Error Entries :=
  match (Entries.get? data "tool").getD (.mapping []) with
  | .mapping tool =>
    match (Entries.get? tool projectSection).getD (.mapping []) with
    | .mapping entries => .ok entries
    | other => fail path (.sectionNotATable other.typeName)
  | other => .error (.toolNotATable other.qualifiedName)

def decodeProject (readers : Readers) (path : Path) (content : List UInt8) :
    Except Error Entries := do
  projectSectionOf path (← (readers.toml content).result path .invalidProjectToml)

def decodeToml (readers : Readers) (path : Path) (content : List UInt8) : Except Error Entries :=
  (readers.toml content).result path .invalidToml

/-- A document without content is an empty mapping. -/
def decodeYaml (readers : Readers) (path : Path) (content : List UInt8) : Except Error Entries := do
  match ← (readers.yaml content).result path .invalidYaml with
  | .null => return []
  | .mapping entries => return entries
  | other => fail path (.yamlNotAMapping other.typeName)

def decodeJson (readers : Readers) (path : Path) (content : List UInt8) : Except Error Entries := do
  match ← (readers.json content).result path .invalidJson with
  | .mapping entries => return entries
  | other => fail path (.jsonNotAnObject other.typeName)

inductive Format where
  | project
  | toml
  | yaml
  | json
  deriving DecidableEq, Repr

/-- The format that a name tells; capitals do not matter. -/
def formatOf? (path : Path) : Option Format :=
  let extension := Text.lower path.extension
  if Text.lower path.name = projectFileName then some .project
  else if extension = ".toml" then some .toml
  else if extension = ".yaml" || extension = ".yml" then some .yaml
  else if extension = ".json" then some .json
  else none

def decode (readers : Readers) (path : Path) (format : Format) (content : List UInt8) :
    Except Error Entries :=
  match format with
  | .project => decodeProject readers path content
  | .toml => decodeToml readers path content
  | .yaml => decodeYaml readers path content
  | .json => decodeJson readers path content

/-- The configuration in a file. -/
def load (s : Surroundings) (path : Path) : Except Error Entries :=
  match s.files.read s.cwd path with
  | .error _ => fail path .missingFile
  | .ok content =>
    match formatOf? path with
    | some format => decode s.readers path format content
    | none => fail path (.unsupportedFormat (Text.lower path.extension))

end SlateMark.Config
