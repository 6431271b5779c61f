/-!
Why a configuration file cannot be used. Each error keeps the path it was asked for, as it is shown,
and if a reader has refused the file, what the reader says.
-/
namespace SlateMark

/-- The section of a project file that holds the configuration. -/
def projectSection : String := "slate2cm"

inductive ConfigurationFault where
  | missingFile
  | invalidToml (message : String)
  | invalidProjectToml (message : String)
  | invalidYaml (message : String)
  | invalidJson (message : String)
  | jsonNotAnObject (found : String)
  | yamlNotAMapping (found : String)
  | sectionNotATable (found : String)
  | unsupportedFormat (extension : String)

structure ConfigurationError where
  fault : ConfigurationFault
  path : String

def ConfigurationError.message (e : ConfigurationError) : String :=
  let path := e.path
  match e.fault with
  | .missingFile => s!"Configuration file does not exist: {path}"
  | .invalidToml message => s!"Invalid TOML in config file {path}: {message}"
  | .invalidProjectToml message => s!"Invalid TOML in pyproject.toml {path}: {message}"
  | .invalidYaml message => s!"Invalid YAML in config file {path}: {message}"
  | .invalidJson message => s!"Invalid JSON in config file {path}: {message}"
  | .jsonNotAnObject found => s!"JSON config file must contain an object, got {found}"
  | .yamlNotAMapping found => s!"YAML config file must contain a mapping, got {found}"
  | .sectionNotATable found =>
    s!"[tool.{projectSection}] section in {path} must be a table, got {found}"
  | .unsupportedFormat extension =>
    s!"Unsupported config file format: {extension}. Use .json, .toml, or .yaml"

end SlateMark
