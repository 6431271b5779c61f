import SlateMark.Error.Configuration
import SlateMark.Error.Conversion
import SlateMark.Error.Parsing
import SlateMark.Error.Schema
import SlateMark.Options
import SlateMark.Slate.Writer

/-!
All errors of the program. Those that a user can mend form a family with a common root and decide
the exit code of a command; the rest are mistakes of a caller and leave a command unfinished.
-/
namespace SlateMark

/-- Parameters that are not valid: the merged options of a command. -/
inductive ValidationError where
  | invalidOptions (e : OptionError)

def ValidationError.message : ValidationError → String
  | .invalidOptions e => s!"Invalid conversion options: {e.message}"

inductive Error where
  | conversion (e : ConversionError)
  | validation (e : ValidationError)
  | schema (e : SchemaError)
  | parsing (e : ParsingError)
  | configuration (e : ConfigurationError)
  | file (message : String)
  | options (e : OptionError)
  | unknownMarks (names : List String)
  | unknownDirection (name : String)
  | encoding (e : Slate.EncodingError)
  | undecodable (e : Text.Utf8Error)
  | toolNotATable (found : String)
  | numeralTooLong (digits : Nat)
  | unencodable

namespace Error

/-- A numeral that is too long to be read is no fault of the tree it stands in. -/
def ofSchema (e : SchemaError) : Error :=
  match e.fault with
  | .numeralTooLong digits => .numeralTooLong digits
  | _ => .schema e

def message : Error → String
  | .conversion e => e.message
  | .validation e => e.message
  | .schema e => e.message
  | .parsing e => e.message
  | .configuration e => e.message
  | .file message => message
  | .options e => e.message
  | .unknownMarks names => "Unsupported mark type(s): " ++ ", ".intercalate names
  | .unknownDirection name => s!"Unknown conversion direction: {name}"
  | .encoding e => e.message
  | .undecodable e => e.message
  | .toolNotATable found => s!"'{found}' object has no attribute 'get'"
  | .numeralTooLong digits => numeralTooLongMessage digits
  | .unencodable => "surrogates not allowed"

/-- The input that the error is about, as it is shown. -/
def description? : Error → Option String
  | .conversion e => e.node.description?
  | .schema e => e.fragment.description?
  | _ => none

end Error

/-- The family of errors that a user can mend. -/
inductive ErrorKind where
  | general
  | conversion
  | unrecognizedNode
  | missingChildrenSlot
  | invalidParent
  | malformedNode
  | unsupportedStructure
  | validation
  | schemaValidation
  | parsing
  | configuration
  deriving DecidableEq, Repr

namespace ErrorKind

def parent? : ErrorKind → Option ErrorKind
  | .general => none
  | .conversion => some .general
  | .unrecognizedNode => some .conversion
  | .missingChildrenSlot => some .conversion
  | .invalidParent => some .conversion
  | .malformedNode => some .conversion
  | .unsupportedStructure => some .conversion
  | .validation => some .general
  | .schemaValidation => some .validation
  | .parsing => some .general
  | .configuration => some .general

/-- The number of kinds above a kind. -/
def depth : ErrorKind → Nat
  | .general => 0
  | .conversion | .validation | .parsing | .configuration => 1
  | _ => 2

def ancestryTo : Nat → ErrorKind → List ErrorKind
  | 0, kind => [kind]
  | height + 1, kind =>
    match kind.parent? with
    | none => [kind]
    | some parent => kind :: ancestryTo height parent

/-- The kind and all kinds above it, in ascending order. -/
def ancestry (kind : ErrorKind) : List ErrorKind := ancestryTo kind.depth kind

theorem ancestry_eq_cons {kind parent : ErrorKind} (h : kind.parent? = some parent) :
    kind.ancestry = kind :: parent.ancestry := by
  cases kind <;> cases h <;> rfl

end ErrorKind

def ConversionFault.kind : ConversionFault → ErrorKind
  | .unrecognized _ => .unrecognizedNode
  | .missingChildrenSlot _ => .missingChildrenSlot
  | .invalidParent => .invalidParent
  | .malformed _ => .malformedNode
  | .unsupported _ => .unsupportedStructure

def Error.kind? : Error → Option ErrorKind
  | .conversion e => some e.fault.kind
  | .validation _ => some .validation
  | .schema _ => some .schemaValidation
  | .parsing _ => some .parsing
  | .configuration _ => some .configuration
  | _ => none

inductive ExitCode where
  | success
  | failure
  | configuration
  | validation
  | file
  | conversion
  | parsing
  | mismatch
  deriving DecidableEq, Repr

def ExitCode.number : ExitCode → Nat
  | .success => 0
  | .failure => 1
  | .configuration => 2
  | .validation => 3
  | .file => 4
  | .conversion => 5
  | .parsing => 6
  | .mismatch => 7

/-- The codes of errors, by the first of these kinds that an error is of. -/
def ErrorKind.exitCode (kind : ErrorKind) : ExitCode :=
  if kind.ancestry.contains .configuration then .configuration
  else if kind.ancestry.contains .validation then .validation
  else if kind.ancestry.contains .parsing then .parsing
  else if kind.ancestry.contains .conversion then .conversion
  else .failure

def Error.exitCode : Error → ExitCode
  | .file _ => .file
  | e =>
    match e.kind? with
    | some kind => kind.exitCode
    | none => .failure

end SlateMark
