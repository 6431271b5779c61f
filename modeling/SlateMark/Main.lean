import SlateMark.Command.Run
import SlateMark.Config.Standard
import Std.Time

/-!
The program. The files that a command may look at are taken into a tree, the command is run on it,
and what it leaves behind is printed and written.
-/
namespace SlateMark.Command

open Files (Path Tree)

/-- All paths that a command may look at. -/
def pathsOf (a : Arguments) (cwd : List String) (home : Path) (environment : Option String) :
    List Path :=
  let named := [some a.input, a.config, environment, a.output.path].filterMap id
  Config.candidates cwd home ++ named.map Path.parse ++
    (a.logFile.map fun name => (Path.parse name).resolved cwd).toList

/-- What is at a place, without the entries of a directory. -/
def lookAt (place : List String) : IO (Option Tree) := do
  let path := (← IO.currentDir) / (Path.absolute place).text
  if ← path.isDir then return some (.directory [])
  else
    try return some (.file (← IO.FS.readBinFile path).toList)
    catch _ => return none

/-- A tree with what is at the places, each of which comes after the directory it is in. -/
def capture (places : List (List String)) : IO Tree :=
  places.foldlM
    (fun tree place => do
      if (tree.get? place).isSome then return tree
      match ← lookAt place with
      | some found => return Tree.put found place tree
      | none => return tree)
    (.directory [])

/-- Writes the file at a place if it is not as it was. -/
def store (old new : Tree) (place : List String) : IO Unit := do
  match new.get? place with
  | some (.file content) =>
    let unchanged := match old.get? place with
      | some (.file before) => before == content
      | _ => false
    unless unchanged do
      IO.FS.writeBinFile ((← IO.currentDir) / (Path.absolute place).text) ⟨content.toArray⟩
  | _ => pure ()

def timeStamp : IO String := do
  return (← Std.Time.PlainDateTime.now).format "uuuu-MM-dd HH:mm:ss"

def readStandardInput (a : Arguments) : IO (Except Text.Utf8Error String) := do
  if a.input = "-" then
    let content ← (← IO.getStdin).readBinToEnd
    return (Text.decodeUtf8 content.toList).map fun text => String.ofList (Text.unifyNewlines text)
  else return .ok ""

def execute (a : Arguments) : IO UInt32 := do
  let cwd := (Path.parse (← IO.currentDir).toString).parts
  let home := Path.parse ((← IO.getEnv "HOME").getD "/")
  let environment ← IO.getEnv "SLATE2CM_CONFIG"
  let places := (pathsOf a cwd home environment).flatMap (Path.waypoints cwd)
  let files ← capture (Config.ancestors cwd |>.reverse |>.append places)
  let world : World :=
    { files, cwd, home, environment, readers := .standard
      standardInput := ← readStandardInput a, stamp := ← timeStamp }
  let outcome := run world a
  for place in places do
    store files outcome.files place
  IO.print outcome.output
  IO.eprint outcome.errors
  match outcome.result with
  | .ok code => return UInt32.ofNat code.number
  | .error e =>
    IO.eprintln e.message
    return 1

end SlateMark.Command

open SlateMark.Command

def main (arguments : List String) : IO UInt32 := do
  match Arguments.parse arguments with
  | .ok a => execute a
  | .error ending =>
    IO.print ending.outputText
    if ending.errorText ≠ "" then IO.eprintln ending.errorText
    return UInt32.ofNat ending.exitNumber
