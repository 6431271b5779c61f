import SlateMark.Command.Arguments
import SlateMark.Files.Tree
import SlateMark.Text.Utf8

/-!
The journal of a command: the lines that its events leave on the error output and, if asked for, at
the end of a log file. Events below a level leave no line.
-/
namespace SlateMark.Command

open Files (Path Tree)

/-- `stamp?` is the time that starts a line in a trace. -/
structure Journal where
  level : Level
  stamp? : Option String
  files : Tree
  logPlace? : Option (List String)
  text : String

namespace Journal

/-- A trace also tells the time and which part of the program reports. -/
def lineOf (stamp? : Option String) (event : Event) : String :=
  match stamp? with
  | none => event.line
  | some stamp => s!"[{stamp}] [{event.level.name}] [{event.source}] {event.message}"

def note (j : Journal) (event : Event) : Journal :=
  if event.level.severity < j.level.severity then j
  else
    let line := lineOf j.stamp? event ++ "\n"
    { j with
      text := j.text ++ line
      files := match j.logPlace? with
        | some place => j.files.append place (Text.encodeUtf8 line)
        | none => j.files }

def noteAll (j : Journal) (events : List Event) : Journal := events.foldl note j

/-- A log file that is not there is made, and one that cannot be opened is reported and done
without. -/
def openLog (j : Journal) (cwd : List String) (name : String) : Journal :=
  let path := (Path.parse name).resolved cwd
  match j.files.openForWriting cwd path with
  | .error problem => j.note (.logFileRefused name (problem.message path.text))
  | .ok (place, content) =>
    let files := Tree.put (.file content) place j.files
    { j with files := files, logPlace? := some place }.note (.logFileOpened name)

/-- The journal at the start of a command; an empty name is as good as none. -/
def start (a : Arguments) (stamp : String) (files : Tree) (cwd : List String) : Journal :=
  let j : Journal := ⟨a.logLevel, if a.trace then some stamp else none, files, none, ""⟩
  match a.logFile.filter (· ≠ "") with
  | some name => j.openLog cwd name
  | none => j

end Journal

end SlateMark.Command
