import SlateMark.Config.Load

/-!
Which configuration applies. A path given outright comes first, then the path in the environment,
then the nearest file found from the current directory upwards, and last a file in the home
directory. Within a directory the dedicated names have an order, and a project file counts only if
its section holds something.
-/
namespace SlateMark.Config

open Files (Path Tree)

def fileNames : List String :=
  [".slate2cm.toml", ".slate2cm.yaml", ".slate2cm.yml", ".slate2cm.json"]

/-- The first dedicated file of a directory. -/
def dedicatedIn? (s : Surroundings) (directory : Path) : Option Path :=
  (fileNames.map directory.entry).find? (s.files.isFile s.cwd)

/-- Whether the project file of a directory holds a configuration. One that is no configuration
belongs to something else and does not count. -/
def hasProjectSection (s : Surroundings) (path : Path) : Except Error Bool :=
  match s.files.read s.cwd path with
  | .error _ => .ok false
  | .ok content =>
    match decodeProject s.readers path content with
    | .ok entries => .ok (!entries.isEmpty)
    | .error (.configuration _) => .ok false
    | .error e => .error e

def findIn (s : Surroundings) (directory : Path) : Except Error (Option Path) :=
  match dedicatedIn? s directory with
  | some path => .ok (some path)
  | none =>
    let project := directory.entry projectFileName
    (hasProjectSection s project).map fun found => if found then some project else none

/-- The directories from a place up to the root. -/
def ancestors (place : List String) : List (List String) :=
  (List.range (place.length + 1)).map fun n => place.take (place.length - n)

/-- All paths that a search may look at. -/
def candidates (cwd : List String) (home : Path) : List Path :=
  (ancestors cwd).flatMap (fun place =>
    (fileNames ++ [projectFileName]).map (Path.absolute place).entry) ++
    fileNames.map home.entry

/-- The file in the first of the directories that has one. -/
def findFirst (s : Surroundings) : List (List String) → Except Error (Option Path)
  | [] => .ok none
  | directory :: rest =>
    match findIn s (Path.absolute directory) with
    | .error e => .error e
    | .ok (some path) => .ok (some path)
    | .ok none => findFirst s rest

/-- The nearest file from a directory upwards; without one given, from the current directory. -/
def findInParents (s : Surroundings) (start : Option Path) : Except Error (Option Path) :=
  let place := match start with
    | some path => path.resolvedParts s.cwd
    | none => s.cwd
  findFirst s (ancestors place)

/-- The home directory is searched only if nothing is nearer, and for dedicated files only. -/
def discover (s : Surroundings) (start : Option Path) : Except Error (Option Path) :=
  match findInParents s start with
  | .error e => .error e
  | .ok (some path) => .ok (some path)
  | .ok none => .ok (dedicatedIn? s s.home)

/-- An empty path is as good as none. -/
def givenPath? (s : Surroundings) (explicit : Option String) : Option String :=
  match explicit.filter (· ≠ "") with
  | some path => some path
  | none => s.environment.filter (· ≠ "")

/-- The configuration that applies, empty if there is none. A file that fails to load is an error
and not a reason to look further. -/
def resolve (s : Surroundings) (explicit : Option String) (discovering : Bool) :
    Except Error Entries :=
  match givenPath? s explicit with
  | some path => load s (Path.parse path)
  | none =>
    if discovering then
      match discover s none with
      | .error e => .error e
      | .ok (some path) => load s path
      | .ok none => .ok []
    else .ok []

end SlateMark.Config
