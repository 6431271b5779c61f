import SlateMark.Files.Path
import SlateMark.Text.Quoted

/-!
A tree of files as one value. A path is followed part by part from the root or from the current
directory, and every part is looked up in a directory; there are no links. Reading leaves the tree
alone, writing yields another tree.
-/
namespace SlateMark.Files

inductive Tree where
  | file (content : List UInt8)
  | directory (entries : List (String × Tree))
  deriving Inhabited

/-- Why a file cannot be opened. -/
inductive Problem where
  | notFound
  | notADirectory
  | isADirectory
  deriving DecidableEq, Repr

def Problem.number : Problem → Nat
  | .notFound => 2
  | .notADirectory => 20
  | .isADirectory => 21

def Problem.text : Problem → String
  | .notFound => "No such file or directory"
  | .notADirectory => "Not a directory"
  | .isADirectory => "Is a directory"

def Problem.message (problem : Problem) (path : String) : String :=
  s!"[Errno {problem.number}] {problem.text}: {Text.quoted path}"

namespace Tree

def child? (name : String) : List (String × Tree) → Option Tree
  | [] => none
  | (other, tree) :: rest => if other = name then some tree else child? name rest

/-- What is at a place, given by the names from the root. -/
def get? (tree : Tree) : List String → Option Tree
  | [] => some tree
  | name :: rest =>
    match tree with
    | .file _ => none
    | .directory entries =>
      match child? name entries with
      | some inner => inner.get? rest
      | none => none

def setEntry (name : String) (tree : Tree) : List (String × Tree) → List (String × Tree)
  | [] => [(name, tree)]
  | (other, old) :: rest =>
    if other = name then (name, tree) :: rest else (other, old) :: setEntry name tree rest

/-- Puts a tree at a place, with directories for the names above it that are not there. -/
def put (new : Tree) : List String → Tree → Tree
  | [], _ => new
  | name :: rest, .directory entries =>
    let inner := (child? name entries).getD (.directory [])
    .directory (setEntry name (put new rest inner) entries)
  | _ :: _, .file content => .file content

/-- Follows parts from a place. Every part but the last has to lead to a directory. -/
def follow (tree : Tree) (place : List String) : List String → Except Problem (List String)
  | [] => .ok place
  | part :: rest =>
    match tree.get? place with
    | none => .error .notFound
    | some (.file _) => .error .notADirectory
    | some (.directory _) =>
      follow tree (if part = ".." then place.dropLast else place ++ [part]) rest

/-- The place a path leads to, whether there is something or not. -/
def locate (tree : Tree) (cwd : List String) (p : Path) : Except Problem (List String) :=
  tree.follow (if p.isAbsolute then [] else cwd) p.parts

def isFile (tree : Tree) (cwd : List String) (p : Path) : Bool :=
  match tree.locate cwd p with
  | .error _ => false
  | .ok place =>
    match tree.get? place with
    | some (.file _) => true
    | _ => false

def read (tree : Tree) (cwd : List String) (p : Path) : Except Problem (List UInt8) :=
  match tree.locate cwd p with
  | .error problem => .error problem
  | .ok place =>
    match tree.get? place with
    | some (.file content) => .ok content
    | some (.directory _) => .error .isADirectory
    | none => .error .notFound

/-- The place and the present content of a file to be written, which may have to be made. -/
def openForWriting (tree : Tree) (cwd : List String) (p : Path) :
    Except Problem (List String × List UInt8) :=
  match tree.locate cwd p with
  | .error problem => .error problem
  | .ok place =>
    match tree.get? place with
    | some (.file content) => .ok (place, content)
    | some (.directory _) => .error .isADirectory
    | none => .ok (place, [])

def write (tree : Tree) (cwd : List String) (p : Path) (content : List UInt8) :
    Except Problem Tree :=
  match tree.openForWriting cwd p with
  | .error problem => .error problem
  | .ok (place, _) => .ok (put (.file content) place tree)

/-- Adds to the end of the file at a place; without a file there it does nothing. -/
def append (tree : Tree) (place : List String) (content : List UInt8) : Tree :=
  match tree.get? place with
  | some (.file old) => put (.file (old ++ content)) place tree
  | _ => tree

end Tree

end SlateMark.Files
