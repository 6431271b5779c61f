/-!
Paths of files. Repeated slashes and single dots have no meaning and are dropped when a path is
read; double dots stay, since what they lead to depends on the files.
-/
namespace SlateMark.Files

/-- `anchor` is empty for a path that starts at the current directory. -/
structure Path where
  anchor : String
  parts : List String
  deriving DecidableEq, Repr

namespace Path

/-- Exactly two slashes at the start are kept apart from any other number. -/
def anchorOf (s : List Char) : String :=
  match (s.takeWhile (· = '/')).length with
  | 0 => ""
  | 2 => "//"
  | _ => "/"

def parse (s : String) : Path :=
  let parts := (s.toList.splitOn '/').map String.ofList
  ⟨anchorOf s.toList, parts.filter fun part => part ≠ "" ∧ part ≠ "."⟩

def text (p : Path) : String :=
  if p.anchor = "" ∧ p.parts = [] then "." else p.anchor ++ "/".intercalate p.parts

/-- The path of parts that start at the root of all files. -/
def absolute (parts : List String) : Path := ⟨"/", parts⟩

def isAbsolute (p : Path) : Bool := p.anchor ≠ ""

/-- An entry of the directory at a path. -/
def entry (p : Path) (name : String) : Path := { p with parts := p.parts ++ [name] }

/-- The last part; a path without parts has no name. -/
def name (p : Path) : String := p.parts.getLast?.getD ""

/-- The last dot of the name and what follows it, if there is something on both sides of it. -/
def extension (p : Path) : String :=
  let chars := p.name.toList
  let ending := (chars.reverse.takeWhile (· ≠ '.')).reverse
  if ending ≠ [] ∧ ending.length + 1 < chars.length then String.ofList ('.' :: ending) else ""

/-- The parts of the path from the root, with double dots resolved by the text alone. -/
def resolvedParts (cwd : List String) (p : Path) : List String :=
  (p.parts.foldl
    (fun reversed part => if part = ".." then reversed.drop 1 else part :: reversed)
    (if p.isAbsolute then [] else cwd.reverse)).reverse

/-- The same path from the root, with double dots resolved by the text alone. -/
def resolved (cwd : List String) (p : Path) : Path :=
  ⟨if p.isAbsolute then p.anchor else "/", p.resolvedParts cwd⟩

/-- The places that a path leads through, provided all are directories but perhaps the last. -/
def waypoints (cwd : List String) (p : Path) : List (List String) :=
  let start := if p.isAbsolute then [] else cwd
  p.parts.foldl
    (fun places part =>
      let place := places.getLast?.getD []
      places ++ [if part = ".." then place.dropLast else place ++ [part]])
    [start]

end Path

end SlateMark.Files
