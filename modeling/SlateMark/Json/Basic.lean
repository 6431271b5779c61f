import SlateMark.Decimal.Layout

/-!
JSON values. The members of an object keep their order, so an object is a list of names with values.
Two values count as the same when they differ only in the order of members or in the kind of number;
a float that is no number is the same as another.
-/
namespace SlateMark

inductive Json where
  | null
  | bool (value : Bool)
  | int (value : Int)
  | float (value : Float)
  | str (value : String)
  | arr (items : List Json)
  | obj (fields : List (String × Json))
  deriving Inhabited

/-- Names with what stands under them, in order. -/
abbrev Named (α : Type) := List (String × α)

abbrev Fields := Named Json

section Named

variable {α : Type}

def Fields.get? (fields : Named α) (name : String) : Option α :=
  (fields.find? fun field => field.1 = name).map Prod.snd

def Fields.has (fields : Named α) (name : String) : Bool := fields.any fun field => field.1 = name

def Fields.names (fields : Named α) : List String := fields.map Prod.fst

/-- A name that is there keeps its place; a new one goes last. -/
def Fields.set (name : String) (value : α) : Named α → Named α
  | [] => [(name, value)]
  | (key, old) :: rest =>
    if key = name then (key, value) :: rest else (key, old) :: Fields.set name value rest

/-- Later values replace earlier ones of the same name. -/
def Fields.ofList (members : Named α) : Named α :=
  members.foldl (fun fields member => Fields.set member.1 member.2 fields) []

end Named

namespace Json

def isNull : Json → Bool
  | .null => true
  | _ => false

/-- Null, false, zero and everything empty are no content. -/
def hasContent : Json → Bool
  | .null => false
  | .bool b => b
  | .int n => n ≠ 0
  | .float x => x != 0
  | .str s => s ≠ ""
  | .arr items => !items.isEmpty
  | .obj fields => !fields.isEmpty

/-- Truth values count as zero and one. -/
def wholeNumber? : Json → Option Int
  | .bool b => some (if b then 1 else 0)
  | .int n => some n
  | _ => none

/-- Exact comparison of a whole number with a floating point number. -/
def wholeEqualsFloat (n : Int) (x : Float) : Bool :=
  match Decimal.FloatValue.ofFloat x with
  | .finite value =>
    let signed : Int := if value.negative then -value.significand else value.significand
    n * Int.pow 2 (-value.exponent).toNat = signed * Int.pow 2 value.exponent.toNat
  | _ => false

def sameScalar : Json → Json → Bool
  | .null, .null => true
  | .str s, .str t => s = t
  | .float x, .float y => x == y || (x.isNaN && y.isNaN)
  | .float x, w => w.wholeNumber?.any fun n => wholeEqualsFloat n x
  | v, .float y => v.wholeNumber?.any fun n => wholeEqualsFloat n y
  | v, w =>
    match v.wholeNumber?, w.wholeNumber? with
    | some m, some n => m = n
    | _, _ => false

mutual
def sameValue : Json → Json → Bool
  | .arr items, .arr others => sameItems items others
  | .obj fields, .obj others => fields.length = others.length && sameFields fields others
  | .arr _, _ => false
  | .obj _, _ => false
  | v, w => v.sameScalar w

def sameItems : List Json → List Json → Bool
  | [], [] => true
  | v :: rest, w :: others => v.sameValue w && sameItems rest others
  | _, _ => false

/-- Every member of the first object is in the second with the same value. -/
def sameFields : List (String × Json) → Fields → Bool
  | [], _ => true
  | (name, v) :: rest, others =>
    (match Fields.get? others name with
      | some w => v.sameValue w
      | none => false) && sameFields rest others
end

def sortFields (fields : Fields) : Fields := fields.mergeSort fun a b => a.1 ≤ b.1

mutual
/-- Members in ascending order of their names, at every depth. -/
def sortNames : Json → Json
  | .arr items => .arr (sortAll items)
  | .obj fields => .obj (sortFields (sortEach fields))
  | v => v

def sortAll : List Json → List Json
  | [] => []
  | v :: rest => v.sortNames :: sortAll rest

def sortEach : List (String × Json) → List (String × Json)
  | [] => []
  | (name, v) :: rest => (name, v.sortNames) :: sortEach rest
end

end Json

end SlateMark
