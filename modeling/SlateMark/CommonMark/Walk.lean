import SlateMark.CommonMark.Basic

/-!
Depth-first walks. A walk meets every node once, a container before and after its children; a census
counts the tags met and lists them in the order in which they were first seen.
-/
namespace SlateMark.CommonMark

/-- What a walk meets: the two ends of a container, and the nodes that hold text. -/
inductive WalkStep where
  | enter (tag : Tag)
  | leave (tag : Tag)
  | text (tag : Tag) (text : String)
  deriving DecidableEq, Repr

namespace Node

mutual
def walk : Node → List WalkStep
  | .document nodes _ => .enter .document :: walkAll nodes ++ [.leave .document]
  | .paragraph nodes => .enter .paragraph :: walkAll nodes ++ [.leave .paragraph]
  | .blockQuote none => [.enter .blockQuote, .leave .blockQuote]
  | .blockQuote (some nodes) => .enter .blockQuote :: walkAll nodes ++ [.leave .blockQuote]
  | .heading _ s => [.text .heading s]
  | .list _ _ nodes => .enter .list :: walkAll nodes ++ [.leave .list]
  | .item nodes => .enter .item :: walkAll nodes ++ [.leave .item]
  | .link _ _ nodes => .enter .link :: walkAll nodes ++ [.leave .link]
  | .text s => [.text .text s]
  | .code s => [.text .code s]
  | .strong nodes => .enter .strong :: walkAll nodes ++ [.leave .strong]
  | .emph nodes => .enter .emph :: walkAll nodes ++ [.leave .emph]
  | _ => []

def walkAll : List Node → List WalkStep
  | [] => []
  | n :: rest => n.walk ++ walkAll rest
end

end Node

/-- Tags with how often they were met, in the order of their first occurrence. -/
abbrev Census := List (Tag × Nat)

def Census.add (tag : Tag) : Census → Census
  | [] => [(tag, 1)]
  | (other, count) :: rest =>
    if other = tag then (other, count + 1) :: rest else (other, count) :: Census.add tag rest

def Census.count (census : Census) (tag : Tag) : Nat :=
  ((census.find? fun entry => entry.1 = tag).map Prod.snd).getD 0

namespace Node

mutual
/-- A node is counted before its children. -/
def censusFrom (census : Census) : Node → Census
  | .document nodes _ => censusAllFrom (census.add .document) nodes
  | .paragraph nodes => censusAllFrom (census.add .paragraph) nodes
  | .blockQuote none => census.add .blockQuote
  | .blockQuote (some nodes) => censusAllFrom (census.add .blockQuote) nodes
  | .thematicBreak => census.add .thematicBreak
  | .heading _ _ => census.add .heading
  | .codeBlock _ => census.add .codeBlock
  | .htmlBlock _ => census.add .htmlBlock
  | .htmlInline _ => census.add .htmlInline
  | .list _ _ nodes => censusAllFrom (census.add .list) nodes
  | .item nodes => censusAllFrom (census.add .item) nodes
  | .link _ _ nodes => censusAllFrom (census.add .link) nodes
  | .text _ => census.add .text
  | .code _ => census.add .code
  | .strong nodes => censusAllFrom (census.add .strong) nodes
  | .emph nodes => censusAllFrom (census.add .emph) nodes

/-- One census continued through several trees in turn. -/
def censusAllFrom (census : Census) : List Node → Census
  | [] => census
  | n :: rest => censusAllFrom (n.censusFrom census) rest
end

def census (n : Node) : Census := n.censusFrom []

end Node

end SlateMark.CommonMark
