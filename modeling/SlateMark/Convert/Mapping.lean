import SlateMark.CommonMark.Basic
import SlateMark.Json.Basic

/-!
The table that relates element types of the editor to CommonMark tags. A row tells which attributes
the target has, whether it has a place for children, and what else happens on the way: headings read
their text from a child, list items wrap their children in a paragraph, links copy a reference. The
reverse direction reads the same rows backwards.
-/
namespace SlateMark

open CommonMark (Tag)

structure Mapping where
  sourceType : String
  target : Tag
  attributes : Fields := []
  hasChildrenSlot : Bool := false
  seedsParagraph : Bool := false
  headingLevel : Option Int := none
  copiesHref : Bool := false

namespace Mapping

def isHeading (m : Mapping) : Bool := m.headingLevel.isSome

def attributeOr (m : Mapping) (name : String) (default : Json) : Json :=
  (Fields.get? m.attributes name).getD default

def heading (level : Int) (word : String) : Mapping :=
  { sourceType := "heading_" ++ word, target := .heading, headingLevel := some level }

def headings : List Mapping :=
  [heading 1 "one", heading 2 "two", heading 3 "three", heading 4 "four", heading 5 "five",
    heading 6 "six"]

def listAttributes (style : String) : Fields := [("type", .str style), ("tight", .bool true)]

def table : List Mapping :=
  [{ sourceType := "paragraph", target := .paragraph, hasChildrenSlot := true },
    { sourceType := "quote", target := .blockQuote },
    { sourceType := "horizontal_rule", target := .thematicBreak }] ++
  headings ++
  [{ sourceType := "block_quote", target := .blockQuote, hasChildrenSlot := true },
    { sourceType := "code_block", target := .codeBlock },
    { sourceType := "html_block", target := .htmlBlock },
    { sourceType := "html_inline", target := .htmlInline },
    { sourceType := "ol_list", target := .list, attributes := listAttributes "ordered",
      hasChildrenSlot := true },
    { sourceType := "ul_list", target := .list, attributes := listAttributes "bullet",
      hasChildrenSlot := true },
    { sourceType := "list_item", target := .item, hasChildrenSlot := true,
      seedsParagraph := true },
    { sourceType := "link", target := .link, attributes := [("title", .str "")],
      hasChildrenSlot := true, copiesHref := true }]

def ofType? (type : String) : Option Mapping := table.find? fun m => m.sourceType = type

/-- Heading levels with their element types. -/
def headingTypes : List (Int × String) :=
  table.filterMap fun m => m.headingLevel.map fun level => (level, m.sourceType)

/-- List styles with their element types. -/
def listTypes : List (String × String) :=
  table.filterMap fun m =>
    match m.target, Fields.get? m.attributes "type" with
    | .list, some (.str style) => some (style, m.sourceType)
    | _, _ => none

/-- Tags with a place for children or without, and their element types, for all other rows. -/
def otherTypes : List ((Tag × Bool) × String) :=
  table.filterMap fun m =>
    if m.isHeading || m.target = .list then none
    else some ((m.target, m.hasChildrenSlot), m.sourceType)

def headingType? (level : Int) : Option String := headingTypes.lookup level

def listType? (style : String) : Option String := listTypes.lookup style

def sourceType? (tag : Tag) (hasChildrenSlot : Bool) : Option String :=
  otherTypes.lookup (tag, hasChildrenSlot)

end Mapping

end SlateMark
