import SlateMark.Text.Utf8
import SlateMark.Value

/-!
Readers of the languages that configurations are written in. What they accept is left open: a reader
finds out what the bytes of a file say, or an error of its own, or that they are no text.
-/
namespace SlateMark.Config

inductive Reading (α : Type) where
  | found (content : α)
  | malformed (message : String)
  | undecodable (e : Text.Utf8Error)

/-- A TOML document is always a mapping. -/
structure Readers where
  toml : List UInt8 → Reading Entries
  yaml : List UInt8 → Reading Value
  json : List UInt8 → Reading Value

def IsText (content : List UInt8) : Prop := ∃ text, Text.decodeUtf8 content = .ok text

/-- A reader that finds no text has not been given any. -/
structure Readers.Lawful (readers : Readers) : Prop where
  toml : ∀ {content e}, readers.toml content = .undecodable e → ¬ IsText content
  yaml : ∀ {content e}, readers.yaml content = .undecodable e → ¬ IsText content
  json : ∀ {content e}, readers.json content = .undecodable e → ¬ IsText content

end SlateMark.Config
