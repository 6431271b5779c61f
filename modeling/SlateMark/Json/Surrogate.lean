import SlateMark.Json.Reader

/-!
Unpaired surrogates. An escape may denote one, but no character does, so that when a text is read
another character stands in for it. What is made of the text holds the surrogate exactly if it
depends on which character that is.
-/
namespace SlateMark.Json

/-- The characters of an escape behind its backslash, those of one that denotes an unpaired
surrogate made `ufffc`. -/
def otherEscape (rest : List Char) : List Char :=
  match unescape [] rest with
  | .error _ => []
  | .ok (_, length) =>
    if length = 5 && ((codeUnit? (rest.drop 1)).map isSurrogate).getD false then
      ['u', 'f', 'f', 'f', 'c']
    else rest.take length

/-- `written` takes the place of the characters that come next. -/
def otherStandInFrom (written : List Char) : List Char → List Char
  | [] => []
  | c :: rest =>
    match written with
    | d :: written => d :: otherStandInFrom written rest
    | [] => c :: otherStandInFrom (if c = '\\' then otherEscape rest else []) rest

/-- The text with another character in the place of unpaired surrogates than the one that stands in
for them. -/
def otherStandIn (text : String) : String := String.ofList (otherStandInFrom [] text.toList)

/-- A text without escapes denotes no surrogates. -/
theorem otherStandInFrom_of_notMem {s : List Char} (h : '\\' ∉ s) : otherStandInFrom [] s = s := by
  induction s with
  | nil => rfl
  | cons c rest ih =>
    rw [List.mem_cons, not_or] at h
    rw [otherStandInFrom, if_neg (Ne.symm h.1), ih h.2]

/-- A pair stands for a character, and an escaped backslash begins no escape. -/
example : otherStandIn "\"\\ud800 \\ud83d\\ude00 \\\\ud800\"" =
    "\"\\ufffc \\ud83d\\ude00 \\\\ud800\"" := by decide

end SlateMark.Json
