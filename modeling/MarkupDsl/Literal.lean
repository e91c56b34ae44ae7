import MarkupDsl.Text.Split

/-!
# Literals of the emitted code

A text becomes a string literal, the value of a keyword attribute becomes a polymorphic variant.

A text without a double quote stands between double quotes as it is.  A text with one is written
`{id|text|id}`, where `id` is empty or a run of the letter `q`: the shortest one whose closing
sequence `|id}` does not stand in the text.
-/

namespace MarkupDsl.Literal

open Text

/-! ## String literals -/

def delimiterId (k : Nat) : List Char := List.replicate k 'q'

def closing (k : Nat) : List Char := '|' :: (delimiterId k ++ ['}'])

/--
The length of the shortest delimiter id that is free in `raw`.  A closing sequence is longer than
its id, so an id as long as the text is free and bounds the search.
-/
def delimiterLength (raw : List Char) : Nat :=
  ((List.range (raw.length + 1)).find? fun k => !occurs (closing k) raw).getD raw.length

def delimited (raw : List Char) : List Char :=
  let k := delimiterLength raw
  '{' :: (delimiterId k ++ '|' :: (raw ++ closing k))

def stringChars (raw : List Char) : List Char :=
  if '"' ∈ raw then delimited raw else '"' :: (raw ++ ['"'])

/-- The string literal for a text. -/
def encodeString (raw : String) : String := String.ofList (stringChars raw.toList)

/-! ## Variants -/

/-- The tag of the variant for a keyword: some keywords have a spelling of their own, and the others
trade hyphens for underscores. -/
def variantTag (raw : String) : String :=
  if raw = "get" then "GET"
  else if raw = "post" then "POST"
  else if raw = "true" then "true_"
  else if raw = "false" then "false_"
  else String.ofList (raw.toList.map fun c => if c = '-' then '_' else c)

def variantSigil : Char := '`'

def encodeVariant (raw : String) : String := String.singleton variantSigil ++ variantTag raw

end MarkupDsl.Literal
