import MarkupDsl.Literal
import MarkupDsl.Proofs.Text.Cut

/-!
# String literals are self-delimiting

A reader of string literals that knows nothing of how they are written.  What begins with a double
quote goes up to the next double quote; what begins with a brace names an id and goes up to the
first closing sequence with that id.  Whatever follows a written literal, the reader stops at its
end and gives back the text it was written for.
-/

namespace MarkupDsl.Literal

open Text

/-! ## The reader -/

/-- Whether a character may stand in the id of a quoted string. -/
def isIdLetter (c : Char) : Bool := c.isLower || c == '_'

def closingOf (id : List Char) : List Char := '|' :: (id ++ ['}'])

/-- Read what follows the opening brace of a quoted string: its content and what comes after it. -/
def readQuoted? (cs : List Char) : Option (List Char × List Char) :=
  match cs.dropWhile isIdLetter with
  | '|' :: inner => cutAt? (closingOf (cs.takeWhile isIdLetter)) inner
  | _ => none

/-- Read the string literal at the beginning of a text: its content and what comes after it. -/
def read? : List Char → Option (List Char × List Char)
  | '"' :: cs => cutAt? ['"'] cs
  | '{' :: cs => readQuoted? cs
  | _ => none

/-! ## Delimiters -/

theorem isIdLetter_of_mem_delimiterId {k : Nat} {c : Char} (member : c ∈ delimiterId k) :
    isIdLetter c = true := by
  rw [List.eq_of_mem_replicate member]
  rfl

theorem length_closing (k : Nat) : (closing k).length = k + 2 := by
  simp [closing, delimiterId]

/-- The bar that begins a closing sequence does not come again in it. -/
theorem bar_not_mem_closing_tail (k : Nat) : '|' ∉ delimiterId k ++ ['}'] := by
  intro member
  rcases List.mem_append.1 member with letter | brace
  · cases List.eq_of_mem_replicate letter
  · cases List.mem_singleton.1 brace

/-- A closing sequence with an id as long as the text does not fit into the text. -/
theorem occurs_closing_length (raw : List Char) : occurs (closing raw.length) raw = false := by
  rw [occurs_eq_false_iff]
  intro stands
  have fits := stands.length_le
  rw [length_closing] at fits
  exact absurd fits (by omega)

/-- The search for a delimiter id ends with one whose closing sequence is not in the text. -/
theorem occurs_closing_delimiterLength (raw : List Char) :
    occurs (closing (delimiterLength raw)) raw = false := by
  unfold delimiterLength
  cases found : (List.range (raw.length + 1)).find? fun k => !occurs (closing k) raw with
  | none => exact occurs_closing_length raw
  | some k =>
      have free := List.find?_some found
      rw [Bool.not_eq_true'] at free
      exact free

/--
The chosen closing sequence comes nowhere before the end of the text, neither inside it nor across
its border.
-/
theorem length_le_of_closing {raw rest before after : List Char}
    (same : raw ++ (closing (delimiterLength raw) ++ rest) =
      before ++ (closing (delimiterLength raw) ++ after)) : raw.length ≤ before.length :=
  length_le_of_append_eq (bar_not_mem_closing_tail _) (occurs_closing_delimiterLength raw) same

/-! ## Reading what was written -/

theorem readQuoted?_delimiterId (k : Nat) (inner : List Char) :
    readQuoted? (delimiterId k ++ '|' :: inner) = cutAt? (closing k) inner := by
  have letters : ∀ c ∈ delimiterId k, isIdLetter c = true :=
    fun c member => isIdLetter_of_mem_delimiterId member
  have bar : isIdLetter '|' = false := rfl
  unfold readQuoted?
  rw [List.dropWhile_append_of_pos letters, List.takeWhile_append_of_pos letters,
    List.dropWhile_cons, List.takeWhile_cons, bar]
  simp [closing, closingOf]

/-- A text between the chosen delimiters is read back, whatever follows. -/
theorem read?_delimited (raw rest : List Char) :
    read? (delimited raw ++ rest) = some (raw, rest) := by
  have opened : read? (delimited raw ++ rest) =
      readQuoted? (delimiterId (delimiterLength raw) ++
        '|' :: (raw ++ (closing (delimiterLength raw) ++ rest))) := by
    simp [delimited, read?]
  rw [opened, readQuoted?_delimiterId]
  exact cutAt?_append (bar_not_mem_closing_tail _) (occurs_closing_delimiterLength raw) rest

/-- The literal for a text is read back, whatever follows. -/
@[simp] theorem read?_stringChars (raw rest : List Char) :
    read? (stringChars raw ++ rest) = some (raw, rest) := by
  unfold stringChars
  split
  · exact read?_delimited raw rest
  · next free =>
    have opened : read? ('"' :: (raw ++ ['"']) ++ rest) = cutAt? ['"'] (raw ++ '"' :: rest) := by
      simp [read?]
    rw [opened]
    exact cutAt?_append_of_not_mem free rest

@[simp] theorem toList_encodeString (raw : String) :
    (encodeString raw).toList = stringChars raw.toList :=
  String.toList_ofList

/--
String literals are a self-delimiting code: a reader takes from an encoded text with anything after
it exactly the text and leaves exactly what came after.  The closing sequence never matches earlier.
-/
theorem read?_encodeString_append (raw rest : String) :
    read? (encodeString raw ++ rest).toList = some (raw.toList, rest.toList) ∧
      ¬ ∃ before after : List Char,
        before.length < raw.toList.length ∧
          raw.toList ++ (closing (delimiterLength raw.toList) ++ rest.toList) =
            before ++ (closing (delimiterLength raw.toList) ++ after) := by
  constructor
  · rw [String.toList_append, toList_encodeString]
    exact read?_stringChars raw.toList rest.toList
  · rintro ⟨before, after, earlier, same⟩
    exact Nat.not_lt.2 (length_le_of_closing same) earlier

end MarkupDsl.Literal
