/-!
# Plain data

The values that a data document can hold.  Tables are validated on such values and written as them.
-/

namespace MarkupDsl

/-- A value of a data document. -/
inductive Data where
  | null
  | bool (value : Bool)
  | int (value : Int)
  | float (value : Float)
  | text (value : String)
  /-- A text that is no sequence of characters, because some of its codes stand for none. -/
  | illFormedText
  /-- Bytes; where a text is asked for they count as the text that they encode. -/
  | bytes (value : List UInt8)
  | list (items : List Data)
  /-- Entries in their order; no two keys are the same. -/
  | mapping (entries : List (Data × Data))
  /-- A moment, told by the millionths of a second since the year one, and its written form. -/
  | moment (instant : Int) (written : String)
  | other (written : String)
  deriving Inhabited

namespace Data

/-- Whether a value counts as nothing: null, false, zero, and what is empty. -/
def isNothing : Data → Bool
  | null => true
  | bool value => !value
  | int value => value == 0
  | float value => value == 0
  | text value => value.isEmpty
  | bytes value => value.isEmpty
  | list items => items.isEmpty
  | mapping entries => entries.isEmpty
  | illFormedText | moment .. | other _ => false

def textOfBytes? (bytes : List UInt8) : Option String := String.fromUTF8? ⟨bytes.toArray⟩

def lookup? (key : String) : List (Data × Data) → Option Data
  | [] => none
  | (text name, value) :: rest => if name = key then some value else lookup? key rest
  | _ :: rest => lookup? key rest

end Data

/-- Entries with one more; an entry with the same key gives way but keeps its place. -/
def putEntry {α β : Type} (same : α → α → Bool) (key : α) (value : β) :
    List (α × β) → List (α × β)
  | [] => [(key, value)]
  | (other, old) :: rest =>
    if same other key then (other, value) :: rest
    else (other, old) :: putEntry same key value rest

/-- Entries of which no two have the same key; each of them has the last value of its key. -/
def uniqueEntries {α β : Type} (same : α → α → Bool) (entries : List (α × β)) : List (α × β) :=
  entries.foldl (fun unique entry => putEntry same entry.1 entry.2 unique) []

end MarkupDsl
