import MarkupDsl.Data
import MarkupDsl.Yaml.Node
import MarkupDsl.Yaml.Number
import MarkupDsl.Yaml.Timestamp

/-!
# Documents

A document is read as plain data: its nodes are given the values of their tags, mappings are merged
where they ask for it, and of two entries with the same key the later one counts.

Values are made level by level, so of several faults the one nearest to the root is reported.
-/

namespace MarkupDsl.Yaml

/-! ## Keys -/

/-- Whether two values are the same key: numbers and truth values compare as numbers. -/
def sameKey : Data → Data → Bool
  | .null, .null => true
  | .text a, .text b => a == b
  | .bytes a, .bytes b => a == b
  | .moment a _, .moment b _ => a == b
  | .other a, .other b => a == b
  | .float a, .float b => a == b
  | a, b =>
    match number? a, number? b with
    | .some (.inl m), .some (.inl n) => m == n
    | .some (.inl m), .some (.inr y) => Float.ofInt m == y
    | .some (.inr x), .some (.inl n) => x == Float.ofInt n
    | _, _ => false
where
  number? : Data → Option (Int ⊕ Float)
    | .bool value => some (.inl (if value then 1 else 0))
    | .int value => some (.inl value)
    | .float value => some (.inr value)
    | _ => none

/-- Whether a value can be a key: collections cannot. -/
def isKey : Data → Bool
  | .list _ | .mapping _ => false
  | _ => true

structure NamedKey where
  anchor : Option String
  data : Data

/-- Whether two keys are the same: they come from one node, or they have the same value. -/
def NamedKey.same (a b : NamedKey) : Bool :=
  (a.anchor.isSome && a.anchor == b.anchor) || sameKey a.data b.data

/-! ## Scalars -/

def decodeBase64? (cs : List Char) : Option (List UInt8) :=
  let rec go (place left pads : Nat) : List Char → Option (List UInt8)
    | [] => if place == 0 then some [] else none
    | c :: rest =>
      if c == '=' then
        if 2 ≤ place && 4 ≤ place + pads + 1 then some []
        else go place left (if 2 ≤ place then pads + 1 else pads) rest
      else
        match sixBits? c with
        | none => go place left pads rest
        | some bits =>
          match place with
          | 0 => go 1 bits 0 rest
          | 1 => (go 2 (bits % 16) 0 rest).map (UInt8.ofNat (left * 4 + bits / 16) :: ·)
          | 2 => (go 3 (bits % 4) 0 rest).map (UInt8.ofNat (left * 16 + bits / 4) :: ·)
          | _ => (go 0 0 0 rest).map (UInt8.ofNat (left * 64 + bits) :: ·)
  go 0 0 0 cs
where
  sixBits? (c : Char) : Option Nat :=
    if 'A' ≤ c && c ≤ 'Z' then some (c.toNat - 'A'.toNat)
    else if 'a' ≤ c && c ≤ 'z' then some (c.toNat - 'a'.toNat + 26)
    else if c.isDigit then some (c.toNat - '0'.toNat + 52)
    else if c == '+' then some 62
    else if c == '/' then some 63
    else none

def scalarValue (tag : Tag) (text : ScalarText) : Except Error Data :=
  let cs := text.chars
  match tag with
  | .null => .ok .null
  | .bool =>
    match (String.ofList cs).toLower with
    | "yes" | "true" | "on" => .ok (.bool true)
    | "no" | "false" | "off" => .ok (.bool false)
    | _ => .error .notBoolean
  | .int => do return .int (← Number.int cs)
  | .float => do return .float (← Number.float cs)
  | .timestamp =>
    match timestampParts? false (if cs.getLast? = some '\n' then cs.dropLast else cs) with
    | some parts => Timestamp.read parts
    | none => .error .notTimestamp
  | .binary =>
    if text.illFormed || cs.any fun c => 128 ≤ c.toNat then .error (.malformed "bytes are encoded")
    else
      match decodeBase64? cs with
      | some bytes => .ok (.bytes bytes)
      | none => .error (.malformed "bytes are encoded")
  | .str => .ok (if text.illFormed then .illFormedText else .text (String.ofList cs))
  | _ => .error (.malformed "a tag is known")

/-! ## Collections -/

namespace Node

def tag : Node → Tag
  | scalar tag _ _ | sequence tag _ | mapping tag _ => tag
  | cycle _ => .map

mutual

def depth : Node → Nat
  | scalar .. | cycle _ => 0
  | sequence _ items => depthOfItems items + 1
  | mapping _ entries => depthOfEntries entries + 1

def depthOfItems : List Node → Nat
  | [] => 0
  | item :: items => max (depth item) (depthOfItems items)

def depthOfEntries : List (Node × Node) → Nat
  | [] => 0
  | (key, value) :: entries => max (max (depth key) (depth value)) (depthOfEntries entries)

end

def scalarText (node : Node) : (fuel : Nat) → Except Error ScalarText
  | 0 => .error (.malformed "a scalar is a scalar")
  | fuel + 1 =>
    match node with
    | scalar _ text _ => .ok text
    | mapping _ entries =>
      match entries.find? fun entry => entry.1.tag == .value with
      | some entry => scalarText entry.2 fuel
      | none => .error (.malformed "a scalar is a scalar")
    | sequence .. | cycle _ => .error (.malformed "a scalar is a scalar")

def asKey : Node → Node
  | scalar .value text anchor => .scalar .str text anchor
  | sequence .value items => .sequence .str items
  | mapping .value entries => .mapping .str entries
  | node => node

def anchor? : Node → Option String
  | scalar _ _ anchor => anchor
  | sequence .. | mapping .. | cycle _ => none

/-- The entries of a mapping after those that it merges in.  A mapping that merges what it is a part
of gains nothing by it. -/
def mergedEntries (entries : List (Node × Node)) : (fuel : Nat) → Except Error (List (Node × Node))
  | 0 => .ok entries
  | fuel + 1 => do
    let merged ← (entries.filter fun entry => entry.1.tag == .merge).mapM fun entry =>
      match entry.2 with
      | mapping _ inner => mergedEntries inner fuel
      | cycle _ => return []
      | sequence _ items => do
        let parts ← items.mapM fun item =>
          match item with
          | mapping _ inner => mergedEntries inner fuel
          | cycle _ => return []
          | _ => .error (.malformed "mappings are merged")
        return parts.reverse.flatten
      | _ => .error (.malformed "mappings are merged")
    let own := entries.filter fun entry => entry.1.tag != .merge
    return merged.flatten ++ own.map fun entry => (entry.1.asKey, entry.2)

/-- The earlier of two faults: nearer to the root, or else before the other. -/
def earlierFault (a b : Nat × Error) : Nat × Error := if b.1 < a.1 then b else a

def bothValues {α β : Type} :
    Except (Nat × Error) α → Except (Nat × Error) β → Except (Nat × Error) (α × β)
  | .ok a, .ok b => .ok (a, b)
  | .error e, .ok _ => .error e
  | .ok _, .error e => .error e
  | .error e, .error f => .error (earlierFault e f)

def allValues {α : Type} : List (Except (Nat × Error) α) → Except (Nat × Error) (List α)
  | [] => .ok []
  | first :: rest =>
    match bothValues first (allValues rest) with
    | .ok (a, as) => .ok (a :: as)
    | .error e => .error e

def atLevel {α : Type} (level : Nat) : Except Error α → Except (Nat × Error) α
  | .ok a => .ok a
  | .error error => .error (level, error)

def keyValue (level : Nat) (key : Except (Nat × Error) Data) : Except (Nat × Error) Data :=
  match key with
  | .ok data => if isKey data then .ok data else .error (level, .malformed "a key is no collection")
  | .error (inner, error) =>
    if level < inner then .error (level, .malformed "a key is no collection")
    else .error (inner, error)

def value (level : Nat) (node : Node) : (fuel : Nat) → Except (Nat × Error) Data
  | 0 => .error (level, .malformed "the depth is bounded")
  | fuel + 1 =>
    let inner := level + 1
    let pairs (entries : List (Node × Node)) : Except (Nat × Error) (List (Data × Data)) := do
      let entries ← atLevel inner (mergedEntries entries (fuel + 1))
      let pairs ← allValues (entries.map fun entry => do
        let (key, content) ←
          bothValues (keyValue inner (value inner entry.1 fuel)) (value inner entry.2 fuel)
        return (NamedKey.mk entry.1.anchor? key, content))
      return (uniqueEntries NamedKey.same pairs).map fun entry => (entry.1.data, entry.2)
    match node.tag, node with
    | _, .cycle _ => .ok (.other "[...]")
    | .seq, .sequence _ items => do
      return .list (← allValues (items.map fun item => value inner item fuel))
    | .map, .mapping _ entries => do return .mapping (← pairs entries)
    | .set, .mapping _ entries => do return .list ((← pairs entries).map (·.1))
    | .omap, .sequence _ items | .pairs, .sequence _ items => do
      return .list (← allValues (items.map fun item =>
        match item with
        | mapping _ [(key, content)] => do
          let (key, content) ← bothValues (value inner key fuel) (value inner content fuel)
          return .list [key, content]
        | _ => .error (inner, .malformed "a pair is a mapping with one entry")))
    | .seq, _ | .map, _ | .set, _ | .omap, _ | .pairs, _ =>
      .error (inner, .malformed "a collection has the form of its tag")
    | tag, node =>
      match tag with
      | .merge | .value | .other _ => .error (level, .malformed "a tag is known")
      | tag =>
        atLevel level do
          let text ← node.scalarText (fuel + 1)
          scalarValue tag text

end Node

/-- Read characters as plain data.  A text without a document is read as null. -/
def readChars (cs : List Char) : Except Error Data :=
  if !cs.all isAllowed then .error (.malformed "all characters are allowed")
  else do
    match ← Node.ofText? cs with
    | none => return .null
    | some node =>
      match node.value 0 (node.depth + 1) with
      | .ok data => return data
      | .error (_, error) => throw error

def read (text : String) : Except Error Data := readChars text.toList

end MarkupDsl.Yaml
