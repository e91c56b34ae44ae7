import MarkupDsl.Classification.Tables
import MarkupDsl.Data
import MarkupDsl.Decimal.Shortest
import MarkupDsl.Text.Digits
import MarkupDsl.Text.Quoted

/-!
# Validation of tables

Plain data is read as classification tables.  All faults are collected, in the order of the fields,
inside a field in the order of its entries.  The check of a value's content comes after the checks
of its shape and is made only if those succeed.
-/

namespace MarkupDsl.Validation

/-! ## Faults -/

/-- What can be wrong with a value. -/
inductive Fault where
  | notSet
  | notText
  | illFormedText
  | notMapping
  | notRecord (record : String)
  | missing
  | notBool
  | unreadableBool
  | badNames (names : List String)
  | hyphenatedNames (names : List String)
  | badModule (name : String)
  /-- A beginning of a family that is not lower-case or does not end with a hyphen. -/
  | badStart (start : String)
  deriving DecidableEq, Repr

namespace Fault

def label : Fault → String
  | notSet => "frozen_set_type"
  | notText => "string_type"
  | illFormedText => "string_unicode"
  | notMapping => "dict_type"
  | notRecord _ => "model_type"
  | missing => "missing"
  | notBool => "bool_type"
  | unreadableBool => "bool_parsing"
  | badNames _ | hyphenatedNames _ | badModule _ | badStart _ => "value_error"

def message : Fault → String
  | notSet => "Input should be a valid frozenset"
  | notText => "Input should be a valid string"
  | illFormedText =>
    "Input should be a valid string, unable to parse raw data as a unicode string"
  | notMapping => "Input should be a valid dictionary"
  | notRecord record => "Input should be a valid dictionary or instance of " ++ record
  | missing => "Field required"
  | notBool => "Input should be a valid boolean"
  | unreadableBool => "Input should be a valid boolean, unable to interpret input"
  | badNames names =>
    "Value error, names must be non-empty and lower-case: " ++ String.intercalate ", " names
  | hyphenatedNames names =>
    "Value error, suffixed names cannot contain '-': " ++ String.intercalate ", " names
  | badModule name =>
    "Value error, namespace must be a capitalized identifier, got " ++ Text.quoted name
  | badStart start =>
    "Value error, namespace prefix must be lower-case and end with '-': " ++ Text.quoted start

end Fault

inductive Locator where
  | key (name : String)
  | index (position : Int)
  deriving DecidableEq, Repr

structure Issue where
  place : List Locator
  fault : Fault
  deriving DecidableEq, Repr

def Locator.ofKey : Data → Locator
  | .text name => .key name
  | .bool value => .index (if value then 1 else 0)
  | .int value =>
    if -9223372036854775808 ≤ value ∧ value ≤ 9223372036854775807 then .index value
    else if Nat.pow 10 Text.mostDigits ≤ value.natAbs then .key "<unprintable int object>"
    else .key (toString value)
  | .float value => .key (Decimal.shortest value)
  | .null => .key "None"
  | .moment _ written | .other written => .key written
  | .bytes value => .key (Text.quotedBytes value)
  | .illFormedText | .list _ | .mapping _ => .key ""

/-! ## Collected faults -/

/-- The reading of a value, or all that is wrong with it. -/
abbrev Checked (α : Type) := Except (List Issue) α

def fail {α : Type} (fault : Fault) : Checked α := .error [⟨[], fault⟩]

/-- Two readings together; the faults of both are kept. -/
def both {α β : Type} : Checked α → Checked β → Checked (α × β)
  | .ok a, .ok b => .ok (a, b)
  | .ok _, .error issues => .error issues
  | .error issues, .ok _ => .error issues
  | .error issues, .error more => .error (issues ++ more)

def within {α : Type} (locator : Locator) : Checked α → Checked α
  | .ok a => .ok a
  | .error issues =>
    .error (issues.map fun issue => { issue with place := locator :: issue.place })

def all {α : Type} : List (Checked α) → Checked (List α)
  | [] => .ok []
  | first :: rest =>
    match both first (all rest) with
    | .ok (a, as) => .ok (a :: as)
    | .error issues => .error issues

/-! ## Texts, sets and booleans -/

def text : Data → Checked String
  | .text value => .ok value
  | .illFormedText => fail .illFormedText
  | .bytes value =>
    match Data.textOfBytes? value with
    | some text => .ok text
    | none => fail .illFormedText
  | _ => fail .notText

def texts : Data → Checked (List String)
  | .list items =>
    all (items.mapIdx fun position item => within (.index position) (text item))
  | _ => fail .notSet

/-- Whether a name may stand in a set: it is not empty and its own lower case. -/
def isGoodName (name : String) : Bool := name != "" && decide (Text.IsLower name)

def lowerCaseNames (names : NameSet) : Checked NameSet :=
  match names.toList.filter fun name => !isGoodName name with
  | [] => .ok names
  | bad => fail (.badNames bad)

def hyphenFreeNames (names : NameSet) : Checked NameSet :=
  match names.toList.filter fun name => name.toList.contains '-' with
  | [] => .ok names
  | bad => fail (.hyphenatedNames bad)

def nameSet (data : Data) : Checked NameSet := do
  lowerCaseNames (NameSet.ofList (← texts data))

def suffixNameSet (data : Data) : Checked NameSet := do
  hyphenFreeNames (← nameSet data)

def trueWords : List String := ["1", "on", "t", "true", "y", "yes"]

def falseWords : List String := ["0", "off", "f", "false", "n", "no"]

def booleanWord (word : String) : Checked Bool :=
  if trueWords.contains word.toLower then .ok true
  else if falseWords.contains word.toLower then .ok false
  else fail .unreadableBool

/-- Read a boolean: a truth value, the numbers zero and one, or one of the words for them. -/
def boolean : Data → Checked Bool
  | .bool value => .ok value
  | .text value => booleanWord value
  | .illFormedText => fail .illFormedText
  | .bytes value =>
    match Data.textOfBytes? value with
    | some word => booleanWord word
    | none => fail .unreadableBool
  | .int value =>
    if value = 0 then .ok false
    else if value = 1 then .ok true
    else if -9223372036854775808 ≤ value ∧ value ≤ 9223372036854775807 then fail .unreadableBool
    else fail .notBool
  | .float value =>
    if value == 0 then .ok false
    else if value == 1 then .ok true
    else if value.floor == value && value.abs ≤ 9223372036854775808 then fail .unreadableBool
    else fail .notBool
  | _ => fail .notBool

def optional {α : Type} (name : String) (absent : α) (read : Data → Checked α)
    (entries : List (Data × Data)) : Checked α :=
  match Data.lookup? name entries with
  | none => .ok absent
  | some value => within (.key name) (read value)

def required {α : Type} (name : String) (read : Data → Checked α)
    (entries : List (Data × Data)) : Checked α :=
  within (.key name) <|
    match Data.lookup? name entries with
    | none => fail .missing
    | some value => read value

/-! ## Families -/

/-- Whether a text is a capitalized identifier; one line feed may follow it. -/
def hasModuleForm (name : List Char) : Bool :=
  match if name.getLast? = some '\n' then name.dropLast else name with
  | [] => false
  | c :: rest => c.isUpper && rest.all fun c => c.isAlphanum || c == '_'

def moduleName (data : Data) : Checked String := do
  let name ← text data
  if hasModuleForm name.toList then return name else fail (.badModule name)

def family : Data → Checked Namespace
  | .mapping entries => do
    let (module, names, dataAlias) ←
      both (required "namespace" moduleName entries) <|
        both (optional "names" ∅ nameSet entries) (optional "data_alias" false boolean entries)
    return ⟨module, names, dataAlias⟩
  | _ => fail (.notRecord "NamespaceSpec")

def familyEntry (entry : Data × Data) : Checked (String × Namespace) :=
  let locator := Locator.ofKey entry.1
  both (within locator (within (.key "[key]") (text entry.1))) (within locator (family entry.2))

/-- Whether a text can begin the names of a family. -/
def isGoodStart (start : String) : Bool :=
  start.toList.getLast? == some '-' && decide (Text.IsLower start)

def goodStarts (families : List (String × Namespace)) : Checked (List (String × Namespace)) :=
  match families.find? fun entry => !isGoodStart entry.1 with
  | none => .ok families
  | some entry => fail (.badStart entry.1)

/-- Read the families.  Different keys may count as the same text; the last of them decides. -/
def families : Data → Checked (List (String × Namespace))
  | .mapping entries => do
    goodStarts (uniqueEntries (· == ·) (← all (entries.map familyEntry)))
  | _ => fail .notMapping

/-! ## Tables -/

def tables : Data → Checked Tables
  | .mapping entries => do
    let (suffixNames, namespaces, variantNames, numericNames, booleanNames, voidTags, rawTextTags,
        hyphenFallback) ←
      both (optional "suffix_names" ∅ suffixNameSet entries) <|
      both (optional "namespaces" [] families entries) <|
      both (optional "variant_names" ∅ nameSet entries) <|
      both (optional "numeric_names" ∅ nameSet entries) <|
      both (optional "boolean_names" ∅ nameSet entries) <|
      both (optional "void_tags" ∅ nameSet entries) <|
      both (optional "raw_text_tags" ∅ nameSet entries) <|
        optional "hyphen_fallback" false boolean entries
    return ⟨suffixNames, namespaces, variantNames, numericNames, booleanNames, voidTags,
      rawTextTags, hyphenFallback⟩
  | _ => fail (.notRecord "ClassificationTables")

end MarkupDsl.Validation
