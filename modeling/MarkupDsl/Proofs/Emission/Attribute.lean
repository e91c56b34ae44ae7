import MarkupDsl.Proofs.Emission.NormalForm
import MarkupDsl.Proofs.Spelling.Family
import MarkupDsl.Proofs.Text.Word

/-!
# Reading attributes

A spelled name is a word, or a word and a literal; a spelled value is a word, a variant or a
literal. Therefore a reader can tell where each attribute of the code ends.  The one doubt is a
literal after a word: it belongs to the name if a space follows it, and it is the value if the
attribute ends there.
-/

namespace MarkupDsl

open Text

/-! ## The forms of spelled names and values -/

namespace NormalForm

inductive IsSpelledName : List Char → Prop where
  | word {name : List Char} (plain : IsWord name) : IsSpelledName name
  | literal {word : List Char} (plain : IsWord word) (raw : List Char) :
      IsSpelledName (word ++ ' ' :: Literal.stringChars raw)

inductive IsSpelledValue : List Char → Prop where
  | word {value : List Char} (plain : IsWord value) : IsSpelledValue value
  | variant {tag : List Char} (plain : IsWord tag) :
      IsSpelledValue (Literal.variantSigil :: tag)
  | literal (raw : List Char) : IsSpelledValue (Literal.stringChars raw)

def IsSpelled (attr : String × String) : Prop :=
  IsSpelledName attr.1.toList ∧ IsSpelledValue attr.2.toList

end NormalForm

theorem Spelling.isWord_underscored {cs : List Char} (plain : IsWord cs) :
    IsWord (underscored cs) := by
  intro c member
  obtain ⟨d, present, same⟩ := List.mem_map.1 member
  rw [← same]
  split
  · rfl
  · exact plain d present

/-- A module name is a word: letters, digits, underscores, and perhaps a line feed. -/
theorem Validation.isWord_of_hasModuleForm {name : List Char} (form : hasModuleForm name = true) :
    IsWord name :=
  isWord_of_all (p := fun c => c.isAlphanum || c == '_' || c == '\n') (by decide)
    fun _ member => isModuleChar_of_hasModuleForm form member

/-- A name without marks is spelled as a word, or as a word and a literal. -/
theorem Spelling.isSpelledName_attributeName {tables : Tables} (validated : tables.IsValidated)
    {name : String} (plain : IsWord name.toList) :
    NormalForm.IsSpelledName (attributeName tables name).toList := by
  unfold attributeName
  split
  · apply NormalForm.IsSpelledName.word
    rw [String.toList_append]
    exact plain.append (isWord_cons rfl isWord_nil)
  · split
    · next spelled found =>
      obtain ⟨entry, present, bare, ending, same⟩ := exists_suffix_of_namespaced? found
      have module := Validation.isWord_of_hasModuleForm (validated.hasModuleForm present)
      have inner : IsWord bare := fun c member => plain c (ending.subset member)
      apply NormalForm.IsSpelledName.word
      have dot : IsWord ".".toList := isWord_cons rfl isWord_nil
      have member : IsWord (String.ofList (underscored bare)).toList := by
        rw [String.toList_ofList]
        exact isWord_underscored inner
      rw [same, String.toList_append, String.toList_append]
      exact (module.append dot).append member
    · split
      · rw [String.toList_append, Literal.toList_encodeString]
        have keyword : IsWord "string_attr".toList := by decide
        exact NormalForm.IsSpelledName.literal keyword name.toList
      · exact NormalForm.IsSpelledName.word plain

theorem Literal.isWord_variantTag {value : String} (plain : IsWord value.toList) :
    IsWord (variantTag value).toList := by
  unfold variantTag
  split
  · decide
  · split
    · decide
    · split
      · decide
      · split
        · decide
        · rw [String.toList_ofList]
          exact Spelling.isWord_underscored plain

/-- Whether the value of an attribute is copied into the code without quotes. -/
def Tables.isUnquoted (tables : Tables) (name : String) : Bool :=
  decide (name ∉ tables.booleanNames) &&
    (decide (name ∈ tables.numericNames) || decide (name ∈ tables.variantNames))

/--
A value that has no marks where it is not quoted is spelled as a word, a variant or a literal.
-/
theorem Spelling.isSpelledValue_attributeValue {tables : Tables} {name : String}
    {value : Option String}
    (plain : tables.isUnquoted name = true → ∀ text ∈ value, IsWord text.toList) :
    NormalForm.IsSpelledValue (attributeValue tables name value).toList := by
  cases value with
  | none => exact NormalForm.IsSpelledValue.word isWord_nil
  | some text =>
      unfold attributeValue
      dsimp only
      split
      · exact NormalForm.IsSpelledValue.word isWord_nil
      · next valued =>
        split
        · next numeric =>
          refine NormalForm.IsSpelledValue.word (plain ?_ text rfl)
          rw [Tables.isUnquoted, decide_eq_true valued, decide_eq_true numeric]
          rfl
        · split
          · next variant =>
            have unquoted : tables.isUnquoted name = true := by
              rw [Tables.isUnquoted, decide_eq_true valued, decide_eq_true variant, Bool.or_true]
              rfl
            have tag := Literal.isWord_variantTag (plain unquoted text rfl)
            unfold Literal.encodeVariant
            rw [String.toList_append, String.toList_singleton]
            exact NormalForm.IsSpelledValue.variant tag
          · rw [Literal.toList_encodeString]
            exact NormalForm.IsSpelledValue.literal text.toList

/-! ## Reading attributes -/

namespace NormalForm

def readLiteral? (cs : List Char) : Option (List Char × List Char) :=
  (Literal.read? cs).map fun parts => (Literal.stringChars parts.1, parts.2)

def readValue? (cs : List Char) : Option (List Char × List Char) :=
  match cs with
  | '"' :: _ => readLiteral? cs
  | '{' :: _ => readLiteral? cs
  | '\x60' :: tag => some (Literal.variantSigil :: firstWord tag, afterWord tag)
  | _ => some (firstWord cs, afterWord cs)

def readAttribute? (cs : List Char) : Option ((String × String) × List Char) :=
  match afterWord cs with
  | ' ' :: inner =>
    match readValue? inner with
    | some (value, ';' :: ' ' :: rest) =>
      some ((String.ofList (firstWord cs), String.ofList value), rest)
    | some (literal, ' ' :: inner) =>
      match readValue? inner with
      | some (value, ';' :: ' ' :: rest) =>
        some ((String.ofList (firstWord cs ++ ' ' :: literal), String.ofList value), rest)
      | _ => none
    | _ => none
  | _ => none

/-- Read the attributes of an element up to the bracket that closes them. -/
def readAttributes? : List Char → Option (List (String × String) × List Char)
  | ']' :: ' ' :: rest => some ([], rest)
  | cs =>
    match readAttribute? cs with
    | none => none
    | some (attr, rest) =>
      if rest.length < cs.length then
        (readAttributes? rest).map fun parts => (attr :: parts.1, parts.2)
      else none
termination_by cs => cs.length

/-- A literal is read as it is written, whatever follows. -/
theorem readValue?_stringChars (raw rest : List Char) :
    readValue? (Literal.stringChars raw ++ rest) = some (Literal.stringChars raw, rest) := by
  have read : readLiteral? (Literal.stringChars raw ++ rest) =
      some (Literal.stringChars raw, rest) := by
    unfold readLiteral?
    rw [Literal.read?_stringChars]
    rfl
  rw [← read]
  unfold Literal.stringChars
  split <;> rfl

theorem readValue?_word {value : List Char} (plain : IsWord value) (rest : List Char) :
    readValue? (value ++ ';' :: rest) = some (value, ';' :: rest) := by
  have parts : some (firstWord (value ++ ';' :: rest), afterWord (value ++ ';' :: rest)) =
      some (value, ';' :: rest) := by
    rw [firstWord_append plain rfl, afterWord_append plain rfl]
  rw [← parts]
  cases value with
  | nil => rfl
  | cons c value =>
      have first := plain c List.mem_cons_self
      unfold readValue?
      split
      · next same => cases same; cases first
      · next same => cases same; cases first
      · next same => cases same; cases first
      · rfl

theorem readValue?_append {value : List Char} (spelled : IsSpelledValue value) (rest : List Char) :
    readValue? (value ++ ';' :: rest) = some (value, ';' :: rest) := by
  cases spelled with
  | word plain => exact readValue?_word plain rest
  | literal raw => exact readValue?_stringChars raw (';' :: rest)
  | @variant tag plain =>
      change some (Literal.variantSigil :: firstWord (tag ++ ';' :: rest),
        afterWord (tag ++ ';' :: rest)) = _
      rw [firstWord_append plain rfl, afterWord_append plain rfl]

/-- A spelled attribute is read back, whatever follows. -/
theorem readAttribute?_append {attr : String × String} (spelled : IsSpelled attr)
    (rest : List Char) : readAttribute? (attributeChars attr ++ rest) = some (attr, rest) := by
  obtain ⟨name, value⟩ := attr
  obtain ⟨named, valued⟩ := spelled
  have last : readValue? (value.toList ++ ';' :: ' ' :: rest) =
      some (value.toList, ';' :: ' ' :: rest) := readValue?_append valued (' ' :: rest)
  have written : attributeChars (name, value) ++ rest =
      name.toList ++ ' ' :: (value.toList ++ ';' :: ' ' :: rest) := by
    simp [attributeChars]
  rw [written]
  unfold readAttribute?
  generalize same : name.toList = chars at named
  cases named with
  | word plain =>
      rw [afterWord_append plain rfl, firstWord_append plain rfl]
      simp only [last]
      rw [← same, String.ofList_toList, String.ofList_toList]
  | @literal word plain raw =>
      have first := readValue?_stringChars raw (' ' :: (value.toList ++ ';' :: ' ' :: rest))
      rw [List.append_assoc, List.cons_append, afterWord_append plain rfl,
        firstWord_append plain rfl]
      simp only [first, last]
      rw [← same, String.ofList_toList, String.ofList_toList]

theorem length_attributeChars_pos (attr : String × String) : 0 < (attributeChars attr).length := by
  rw [attributeChars, List.length_append, List.length_cons]
  omega

theorem readAttributes?_append {attributes : List (String × String)}
    (spelled : ∀ attr ∈ attributes, IsSpelled attr) (rest : List Char) :
    readAttributes? (attributes.flatMap attributeChars ++ ']' :: ' ' :: rest) =
      some (attributes, rest) := by
  induction attributes with
  | nil =>
      unfold readAttributes?
      rfl
  | cons attr attributes ih =>
      have here := readAttribute?_append (spelled attr List.mem_cons_self)
        (attributes.flatMap attributeChars ++ ']' :: ' ' :: rest)
      have later := ih fun other member => spelled other (List.mem_cons_of_mem attr member)
      rw [List.flatMap_cons, List.append_assoc, readAttributes?, here]
      · dsimp only
        rw [if_pos, later]
        · rfl
        · have positive := length_attributeChars_pos attr
          simp only [List.length_append]
          omega
      · intro more same
        rw [same] at here
        cases here

end NormalForm

end MarkupDsl
