import MarkupDsl.Proofs.Emission.Reading
import MarkupDsl.Proofs.Literal.Value
import Mathlib.Data.List.TakeWhile

/-!
# Slots of attribute values

Every attribute in the code has a slot for its value, which a semicolon ends.  A value keeps to its
slot if nothing is written, or one literal, one unsigned number or one variant.  Values between quotes
always do, up to the escape sequences of the target language.  Numbers and keywords are copied as they
are, so that the document decides there: what is no number or no identifier may fill more than a slot.
-/

namespace MarkupDsl

open Text

namespace Spelling

/-! ## Tokens of the target language -/

/-- The words that the target language keeps for itself; the lone underscore is one of them. -/
def keywords : List String := [
  "_", "and", "as", "asr", "assert", "begin", "class", "constraint", "do", "done", "downto", "else",
  "end", "exception", "external", "false", "for", "fun", "function", "functor", "if", "in",
  "include", "inherit", "initializer", "land", "lazy", "let", "lor", "lsl", "lsr", "lxor", "match",
  "method", "mod", "module", "mutable", "new", "nonrec", "object", "of", "open", "or", "private",
  "rec", "sig", "struct", "then", "to", "true", "try", "type", "val", "virtual", "when", "while",
  "with"]

def isIdentifierChar (c : Char) : Bool := c.isAlphanum || c == '_' || c == '\''

/-- Whether a text is an identifier: it begins with a letter or an underscore and is no keyword. -/
def isIdentifier (cs : List Char) : Bool :=
  cs.all isIdentifierChar && cs.head?.any (fun first => first.isAlpha || first == '_') &&
    !keywords.contains (String.ofList cs)

def IsVariant (cs : List Char) : Prop :=
  ∃ tag, cs = Literal.variantSigil :: tag ∧ isIdentifier tag = true

/-- Whether a text is an unsigned decimal number: digits, and perhaps a point and more digits. -/
def isDecimalNumber (cs : List Char) : Bool :=
  !(cs.takeWhile Char.isDigit).isEmpty &&
    match cs.dropWhile Char.isDigit with
    | [] => true
    | point :: fraction => point == '.' && fraction.all Char.isDigit

theorem isWord_of_isIdentifier {cs : List Char} (identifier : isIdentifier cs = true) :
    IsWord cs := by
  rw [isIdentifier, Bool.and_eq_true, Bool.and_eq_true, List.all_eq_true] at identifier
  exact isWord_of_all (p := isIdentifierChar) (by decide) identifier.1.1

theorem isWord_of_isDecimalNumber {cs : List Char} (number : isDecimalNumber cs = true) :
    IsWord cs := by
  refine isWord_of_all (p := fun c => c.isDigit || c == '.') (by decide) ?_
  intro c member
  rw [← List.takeWhile_append_dropWhile (p := Char.isDigit) (l := cs)] at member
  rcases List.mem_append.1 member with digit | later
  · rw [List.mem_takeWhile_imp digit]
    rfl
  · rw [isDecimalNumber, Bool.and_eq_true] at number
    have ending := number.2
    split at ending
    · next none =>
      rw [none] at later
      cases later
    · next point fraction some =>
      rw [Bool.and_eq_true, List.all_eq_true, beq_iff_eq] at ending
      rw [some] at later
      rcases List.mem_cons.1 later with rfl | digit
      · rw [ending.1]
        rfl
      · rw [ending.2 c digit]
        rfl

/-- A number begins with a digit, not with the sigil of a variant. -/
theorem isDecimalNumber_sigil_cons (tag : List Char) :
    isDecimalNumber (Literal.variantSigil :: tag) = false := rfl

/-- The keywords that are truth values are the only ones that a variant avoids. -/
theorem isIdentifier_variantTag_iff {raw : String} :
    isIdentifier (Literal.variantTag raw).toList = true ↔
      raw = "true" ∨ raw = "false" ∨ isIdentifier (underscored raw.toList) = true := by
  unfold Literal.variantTag
  split
  · next same =>
    subst same
    decide
  · split
    · next same =>
      subst same
      decide
    · split
      · next same => exact iff_of_true (by decide) (Or.inl same)
      · split
        · next same => exact iff_of_true (by decide) (Or.inr (Or.inl same))
        · next notTrue notFalse =>
          rw [String.toList_ofList]
          exact ⟨fun identifier => Or.inr (Or.inr identifier),
            fun given => (given.resolve_left notTrue).resolve_left notFalse⟩

/-! ## Slots -/

/-- Whether what is written for a value is one token of its slot at most. -/
inductive FillsSlot (value : Option String) (code : String) : Prop where
  | nothing (absent : code = "")
  | literal {raw : String} (given : value = some raw) (written : code = Literal.encodeString raw)
      (readBack : ∀ rest, Literal.read? (code.toList ++ rest) = some (raw.toList, rest))
  | number (form : isDecimalNumber code.toList = true)
  | variant (form : IsVariant code.toList)

/-- Whether a value that is given for an attribute keeps to its slot. -/
inductive KeepsSlot (tables : Tables) (name : String) (value : Option String) : Prop where
  | missing (absent : value = none)
  | quoted (safe : tables.isUnquoted name = false)
  | number (numeric : name ∈ tables.numericNames) {raw : String} (given : value = some raw)
      (form : raw = "" ∨ isDecimalNumber raw.toList = true ∨ IsVariant raw.toList)
  | keyword (other : name ∉ tables.numericNames) {raw : String} (given : value = some raw)
      (form : raw = "true" ∨ raw = "false" ∨ isIdentifier (underscored raw.toList) = true)

/-- What fills a slot has the form of a spelled value, so it is known where it ends. -/
theorem FillsSlot.isSpelledValue {value : Option String} {code : String}
    (fills : FillsSlot value code) : NormalForm.IsSpelledValue code.toList := by
  cases fills with
  | nothing absent =>
      rw [absent]
      exact .word isWord_nil
  | literal given written readBack =>
      rw [written, Literal.toList_encodeString]
      exact .literal _
  | number form => exact .word (isWord_of_isDecimalNumber form)
  | variant form =>
      obtain ⟨tag, written, identifier⟩ := form
      rw [written]
      exact .variant (isWord_of_isIdentifier identifier)

theorem FillsSlot.of_encodeString (raw : String) :
    FillsSlot (some raw) (Literal.encodeString raw) :=
  .literal rfl rfl fun rest => by
    rw [Literal.toList_encodeString]
    exact Literal.read?_stringChars raw.toList rest

/-! ## Copied values -/

theorem length_lt_length_stringChars (raw : List Char) :
    raw.length < (Literal.stringChars raw).length := by
  unfold Literal.stringChars
  split
  · simp only [Literal.delimited, List.length_cons, List.length_append]
    omega
  · simp only [List.length_cons, List.length_append]
    omega

/-- A copied number fills its slot exactly if it is empty, a number, or by chance a variant. -/
theorem fillsSlot_self_iff {raw : String} :
    FillsSlot (some raw) raw ↔
      raw = "" ∨ isDecimalNumber raw.toList = true ∨ IsVariant raw.toList := by
  constructor
  · intro fills
    cases fills with
    | nothing absent => exact Or.inl absent
    | literal given written readBack =>
        -- a literal is longer than its content
        cases given
        have longer := length_lt_length_stringChars raw.toList
        rw [← Literal.toList_encodeString, ← written] at longer
        exact absurd longer (Nat.lt_irrefl _)
    | number form => exact Or.inr (Or.inl form)
    | variant form => exact Or.inr (Or.inr form)
  · rintro (absent | number | variant)
    · exact .nothing absent
    · exact .number number
    · exact .variant variant

theorem toList_encodeVariant (raw : String) :
    (Literal.encodeVariant raw).toList =
      Literal.variantSigil :: (Literal.variantTag raw).toList := by
  rw [Literal.encodeVariant, String.toList_append, String.toList_singleton]
  rfl

/-- A keyword fills its slot exactly if it makes an identifier. -/
theorem fillsSlot_encodeVariant_iff {raw : String} :
    FillsSlot (some raw) (Literal.encodeVariant raw) ↔
      raw = "true" ∨ raw = "false" ∨ isIdentifier (underscored raw.toList) = true := by
  rw [← isIdentifier_variantTag_iff]
  constructor
  · intro fills
    cases fills with
    | nothing absent =>
        have empty := congrArg String.toList absent
        rw [toList_encodeVariant] at empty
        cases empty
    | literal given written readBack =>
        have read := readBack []
        rw [toList_encodeVariant] at read
        cases read
    | number form =>
        rw [toList_encodeVariant, isDecimalNumber_sigil_cons] at form
        cases form
    | variant form =>
        obtain ⟨tag, written, identifier⟩ := form
        rw [toList_encodeVariant] at written
        rw [(List.cons.inj written).2]
        exact identifier
  · intro identifier
    exact .variant ⟨_, toList_encodeVariant raw, identifier⟩

/-! ## Spelled values -/

section

variable {tables : Tables} {name raw : String}

theorem isUnquoted_of_valued (valued : name ∉ tables.booleanNames) :
    tables.isUnquoted name =
      (decide (name ∈ tables.numericNames) || decide (name ∈ tables.variantNames)) := by
  rw [Tables.isUnquoted, decide_eq_true valued, Bool.true_and]

/-- Of the values of a copied name, it is the copied form that counts. -/
theorem keepsSlot_iff_of_unquoted (unquoted : tables.isUnquoted name = true) :
    KeepsSlot tables name (some raw) ↔
      (name ∈ tables.numericNames ∧
          (raw = "" ∨ isDecimalNumber raw.toList = true ∨ IsVariant raw.toList)) ∨
        (name ∉ tables.numericNames ∧
          (raw = "true" ∨ raw = "false" ∨ isIdentifier (underscored raw.toList) = true)) := by
  constructor
  · intro keeps
    cases keeps with
    | missing absent => cases absent
    | quoted safe =>
        rw [safe] at unquoted
        cases unquoted
    | number numeric given form =>
        cases given
        exact Or.inl ⟨numeric, form⟩
    | keyword other given form =>
        cases given
        exact Or.inr ⟨other, form⟩
  · rintro (⟨numeric, form⟩ | ⟨other, form⟩)
    · exact .number numeric rfl form
    · exact .keyword other rfl form

/-- A value is spelled as a token of its slot exactly if it keeps to the slot. -/
theorem fillsSlot_attributeValue_iff {value : Option String} :
    FillsSlot value (attributeValue tables name value) ↔ KeepsSlot tables name value := by
  cases value with
  | none => exact iff_of_true (.nothing rfl) (.missing rfl)
  | some raw =>
      unfold attributeValue
      dsimp only
      split
      · next presence =>
        have safe : tables.isUnquoted name = false := by
          rw [Tables.isUnquoted, decide_eq_false (not_not_intro presence), Bool.false_and]
        exact iff_of_true (.nothing rfl) (.quoted safe)
      · next valued =>
        have unquoted := isUnquoted_of_valued valued
        split
        · next numeric =>
          rw [decide_eq_true numeric, Bool.true_or] at unquoted
          rw [keepsSlot_iff_of_unquoted unquoted, fillsSlot_self_iff]
          simp only [numeric, true_and, not_true_eq_false, false_and, or_false]
        · next other =>
          split
          · next variant =>
            rw [decide_eq_true variant, Bool.or_true] at unquoted
            rw [keepsSlot_iff_of_unquoted unquoted, fillsSlot_encodeVariant_iff]
            simp only [other, false_and, not_false_eq_true, true_and, false_or]
          · next plain =>
            rw [decide_eq_false other, decide_eq_false plain] at unquoted
            exact iff_of_true (.of_encodeString raw) (.quoted unquoted)

/-- A value that is not copied stands in a literal. -/
theorem attributeValue_of_quoted (valued : name ∉ tables.booleanNames)
    (quoted : tables.isUnquoted name = false) :
    attributeValue tables name (some raw) = Literal.encodeString raw := by
  rw [isUnquoted_of_valued valued, Bool.or_eq_false_iff, decide_eq_false_iff_not,
    decide_eq_false_iff_not] at quoted
  unfold attributeValue
  dsimp only
  rw [if_neg valued, if_neg quoted.1, if_neg quoted.2]

end

/-- The code of an attribute with a plain name can be read if its value keeps to the slot. -/
theorem isSpelled_of_keepsSlot {tables : Tables} (validated : tables.IsValidated) {attr : Attribute}
    (plain : IsWord attr.name.toList) (keeps : KeepsSlot tables attr.name attr.value) :
    NormalForm.IsSpelled (attr.spelled tables) :=
  ⟨isSpelledName_attributeName validated plain,
    (fillsSlot_attributeValue_iff.2 keeps).isSpelledValue⟩

/-! ## Slots and lists -/

/--
Attribute values keep to their slots, unless they are copied and are no tokens.  With validated tables,
the code of a value is nothing, the literal of the value, an unsigned number or a variant exactly if
no value is given, or the name is not one of the copied values, or the copied value is such a token
itself.  In these cases the code of the value ends where its slot ends, whatever follows, and a list of
such attributes with plain names is read back as just these attributes.  By the rules of the target
language a value between quotes is one literal for this value exactly if it has a double quote or no
backslash.
-/
theorem attributeValue_keeps_slot_iff {tables : Tables} (validated : tables.IsValidated) :
    (∀ name value,
      FillsSlot value (attributeValue tables name value) ↔ KeepsSlot tables name value) ∧
    (∀ name value, KeepsSlot tables name value → ∀ rest,
      NormalForm.readValue? ((attributeValue tables name value).toList ++ ';' :: rest) =
        some ((attributeValue tables name value).toList, ';' :: rest)) ∧
    (∀ tag attributes,
      (∀ attr ∈ attributes, IsWord attr.name.toList ∧ KeepsSlot tables attr.name attr.value) →
        ∀ rest, ∃ list,
          (openingCode tables tag attributes).toList ++ rest = tag.toList ++ ' ' :: '[' :: list ∧
          NormalForm.readAttributes? list =
            some (attributes.map (Attribute.spelled tables), rest)) ∧
    ∀ name raw, name ∉ tables.booleanNames → tables.isUnquoted name = false → ∀ rest,
      (Literal.value? ((attributeValue tables name (some raw)).toList ++ rest) =
          some (Literal.textBytes raw.toList, rest) ↔
        '"' ∈ raw.toList ∨ '\\' ∉ raw.toList) := by
  refine ⟨fun name value => fillsSlot_attributeValue_iff, ?_, ?_, ?_⟩
  · intro name value keeps rest
    exact NormalForm.readValue?_append (fillsSlot_attributeValue_iff.2 keeps).isSpelledValue rest
  · intro tag attributes kept rest
    have spelled : ∀ attr ∈ attributes.map (Attribute.spelled tables), NormalForm.IsSpelled attr := by
      intro spelled member
      obtain ⟨attr, present, rfl⟩ := List.mem_map.1 member
      exact isSpelled_of_keepsSlot validated (kept attr present).1 (kept attr present).2
    rw [toList_openingCode, NormalForm.openingChars_append]
    exact ⟨_, rfl, NormalForm.readAttributes?_append spelled rest⟩
  · intro name raw valued quoted rest
    rw [attributeValue_of_quoted valued quoted, Literal.toList_encodeString]
    exact Literal.value?_stringChars_eq_iff raw.toList rest

/-- Brackets, semicolons and quotes in a title add nothing to the list, beside a number. -/
theorem attributeValue_keeps_slot_sample :
    let attributes : List Attribute := [⟨"rows", some "3"⟩, ⟨"title", some "]; rows \"2"⟩]
    (Tables.sample.IsValidated ∧
      ∀ attr ∈ attributes, IsWord attr.name.toList ∧ KeepsSlot .sample attr.name attr.value) ∧
    NormalForm.readValue? ((attributeValue .sample "rows" (some "3")).toList ++ [';']) =
      some ((attributeValue .sample "rows" (some "3")).toList, [';']) ∧
    ∃ list, (openingCode .sample "p" attributes).toList ++ [] = "p".toList ++ ' ' :: '[' :: list ∧
      NormalForm.readAttributes? list = some (attributes.map (Attribute.spelled .sample), []) := by
  intro attributes
  have number : KeepsSlot .sample "rows" (some "3") :=
    .number (by decide) rfl (Or.inr (Or.inl (by decide)))
  have kept : ∀ attr ∈ attributes,
      IsWord attr.name.toList ∧ KeepsSlot .sample attr.name attr.value :=
    List.forall_mem_cons.2 ⟨⟨by decide, number⟩,
      List.forall_mem_singleton.2 ⟨by decide, .quoted (by decide)⟩⟩
  have slots := attributeValue_keeps_slot_iff Tables.isValidated_sample
  exact ⟨⟨Tables.isValidated_sample, kept⟩, slots.2.1 _ _ number [], slots.2.2.1 "p" _ kept []⟩

/-- A copied value may add an entry to the list: it does not always keep to its slot. -/
theorem attributeValue_adds_entry :
    openingCode .sample "p" [⟨"rows", some "1; id \"2\""⟩] =
        openingCode .sample "p" [⟨"rows", some "1"⟩, ⟨"id", some "2"⟩] ∧
      ¬ ∀ (tables : Tables) (name : String) (value : Option String), tables.IsValidated →
        FillsSlot value (attributeValue tables name value) := by
  refine ⟨by decide, ?_⟩
  intro all
  have copied : attributeValue .sample "rows" (some "1; id \"2\"") = "1; id \"2\"" := by decide
  have fills := all .sample "rows" (some "1; id \"2\"") Tables.isValidated_sample
  rw [copied, fillsSlot_self_iff] at fills
  rcases fills with empty | number | ⟨tag, variant, _⟩
  · exact absurd empty (by decide)
  · exact absurd number (by decide)
  · exact absurd (congrArg List.head? variant) (by simp [Literal.variantSigil])

end Spelling

end MarkupDsl
