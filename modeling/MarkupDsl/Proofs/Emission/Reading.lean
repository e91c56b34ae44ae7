import MarkupDsl.Proofs.Emission.Attribute

/-!
# Reading trees

A reader for emitted code.  A word before a bracket is the tag of an element, and the word before a
literal tells texts from comments; what follows the attributes of an element tells its body.  The
code of a normal form whose names and unquoted values have no marks is read back, so the text of a
conversion determines the tree up to its normal form.
-/

namespace MarkupDsl

open Text

namespace NormalForm

/-! ## The reader -/

mutual

/-- Read a tree: its normal form and what follows it. -/
def read? (cs : List Char) : Option (NormalForm × List Char) :=
  match afterWord cs with
  | ' ' :: '[' :: inner =>
    match readAttributes? inner with
    | none => none
    | some (attributes, body) =>
      match body with
      | '[' :: inner =>
        if inner.length < cs.length then
          (readAll? inner).map fun parts =>
            (.element (String.ofList (firstWord cs)) attributes parts.1, parts.2)
        else none
      | _ =>
        match Literal.read? body with
        | some (content, rest) =>
          some (.rawText (String.ofList (firstWord cs)) attributes (String.ofList content), rest)
        | none => some (.void (String.ofList (firstWord cs)) attributes, body)
  | ' ' :: literal =>
    match Literal.read? literal with
    | none => none
    | some (data, rest) =>
      if firstWord cs = textWord then some (.text (String.ofList data), rest)
      else if firstWord cs = commentWord then some (.comment (String.ofList data), rest)
      else none
  | _ => none
termination_by cs.length

def readAll? : List Char → Option (List NormalForm × List Char)
  | ']' :: rest => some ([], rest)
  | '\n' :: inner =>
    match read? inner with
    | some (child, ';' :: rest) =>
      if rest.length < inner.length then
        (readAll? rest).map fun parts => (child :: parts.1, parts.2)
      else none
    | _ => none
  | _ => none
termination_by cs => cs.length

end

/-! ## Normal forms that can be read back -/

mutual

def IsReadable : NormalForm → Prop
  | text _ | comment _ => True
  | void tag attributes => IsWord tag.toList ∧ ∀ attr ∈ attributes, IsSpelled attr
  | rawText tag attributes _ => IsWord tag.toList ∧ ∀ attr ∈ attributes, IsSpelled attr
  | element tag attributes children =>
    (IsWord tag.toList ∧ ∀ attr ∈ attributes, IsSpelled attr) ∧ AreReadable children

def AreReadable : List NormalForm → Prop
  | [] => True
  | child :: rest => IsReadable child ∧ AreReadable rest

end

/-- Whether a text that follows a tree cannot be taken for a part of it. -/
def EndsTree (rest : List Char) : Prop := rest = [] ∨ ∃ more, rest = ';' :: more

theorem EndsTree.read?_eq_none {rest : List Char} (ends : EndsTree rest) :
    Literal.read? rest = none := by
  rcases ends with rfl | ⟨more, rfl⟩ <;> rfl

theorem EndsTree.ne_bracket {rest inner : List Char} (ends : EndsTree rest) :
    rest ≠ '[' :: inner := by
  rintro rfl
  rcases ends with impossible | ⟨more, impossible⟩ <;> cases impossible

/-- A literal begins with a quote or a brace, not with a bracket. -/
theorem stringChars_append_ne_bracket (raw rest inner : List Char) :
    Literal.stringChars raw ++ rest ≠ '[' :: inner := by
  intro same
  have read := Literal.read?_stringChars raw rest
  rw [same] at read
  cases read

/-! ## Round trip -/

theorem openingChars_append (tag : String) (attributes : List (String × String))
    (body : List Char) :
    openingChars tag attributes ++ body =
      tag.toList ++ ' ' :: '[' :: (attributes.flatMap attributeChars ++ ']' :: ' ' :: body) := by
  simp [openingChars]

section Element

variable {tag : String} {attributes : List (String × String)}
  (opened : IsWord tag.toList ∧ ∀ attr ∈ attributes, IsSpelled attr)

include opened

theorem read?_opening_bracket {inner rest : List Char} {children : List NormalForm}
    (read : readAll? inner = some (children, rest)) :
    read? (openingChars tag attributes ++ '[' :: inner) =
      some (.element tag attributes children, rest) := by
  rw [openingChars_append, read?, afterWord_append opened.1 rfl, firstWord_append opened.1 rfl]
  simp only [readAttributes?_append opened.2]
  rw [if_pos, read, String.ofList_toList]
  · rfl
  · simp only [List.length_append, List.length_cons]
    omega

theorem read?_opening_stringChars (content rest : List Char) :
    read? (openingChars tag attributes ++ (Literal.stringChars content ++ rest)) =
      some (.rawText tag attributes (String.ofList content), rest) := by
  rw [openingChars_append, read?, afterWord_append opened.1 rfl, firstWord_append opened.1 rfl]
  simp only [readAttributes?_append opened.2]
  split
  · next inner same => exact absurd same (stringChars_append_ne_bracket content rest inner)
  · rw [Literal.read?_stringChars, String.ofList_toList]

theorem read?_opening {rest : List Char} (ends : EndsTree rest) :
    read? (openingChars tag attributes ++ rest) = some (.void tag attributes, rest) := by
  rw [openingChars_append, read?, afterWord_append opened.1 rfl, firstWord_append opened.1 rfl]
  simp only [readAttributes?_append opened.2]
  split
  · next inner same => exact absurd rfl ends.ne_bracket
  · rw [ends.read?_eq_none, String.ofList_toList]

end Element

theorem read?_word_stringChars {word : List Char} (plain : IsWord word) (data rest : List Char) :
    read? (word ++ ' ' :: (Literal.stringChars data ++ rest)) =
      if word = textWord then some (.text (String.ofList data), rest)
      else if word = commentWord then some (.comment (String.ofList data), rest)
      else none := by
  rw [read?, afterWord_append plain rfl, firstWord_append plain rfl]
  split
  · next inner same =>
    rw [List.cons.injEq] at same
    exact absurd same.2 (stringChars_append_ne_bracket data rest inner)
  · next literal _ same =>
    cases same
    rw [Literal.read?_stringChars]
  · next _ impossible => exact absurd rfl (impossible _)

mutual

/-- The code of a readable normal form is read back, if what follows cannot belong to it. -/
theorem read?_code_append : ∀ form : NormalForm, IsReadable form → ∀ rest, EndsTree rest →
    read? (code form ++ rest) = some (form, rest)
  | text data, _, rest, _ => by
      have written : code (text data) ++ rest =
          textWord ++ ' ' :: (Literal.stringChars data.toList ++ rest) := rfl
      rw [written, read?_word_stringChars (by decide), if_pos rfl, String.ofList_toList]
  | comment data, _, rest, _ => by
      have written : code (comment data) ++ rest =
          commentWord ++ ' ' :: (Literal.stringChars data.toList ++ rest) := rfl
      rw [written, read?_word_stringChars (by decide), if_neg (by decide), if_pos rfl,
        String.ofList_toList]
  | void tag attributes, readable, rest, ends => read?_opening readable ends
  | rawText tag attributes content, readable, rest, _ => by
      rw [code, List.append_assoc, read?_opening_stringChars readable, String.ofList_toList]
  | element tag attributes children, readable, rest, _ => by
      have inner := readAll?_codeOfAll_append children readable.2 rest
      rw [code, List.append_assoc, List.cons_append, List.append_assoc]
      exact read?_opening_bracket readable.1 inner

theorem readAll?_codeOfAll_append : ∀ children : List NormalForm, AreReadable children → ∀ rest,
    readAll? (codeOfAll children ++ ']' :: rest) = some (children, rest)
  | [], _, rest => by
      rw [codeOfAll, List.nil_append, readAll?]
  | child :: others, readable, rest => by
      have ends : EndsTree (';' :: (codeOfAll others ++ ']' :: rest)) := Or.inr ⟨_, rfl⟩
      have here := read?_code_append child readable.1 _ ends
      have later := readAll?_codeOfAll_append others readable.2 rest
      have written : codeOfAll (child :: others) ++ ']' :: rest =
          '\n' :: (code child ++ ';' :: (codeOfAll others ++ ']' :: rest)) := by
        simp [codeOfAll]
      rw [written, readAll?]
      simp only [here]
      rw [if_pos, later]
      · rfl
      · simp only [List.length_append, List.length_cons]
        omega

end

theorem eq_of_code_eq {first second : NormalForm} (firstReadable : first.IsReadable)
    (secondReadable : second.IsReadable) (same : first.code = second.code) : first = second := by
  have firstRead := read?_code_append first firstReadable [] (Or.inl rfl)
  have secondRead := read?_code_append second secondReadable [] (Or.inl rfl)
  rw [same, secondRead] at firstRead
  cases firstRead
  rfl

end NormalForm

/-! ## Trees without marks in their names -/

/-- Whether an attribute has no marks in its name, nor in its value if that is not quoted. -/
def Attribute.isPlain (tables : Tables) (attr : Attribute) : Bool :=
  decide (IsWord attr.name.toList) &&
    (!tables.isUnquoted attr.name || attr.value.all fun text => decide (IsWord text.toList))

/-- A plain attribute is spelled in the forms that can be read. -/
theorem Attribute.isSpelled_spelled {tables : Tables} (validated : tables.IsValidated)
    {attr : Attribute} (plain : attr.isPlain tables = true) :
    NormalForm.IsSpelled (attr.spelled tables) := by
  rw [isPlain, Bool.and_eq_true, decide_eq_true_eq] at plain
  refine ⟨Spelling.isSpelledName_attributeName validated plain.1,
    Spelling.isSpelledValue_attributeValue ?_⟩
  intro unquoted text given
  rw [unquoted, given] at plain
  simpa using plain.2

namespace Node

mutual

/-- Whether the names in a tree, and its unquoted values, have no marks. -/
def isPlain (tables : Tables) : Node → Bool
  | element tag attributes children =>
    decide (IsWord tag.toList) && attributes.all (Attribute.isPlain tables) &&
      arePlain tables children
  | text _ | comment _ | unrecognized .. | foreign _ => true

def arePlain (tables : Tables) : List Node → Bool
  | [] => true
  | node :: nodes => isPlain tables node && arePlain tables nodes

end

mutual

/-- The normal form of a plain tree can be read back. -/
theorem isReadable_of_normalForm? {settings : Settings} (validated : settings.tables.IsValidated) :
    ∀ node : Node, node.isPlain settings.tables = true → ∀ form,
      node.normalForm? settings = some form → form.IsReadable
  | text data, _, form, found => by
      cases found
      trivial
  | comment data, _, form, found => by
      cases found
      trivial
  | unrecognized kind data, _, form, found => by cases found
  | foreign typeName, _, form, found => by cases found
  | element tag attributes children, plain, form, found => by
      rw [isPlain, Bool.and_eq_true, Bool.and_eq_true, decide_eq_true_eq, List.all_eq_true] at plain
      obtain ⟨⟨word, plainAttributes⟩, plainChildren⟩ := plain
      have opened : IsWord (Text.lower tag).toList ∧
          ∀ attr ∈ attributes.map (Attribute.spelled settings.tables),
            NormalForm.IsSpelled attr := by
        refine ⟨isWord_lower word, ?_⟩
        intro spelled member
        obtain ⟨attr, present, rfl⟩ := List.mem_map.1 member
        exact Attribute.isSpelled_spelled validated (plainAttributes attr present)
      rw [normalForm?] at found
      split at found
      · cases found
        exact opened
      · split at found
        · cases found
          exact opened
        · cases found
          exact ⟨opened, areReadable_normalForms validated children plainChildren⟩

theorem areReadable_normalForms {settings : Settings} (validated : settings.tables.IsValidated) :
    ∀ children : List Node, arePlain settings.tables children = true →
      NormalForm.AreReadable (normalForms settings children)
  | [], _ => trivial
  | child :: others, plain => by
      rw [arePlain, Bool.and_eq_true] at plain
      have later := areReadable_normalForms validated others plain.2
      rw [normalForms]
      split
      · exact later
      · cases found : normalForm? settings child with
        | none => exact later
        | some form => exact ⟨isReadable_of_normalForm? validated child plain.1 form found, later⟩

end

end Node

/--
The text of a conversion determines the tree up to its normal form: with validated tables, two trees
that can be expressed and have no marks in their names and unquoted values are converted to the same
text exactly when they have the same normal form.
-/
theorem transpile_text_eq_iff {settings : Settings} (validated : settings.tables.IsValidated)
    {first second : Node} (firstRoot : first.isExpressible = true)
    (secondRoot : second.isExpressible = true) (firstPlain : first.isPlain settings.tables = true)
    (secondPlain : second.isPlain settings.tables = true) :
    (transpile settings (some first)).map Conversion.text =
        (transpile settings (some second)).map Conversion.text ↔
      first.normalForm? settings = second.normalForm? settings := by
  obtain ⟨firstForm, firstFound⟩ := Node.exists_normalForm settings firstRoot
  obtain ⟨secondForm, secondFound⟩ := Node.exists_normalForm settings secondRoot
  rw [transpile_text firstFound, transpile_text secondFound, firstFound, secondFound]
  constructor
  · intro same
    have codes : firstForm.code = secondForm.code :=
      String.ofList_injective (Except.ok.inj same)
    have firstReadable := Node.isReadable_of_normalForm? validated first firstPlain _ firstFound
    have secondReadable := Node.isReadable_of_normalForm? validated second secondPlain _ secondFound
    rw [NormalForm.eq_of_code_eq firstReadable secondReadable codes]
  · intro same
    cases same
    rfl

/--
The case of a tag, what stands below a void element and a doctype make no difference to the text,
and a closing bracket in a text does no harm.
-/
theorem transpile_text_sample :
    (transpile ⟨.sample, true⟩ (some (.element "DIV" [⟨"rows", some "3"⟩]
        [.element "BR" [] [.text "lost"], .unrecognized "Doctype" "html", .text "a \"];\" b"]))).map
        Conversion.text =
      (transpile ⟨.sample, true⟩ (some (.element "div" [⟨"rows", some "3"⟩]
        [.element "br" [] [], .text "a \"];\" b"]))).map Conversion.text := by
  refine (transpile_text_eq_iff Tables.isValidated_sample rfl rfl ?_ ?_).2 rfl
  · decide
  · decide

end MarkupDsl
