import MarkupDsl.Classification.Validation
import MarkupDsl.Proofs.Step

/-!
# Accepted tables

What the readings of the parts say about the whole: a reading of plain data succeeds exactly when
the readings of its parts do.  Tables that come out of a successful reading are called validated;
the names of their modules are capitalized identifiers.
-/

namespace MarkupDsl.Validation

/-! ## Readings made of readings -/

theorem both_eq_ok_iff {α β : Type} {first : Checked α} {second : Checked β} {pair : α × β} :
    both first second = .ok pair ↔ first = .ok pair.1 ∧ second = .ok pair.2 := by
  obtain ⟨a, b⟩ := pair
  cases first <;> cases second <;> simp [both]

theorem within_eq_ok_iff {α : Type} {locator : Locator} {reading : Checked α} {a : α} :
    within locator reading = .ok a ↔ reading = .ok a := by
  cases reading <;> simp [within]

/-- All readings of a list succeed exactly when each of them does. -/
theorem all_eq_ok_iff {α : Type} {readings : List (Checked α)} {values : List α} :
    all readings = .ok values ↔ readings = values.map .ok := by
  induction readings generalizing values with
  | nil => cases values <;> simp [all]
  | cons first rest ih =>
      unfold all
      constructor
      · intro accepted
        split at accepted
        · next a as found =>
          cases accepted
          obtain ⟨head, tail⟩ := both_eq_ok_iff.1 found
          rw [head, ih.1 tail, List.map_cons]
        · cases accepted
      · intro same
        cases values with
        | nil => cases same
        | cons a as =>
            rw [List.map_cons, List.cons.injEq] at same
            have heads : both first (all rest) = .ok (a, as) :=
              both_eq_ok_iff.2 ⟨same.1, ih.2 same.2⟩
            rw [heads]

/-- A required field is accepted exactly when it is there and its value is. -/
theorem required_eq_ok_iff {α : Type} {name : String} {read : Data → Checked α}
    {entries : List (Data × Data)} {a : α} :
    required name read entries = .ok a ↔
      ∃ value, Data.lookup? name entries = some value ∧ read value = .ok a := by
  unfold required
  rw [within_eq_ok_iff]
  cases Data.lookup? name entries <;> simp [fail]

/-- An optional field is accepted exactly when it is absent or its value is accepted. -/
theorem optional_eq_ok_iff {α : Type} {name : String} {absent : α} {read : Data → Checked α}
    {entries : List (Data × Data)} {a : α} :
    optional name absent read entries = .ok a ↔
      (Data.lookup? name entries = none ∧ absent = a) ∨
        ∃ value, Data.lookup? name entries = some value ∧ read value = .ok a := by
  unfold optional
  cases Data.lookup? name entries <;> simp [within_eq_ok_iff]

/-! ## Families -/

theorem hasModuleForm_of_moduleName {data : Data} {name : String}
    (accepted : moduleName data = .ok name) : hasModuleForm name.toList = true := by
  obtain ⟨text, _, formed⟩ := bind_eq_ok_iff.1 accepted
  split at formed
  · next form =>
    cases formed
    exact form
  · cases formed

/-- An identifier ends with its capital or with one of the others, and none of them is a line feed. -/
theorem getLast?_ne_lineFeed {first : Char} {rest : List Char} (capital : first.isUpper = true)
    (letters : ∀ c ∈ rest, c.isAlphanum = true ∨ c = '_') :
    (first :: rest).getLast? ≠ some '\n' := by
  intro ended
  rcases List.mem_cons.1 (List.mem_of_getLast? ended) with rfl | member
  · cases capital
  · rcases letters _ member with impossible | impossible <;> cases impossible

/-- A module name is a capital letter and letters, digits and underscores; one line feed may follow. -/
theorem hasModuleForm_eq_true_iff {name : List Char} :
    hasModuleForm name = true ↔ ∃ first rest ending, name = first :: (rest ++ ending) ∧
      first.isUpper = true ∧ (∀ c ∈ rest, c.isAlphanum = true ∨ c = '_') ∧
      (ending = [] ∨ ending = ['\n']) := by
  have identifier {first : Char} {rest : List Char} :
      (first.isUpper && rest.all fun c => c.isAlphanum || c == '_') = true ↔
        first.isUpper = true ∧ ∀ c ∈ rest, c.isAlphanum = true ∨ c = '_' := by
    simp
  constructor
  · intro form
    unfold hasModuleForm at form
    split at form
    · cases form
    · next first rest same =>
      obtain ⟨capital, letters⟩ := identifier.1 form
      split at same
      · next ended =>
        obtain ⟨body, rfl⟩ := List.getLast?_eq_some_iff.1 ended
        rw [List.dropLast_concat] at same
        exact ⟨first, rest, ['\n'], by rw [same]; rfl, capital, letters, .inr rfl⟩
      · exact ⟨first, rest, [], by rw [same, List.append_nil], capital, letters, .inl rfl⟩
  · rintro ⟨first, rest, ending, rfl, capital, letters, rfl | rfl⟩
    · rw [hasModuleForm, List.append_nil, if_neg (getLast?_ne_lineFeed capital letters)]
      exact identifier.2 ⟨capital, letters⟩
    · have ended : (first :: (rest ++ ['\n'])).getLast? = some '\n' := by
        rw [← List.cons_append, List.getLast?_concat]
      have body : (first :: (rest ++ ['\n'])).dropLast = first :: rest := by
        rw [← List.cons_append, List.dropLast_concat]
      rw [hasModuleForm, if_pos ended, body]
      exact identifier.2 ⟨capital, letters⟩

/-- The characters of a module name: letters, digits, underscores, and perhaps a line feed. -/
theorem isModuleChar_of_hasModuleForm {name : List Char} (form : hasModuleForm name = true) {c : Char}
    (member : c ∈ name) : (c.isAlphanum || c == '_' || c == '\n') = true := by
  rw [Bool.or_eq_true, Bool.or_eq_true, beq_iff_eq, beq_iff_eq]
  obtain ⟨first, rest, ending, rfl, capital, letters, ends⟩ := hasModuleForm_eq_true_iff.1 form
  rcases List.mem_cons.1 member with rfl | later
  · left; left
    change (c.isUpper || c.isLower || c.isDigit) = true
    rw [capital]
    rfl
  rcases List.mem_append.1 later with inner | final
  · exact .inl (letters c inner)
  · rcases ends with rfl | rfl
    · cases final
    · exact .inr (List.mem_singleton.1 final)

theorem hasModuleForm_of_family {data : Data} {accepted : Namespace}
    (found : family data = .ok accepted) : hasModuleForm accepted.moduleName.toList = true := by
  cases data with
  | mapping entries =>
      obtain ⟨⟨module, names, dataAlias⟩, fields, same⟩ := bind_eq_ok_iff.1 found
      cases same
      obtain ⟨_, _, named⟩ := required_eq_ok_iff.1 (both_eq_ok_iff.1 fields).1
      exact hasModuleForm_of_moduleName named
  | null | bool | int | float | text | illFormedText | bytes | list | moment | other => cases found

/-- What is found under a key was put there or had been there before. -/
theorem exists_mem_of_mem_putEntry {α β : Type} {same : α → α → Bool} {key : α} {value : β}
    {entries : List (α × β)} {entry : α × β} (member : entry ∈ putEntry same key value entries) :
    entry.2 = value ∨ entry ∈ entries := by
  induction entries with
  | nil =>
      left
      rw [List.mem_singleton.1 member]
  | cons first rest ih =>
      unfold putEntry at member
      split at member
      · rcases List.mem_cons.1 member with here | later
        · left
          rw [here]
        · exact Or.inr (List.mem_cons_of_mem _ later)
      · rcases List.mem_cons.1 member with here | later
        · right
          rw [here]
          exact List.mem_cons_self
        · rcases ih later with put | before
          · exact Or.inl put
          · exact Or.inr (List.mem_cons_of_mem _ before)

/-- The values of entries without repeated keys are values of the entries they were made from. -/
theorem exists_mem_of_mem_uniqueEntries {α β : Type} {same : α → α → Bool}
    {entries : List (α × β)} {entry : α × β} (member : entry ∈ uniqueEntries same entries) :
    ∃ original ∈ entries, entry.2 = original.2 := by
  suffices general : ∀ (unique : List (α × β)),
      entry ∈ entries.foldl (fun unique entry => putEntry same entry.1 entry.2 unique) unique →
        entry ∈ unique ∨ ∃ original ∈ entries, entry.2 = original.2 by
    rcases general [] member with impossible | found
    · cases impossible
    · exact found
  clear member
  induction entries with
  | nil =>
      intro unique member
      exact Or.inl member
  | cons first rest ih =>
      intro unique member
      rcases ih (putEntry same first.1 first.2 unique) member with put | ⟨original, later, value⟩
      · rcases exists_mem_of_mem_putEntry put with value | before
        · exact Or.inr ⟨first, List.mem_cons_self, value⟩
        · exact Or.inl before
      · exact Or.inr ⟨original, List.mem_cons_of_mem _ later, value⟩

theorem exists_family_of_families {data : Data} {accepted : List (String × Namespace)}
    (found : families data = .ok accepted) {entry : String × Namespace}
    (member : entry ∈ accepted) : ∃ source, family source = .ok entry.2 := by
  cases data with
  | mapping entries =>
      obtain ⟨read, readings, started⟩ := bind_eq_ok_iff.1 found
      unfold goodStarts at started
      split at started
      · cases started
        obtain ⟨original, present, value⟩ := exists_mem_of_mem_uniqueEntries member
        have reading : (.ok original : Checked _) ∈ entries.map familyEntry := by
          rw [all_eq_ok_iff.1 readings]
          exact List.mem_map_of_mem present
        obtain ⟨source, _, accepted⟩ := List.mem_map.1 reading
        rw [value]
        exact ⟨source.2, within_eq_ok_iff.1 (both_eq_ok_iff.1 accepted).2⟩
      · cases started
  | null | bool | int | float | text | illFormedText | bytes | list | moment | other => cases found

theorem hasModuleForm_of_families {data : Data} {accepted : List (String × Namespace)}
    (found : families data = .ok accepted) {entry : String × Namespace}
    (member : entry ∈ accepted) :
    hasModuleForm entry.2.moduleName.toList = true := by
  obtain ⟨_, read⟩ := exists_family_of_families found member
  exact hasModuleForm_of_family read

/-! ## Tables -/

/-- A mapping is accepted as tables exactly when each of its fields is accepted. -/
theorem tables_mapping_eq_ok_iff {entries : List (Data × Data)} {accepted : Tables} :
    tables (.mapping entries) = .ok accepted ↔
      optional "suffix_names" ∅ suffixNameSet entries = .ok accepted.suffixNames ∧
      optional "namespaces" [] families entries = .ok accepted.namespaces ∧
      optional "variant_names" ∅ nameSet entries = .ok accepted.variantNames ∧
      optional "numeric_names" ∅ nameSet entries = .ok accepted.numericNames ∧
      optional "boolean_names" ∅ nameSet entries = .ok accepted.booleanNames ∧
      optional "void_tags" ∅ nameSet entries = .ok accepted.voidTags ∧
      optional "raw_text_tags" ∅ nameSet entries = .ok accepted.rawTextTags ∧
      optional "hyphen_fallback" false boolean entries = .ok accepted.hyphenFallback := by
  constructor
  · intro found
    obtain ⟨fields, readings, same⟩ := bind_eq_ok_iff.1 found
    cases same
    simpa only [both_eq_ok_iff] using readings
  · intro readings
    refine bind_eq_ok_iff.2 ⟨(accepted.suffixNames, accepted.namespaces, accepted.variantNames,
      accepted.numericNames, accepted.booleanNames, accepted.voidTags, accepted.rawTextTags,
      accepted.hyphenFallback), ?_, rfl⟩
    simpa only [both_eq_ok_iff] using readings

end MarkupDsl.Validation

namespace MarkupDsl

/-- Tables that were read from plain data and accepted. -/
def Tables.IsValidated (tables : Tables) : Prop := ∃ data, Validation.tables data = .ok tables

/-- The modules of validated tables are capitalized identifiers; one line feed may follow each. -/
theorem Tables.IsValidated.hasModuleForm {tables : Tables} (validated : tables.IsValidated)
    {entry : String × Namespace} (member : entry ∈ tables.namespaces) :
    Validation.hasModuleForm entry.2.moduleName.toList = true := by
  obtain ⟨data, accepted⟩ := validated
  cases data with
  | mapping entries =>
      have field := (Validation.tables_mapping_eq_ok_iff.1 accepted).2.1
      rcases Validation.optional_eq_ok_iff.1 field with ⟨_, absent⟩ | ⟨value, _, families⟩
      · rw [← absent] at member
        cases member
      · exact Validation.hasModuleForm_of_families families member
  | null | bool | int | float | text | illFormedText | bytes | list | moment | other =>
      cases accepted

def Tables.sampleData : Data :=
  .mapping [
    (.text "numeric_names", .list [.text "rows"]),
    (.text "void_tags", .list [.text "br"])]

/-- The tables of a small part of plain HTML. -/
def Tables.sample : Tables :=
  { Tables.empty with numericNames := NameSet.ofList ["rows"], voidTags := NameSet.ofList ["br"] }

theorem Tables.isValidated_sample : Tables.sample.IsValidated := ⟨sampleData, rfl⟩

end MarkupDsl
