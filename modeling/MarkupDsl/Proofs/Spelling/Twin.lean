import MarkupDsl.Proofs.Spelling.Apart
import MarkupDsl.Proofs.Spelling.Hyphen

/-!
# Two spellings of one attribute

The name of an attribute loses `data-` when it is spelled as a member of an aliased family, but its
value goes by the name as it was written.  The two spellings of a member can stand for each other only
if the sets of names that decide on values treat them alike.  Those of the extended preset do so for
the htmx family.
-/

namespace MarkupDsl.Spelling

open Text

/-! ## Names -/

section

variable {tables : Tables} {start name : String} {family : Namespace} {entry : String × Namespace}

/-- What is left of a name after the beginning of a family is a name of whatever family it is split
for, if the families are apart. -/
theorem mem_names_of_append_eq (wellFormed : tables.WellFormed) (apart : AreApart tables.namespaces)
    (present : (start, family) ∈ tables.namespaces) (alsoPresent : entry ∈ tables.namespaces)
    {bare : String} (own : bare ∈ entry.2.names) (same : start ++ name = entry.1 ++ bare) :
    name ∈ family.names := by
  have begins : start.toList <+: (start ++ name).toList := by
    rw [String.toList_append]
    exact List.prefix_append _ _
  have alsoBegins : entry.1.toList <+: (start ++ name).toList := by
    rw [same, String.toList_append]
    exact List.prefix_append _ _
  cases apart.eq_of_prefix wellFormed.namespaces present alsoPresent begins alsoBegins
  rw [(String.append_right_inj start).1 same]
  exact own

/-- No text after `data-` is split at the beginning of a family. -/
theorem data_append_ne_append (wellFormed : tables.WellFormed)
    (free : ∀ entry ∈ tables.namespaces, ¬ dataStart <+: entry.1.toList)
    (present : entry ∈ tables.namespaces) (rest bare : String) :
    "data-" ++ rest ≠ entry.1 ++ bare := by
  intro same
  have begins : entry.1.toList <+: dataStart ++ rest.toList := by
    rw [← toList_data_append, same, String.toList_append]
    exact List.prefix_append _ _
  exact free entry present
    (dataStart_prefix_of_hyphen (wellFormed.namespaces.hyphen_mem present) begins)

/-- A name that begins like a family without being one of its names is claimed by no family, whether
it is written after `data-` or not. -/
theorem not_claims_of_notMem (wellFormed : tables.WellFormed) (apart : AreApart tables.namespaces)
    (free : ∀ entry ∈ tables.namespaces, ¬ dataStart <+: entry.1.toList)
    (present : (start, family) ∈ tables.namespaces) (foreign : name ∉ family.names) :
    (∀ entry ∈ tables.namespaces, ¬ Claims entry (start ++ name)) ∧
      ∀ entry ∈ tables.namespaces, ¬ Claims entry ("data-" ++ (start ++ name)) := by
  constructor
  · rintro entry alsoPresent ⟨bare, own, direct | ⟨_, written⟩⟩
    · exact foreign (mem_names_of_append_eq wellFormed apart present alsoPresent own direct)
    · exact data_append_ne_append wellFormed free present _ name written.symm
  · rintro entry alsoPresent ⟨bare, own, direct | ⟨_, written⟩⟩
    · exact data_append_ne_append wellFormed free alsoPresent _ bare direct
    · have inner := (String.append_right_inj "data-").1 written
      exact foreign (mem_names_of_append_eq wellFormed apart present alsoPresent own inner)

theorem namespaced?_eq_none_of_not_claims
    (unclaimed : ∀ entry ∈ tables.namespaces, ¬ Claims entry name) :
    namespaced? tables name = none := by
  rw [← Option.not_isSome_iff_eq_none, isSome_namespaced?_iff_claims]
  rintro ⟨entry, present, claims⟩
  exact unclaimed entry present claims

end

/-! ## Values -/

section

variable {tables : Tables} {name other start : String} {family : Namespace}

theorem attributeValue_congr (boolean : name ∈ tables.booleanNames ↔ other ∈ tables.booleanNames)
    (numeric : name ∈ tables.numericNames ↔ other ∈ tables.numericNames)
    (variants : name ∈ tables.variantNames ↔ other ∈ tables.variantNames) (value : Option String) :
    attributeValue tables name value = attributeValue tables other value := by
  cases value with
  | none => rfl
  | some value => simp only [attributeValue, boolean, numeric, variants]

/-- Whether a set has both spellings of a name of a family or none of them. -/
def TreatsAlike (names : NameSet) (start : String) (family : Namespace) : Prop :=
  ∀ bare ∈ family.names, start ++ bare ∈ names ↔ "data-" ++ (start ++ bare) ∈ names

/-- Whether the sets that decide on values treat the two spellings in a family alike. -/
structure ValuesAlike (tables : Tables) (start : String) (family : Namespace) : Prop where
  boolean : TreatsAlike tables.booleanNames start family
  numeric : TreatsAlike tables.numericNames start family
  variants : TreatsAlike tables.variantNames start family

theorem ValuesAlike.attributeValue_eq (alike : ValuesAlike tables start family) {bare : String}
    (own : bare ∈ family.names) (value : Option String) :
    attributeValue tables (start ++ bare) value =
      attributeValue tables ("data-" ++ (start ++ bare)) value :=
  attributeValue_congr (alike.boolean bare own) (alike.numeric bare own) (alike.variants bare own)
    value

end

/-! ## The spellings of htmx attributes -/

/-- Whether a spelling is one of a member of a family: a module, a dot and a name. -/
def IsNamespaced (tables : Tables) (spelled : String) : Prop :=
  ∃ entry ∈ tables.namespaces, ∃ member : String, spelled = entry.2.moduleName ++ "." ++ member

theorem not_isNamespaced_stringAttribute {tables : Tables} (validated : tables.IsValidated)
    (literal : String) : ¬ IsNamespaced tables ("string_attr " ++ literal) := by
  rintro ⟨entry, present, member, same⟩
  refine not_moduleName_prefix validated present (c := 's') rfl
    ("tring_attr ".toList ++ literal.toList) ?_
  have spelled : 's' :: ("tring_attr ".toList ++ literal.toList) =
      ("string_attr " ++ literal).toList := by
    rw [String.toList_append]
    rfl
  rw [spelled, same, String.append_assoc, String.toList_append]
  exact List.prefix_append _ _

/-- The sets of the extended preset list the htmx names in both spellings or in none. -/
theorem valuesAlike_htmx : ValuesAlike Preset.extended.tables "hx-" Preset.htmx := by
  have listed (names : List String)
      (both : ∀ bare ∈ Preset.htmxNames, "hx-" ++ bare ∈ names ↔ "data-" ++ ("hx-" ++ bare) ∈ names) :
      TreatsAlike (.ofList names) "hx-" Preset.htmx := by
    intro bare own
    rw [NameSet.mem_ofList, NameSet.mem_ofList]
    exact both bare (NameSet.mem_ofList.1 own)
  constructor
  case boolean => exact listed _ (by decide +kernel)
  case numeric => exact listed _ (by decide +kernel)
  case variants => exact listed _ (by decide +kernel)

/--
In the extended preset the two spellings of an htmx attribute can stand for each other.  A name of the
htmx family is spelled with its module after `hx-` and after `data-hx-`, and whatever value it has is
spelled alike in both cases.  Any other name is no member of a family in either spelling.
-/
theorem htmx_spellings_interchangeable (name : String) (value : Option String) :
    let tables := Preset.extended.tables
    (name ∈ Preset.htmx.names ∧
        attributeName tables ("hx-" ++ name) =
          "Hx." ++ String.ofList (underscored name.toList) ∧
        attributeName tables ("data-hx-" ++ name) = attributeName tables ("hx-" ++ name) ∧
        attributeValue tables ("data-hx-" ++ name) value =
          attributeValue tables ("hx-" ++ name) value) ∨
      (name ∉ Preset.htmx.names ∧
        ¬ IsNamespaced tables (attributeName tables ("hx-" ++ name)) ∧
        ¬ IsNamespaced tables (attributeName tables ("data-hx-" ++ name))) := by
  intro tables
  have validated : tables.IsValidated := Preset.isValidated_tables .extended
  have wellFormed := validated.wellFormed
  have apart : AreApart tables.namespaces := by decide
  have free : ∀ entry ∈ tables.namespaces, ¬ dataStart <+: entry.1.toList := by decide
  have present : ("hx-", Preset.htmx) ∈ tables.namespaces := by simp [tables, Preset.tables]
  have aliased : "data-hx-" ++ name = "data-" ++ ("hx-" ++ name) := by
    rw [← String.append_assoc]
    rfl
  rw [aliased]
  have hyphen : '-' ∈ ("hx-" ++ name).toList := by
    rw [String.toList_append]
    exact List.mem_append_left _ (by decide)
  have alsoHyphen : '-' ∈ ("data-" ++ ("hx-" ++ name)).toList := by
    rw [toList_data_append]
    exact List.mem_append_left _ (by decide)
  rw [attributeName_of_hyphen wellFormed hyphen, attributeName_of_hyphen wellFormed alsoHyphen]
  have named : Preset.htmx.moduleName ++ "." = "Hx." := by decide
  by_cases own : name ∈ Preset.htmx.names
  · rw [namespaced?_append wellFormed apart present own,
      namespaced?_data_append_of_aliased wellFormed apart free present rfl own,
      Option.getD_some, Option.getD_some, named]
    exact .inl ⟨own, rfl, rfl, (valuesAlike_htmx.attributeValue_eq own value).symm⟩
  · -- a name with a hyphen that no family claims is a string attribute in these tables
    obtain ⟨unclaimed, alsoUnclaimed⟩ := not_claims_of_notMem wellFormed apart free present own
    rw [namespaced?_eq_none_of_not_claims unclaimed,
      namespaced?_eq_none_of_not_claims alsoUnclaimed]
    exact .inr ⟨own, not_isNamespaced_stringAttribute validated _,
      not_isNamespaced_stringAttribute validated _⟩

end MarkupDsl.Spelling
