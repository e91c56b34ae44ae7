import MarkupDsl.Proofs.Classification.Presets
import MarkupDsl.Proofs.Literal.Reading
import MarkupDsl.Proofs.Spelling.Claimants

/-!
# Hyphens in the spelling of names

A hyphen in the emitted code would be read as a minus sign.  Names with a suffix have none, and a
member of a family is spelled by a module and a name without hyphens.  So with the fallback for
hyphenated names, the hyphens of a name show only between the delimiters of a string literal, and
exactly where no family claims the name.
-/

namespace MarkupDsl.Spelling

open Text

/-! ## Families that claim a name -/

/-- Whether a family claims a name: as its own, or after `data-` if it has the alias. -/
def Claims (entry : String × Namespace) (name : String) : Prop :=
  ∃ bare ∈ entry.2.names, name = entry.1 ++ bare ∨
    (entry.2.dataAlias = true ∧ name = "data-" ++ (entry.1 ++ bare))

section

variable {tables : Tables} {entry : String × Namespace} {name : String}

theorem Claims.isSome_namespaced? (present : entry ∈ tables.namespaces)
    (claims : Claims entry name) : (namespaced? tables name).isSome := by
  rw [namespaced?, Option.orElse_eq_orElse, Option.orElse_eq_or, Option.isSome_or, Bool.or_eq_true]
  obtain ⟨bare, own, direct | ⟨aliased, written⟩⟩ := claims
  · left
    rw [direct, member?, List.findSome?_isSome_iff]
    exact ⟨entry, present, by rw [memberOf?_append own]; rfl⟩
  · right
    rw [written, aliasMember?, toList_data_append, removeStart?_append]
    dsimp only
    rw [member?, List.findSome?_isSome_iff]
    exact ⟨entry, List.mem_filter.2 ⟨present, aliased⟩, by rw [memberOf?_append own]; rfl⟩

theorem exists_claims_of_namespaced? {spelled : String}
    (found : namespaced? tables name = some spelled) :
    ∃ entry ∈ tables.namespaces, Claims entry name ∧
      ∃ member, spelled = entry.2.moduleName ++ "." ++ member := by
  obtain ⟨entry, present, direct | ⟨inner, begun, aliased, member⟩⟩ :=
    exists_memberOf?_of_namespaced? found
  · obtain ⟨bare, written, own, same⟩ := memberOf?_eq_some_iff.1 direct
    refine ⟨entry, present, ⟨String.ofList bare, own, .inl ?_⟩, _, same⟩
    rw [← String.toList_inj, written, String.toList_append, String.toList_ofList]
  · obtain ⟨bare, written, own, same⟩ := memberOf?_eq_some_iff.1 member
    refine ⟨entry, present, ⟨String.ofList bare, own, .inr ⟨aliased, ?_⟩⟩, _, same⟩
    rw [← String.toList_inj, begun, written, toList_data_append, String.toList_append,
      String.toList_ofList]

/-- A name is spelled as a member of a family exactly if a family claims it. -/
theorem isSome_namespaced?_iff_claims :
    (namespaced? tables name).isSome ↔ ∃ entry ∈ tables.namespaces, Claims entry name := by
  constructor
  · intro found
    obtain ⟨spelled, found⟩ := Option.isSome_iff_exists.1 found
    obtain ⟨entry, present, claims, _⟩ := exists_claims_of_namespaced? found
    exact ⟨entry, present, claims⟩
  · rintro ⟨entry, present, claims⟩
    exact claims.isSome_namespaced? present

end

/-! ## Spellings without hyphens -/

theorem hyphen_notMem_underscored (cs : List Char) : '-' ∉ underscored cs := by
  intro member
  obtain ⟨c, _, same⟩ := List.mem_map.1 member
  split at same
  · cases same
  · next other => exact other same

theorem hyphen_notMem_of_hasModuleForm {name : List Char}
    (form : Validation.hasModuleForm name = true) : '-' ∉ name :=
  fun member => absurd (Validation.isModuleChar_of_hasModuleForm form member) (by decide)

variable {tables : Tables} {name : String}

/-- A member of a family is spelled without hyphens. -/
theorem hyphen_notMem_of_namespaced? (wellFormed : tables.WellFormed) {spelled : String}
    (found : namespaced? tables name = some spelled) : '-' ∉ spelled.toList := by
  obtain ⟨entry, present, bare, _, rfl⟩ := exists_suffix_of_namespaced? found
  have module := hyphen_notMem_of_hasModuleForm (wellFormed.namespaces.members entry present).module
  rw [String.toList_append, String.toList_append, List.mem_append, List.mem_append]
  rintro ((inModule | dot) | inName)
  · exact module inModule
  · exact absurd dot (by decide)
  · rw [String.toList_ofList] at inName
    exact hyphen_notMem_underscored bare inName

theorem hyphen_notMem_suffixed (wellFormed : tables.WellFormed)
    (suffixed : name ∈ tables.suffixNames) : '-' ∉ (name ++ "_").toList := by
  rw [String.toList_append, List.mem_append]
  rintro (inside | mark)
  · exact wellFormed.hyphenFree name suffixed inside
  · exact absurd mark (by decide)

/--
With the fallback for hyphenated names no hyphen shows as code.  The spelling of a name has no hyphen,
and if the name has one then a family claims it; or the name has a hyphen, no family claims it, and it
is spelled as `string_attr` and one string literal that reads back to exactly the name, whatever
follows.
-/
theorem attributeName_hyphens_quoted (validated : tables.IsValidated)
    (fallback : tables.hyphenFallback = true) (name : String) :
    ('-' ∉ (attributeName tables name).toList ∧
        ('-' ∈ name.toList → ∃ entry ∈ tables.namespaces, Claims entry name)) ∨
      ('-' ∈ name.toList ∧ (∀ entry ∈ tables.namespaces, ¬ Claims entry name) ∧
        ∃ literal, attributeName tables name = "string_attr " ++ literal ∧
          ∀ rest : String, Literal.read? (literal ++ rest).toList =
            some (name.toList, rest.toList)) := by
  have wellFormed := validated.wellFormed
  by_cases suffixed : name ∈ tables.suffixNames
  · left
    rw [attributeName, if_pos suffixed]
    exact ⟨hyphen_notMem_suffixed wellFormed suffixed,
      fun hyphen => absurd hyphen (wellFormed.hyphenFree name suffixed)⟩
  rw [attributeName_of_notMem suffixed]
  cases found : namespaced? tables name with
  | some spelled =>
      left
      have claimed := isSome_namespaced?_iff_claims.1 (Option.isSome_of_eq_some found)
      exact ⟨hyphen_notMem_of_namespaced? wellFormed found, fun _ => claimed⟩
  | none =>
      have unclaimed : ∀ entry ∈ tables.namespaces, ¬ Claims entry name := by
        intro entry present claims
        have some := claims.isSome_namespaced? present
        rw [found] at some
        cases some
      by_cases hyphen : '-' ∈ name.toList
      · right
        refine ⟨hyphen, unclaimed, Literal.encodeString name, ?_, ?_⟩
        · rw [Option.getD_none, if_pos ⟨fallback, hyphen⟩]
        · exact fun rest => (Literal.read?_encodeString_append name rest).1
      · left
        rw [Option.getD_none, if_neg fun both => hyphen both.2]
        exact ⟨hyphen, fun present => absurd present hyphen⟩

/-- A name with a hyphen, a quote and a closing sequence is quoted by the extended preset. -/
theorem attributeName_hyphens_quoted_closing :
    let name := "x-\"|\x7d"
    (Preset.extended.tables.IsValidated ∧ Preset.extended.tables.hyphenFallback = true) ∧
      '-' ∈ name.toList ∧
      (∀ entry ∈ Preset.extended.tables.namespaces, ¬ Claims entry name) ∧
      ∃ literal, attributeName Preset.extended.tables name = "string_attr " ++ literal ∧
        ∀ rest : String, Literal.read? (literal ++ rest).toList =
          some (name.toList, rest.toList) := by
  intro name
  have validated := Preset.isValidated_tables .extended
  have hyphen : '-' ∈ (attributeName Preset.extended.tables name).toList := by decide +kernel
  rcases attributeName_hyphens_quoted validated rfl name with ⟨free, _⟩ | quoted
  · exact absurd hyphen free
  · exact ⟨⟨validated, rfl⟩, quoted⟩

end MarkupDsl.Spelling
