import MarkupDsl.Proofs.Binding
import MarkupDsl.Proofs.Spelling.Apart
import MarkupDsl.Proofs.Spelling.Hyphen

/-!
# Modules in the spelling of names

A member of a family is spelled by a module, a dot and a name.  A module has no dot, so it can be read
off the spelling: it is what stands before the first dot.  Accepted tables have the names of modules
there, and besides them such names with a line feed behind, which breaks the line before the dot.
-/

namespace MarkupDsl.Spelling

open Text
open Binding (IsCapitalLetter IsSmallLetter IsDigit)

/-! ## The names of modules -/

/-- The names of modules: a capital letter, then letters, digits and underscores. -/
inductive IsModuleName : List Char → Prop where
  | intro {first : Char} {rest : List Char} (capital : IsCapitalLetter first)
      (continues : ∀ c ∈ rest, IsCapitalLetter c ∨ IsSmallLetter c ∨ IsDigit c ∨ c = '_') :
      IsModuleName (first :: rest)

/-- The texts that a line feed keeps from being the names of modules. -/
def BreaksLine (module : List Char) : Prop := ∃ stem, IsModuleName stem ∧ module = stem ++ ['\n']

theorem isModuleName_iff {module : List Char} :
    IsModuleName module ↔ ∃ first rest, module = first :: rest ∧ first.isUpper = true ∧
      ∀ c ∈ rest, c.isAlphanum = true ∨ c = '_' := by
  simp only [isUpper_iff, Binding.isAlphanum_iff, or_assoc]
  constructor
  · rintro ⟨capital, continues⟩
    exact ⟨_, _, rfl, capital, continues⟩
  · rintro ⟨first, rest, rfl, capital, continues⟩
    exact ⟨capital, continues⟩

theorem BreaksLine.getLast?_eq {module : List Char} (breaks : BreaksLine module) :
    module.getLast? = some '\n' := by
  obtain ⟨stem, _, rfl⟩ := breaks
  exact List.getLast?_concat

theorem IsModuleName.getLast?_ne {module : List Char} (named : IsModuleName module) :
    module.getLast? ≠ some '\n' := by
  obtain ⟨first, rest, rfl, capital, letters⟩ := isModuleName_iff.1 named
  exact Validation.getLast?_ne_lineFeed capital letters

/-- The name of a module does not break the line. -/
theorem IsModuleName.not_breaksLine {module : List Char} (named : IsModuleName module) :
    ¬ BreaksLine module :=
  fun breaks => named.getLast?_ne breaks.getLast?_eq

/-- Accepted are the names of modules, with or without a line feed behind them. -/
theorem hasModuleForm_iff {module : List Char} :
    Validation.hasModuleForm module = true ↔ IsModuleName module ∨ BreaksLine module := by
  rw [Validation.hasModuleForm_eq_true_iff]
  constructor
  · rintro ⟨first, rest, ending, same, capital, letters, rfl | rfl⟩
    · rw [List.append_nil] at same
      exact .inl (isModuleName_iff.2 ⟨first, rest, same, capital, letters⟩)
    · exact .inr ⟨first :: rest, isModuleName_iff.2 ⟨first, rest, rfl, capital, letters⟩, same⟩
  · rintro (named | ⟨stem, named, same⟩)
    · obtain ⟨first, rest, same, capital, letters⟩ := isModuleName_iff.1 named
      exact ⟨first, rest, [], by rw [same, List.append_nil], capital, letters, .inl rfl⟩
    · obtain ⟨first, rest, rfl, capital, letters⟩ := isModuleName_iff.1 named
      exact ⟨first, rest, ['\n'], same, capital, letters, .inr rfl⟩

/-! ## The module of a spelling -/

/-- What stands before the first dot of a text. -/
def beforeDot (spelled : String) : List Char := spelled.toList.takeWhile (· != '.')

theorem beforeDot_append {module : String} (free : '.' ∉ module.toList) (member : String) :
    beforeDot (module ++ "." ++ member) = module.toList := by
  have parts : (module ++ "." ++ member).toList = module.toList ++ '.' :: member.toList := by
    rw [String.toList_append, String.toList_append, List.append_assoc]
    rfl
  rw [beforeDot, parts, takeWhile_append_mark free]

section

variable {tables : Tables} {name spelled : String}

/-- A name that is spelled as a member of a family takes no suffix. -/
theorem attributeName_of_namespaced? (wellFormed : tables.WellFormed)
    (found : namespaced? tables name = some spelled) : attributeName tables name = spelled := by
  have claimed := isSome_namespaced?_iff.1 (Option.isSome_of_eq_some found)
  rw [attributeName_of_hyphen wellFormed (hyphen_mem_of_claimants wellFormed claimed), found,
    Option.getD_some]

/--
A name that is spelled as a member of a family is spelled with the module of a family that claims it,
which is what stands before the first dot.  As a whole this is the name of a module, unless the tables
have a line feed behind that name.
-/
theorem beforeDot_isModuleName_iff {data : Data} (accepted : Validation.tables data = .ok tables)
    (found : namespaced? tables name = some spelled) :
    attributeName tables name = spelled ∧
      ∃ entry ∈ tables.namespaces, Claims entry name ∧
        beforeDot spelled = entry.2.moduleName.toList ∧
        (IsModuleName (beforeDot spelled) ↔ ¬ BreaksLine entry.2.moduleName.toList) := by
  have validated : tables.IsValidated := ⟨data, accepted⟩
  refine ⟨attributeName_of_namespaced? validated.wellFormed found, ?_⟩
  obtain ⟨entry, present, claims, member, rfl⟩ := exists_claims_of_namespaced? found
  have form := validated.hasModuleForm present
  have module := beforeDot_append (Validation.dot_notMem_of_hasModuleForm form) member
  refine ⟨entry, present, claims, module, ?_⟩
  rw [module]
  constructor
  · exact IsModuleName.not_breaksLine
  · exact (hasModuleForm_iff.1 form).resolve_right

end

/-- Data that tell two families, the first of them with a line feed behind its module. -/
def lineFedData : Data :=
  .mapping [
    (.text "namespaces", .mapping [
      (.text "aria-", .mapping [
        (.text "namespace", .text "Aria\n"), (.text "names", .list [.text "label"])]),
      (.text "hx-", .mapping [
        (.text "namespace", .text "Hx"), (.text "names", .list [.text "push-url"]),
        (.text "data_alias", .bool true)])])]

/-- The tables that these data tell. -/
def lineFedTables : Tables :=
  { Tables.empty with
    namespaces := [
      ("aria-", ⟨"Aria\n", NameSet.ofList ["label"], false⟩),
      ("hx-", ⟨"Hx", NameSet.ofList ["push-url"], true⟩)] }

theorem tables_lineFedData : Validation.tables lineFedData = .ok lineFedTables := by
  decide +kernel

/-- The second family is spelled with the name of a module, also after `data-`. -/
theorem beforeDot_isModuleName_iff_alias :
    let name := "data-hx-push-url"
    (Validation.tables lineFedData = .ok lineFedTables ∧
      namespaced? lineFedTables name = some "Hx.push_url") ∧
      attributeName lineFedTables name = "Hx.push_url" ∧
      beforeDot "Hx.push_url" = "Hx".toList ∧ IsModuleName (beforeDot "Hx.push_url") := by
  intro name
  have found : namespaced? lineFedTables name = some "Hx.push_url" := by decide +kernel
  have module : beforeDot "Hx.push_url" = "Hx".toList := by decide
  obtain ⟨spelled, entry, _, _, same, named⟩ :=
    beforeDot_isModuleName_iff tables_lineFedData found
  refine ⟨⟨tables_lineFedData, found⟩, spelled, module, named.2 ?_⟩
  rw [← same, module]
  exact fun breaks => absurd breaks.getLast?_eq (by decide)

/-- The first family is spelled with a line feed before the dot. -/
theorem attributeName_lineFed :
    (Validation.tables lineFedData = .ok lineFedTables ∧
      namespaced? lineFedTables "aria-label" = some "Aria\n.label" ∧
      attributeName lineFedTables "aria-label" = "Aria\n.label") ∧
    ¬ ∀ (data : Data) (tables : Tables) (name spelled : String),
      Validation.tables data = .ok tables → namespaced? tables name = some spelled →
        IsModuleName (beforeDot spelled) := by
  have found : namespaced? lineFedTables "aria-label" = some "Aria\n.label" := by decide +kernel
  refine ⟨⟨tables_lineFedData, found, by decide +kernel⟩, ?_⟩
  intro all
  have named := all _ _ _ _ tables_lineFedData found
  exact named.getLast?_ne (by decide)

end MarkupDsl.Spelling
