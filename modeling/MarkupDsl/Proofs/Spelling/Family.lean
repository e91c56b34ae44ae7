import MarkupDsl.Proofs.Classification.Validation
import MarkupDsl.Proofs.Text.Cut
import MarkupDsl.Spelling

/-!
# Members of families

A name that is spelled as a member of a family begins with the beginning of the family, after
`data-` if it is an alias, and what remains is one of the family's names.
-/

namespace MarkupDsl.Spelling

open Text

/--
A name is a member of one family exactly when it is made of its beginning and one of its names.
-/
theorem memberOf?_eq_some_iff {start : String} {family : Namespace} {name : List Char}
    {spelled : String} :
    memberOf? start family name = some spelled ↔
      ∃ bare, name = start.toList ++ bare ∧ String.ofList bare ∈ family.names ∧
        spelled = family.moduleName ++ "." ++ String.ofList (underscored bare) := by
  unfold memberOf?
  constructor
  · intro found
    split at found
    · cases found
    · next bare begun =>
      split at found
      · next present =>
        cases found
        exact ⟨bare, removeStart?_eq_some_iff.1 begun, present, rfl⟩
      · cases found
  · rintro ⟨bare, rfl, present, rfl⟩
    rw [removeStart?_append]
    exact if_pos present

/-- One of a family's names after its beginning is spelled with the module of the family. -/
theorem memberOf?_append {start bare : String} {family : Namespace} (own : bare ∈ family.names) :
    memberOf? start family (start ++ bare).toList =
      some (family.moduleName ++ "." ++ String.ofList (underscored bare.toList)) := by
  rw [String.toList_append]
  refine memberOf?_eq_some_iff.2 ⟨bare.toList, rfl, ?_, rfl⟩
  rw [String.ofList_toList]
  exact own

theorem toList_data_append (name : String) : ("data-" ++ name).toList = dataStart ++ name.toList :=
  String.toList_append

theorem exists_memberOf?_of_member? {namespaces : List (String × Namespace)} {name : List Char}
    {spelled : String} (found : member? namespaces name = some spelled) :
    ∃ entry ∈ namespaces, memberOf? entry.1 entry.2 name = some spelled :=
  List.exists_of_findSome?_eq_some found

theorem exists_memberOf?_of_namespaced? {tables : Tables} {name spelled : String}
    (found : namespaced? tables name = some spelled) :
    ∃ entry ∈ tables.namespaces, memberOf? entry.1 entry.2 name.toList = some spelled ∨
      ∃ bare, name.toList = dataStart ++ bare ∧ entry.2.dataAlias = true ∧
        memberOf? entry.1 entry.2 bare = some spelled := by
  unfold namespaced? at found
  cases direct : member? tables.namespaces name.toList with
  | some own =>
      rw [direct] at found
      cases found
      obtain ⟨entry, present, member⟩ := exists_memberOf?_of_member? direct
      exact ⟨entry, present, Or.inl member⟩
  | none =>
      rw [direct] at found
      change aliasMember? tables.namespaces name.toList = some spelled at found
      unfold aliasMember? at found
      split at found
      · cases found
      · next bare begun =>
        obtain ⟨entry, kept, member⟩ := exists_memberOf?_of_member? found
        obtain ⟨present, allowed⟩ := List.mem_filter.1 kept
        exact ⟨entry, present, Or.inr ⟨bare, removeStart?_eq_some_iff.1 begun, allowed, member⟩⟩

theorem exists_suffix_of_namespaced? {tables : Tables} {name spelled : String}
    (found : namespaced? tables name = some spelled) :
    ∃ entry ∈ tables.namespaces, ∃ bare, bare <:+ name.toList ∧
      spelled = entry.2.moduleName ++ "." ++ String.ofList (underscored bare) := by
  obtain ⟨entry, present, direct | ⟨inner, begun, _, aliased⟩⟩ :=
    exists_memberOf?_of_namespaced? found
  · obtain ⟨bare, written, _, same⟩ := memberOf?_eq_some_iff.1 direct
    exact ⟨entry, present, bare, ⟨entry.1.toList, written.symm⟩, same⟩
  · obtain ⟨bare, written, _, same⟩ := memberOf?_eq_some_iff.1 aliased
    refine ⟨entry, present, bare, ⟨dataStart ++ entry.1.toList, ?_⟩, same⟩
    rw [begun, written, List.append_assoc]

end MarkupDsl.Spelling
