import MarkupDsl.Proofs.Emission.Agreement
import MarkupDsl.Proofs.Spelling.Apart

/-!
# Conversions with rearranged families

If the families of validated tables are apart, the order in which they are tried shows nowhere: not
in the direct search, not in the search after `data-`, not in the spelling of a name, and hence
neither in the text nor in the warnings of a conversion.
-/

namespace MarkupDsl

open Spelling

/--
The order of families that are apart is irrelevant: with the families of validated tables in any
other order, every name is found alike in both searches and spelled alike, and every tree is
converted alike.
-/
theorem transpile_rearranged {tables : Tables} (validated : tables.IsValidated)
    (apart : AreApart tables.namespaces) {families : List (String × Namespace)}
    (same : families.Perm tables.namespaces) :
    (∀ name : String,
      member? families name.toList = member? tables.namespaces name.toList ∧
      aliasMember? families name.toList = aliasMember? tables.namespaces name.toList ∧
      attributeName { tables with namespaces := families } name = attributeName tables name) ∧
    ∀ skipBlankText root,
      transpile ⟨{ tables with namespaces := families }, skipBlankText⟩ root =
        transpile ⟨tables, skipBlankText⟩ root := by
  have wellFormed := validated.wellFormed
  have alike := attributeName_perm wellFormed apart same
  constructor
  · intro name
    exact ⟨apart.member?_perm wellFormed.namespaces same name.toList,
      apart.aliasMember?_perm wellFormed.namespaces same name.toList, alike name⟩
  · intro skipBlankText root
    cases root with
    | none => rw [transpile_none, transpile_none]
    | some root =>
        exact (Settings.agreeOn_of_attributeName_eq skipBlankText fun name _ =>
          alike name).transpile_eq

/-- Tables with a family that begins like the alias of another one. -/
def Tables.intertwined : Tables :=
  { Tables.empty with
    namespaces := [
      ("x-", ⟨"X", NameSet.ofList ["y", "z"], true⟩),
      ("data-", ⟨"D", NameSet.ofList ["x-y"], true⟩)] }

theorem Tables.isValidated_intertwined : intertwined.IsValidated :=
  ⟨.mapping [(.text "namespaces", .mapping [
    (.text "x-", .mapping [(.text "namespace", .text "X"),
      (.text "names", .list [.text "y", .text "z"]), (.text "data_alias", .bool true)]),
    (.text "data-", .mapping [(.text "namespace", .text "D"),
      (.text "names", .list [.text "x-y"]), (.text "data_alias", .bool true)])])], rfl⟩

/-- Of a name and an alias of two families that are the same text, the name wins in either order. -/
theorem transpile_rearranged_intertwined :
    let families := Tables.intertwined.namespaces.reverse
    let root := Node.element "p" [⟨"data-x-y", some "1"⟩, ⟨"data-x-z", none⟩] []
    (Tables.intertwined.IsValidated ∧ AreApart Tables.intertwined.namespaces ∧
      families.Perm Tables.intertwined.namespaces) ∧
    attributeName { Tables.intertwined with namespaces := families } "data-x-y" = "D.x_y" ∧
    attributeName { Tables.intertwined with namespaces := families } "data-x-z" = "X.z" ∧
    transpile ⟨{ Tables.intertwined with namespaces := families }, false⟩ (some root) =
      transpile ⟨Tables.intertwined, false⟩ (some root) := by
  have apart : AreApart Tables.intertwined.namespaces := by decide
  have same := List.reverse_perm Tables.intertwined.namespaces
  have alike := transpile_rearranged Tables.isValidated_intertwined apart same
  have named : attributeName Tables.intertwined "data-x-y" = "D.x_y" := by decide +kernel
  have aliased : attributeName Tables.intertwined "data-x-z" = "X.z" := by decide +kernel
  exact ⟨⟨Tables.isValidated_intertwined, apart, same⟩, (alike.1 "data-x-y").2.2.trans named,
    (alike.1 "data-x-z").2.2.trans aliased, alike.2 false _⟩

end MarkupDsl
