import MarkupDsl.Proofs.Classification.Description
import MarkupDsl.Proofs.Classification.Payload
import Mathlib.Data.List.Nodup

/-!
# Canonical form

The plain data that tables are written as are a canonical form.  They are read as tables with the same
sets, flags and families, which are written as the same data again, and two validated tables are written
as the same data exactly when they differ in nothing but the order of their families.
-/

namespace MarkupDsl

/-! ## Sets -/

namespace NameSet

theorem ext_of_mem_iff {first second : NameSet} (same : ∀ name, name ∈ first ↔ name ∈ second) :
    first = second := by
  obtain ⟨names, sorted⟩ := first
  obtain ⟨others, alsoSorted⟩ := second
  have distinct {list : List String} (sorted : list.Pairwise (· < ·)) : list.Nodup :=
    sorted.imp String.ne_of_lt
  have reordered : names.Perm others :=
    (List.perm_ext_iff_of_nodup (distinct sorted) (distinct alsoSorted)).2 same
  have equal : names = others :=
    reordered.eq_of_pairwise
      (fun _ _ _ _ below above => absurd above (String.lt_asymm below)) sorted alsoSorted
  subst equal
  rfl

theorem payload_inj {first second : NameSet} : first.payload = second.payload ↔ first = second := by
  constructor
  · intro same
    obtain ⟨names, sorted⟩ := first
    obtain ⟨others, alsoSorted⟩ := second
    have equal : names = others :=
      List.map_injective_iff.2 (fun _ _ => Data.text.inj) (Data.list.inj same)
    subst equal
    rfl
  · rintro rfl
    rfl

end NameSet

/-! ## Families -/

theorem Namespace.payload_injective : Function.Injective Namespace.payload := by
  intro first second same
  obtain ⟨module, names, dataAlias⟩ := first
  obtain ⟨otherModule, otherNames, otherAlias⟩ := second
  simpa [payload, NameSet.payload_inj] using same

theorem sortEntries_eq_of_perm {α : Type} {entries others : List (String × α)}
    (distinct : (entries.map (·.1)).Nodup) (same : entries.Perm others) :
    sortEntries entries = sortEntries others := by
  have reordered : (sortEntries entries).Perm (sortEntries others) :=
    (sortEntries_perm entries).trans (same.trans (sortEntries_perm others).symm)
  refine reordered.eq_of_pairwise ?_ (pairwise_sortEntries entries) (pairwise_sortEntries others)
  intro first second member alsoMember le ge
  have present := (sortEntries_perm entries).subset member
  have alsoPresent := same.symm.subset ((sortEntries_perm others).subset alsoMember)
  exact List.inj_on_of_nodup_map distinct present alsoPresent (String.le_antisymm le ge)

/-! ## Tables -/

namespace Tables

/-- Whether tables have the same sets and flag, and the same families in whatever order. -/
structure Same (first second : Tables) : Prop where
  sets : ∀ (field : SetField) (name : String),
    name ∈ first.namesOf field ↔ name ∈ second.namesOf field
  namespaces : ∀ (start : String) (family : Namespace),
    (start, family) ∈ first.namespaces ↔ (start, family) ∈ second.namespaces
  hyphenFallback : first.hyphenFallback = second.hyphenFallback

theorem Same.namesOf_eq {first second : Tables} (same : first.Same second) (field : SetField) :
    first.namesOf field = second.namesOf field :=
  NameSet.ext_of_mem_iff (same.sets field)

theorem same_ordered (tables : Tables) : tables.ordered.Same tables where
  sets := fun field name => by cases field <;> rfl
  namespaces := fun _ _ => (sortEntries_perm tables.namespaces).mem_iff
  hyphenFallback := rfl

/-- Tables are written alike when they agree in everything but the order of their families. -/
theorem payload_eq_iff {first second : Tables} :
    first.payload = second.payload ↔
      (∀ field, first.namesOf field = second.namesOf field) ∧
        sortEntries first.namespaces = sortEntries second.namespaces ∧
        first.hyphenFallback = second.hyphenFallback := by
  have families {entries others : List (String × Namespace)} :
      entries.map (fun entry => (Data.text entry.1, entry.2.payload)) =
        others.map (fun entry => (Data.text entry.1, entry.2.payload)) ↔ entries = others := by
    refine (List.map_injective_iff.2 fun entry other same => ?_).eq_iff
    obtain ⟨start, family⟩ := Prod.mk.inj same
    exact Prod.ext (Data.text.inj start) (Namespace.payload_injective family)
  constructor
  · intro same
    simp only [payload, Data.mapping.injEq, List.cons.injEq, Prod.mk.injEq, NameSet.payload_inj,
      families, Data.bool.injEq, true_and, and_true] at same
    obtain ⟨suffix, namespaces, variant, numeric, boolean, void, raw, flag⟩ := same
    refine ⟨fun field => ?_, namespaces, flag⟩
    cases field <;> assumption
  · rintro ⟨sets, namespaces, flag⟩
    have suffix : first.suffixNames = second.suffixNames := sets .suffixNames
    have variant : first.variantNames = second.variantNames := sets .variantNames
    have numeric : first.numericNames = second.numericNames := sets .numericNames
    have boolean : first.booleanNames = second.booleanNames := sets .booleanNames
    have void : first.voidTags = second.voidTags := sets .voidTags
    have raw : first.rawTextTags = second.rawTextTags := sets .rawTextTags
    simp only [payload, suffix, namespaces, variant, numeric, boolean, void, raw, flag]

/-- Well-formed tables are written alike exactly when they are the same up to order. -/
theorem WellFormed.payload_eq_iff_same {first second : Tables} (wellFormed : first.WellFormed)
    (alsoWellFormed : second.WellFormed) : first.payload = second.payload ↔ first.Same second := by
  have distinct := wellFormed.namespaces.distinct
  have alsoDistinct := alsoWellFormed.namespaces.distinct
  rw [payload_eq_iff]
  constructor
  · rintro ⟨sets, namespaces, flag⟩
    refine ⟨fun field name => by rw [sets field], fun start family => ?_, flag⟩
    rw [← (sortEntries_perm first.namespaces).mem_iff, namespaces,
      (sortEntries_perm second.namespaces).mem_iff]
  · intro same
    have reordered : first.namespaces.Perm second.namespaces :=
      (List.perm_ext_iff_of_nodup distinct.of_map alsoDistinct.of_map).2 fun entry =>
        same.namespaces entry.1 entry.2
    exact ⟨same.namesOf_eq, sortEntries_eq_of_perm distinct reordered, same.hyphenFallback⟩

theorem WellFormed.ordered {tables : Tables} (wellFormed : tables.WellFormed) :
    tables.ordered.WellFormed :=
  { wellFormed with namespaces := wellFormed.namespaces.perm (sortEntries_perm _) }

/--
The plain data of validated tables are accepted and give the same tables, up to the order of their
families, and these are written as the same data again.  Validated tables are written as the same data
exactly when they are the same up to that order.
-/
theorem payload_canonical {tables : Tables} (validated : tables.IsValidated) :
    (∃ reread, Validation.tables tables.payload = .ok reread ∧ reread.Same tables ∧
      reread.payload = tables.payload) ∧
    ∀ other : Tables, other.IsValidated →
      (tables.payload = other.payload ↔ tables.Same other) := by
  have wellFormed := validated.wellFormed
  refine ⟨⟨tables.ordered, wellFormed.read_payload, tables.same_ordered, ?_⟩, ?_⟩
  · exact (wellFormed.ordered.payload_eq_iff_same wellFormed).2 tables.same_ordered
  · intro other alsoValidated
    exact wellFormed.payload_eq_iff_same alsoValidated.wellFormed

def familiesData (families : List (String × String × String)) : Data :=
  .mapping [(.text "namespaces", .mapping (families.map fun family =>
    (.text family.1, .mapping [
      (.text "namespace", .text family.2.1), (.text "names", .list [.text family.2.2])])))]

/-- Tables with the given families, in the order in which they are given. -/
def ofFamilies (families : List (String × String × String)) : Tables :=
  { Tables.empty with
    namespaces := families.map fun family =>
      (family.1, ⟨family.2.1, NameSet.ofList [family.2.2], false⟩) }

/-- Families in two orders are written as the same data; with another name, they are not. -/
theorem payload_canonical_reordered :
    ((ofFamilies [("y-", "Y", "a"), ("x-", "X", "b-c")]).IsValidated ∧
      (ofFamilies [("x-", "X", "b-c"), ("y-", "Y", "a")]).IsValidated ∧
      (ofFamilies [("x-", "X", "b-d"), ("y-", "Y", "a")]).IsValidated) ∧
    ((ofFamilies [("y-", "Y", "a"), ("x-", "X", "b-c")]).payload =
        (ofFamilies [("x-", "X", "b-c"), ("y-", "Y", "a")]).payload ∧
      (ofFamilies [("y-", "Y", "a"), ("x-", "X", "b-c")]).payload ≠
        (ofFamilies [("x-", "X", "b-d"), ("y-", "Y", "a")]).payload) := by
  have validated : (ofFamilies [("y-", "Y", "a"), ("x-", "X", "b-c")]).IsValidated :=
    ⟨familiesData [("y-", "Y", "a"), ("x-", "X", "b-c")], rfl⟩
  have ordered : (ofFamilies [("x-", "X", "b-c"), ("y-", "Y", "a")]).IsValidated :=
    ⟨familiesData [("x-", "X", "b-c"), ("y-", "Y", "a")], rfl⟩
  have other : (ofFamilies [("x-", "X", "b-d"), ("y-", "Y", "a")]).IsValidated :=
    ⟨familiesData [("x-", "X", "b-d"), ("y-", "Y", "a")], rfl⟩
  obtain ⟨_, written⟩ := payload_canonical validated
  refine ⟨⟨validated, ordered, other⟩, (written _ ordered).2 ⟨?_, ?_, rfl⟩, fun same => ?_⟩
  · intro field name
    cases field <;> exact Iff.rfl
  · intro start family
    simp [ofFamilies, or_comm]
  · have member := (((written _ other).1 same).namespaces "x-" ⟨"X", NameSet.ofList ["b-c"], false⟩).1
      (by decide)
    exact absurd member (by decide)

end Tables

end MarkupDsl
