import MarkupDsl.Proofs.Classification.Validation
import Mathlib.Data.List.Induction

/-!
# Well-formed tables

What the checks of the validation leave: names in lower case, suffixed names without hyphens,
modules that are capitalized identifiers, and families whose beginnings are in lower case, end with
a hyphen and differ from each other.  Validated tables are well-formed.
-/

namespace MarkupDsl

/-! ## Well-formedness -/

/-- Whether all names of a set may stand in it. -/
def NameSet.IsGood (names : NameSet) : Prop := ∀ name ∈ names, Validation.isGoodName name = true

structure Namespace.WellFormed (family : Namespace) : Prop where
  module : Validation.hasModuleForm family.moduleName.toList = true
  names : family.names.IsGood

structure AreWellFormed (families : List (String × Namespace)) : Prop where
  distinct : (families.map (·.1)).Nodup
  starts : ∀ entry ∈ families, Validation.isGoodStart entry.1 = true
  members : ∀ entry ∈ families, entry.2.WellFormed

/-- Tables in which every name is where it may stand. -/
structure Tables.WellFormed (tables : Tables) : Prop where
  suffixNames : tables.suffixNames.IsGood
  hyphenFree : ∀ name ∈ tables.suffixNames, '-' ∉ name.toList
  namespaces : AreWellFormed tables.namespaces
  variantNames : tables.variantNames.IsGood
  numericNames : tables.numericNames.IsGood
  booleanNames : tables.booleanNames.IsGood
  voidTags : tables.voidTags.IsGood
  rawTextTags : tables.rawTextTags.IsGood

theorem NameSet.isGood_empty : (∅ : NameSet).IsGood := by
  intro name member
  cases member

theorem AreWellFormed.perm {families others : List (String × Namespace)}
    (wellFormed : AreWellFormed families) (same : others.Perm families) : AreWellFormed others where
  distinct := (same.map (·.1)).nodup_iff.2 wellFormed.distinct
  starts := fun entry member => wellFormed.starts entry (same.subset member)
  members := fun entry member => wellFormed.members entry (same.subset member)

theorem AreWellFormed.filter {families : List (String × Namespace)}
    (wellFormed : AreWellFormed families) (keep : String × Namespace → Bool) :
    AreWellFormed (families.filter keep) where
  distinct := wellFormed.distinct.sublist (List.filter_sublist.map _)
  starts := fun entry member => wellFormed.starts entry (List.mem_filter.1 member).1
  members := fun entry member => wellFormed.members entry (List.mem_filter.1 member).1

theorem AreWellFormed.hyphen_mem {families : List (String × Namespace)}
    (wellFormed : AreWellFormed families) {entry : String × Namespace} (present : entry ∈ families) :
    '-' ∈ entry.1.toList := by
  have good := wellFormed.starts entry present
  rw [Validation.isGoodStart, Bool.and_eq_true, beq_iff_eq] at good
  exact List.mem_of_getLast? good.1

/-! ## Entries without repeated keys -/

section

variable {α β : Type} [BEq α] [LawfulBEq α] {key : α} {value : β} {entries : List (α × β)}

theorem mem_keys_putEntry {other : α} :
    other ∈ (putEntry (· == ·) key value entries).map (·.1) ↔
      other = key ∨ other ∈ entries.map (·.1) := by
  induction entries with
  | nil => simp [putEntry]
  | cons first rest ih =>
      unfold putEntry
      split
      · next same =>
        have same : first.1 = key := eq_of_beq same
        simp [same]
      · simp only [List.map_cons, List.mem_cons, ih, or_left_comm]

theorem nodup_keys_putEntry (distinct : (entries.map (·.1)).Nodup) :
    ((putEntry (· == ·) key value entries).map (·.1)).Nodup := by
  induction entries with
  | nil => simp [putEntry]
  | cons first rest ih =>
      obtain ⟨fresh, distinct⟩ := List.nodup_cons.1 distinct
      unfold putEntry
      split
      · exact List.nodup_cons.2 ⟨fresh, distinct⟩
      · next different =>
        refine List.nodup_cons.2 ⟨?_, ih distinct⟩
        intro member
        rcases mem_keys_putEntry.1 member with same | later
        · exact different (beq_of_eq same)
        · exact fresh later

theorem putEntry_of_notMem (fresh : key ∉ entries.map (·.1)) :
    putEntry (· == ·) key value entries = entries ++ [(key, value)] := by
  induction entries with
  | nil => rfl
  | cons first rest ih =>
      rw [List.map_cons, List.mem_cons, not_or] at fresh
      unfold putEntry
      rw [if_neg fun same => fresh.1 (eq_of_beq same).symm, ih fresh.2]
      rfl

theorem nodup_keys_uniqueEntries (entries : List (α × β)) :
    ((uniqueEntries (· == ·) entries).map (·.1)).Nodup := by
  unfold uniqueEntries
  -- the induction is on the entries that are still to be put, whatever was put before
  suffices general : ∀ unique : List (α × β), (unique.map (·.1)).Nodup →
      ((entries.foldl (fun unique entry => putEntry (· == ·) entry.1 entry.2 unique) unique).map
        (·.1)).Nodup from
    general [] List.nodup_nil
  induction entries with
  | nil => exact fun _ distinct => distinct
  | cons first rest ih => exact fun unique distinct => ih _ (nodup_keys_putEntry distinct)

theorem uniqueEntries_of_nodup (distinct : (entries.map (·.1)).Nodup) :
    uniqueEntries (· == ·) entries = entries := by
  unfold uniqueEntries
  suffices general : ∀ unique : List (α × β), ((unique ++ entries).map (·.1)).Nodup →
      entries.foldl (fun unique entry => putEntry (· == ·) entry.1 entry.2 unique) unique =
        unique ++ entries from
    general [] distinct
  clear distinct
  induction entries with
  | nil => exact fun unique _ => (List.append_nil unique).symm
  | cons first rest ih =>
      intro unique distinct
      have fresh : first.1 ∉ unique.map (·.1) := by
        intro member
        rw [List.map_append, List.map_cons] at distinct
        exact (List.nodup_append.1 distinct).2.2 _ member _ List.mem_cons_self rfl
      rw [List.foldl_cons, putEntry_of_notMem fresh, ih]
      · rw [List.append_assoc]
        rfl
      · rw [List.append_assoc]
        exact distinct

end

/-! ## What the checks accept -/

namespace Validation

/-- A set is accepted, unchanged, exactly when its names are good. -/
theorem lowerCaseNames_eq_ok_iff {names accepted : NameSet} :
    lowerCaseNames names = .ok accepted ↔ accepted = names ∧ names.IsGood := by
  have good : (names.toList.filter fun name => !isGoodName name) = [] ↔ names.IsGood := by
    simp only [List.filter_eq_nil_iff, Bool.not_eq_true', Bool.not_eq_false]
    rfl
  unfold lowerCaseNames
  split
  · next none =>
    rw [Except.ok.injEq, eq_comm]
    exact ⟨fun same => ⟨same, good.1 none⟩, And.left⟩
  · next some =>
    constructor
    · intro impossible
      cases impossible
    · intro ⟨_, isGood⟩
      exact absurd (good.2 isGood) some

theorem hyphenFreeNames_eq_ok_iff {names accepted : NameSet} :
    hyphenFreeNames names = .ok accepted ↔
      accepted = names ∧ ∀ name ∈ names, '-' ∉ name.toList := by
  have free : (names.toList.filter fun name => name.toList.contains '-') = [] ↔
      ∀ name ∈ names, '-' ∉ name.toList := by
    simp only [List.filter_eq_nil_iff, List.contains_iff_mem]
    rfl
  unfold hyphenFreeNames
  split
  · next none =>
    rw [Except.ok.injEq, eq_comm]
    exact ⟨fun same => ⟨same, free.1 none⟩, And.left⟩
  · next some =>
    constructor
    · intro impossible
      cases impossible
    · intro ⟨_, isFree⟩
      exact absurd (free.2 isFree) some

theorem goodStarts_eq_ok_iff {families accepted : List (String × Namespace)} :
    goodStarts families = .ok accepted ↔
      accepted = families ∧ ∀ entry ∈ families, isGoodStart entry.1 = true := by
  have good : (families.find? fun entry => !isGoodStart entry.1) = none ↔
      ∀ entry ∈ families, isGoodStart entry.1 = true := by
    simp only [List.find?_eq_none, Bool.not_eq_true', Bool.not_eq_false]
  unfold goodStarts
  split
  · next none =>
    rw [Except.ok.injEq, eq_comm]
    exact ⟨fun same => ⟨same, good.1 none⟩, And.left⟩
  · next entry some =>
    constructor
    · intro impossible
      cases impossible
    · intro ⟨_, all⟩
      rw [good.2 all] at some
      cases some

/-! ## What is read is well-formed -/

theorem isGood_of_nameSet {data : Data} {names : NameSet} (accepted : nameSet data = .ok names) :
    names.IsGood := by
  obtain ⟨_, _, checked⟩ := bind_eq_ok_iff.1 accepted
  obtain ⟨rfl, good⟩ := lowerCaseNames_eq_ok_iff.1 checked
  exact good

theorem isGood_of_suffixNameSet {data : Data} {names : NameSet}
    (accepted : suffixNameSet data = .ok names) :
    names.IsGood ∧ ∀ name ∈ names, '-' ∉ name.toList := by
  obtain ⟨_, read, checked⟩ := bind_eq_ok_iff.1 accepted
  obtain ⟨rfl, free⟩ := hyphenFreeNames_eq_ok_iff.1 checked
  exact ⟨isGood_of_nameSet read, free⟩

/-- A field that may be absent has a property that the absent and all accepted values have. -/
theorem of_optional {α : Type} {P : α → Prop} {name : String} {absent : α}
    {read : Data → Checked α} {entries : List (Data × Data)} {a : α}
    (accepted : optional name absent read entries = .ok a) (missing : P absent)
    (given : ∀ value, read value = .ok a → P a) : P a := by
  rcases optional_eq_ok_iff.1 accepted with ⟨_, rfl⟩ | ⟨value, _, read⟩
  · exact missing
  · exact given value read

theorem wellFormed_of_family {data : Data} {accepted : Namespace}
    (found : family data = .ok accepted) : accepted.WellFormed := by
  refine ⟨hasModuleForm_of_family found, ?_⟩
  cases data with
  | mapping entries =>
      obtain ⟨_, fields, same⟩ := bind_eq_ok_iff.1 found
      cases same
      have names := (both_eq_ok_iff.1 (both_eq_ok_iff.1 fields).2).1
      exact of_optional names NameSet.isGood_empty fun _ => isGood_of_nameSet
  | null | bool | int | float | text | illFormedText | bytes | list | moment | other => cases found

theorem areWellFormed_of_families {data : Data} {accepted : List (String × Namespace)}
    (found : families data = .ok accepted) : AreWellFormed accepted := by
  cases data with
  | mapping entries =>
      obtain ⟨read, readings, checked⟩ := bind_eq_ok_iff.1 found
      obtain ⟨rfl, starts⟩ := goodStarts_eq_ok_iff.1 checked
      refine ⟨nodup_keys_uniqueEntries read, starts, fun entry member => ?_⟩
      obtain ⟨_, accepted⟩ := exists_family_of_families found member
      exact wellFormed_of_family accepted
  | null | bool | int | float | text | illFormedText | bytes | list | moment | other => cases found

end Validation

theorem Tables.IsValidated.wellFormed {tables : Tables} (validated : tables.IsValidated) :
    tables.WellFormed := by
  obtain ⟨data, accepted⟩ := validated
  cases data with
  | mapping entries =>
      obtain ⟨suffix, namespaces, variant, numeric, boolean, void, raw, _⟩ :=
        Validation.tables_mapping_eq_ok_iff.1 accepted
      have suffixed : tables.suffixNames.IsGood ∧ ∀ name ∈ tables.suffixNames, '-' ∉ name.toList :=
        Validation.of_optional
          (P := fun names => names.IsGood ∧ ∀ name ∈ names, '-' ∉ name.toList) suffix
          ⟨NameSet.isGood_empty, by rintro _ ⟨⟩⟩ fun _ => Validation.isGood_of_suffixNameSet
      have good {name : String} {names : NameSet}
          (field : Validation.optional name ∅ Validation.nameSet entries = .ok names) :
          names.IsGood :=
        Validation.of_optional field NameSet.isGood_empty fun _ => Validation.isGood_of_nameSet
      exact {
        suffixNames := suffixed.1
        hyphenFree := suffixed.2
        namespaces := Validation.of_optional namespaces
          ⟨List.nodup_nil, by rintro _ ⟨⟩, by rintro _ ⟨⟩⟩
          fun _ => Validation.areWellFormed_of_families
        variantNames := good variant
        numericNames := good numeric
        booleanNames := good boolean
        voidTags := good void
        rawTextTags := good raw }
  | null | bool | int | float | text | illFormedText | bytes | list | moment | other =>
      cases accepted

end MarkupDsl
