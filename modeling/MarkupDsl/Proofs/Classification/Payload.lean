import MarkupDsl.Classification.Payload
import MarkupDsl.Classification.Source
import MarkupDsl.Proofs.Classification.WellFormed

/-!
# Tables read back from their plain data

The plain data of well-formed tables is accepted, and gives the tables with their families in the
order of their beginnings: sets, flags and families stay the same, only the order is lost.
-/

namespace MarkupDsl

/-! ## Ordered entries -/

section

variable {α : Type} {entry : String × α} {entries : List (String × α)}

theorem insertEntry_perm (entry : String × α) (entries : List (String × α)) :
    (insertEntry entry entries).Perm (entry :: entries) := by
  induction entries with
  | nil => exact .refl _
  | cons first rest ih =>
      unfold insertEntry
      split
      · exact .refl _
      · exact (ih.cons first).trans (.swap entry first rest)

theorem sortEntries_perm (entries : List (String × α)) : (sortEntries entries).Perm entries := by
  induction entries with
  | nil => exact .refl _
  | cons first rest ih => exact (insertEntry_perm first _).trans (ih.cons first)

theorem pairwise_insertEntry (sorted : entries.Pairwise fun first second => first.1 ≤ second.1) :
    (insertEntry entry entries).Pairwise fun first second => first.1 ≤ second.1 := by
  induction entries with
  | nil => exact List.pairwise_singleton _ _
  | cons first rest ih =>
      obtain ⟨least, sorted⟩ := List.pairwise_cons.1 sorted
      unfold insertEntry
      split
      · next below =>
        have below : entry.1 ≤ first.1 := String.not_lt.1 (String.lt_asymm below)
        refine List.pairwise_cons.2 ⟨?_, List.pairwise_cons.2 ⟨least, sorted⟩⟩
        exact List.forall_mem_cons.2
          ⟨below, fun other member => String.le_trans below (least other member)⟩
      · next above =>
        refine List.pairwise_cons.2 ⟨fun other member => ?_, ih sorted⟩
        rcases List.mem_cons.1 ((insertEntry_perm entry rest).subset member) with rfl | later
        · exact String.not_lt.1 above
        · exact least other later

theorem pairwise_sortEntries (entries : List (String × α)) :
    (sortEntries entries).Pairwise fun first second => first.1 ≤ second.1 := by
  induction entries with
  | nil => exact .nil
  | cons first rest ih => exact pairwise_insertEntry ih

end

/-! ## Sets -/

namespace NameSet

theorem insertName_of_lt {name : String} {names : List String}
    (least : ∀ other ∈ names, name < other) : insertName name names = name :: names := by
  cases names with
  | nil => rfl
  | cons first rest => exact if_pos (least first List.mem_cons_self)

theorem ofList_toList (names : NameSet) : ofList names.toList = names := by
  obtain ⟨list, sorted⟩ := names
  -- the names are inserted from the last to the first, each below all that are there
  induction list with
  | nil => rfl
  | cons first rest ih =>
      obtain ⟨least, later⟩ := List.pairwise_cons.1 sorted
      have same : (ofList rest).toList = rest := congrArg NameSet.toList (ih later)
      have inserted : insertName first (ofList rest).toList = first :: rest := by
        rw [same, insertName_of_lt least]
      change (⟨insertName first (ofList rest).toList, _⟩ : NameSet) = _
      congr 1

end NameSet

namespace Validation

theorem texts_map_text (names : List String) : texts (.list (names.map .text)) = .ok names := by
  refine all_eq_ok_iff.2 (List.ext_getElem ?_ fun position _ _ => ?_)
  · rw [List.length_mapIdx, List.length_map, List.length_map]
  · rw [List.getElem_mapIdx, List.getElem_map, List.getElem_map]
    rfl

theorem nameSet_payload {names : NameSet} (good : names.IsGood) :
    nameSet names.payload = .ok names := by
  refine bind_eq_ok_iff.2 ⟨names.toList, texts_map_text _, ?_⟩
  rw [NameSet.ofList_toList]
  exact lowerCaseNames_eq_ok_iff.2 ⟨rfl, good⟩

theorem suffixNameSet_payload {names : NameSet} (good : names.IsGood)
    (free : ∀ name ∈ names, '-' ∉ name.toList) : suffixNameSet names.payload = .ok names :=
  bind_eq_ok_iff.2 ⟨names, nameSet_payload good, hyphenFreeNames_eq_ok_iff.2 ⟨rfl, free⟩⟩

theorem optional_of_lookup? {α : Type} {name : String} {absent a : α} {read : Data → Checked α}
    {entries : List (Data × Data)} {value : Data} (found : Data.lookup? name entries = some value)
    (accepted : read value = .ok a) : optional name absent read entries = .ok a :=
  optional_eq_ok_iff.2 (.inr ⟨value, found, accepted⟩)

/-! ## Families -/

theorem family_payload {member : Namespace} (wellFormed : member.WellFormed) :
    family member.payload = .ok member := by
  have module : moduleName (.text member.moduleName) = .ok member.moduleName :=
    bind_eq_ok_iff.2 ⟨_, rfl, if_pos wellFormed.module⟩
  refine bind_eq_ok_iff.2 ⟨(member.moduleName, member.names, member.dataAlias), ?_, rfl⟩
  refine both_eq_ok_iff.2 ⟨?_, both_eq_ok_iff.2 ⟨?_, ?_⟩⟩
  · exact required_eq_ok_iff.2 ⟨_, rfl, module⟩
  · exact optional_of_lookup? rfl (nameSet_payload wellFormed.names)
  · exact optional_of_lookup? rfl rfl

theorem families_payload {members : List (String × Namespace)} (wellFormed : AreWellFormed members) :
    families (.mapping (members.map fun entry => (.text entry.1, entry.2.payload))) =
      .ok members := by
  have readings : all ((members.map fun entry => (Data.text entry.1, entry.2.payload)).map
      familyEntry) = .ok members := by
    rw [all_eq_ok_iff, List.map_map]
    refine List.map_congr_left fun entry member => ?_
    refine both_eq_ok_iff.2 ⟨within_eq_ok_iff.2 (within_eq_ok_iff.2 rfl), within_eq_ok_iff.2 ?_⟩
    exact family_payload (wellFormed.members entry member)
  refine bind_eq_ok_iff.2 ⟨members, readings, ?_⟩
  rw [uniqueEntries_of_nodup wellFormed.distinct]
  exact goodStarts_eq_ok_iff.2 ⟨rfl, wellFormed.starts⟩

end Validation

/-! ## Tables -/

namespace Tables

def ordered (tables : Tables) : Tables :=
  { tables with namespaces := sortEntries tables.namespaces }

theorem WellFormed.read_payload {tables : Tables} (wellFormed : tables.WellFormed) :
    Validation.tables tables.payload = .ok tables.ordered :=
  Validation.tables_mapping_eq_ok_iff.2 ⟨
    Validation.optional_of_lookup? rfl
      (Validation.suffixNameSet_payload wellFormed.suffixNames wellFormed.hyphenFree),
    Validation.optional_of_lookup? rfl
      (Validation.families_payload (wellFormed.namespaces.perm (sortEntries_perm _))),
    Validation.optional_of_lookup? rfl (Validation.nameSet_payload wellFormed.variantNames),
    Validation.optional_of_lookup? rfl (Validation.nameSet_payload wellFormed.numericNames),
    Validation.optional_of_lookup? rfl (Validation.nameSet_payload wellFormed.booleanNames),
    Validation.optional_of_lookup? rfl (Validation.nameSet_payload wellFormed.voidTags),
    Validation.optional_of_lookup? rfl (Validation.nameSet_payload wellFormed.rawTextTags),
    Validation.optional_of_lookup? rfl rfl⟩

theorem WellFormed.tablesOf_payload {tables : Tables} (wellFormed : tables.WellFormed)
    {document : String} (faithful : Yaml.read document = .ok tables.payload) (path : FilePath) :
    Source.tablesOf path document = .ok tables.ordered := by
  have some : tables.payload.isNothing = false := rfl
  unfold Source.tablesOf
  rw [faithful]
  dsimp only
  rw [some, if_neg Bool.false_ne_true, wellFormed.read_payload]
  rfl

end Tables

end MarkupDsl
