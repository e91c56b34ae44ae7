import MarkupDsl.Proofs.Spelling.Hyphen
import Mathlib.Data.Set.Insert

/-!
# Variants that coincide

The tag of a variant holds no hyphen and is none of the keywords with a spelling of their own, and
every such text is the tag of some keyword.  Keywords share a tag if they differ in hyphens and
underscores only, or if one of them is written as another one is spelled.
-/

namespace MarkupDsl.Literal

/-! ## Hyphens as underscores -/

def unhyphenated (raw : String) : String := String.ofList (Spelling.underscored raw.toList)

theorem hyphen_notMem_unhyphenated (raw : String) : '-' ∉ (unhyphenated raw).toList := by
  rw [unhyphenated, String.toList_ofList]
  exact Spelling.hyphen_notMem_underscored raw.toList

theorem unhyphenated_of_hyphen_notMem {raw : String} (free : '-' ∉ raw.toList) :
    unhyphenated raw = raw := by
  have kept : Spelling.underscored raw.toList = raw.toList.map id := by
    refine List.map_congr_left ?_
    rintro c member
    refine if_neg ?_
    rintro rfl
    exact free member
  rw [unhyphenated, kept, List.map_id, String.ofList_toList]

theorem unhyphenated_append (first second : String) :
    unhyphenated (first ++ second) = unhyphenated first ++ unhyphenated second := by
  unfold unhyphenated Spelling.underscored
  rw [String.toList_append, List.map_append, String.ofList_append]

/-- A word without hyphens and underscores comes from itself only. -/
theorem unhyphenated_eq_iff {raw word : String} (hyphen : '-' ∉ word.toList)
    (underscore : '_' ∉ word.toList) : unhyphenated raw = word ↔ raw = word := by
  constructor
  · rintro rfl
    refine (unhyphenated_of_hyphen_notMem ?_).symm
    intro member
    refine underscore ?_
    rw [unhyphenated, String.toList_ofList]
    exact List.mem_map.2 ⟨'-', member, rfl⟩
  · rintro rfl
    exact unhyphenated_of_hyphen_notMem hyphen

/-- With an underscore at its end it also comes from the word with a hyphen there. -/
theorem unhyphenated_eq_append_iff {raw word : String} (hyphen : '-' ∉ word.toList)
    (underscore : '_' ∉ word.toList) :
    unhyphenated raw = word ++ "_" ↔ raw = word ++ "_" ∨ raw = word ++ "-" := by
  constructor
  · intro same
    have parts : Spelling.underscored raw.toList = word.toList ++ ['_'] := by
      rw [← String.toList_inj, unhyphenated, String.toList_ofList, String.toList_append] at same
      exact same
    obtain ⟨front, back, split, frontSame, backSame⟩ := List.map_eq_append_iff.1 parts
    obtain ⟨c, rfl, last⟩ := List.map_eq_singleton_iff.1 backSame
    have bare : unhyphenated (String.ofList front) = word := by
      rw [unhyphenated, String.toList_ofList, ← String.toList_inj, String.toList_ofList]
      exact frontSame
    have written : raw = word ++ String.ofList [c] := by
      rw [← (unhyphenated_eq_iff hyphen underscore).1 bare, ← String.ofList_append, ← split,
        String.ofList_toList]
    rw [written]
    split_ifs at last with dash
    · exact .inr (by rw [dash])
    · exact .inl (by rw [last])
  · have kept := unhyphenated_of_hyphen_notMem hyphen
    rintro (rfl | rfl) <;>
    · rw [unhyphenated_append, kept]
      rfl

/-! ## Tags -/

def ownWords : List String := ["get", "post", "true", "false"]

def ownSpellings : List (String × String) :=
  [("get", "GET"), ("post", "POST"), ("true", "true_"), ("false", "false_")]

theorem variantTag_of_mem_ownSpellings {raw tag : String} (own : (raw, tag) ∈ ownSpellings) :
    variantTag raw = tag := by
  have all : ∀ entry ∈ ownSpellings, variantTag entry.1 = entry.2 := by decide
  exact all (raw, tag) own

theorem mem_ownSpellings_of_mem {raw : String} (own : raw ∈ ownWords) :
    (raw, variantTag raw) ∈ ownSpellings := by
  have all : ∀ word ∈ ownWords, (word, variantTag word) ∈ ownSpellings := by decide
  exact all raw own

theorem variantTag_of_notMem {raw : String} (plain : raw ∉ ownWords) :
    variantTag raw = unhyphenated raw := by
  rw [ownWords, List.mem_cons, List.mem_cons, List.mem_cons, List.mem_singleton, not_or, not_or,
    not_or] at plain
  obtain ⟨get, post, true, false⟩ := plain
  rw [variantTag, if_neg get, if_neg post, if_neg true, if_neg false]
  rfl

/-- A keyword with a spelling of its own comes from itself only. -/
theorem unhyphenated_eq_iff_of_mem {raw word : String} (own : word ∈ ownWords) :
    unhyphenated raw = word ↔ raw = word := by
  have plain : ∀ word ∈ ownWords, '-' ∉ word.toList ∧ '_' ∉ word.toList := by decide
  obtain ⟨hyphen, underscore⟩ := plain word own
  exact unhyphenated_eq_iff hyphen underscore

/-- The tags that variants have: without a hyphen, and no keyword with a spelling of its own. -/
structure IsVariantTag (tag : String) : Prop where
  hyphenFree : '-' ∉ tag.toList
  notOwn : tag ∉ ownWords

theorem isVariantTag_variantTag (raw : String) : IsVariantTag (variantTag raw) := by
  by_cases own : raw ∈ ownWords
  · have all : ∀ entry ∈ ownSpellings, '-' ∉ entry.2.toList ∧ entry.2 ∉ ownWords := by decide
    obtain ⟨free, other⟩ := all _ (mem_ownSpellings_of_mem own)
    exact ⟨free, other⟩
  · rw [variantTag_of_notMem own]
    refine ⟨hyphen_notMem_unhyphenated raw, ?_⟩
    intro word
    rw [← (unhyphenated_eq_iff_of_mem word).1 rfl] at word
    exact own word

/-- The keywords of a tag: those that make it with their hyphens as underscores, and the one that it
is the own spelling of. -/
theorem variantTag_eq_iff {raw tag : String} (formed : IsVariantTag tag) :
    variantTag raw = tag ↔ unhyphenated raw = tag ∨ (raw, tag) ∈ ownSpellings := by
  constructor
  · rintro rfl
    by_cases own : raw ∈ ownWords
    · exact .inr (mem_ownSpellings_of_mem own)
    · exact .inl (variantTag_of_notMem own).symm
  · rintro (made | own)
    · by_cases own : raw ∈ ownWords
      · rw [(unhyphenated_eq_iff_of_mem own).2 rfl] at made
        rw [made] at own
        exact absurd own formed.notOwn
      · rw [variantTag_of_notMem own, made]
    · exact variantTag_of_mem_ownSpellings own

theorem variantTag_eq_iff_of_own {raw word tag : String} (own : (word, tag) ∈ ownSpellings) :
    variantTag raw = tag ↔ unhyphenated raw = tag ∨ raw = word := by
  have formed : IsVariantTag tag := variantTag_of_mem_ownSpellings own ▸ isVariantTag_variantTag word
  rw [variantTag_eq_iff formed]
  refine or_congr_right ⟨?_, ?_⟩
  · intro also
    have unique : ∀ first ∈ ownSpellings, ∀ second ∈ ownSpellings,
        first.2 = second.2 → first.1 = second.1 := by decide
    exact unique _ also _ own rfl
  · rintro rfl
    exact own

/-! ## Keywords with the same tag -/

/-- When two keywords have the same variant. -/
inductive Coincide (a b : String) : Prop where
  | hyphens (same : unhyphenated a = unhyphenated b)
  | get (pair : ({a, b} : Set String) = {"get", "GET"})
  | post (pair : ({a, b} : Set String) = {"post", "POST"})
  | true (first : a ∈ ["true", "true_", "true-"]) (second : b ∈ ["true", "true_", "true-"])
  | false (first : a ∈ ["false", "false_", "false-"]) (second : b ∈ ["false", "false_", "false-"])

theorem eq_or_pair_eq_of_own {word tag a b : String} (own : (word, tag) ∈ ownSpellings)
    (hyphen : '-' ∉ tag.toList) (underscore : '_' ∉ tag.toList) (first : variantTag a = tag)
    (second : variantTag b = tag) : a = b ∨ ({a, b} : Set String) = {word, tag} := by
  rw [variantTag_eq_iff_of_own own, unhyphenated_eq_iff hyphen underscore] at first second
  rcases first with rfl | rfl <;> rcases second with rfl | rfl
  · exact .inl rfl
  · exact .inr (Set.pair_comm _ _)
  · exact .inr rfl
  · exact .inl rfl

theorem mem_of_own {word raw : String} (own : (word, word ++ "_") ∈ ownSpellings)
    (hyphen : '-' ∉ word.toList) (underscore : '_' ∉ word.toList)
    (same : variantTag raw = word ++ "_") : raw ∈ [word, word ++ "_", word ++ "-"] := by
  rw [variantTag_eq_iff_of_own own, unhyphenated_eq_append_iff hyphen underscore] at same
  rcases same with (rfl | rfl) | rfl <;> simp

theorem coincide_of_own {word tag a b : String} (own : (word, tag) ∈ ownSpellings)
    (first : variantTag a = tag) (second : variantTag b = tag) : Coincide a b := by
  have same : a = b → Coincide a b := fun equal => .hyphens (congrArg unhyphenated equal)
  have present := own
  simp only [ownSpellings, List.mem_cons, List.not_mem_nil, or_false, Prod.mk.injEq] at present
  rcases present with ⟨rfl, rfl⟩ | ⟨rfl, rfl⟩ | ⟨rfl, rfl⟩ | ⟨rfl, rfl⟩
  · exact (eq_or_pair_eq_of_own own (by decide) (by decide) first second).elim same .get
  · exact (eq_or_pair_eq_of_own own (by decide) (by decide) first second).elim same .post
  · have member (raw : String) (spelled : variantTag raw = "true" ++ "_") :=
      mem_of_own own (by decide) (by decide) spelled
    exact .true (member a first) (member b second)
  · have member (raw : String) (spelled : variantTag raw = "false" ++ "_") :=
      mem_of_own own (by decide) (by decide) spelled
    exact .false (member a first) (member b second)

/-- Keywords that differ in hyphens and underscores only have the same tag: those with a spelling of
their own have none of either. -/
theorem variantTag_eq_of_unhyphenated_eq {a b : String} (same : unhyphenated a = unhyphenated b) :
    variantTag a = variantTag b := by
  by_cases first : a ∈ ownWords
  · rw [(unhyphenated_eq_iff_of_mem first).2 rfl, eq_comm, unhyphenated_eq_iff_of_mem first] at same
    rw [same]
  by_cases second : b ∈ ownWords
  · rw [(unhyphenated_eq_iff_of_mem second).2 rfl, unhyphenated_eq_iff_of_mem second] at same
    rw [same]
  rw [variantTag_of_notMem first, variantTag_of_notMem second, same]

theorem variantTag_eq_variantTag_iff (a b : String) :
    variantTag a = variantTag b ↔ Coincide a b := by
  constructor
  · intro same
    by_cases own : ∃ word, (word, variantTag b) ∈ ownSpellings
    · obtain ⟨word, own⟩ := own
      exact coincide_of_own own same rfl
    · have made : ∀ raw, variantTag raw = variantTag b → unhyphenated raw = variantTag b := by
        intro raw tagged
        refine ((variantTag_eq_iff (isVariantTag_variantTag b)).1 tagged).resolve_right ?_
        exact fun also => own ⟨raw, also⟩
      exact .hyphens ((made a same).trans (made b rfl).symm)
  · rintro (same | pair | pair | ⟨first, second⟩ | ⟨first, second⟩)
    · exact variantTag_eq_of_unhyphenated_eq same
    · rcases Set.pair_eq_pair_iff.1 pair with ⟨rfl, rfl⟩ | ⟨rfl, rfl⟩ <;> decide
    · rcases Set.pair_eq_pair_iff.1 pair with ⟨rfl, rfl⟩ | ⟨rfl, rfl⟩ <;> decide
    · have all : ∀ word ∈ ["true", "true_", "true-"], variantTag word = "true_" := by decide
      rw [all a first, all b second]
    · have all : ∀ word ∈ ["false", "false_", "false-"], variantTag word = "false_" := by decide
      rw [all a first, all b second]

/--
The variants of keywords are the texts made of the sigil and a tag without a hyphen that is none of
the keywords with a spelling of their own.  Two keywords have the same variant exactly if they differ
in hyphens and underscores only, or are one of the keywords that are spelled in capitals and its
spelling, or belong to the same truth value.
-/
theorem encodeVariant_image_and_kernel :
    (∀ raw, ∃ tag, encodeVariant raw = "`" ++ tag) ∧
      (∀ tag, (∃ raw, encodeVariant raw = "`" ++ tag) ↔
        '-' ∉ tag.toList ∧ tag ∉ ["get", "post", "true", "false"]) ∧
      ∀ a b, encodeVariant a = encodeVariant b ↔ Coincide a b := by
  have opened : ∀ raw, encodeVariant raw = "`" ++ variantTag raw := fun _ => rfl
  have tagged : ∀ raw tag, encodeVariant raw = "`" ++ tag ↔ variantTag raw = tag := by
    intro raw tag
    rw [opened, String.append_right_inj]
  refine ⟨fun raw => ⟨_, opened raw⟩, ?_, ?_⟩
  · intro tag
    constructor
    · rintro ⟨raw, written⟩
      rw [tagged] at written
      obtain ⟨hyphenFree, notOwn⟩ := isVariantTag_variantTag raw
      rw [written] at hyphenFree notOwn
      exact ⟨hyphenFree, notOwn⟩
    · rintro ⟨hyphenFree, notOwn⟩
      refine ⟨tag, (tagged tag tag).2 ?_⟩
      rw [variantTag_of_notMem notOwn, unhyphenated_of_hyphen_notMem hyphenFree]
  · intro a b
    rw [opened b, tagged, variantTag_eq_variantTag_iff]

end MarkupDsl.Literal
