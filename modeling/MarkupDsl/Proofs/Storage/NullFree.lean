import MarkupDsl.Storage.Store

/-!
# Paths without null characters

A text without null characters is read as a path without them, and so are the paths that lead to it.
On such a path no operation of a store fails because of a null character: all its failures come from
what stands in the store, or from names that are too long.
-/

namespace MarkupDsl

/-! ## Pieces of texts -/

namespace Text

theorem mem_of_mem_intercalate {separator : List Char} {c : Char} {pieces : List (List Char)}
    (member : c ∈ separator.intercalate pieces) : c ∈ separator ∨ ∃ piece ∈ pieces, c ∈ piece := by
  induction pieces with
  | nil => cases member
  | cons first others ih =>
      cases others with
      | nil =>
          rw [List.intercalate_singleton] at member
          exact .inr ⟨first, List.mem_cons_self, member⟩
      | cons second others =>
          rw [List.intercalate_cons_cons, List.append_assoc, List.mem_append, List.mem_append]
            at member
          rcases member with here | between | later
          · exact .inr ⟨first, List.mem_cons_self, here⟩
          · exact .inl between
          · refine (ih later).imp_right ?_
            rintro ⟨piece, present, inside⟩
            exact ⟨piece, List.mem_cons_of_mem first present, inside⟩

end Text

/-! ## Paths -/

namespace FilePath

/-- Whether no part of a path holds a null character. -/
def IsNullFree (path : FilePath) : Prop := ∀ part ∈ path.parts, '\x00' ∉ part.toList

theorem IsNullFree.parent {path : FilePath} (free : path.IsNullFree) : path.parent.IsNullFree :=
  fun part member => free part (List.dropLast_subset _ member)

theorem IsNullFree.notMem_written {path : FilePath} (free : path.IsNullFree) :
    '\x00' ∉ path.written.toList := by
  unfold written
  split
  · decide
  · rw [String.toList_append, List.mem_append, String.toList_intercalate]
    rintro (anchored | joined)
    · revert anchored
      cases path.anchor <;> decide
    · rcases Text.mem_of_mem_intercalate joined with slash | ⟨piece, member, inside⟩
      · revert slash
        decide
      · obtain ⟨part, present, rfl⟩ := List.mem_map.1 member
        exact free part present inside

end FilePath

/-! ## Operations of a store -/

namespace Store

theorem follow_ne_nullCharacter (store : Store) (place : Place) (parts : List String) :
    store.follow place parts ≠ .error .nullCharacter := by
  fun_induction follow store place parts with
  | case1 => rintro ⟨⟩
  | case2 => rintro ⟨⟩
  | case3 => rintro ⟨⟩
  | case4 => rintro ⟨⟩
  | case5 _ _ _ _ _ ih => exact ih

variable {path : FilePath} (store : Store)

theorem place_ne_nullCharacter (free : path.IsNullFree) :
    store.place path ≠ .error .nullCharacter := by
  have absent : path.written.toList.contains '\x00' = false :=
    Bool.eq_false_iff.2 fun present => free.notMem_written (List.contains_iff_mem.1 present)
  unfold place
  rw [absent, if_neg Bool.false_ne_true]
  split
  · rintro ⟨⟩
  · exact follow_ne_nullCharacter store _ _

/-- A step that follows the place of such a path may only fail because of a null character itself. -/
theorem bind_place_ne_nullCharacter {α : Type} (free : path.IsNullFree)
    {next : Place → Except Cause α} (later : ∀ place, next place ≠ .error .nullCharacter) :
    (store.place path >>= next) ≠ .error .nullCharacter := by
  have reached := place_ne_nullCharacter store free
  cases reach : store.place path with
  | error cause =>
      rw [reach] at reached
      exact fun null => reached (congrArg Except.error (Except.error.inj null))
  | ok place => exact later place

theorem makeDirectory_ne_nullCharacter (free : path.IsNullFree) :
    store.makeDirectory path ≠ .error .nullCharacter := by
  refine bind_place_ne_nullCharacter store free fun place => ?_
  split <;> rintro ⟨⟩

theorem writeFile_ne_nullCharacter (free : path.IsNullFree) (content : Content) :
    store.writeFile path content ≠ .error .nullCharacter := by
  refine bind_place_ne_nullCharacter store free fun place => ?_
  split <;> rintro ⟨⟩

theorem cause_of_ensureDirectory (free : path.IsNullFree) {failure : Failure}
    (failed : (store.ensureDirectory path).2 = some failure) : failure.cause ≠ .nullCharacter := by
  have made := makeDirectory_ne_nullCharacter store free
  unfold ensureDirectory at failed
  split at failed
  · cases failed
  · cases failed
    rintro ⟨⟩
  · -- a directory that is there already makes up for any other failure
    next cause _ same =>
    rw [same] at made
    split at failed
    · cases failed
    · cases failed
      exact fun null => made (congrArg Except.error null)

theorem cause_of_ensureDirectories (free : path.IsNullFree) {failure : Failure}
    (failed : (store.ensureDirectories path).2 = some failure) :
    failure.cause ≠ .nullCharacter := by
  fun_induction ensureDirectories store path with
  | case1 =>
      cases failed
      rintro ⟨⟩
  | case2 => exact cause_of_ensureDirectory _ free failed
  | case3 path _ _ after inner same ih =>
      cases failed
      exact ih free.parent (congrArg Prod.snd same)
  | case4 => exact cause_of_ensureDirectory _ free failed

/-- Saving a file under a path without null characters does not fail because of one. -/
theorem cause_of_save (free : path.IsNullFree) {content : Content} {failure : Failure}
    (failed : (store.save path content).2 = some failure) : failure.cause ≠ .nullCharacter := by
  unfold save at failed
  split at failed
  · next after inner same =>
    cases failed
    exact cause_of_ensureDirectories store free.parent (congrArg Prod.snd same)
  · next after same =>
    split at failed
    · cases failed
    · next cause refused =>
      cases failed
      rintro rfl
      exact writeFile_ne_nullCharacter after free content refused

end Store

end MarkupDsl
