import MarkupDsl.Proofs.Storage.NullFree
import Mathlib.Tactic.Common

/-!
# Paths with null characters

No file can have a path with a null character.  Saving one fails because of it, unless one of the
directories before it cannot be made, which is found out first.
-/

namespace MarkupDsl

theorem Text.mem_intercalate {separator piece : List Char} {c : Char} {pieces : List (List Char)}
    (member : piece ∈ pieces) (inside : c ∈ piece) : c ∈ separator.intercalate pieces := by
  induction pieces with
  | nil => cases member
  | cons first others ih =>
      cases others with
      | nil =>
          rw [List.intercalate_singleton, ← List.mem_singleton.1 member]
          exact inside
      | cons second others =>
          rw [List.intercalate_cons_cons, List.append_assoc, List.mem_append, List.mem_append]
          rcases List.mem_cons.1 member with rfl | later
          · exact .inl inside
          · exact .inr (.inr (ih later))

namespace FilePath

theorem mem_written_of_not_isNullFree {path : FilePath} (null : ¬ path.IsNullFree) :
    '\x00' ∈ path.written.toList := by
  unfold IsNullFree at null
  push Not at null
  obtain ⟨part, member, inside⟩ := null
  have filled : ¬ (path.anchor = .home ∧ path.parts = []) := by
    rintro ⟨-, empty⟩
    rw [empty] at member
    cases member
  rw [written, if_neg filled, String.toList_append, List.mem_append, String.toList_intercalate]
  exact .inr (Text.mem_intercalate (List.mem_map_of_mem member) inside)

end FilePath

namespace Store

variable {path : FilePath} (store : Store)

theorem place_of_null (null : ¬ path.IsNullFree) : store.place path = .error .nullCharacter := by
  rw [place, List.contains_iff_mem.2 (FilePath.mem_written_of_not_isNullFree null)]
  rfl

/-- No directory is made on a path with a null character, nor before it. -/
theorem ensureDirectories_of_null (null : ¬ path.IsNullFree) :
    store.ensureDirectories path = (store, some ⟨.nullCharacter, path⟩) := by
  have unmade : store.makeDirectory path = .error .nullCharacter := by
    rw [makeDirectory, place_of_null store null]
    rfl
  have absent : store.hasDirectory path = false := by
    rw [hasDirectory, entryAt, place_of_null store null]
    rfl
  rw [ensureDirectories, unmade]
  change store.ensureDirectory path = _
  rw [ensureDirectory, unmade, absent]
  rfl

theorem writeFile_of_null (null : ¬ path.IsNullFree) (content : Content) :
    store.writeFile path content = .error .nullCharacter := by
  rw [writeFile, place_of_null store null]
  rfl

/-- A path with a null character that saving gets to: the directories before it are made, unless the
null character stands in one of them. -/
def ReachesNull (path : FilePath) : Prop :=
  ¬ path.IsNullFree ∧
    (path.parent.IsNullFree → (store.ensureDirectories path.parent).2 = none)

/-- Saving fails because of a null character exactly if it gets to one. -/
theorem exists_cause_of_save_iff (content : Content) :
    (∃ failure, (store.save path content).2 = some failure ∧ failure.cause = .nullCharacter) ↔
      store.ReachesNull path := by
  constructor
  · rintro ⟨failure, failed, null⟩
    refine ⟨fun free => cause_of_save store free failed null, fun free => ?_⟩
    unfold save at failed
    split at failed
    · next after inner made =>
      cases failed
      exact absurd null (cause_of_ensureDirectories store free (congrArg Prod.snd made))
    · next after made => rw [made]
  · rintro ⟨null, reached⟩
    -- the null character stands in the last part of the path or before it
    by_cases free : path.parent.IsNullFree
    · obtain ⟨after, made⟩ : ∃ after, store.ensureDirectories path.parent = (after, none) :=
        ⟨_, Prod.ext rfl (reached free)⟩
      refine ⟨⟨.nullCharacter, path⟩, ?_, rfl⟩
      rw [save, made]
      dsimp only
      rw [writeFile_of_null after null]
    · refine ⟨⟨.nullCharacter, path.parent⟩, ?_, rfl⟩
      rw [save, ensureDirectories_of_null store free]

end Store

end MarkupDsl
