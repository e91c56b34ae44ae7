import MarkupDsl.Proofs.Step
import MarkupDsl.Storage.Store
import Mathlib.Tactic.Common

/-!
# What a path gives access to

Whether something stands where a path leads to is told for all paths but those with a name that is too
long.  Where something stands, a text is read, unless it is a directory or holds bytes that encode
none.
-/

namespace MarkupDsl.Store

variable {store : Store} {path : FilePath}

/-- Why what stands where a path leads to is not read. -/
inductive Withholds (store : Store) (path : FilePath) : ReadError → Prop where
  | directory (found : store.entryAt path = .ok .directory) :
      Withholds store path (.unreachable .isDirectory)
  | illFormed {bytes : List UInt8} (found : store.entryAt path = .ok (.file (.illFormed bytes))) :
      Withholds store path .illFormed

/-! ## What is there -/

theorem entryAt_eq_ok_iff {entry : Entry} :
    store.entryAt path = .ok entry ↔
      ∃ place, store.place path = .ok place ∧ store.entry? place = some entry := by
  unfold entryAt
  rw [bind_eq_ok_iff]
  refine exists_congr fun place => and_congr_right fun _ => ?_
  cases store.entry? place with
  | none => exact ⟨by rintro ⟨⟩, by rintro ⟨⟩⟩
  | some other => exact ⟨fun same => congrArg some (Except.ok.inj same),
      fun same => congrArg Except.ok (Option.some.inj same)⟩

/-! ## Whether something is there -/

theorem hasEntry_of_entryAt {entry : Entry} (found : store.entryAt path = .ok entry) :
    store.hasEntry path = .ok true := by
  rw [hasEntry, found]

theorem hasEntry_of_overlong (overlong : store.entryAt path = .error .nameTooLong) :
    store.hasEntry path = .error .nameTooLong := by
  rw [hasEntry, overlong]

/-- The answers to the question whether something is there, each with what it comes from. -/
theorem hasEntry_cases (store : Store) (path : FilePath) :
    (∃ entry, store.entryAt path = .ok entry ∧ store.hasEntry path = .ok true) ∨
      store.hasEntry path = .ok false ∨
      (store.entryAt path = .error .nameTooLong ∧ store.hasEntry path = .error .nameTooLong) := by
  rw [hasEntry]
  cases found : store.entryAt path with
  | ok entry => exact .inl ⟨entry, rfl, rfl⟩
  | error cause =>
      cases cause with
      | nameTooLong => exact .inr (.inr ⟨rfl, rfl⟩)
      | missing | alreadyThere | notDirectory | isDirectory | nullCharacter =>
          exact .inr (.inl rfl)

/-! ## Reading -/

theorem readText_of_withholds {error : ReadError} (withheld : store.Withholds path error) :
    store.readText path = .error error := by
  cases withheld with
  | directory found => rw [readText, found]
  | illFormed found => rw [readText, found]; rfl

theorem Withholds.exists_entryAt {error : ReadError} (withheld : store.Withholds path error) :
    ∃ entry, store.entryAt path = .ok entry := by
  cases withheld with
  | directory found => exact ⟨_, found⟩
  | illFormed found => exact ⟨_, found⟩

theorem readText_cases {entry : Entry} (found : store.entryAt path = .ok entry) :
    (∃ error, store.Withholds path error ∧ store.readText path = .error error) ∨
      ∃ text, store.readText path = .ok text := by
  cases entry with
  | directory =>
      have withheld := Withholds.directory found
      exact .inl ⟨_, withheld, readText_of_withholds withheld⟩
  | file content =>
      cases content with
      | illFormed bytes =>
          have withheld := Withholds.illFormed found
          exact .inl ⟨_, withheld, readText_of_withholds withheld⟩
      | text data => exact .inr ⟨_, by rw [readText, found]; rfl⟩

end MarkupDsl.Store
