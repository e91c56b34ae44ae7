import MarkupDsl.Proofs.Storage.Access

/-!
# The way of a path

A path is followed part by part, and every part but the last has to lead to a directory.  So a path passes
the places to which the paths above it lead, and where it leads depends on the directories of a store
only: it leads there as well in any store that has more of them.
-/

namespace MarkupDsl

namespace FilePath

/-- Whether a path ends on the way of another one: it starts at the same place and has the first of its
parts. -/
def IsAbove (upper path : FilePath) : Prop :=
  upper.anchor = path.anchor ∧ upper.parts <+: path.parts

variable {upper path : FilePath}

theorem IsAbove.refl (path : FilePath) : path.IsAbove path := ⟨rfl, List.prefix_refl _⟩

theorem IsAbove.of_parent (above : upper.IsAbove path.parent) : upper.IsAbove path :=
  ⟨above.1, above.2.trans (List.dropLast_prefix _)⟩

end FilePath

namespace Store

def start (store : Store) (path : FilePath) : Place :=
  if path.anchor = .home then store.home else []

/-- Whether a path passes a place: some of its first parts lead there. -/
def Passes (store : Store) (path : FilePath) (place : Place) : Prop :=
  ∃ parts, parts <+: path.parts ∧ store.follow (store.start path) parts = .ok place

variable {store before after : Store} {path upper : FilePath} {place : Place}

/-! ## Following a path -/

/-- A path that can be written leads where its parts lead. -/
theorem place_eq_ok_iff :
    store.place path = .ok place ↔
      ('\x00' ∉ path.written.toList ∧ path.written.utf8ByteSize < 4096) ∧
        store.follow (store.start path) path.parts = .ok place := by
  unfold Store.place
  simp only [List.contains_iff_mem]
  split
  · next null => exact ⟨by rintro ⟨⟩, fun both => absurd null both.1.1⟩
  · next free =>
    split
    · next long => exact ⟨by rintro ⟨⟩, fun both => absurd long (Nat.not_le.2 both.1.2)⟩
    · next short => exact ⟨fun led => ⟨⟨free, Nat.lt_of_not_le short⟩, led⟩, And.right⟩

/-- A part that is no step back leads from a directory to what has its name there. -/
theorem follow_cons {base : Place} {part : String} {rest : List String}
    (here : store.entry? base = some .directory) (short : part.utf8ByteSize ≤ 255)
    (downward : part ≠ "..") :
    store.follow base (part :: rest) = store.follow (base ++ [part]) rest := by
  rw [follow, here]
  dsimp only
  rw [if_neg (Nat.not_lt.2 short), if_neg downward]

/-- The first parts of a path lead somewhere if the path does, and that is a directory if parts follow. -/
theorem exists_follow_of_append {base : Place} {first rest : List String}
    (led : store.follow base (first ++ rest) = .ok place) :
    ∃ middle, store.follow base first = .ok middle ∧ store.follow middle rest = .ok place := by
  fun_induction follow store base first with
  | case1 => exact ⟨_, rfl, led⟩
  | case2 base part parts missing =>
      rw [List.cons_append, follow, missing] at led
      cases led
  | case3 base part parts held here =>
      rw [List.cons_append, follow, here] at led
      cases led
  | case4 base part parts here long =>
      rw [List.cons_append, follow, here] at led
      dsimp only at led
      rw [if_pos long] at led
      cases led
  | case5 base part parts here short ih =>
      rw [List.cons_append, follow, here] at led
      dsimp only at led
      rw [if_neg short] at led
      exact ih led

/-- A path goes on only behind a directory. -/
theorem directory_of_follow_cons {base : Place} {part : String} {rest : List String}
    (led : store.follow base (part :: rest) = .ok place) :
    store.entry? base = some .directory := by
  unfold follow at led
  split at led
  · cases led
  · cases led
  · assumption

theorem passes_of_place (above : upper.IsAbove path) (led : store.place upper = .ok place) :
    store.Passes path place := by
  have followed := (place_eq_ok_iff.1 led).2
  rw [start, above.1] at followed
  exact ⟨upper.parts, above.2, followed⟩

theorem directory_of_passes (found : store.entryAt path = .ok .directory)
    (passed : store.Passes path place) : store.entry? place = some .directory := by
  obtain ⟨first, ⟨rest, whole⟩, led⟩ := passed
  obtain ⟨last, reached, standing⟩ := entryAt_eq_ok_iff.1 found
  have followed := (place_eq_ok_iff.1 reached).2
  rw [← whole] at followed
  obtain ⟨middle, same, onward⟩ := exists_follow_of_append followed
  cases led.symm.trans same
  cases rest with
  | nil =>
      cases onward
      exact standing
  | cons part rest => exact directory_of_follow_cons onward

/-! ## More directories -/

structure HasDirectoriesOf (after before : Store) : Prop where
  home : after.home = before.home
  directories : ∀ place, before.entry? place = some .directory →
    after.entry? place = some .directory

namespace HasDirectoriesOf

/-- Where a path leads depends on directories only. -/
theorem follow_eq_ok (more : after.HasDirectoriesOf before) {base : Place} {parts : List String}
    (led : before.follow base parts = .ok place) : after.follow base parts = .ok place := by
  fun_induction follow before base parts with
  | case1 => exact led
  | case2 => cases led
  | case3 => cases led
  | case4 => cases led
  | case5 base part rest here short ih =>
      rw [follow, more.directories base here]
      dsimp only
      rw [if_neg short]
      exact ih led

theorem start_eq (more : after.HasDirectoriesOf before) (path : FilePath) :
    after.start path = before.start path := by
  rw [start, start, more.home]

theorem place_eq_ok (more : after.HasDirectoriesOf before) (led : before.place path = .ok place) :
    after.place path = .ok place := by
  obtain ⟨writable, followed⟩ := place_eq_ok_iff.1 led
  rw [← more.start_eq] at followed
  exact place_eq_ok_iff.2 ⟨writable, more.follow_eq_ok followed⟩

theorem passes (more : after.HasDirectoriesOf before) (passed : before.Passes path place) :
    after.Passes path place := by
  obtain ⟨parts, first, led⟩ := passed
  rw [← more.start_eq] at led
  exact ⟨parts, first, more.follow_eq_ok led⟩

end HasDirectoriesOf

end Store

end MarkupDsl
