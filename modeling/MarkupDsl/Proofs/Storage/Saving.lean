import MarkupDsl.Classification.Installation
import MarkupDsl.Delivery
import MarkupDsl.Proofs.Storage.NullPath
import MarkupDsl.Proofs.Storage.Way

/-!
# What saving a file changes

Saving makes the missing directories on the way to a file, one after the other from above, and then
writes the file.  Whatever it meets on the way, every entry stays as it was, apart from the file
itself, and whatever is new is a directory that the path passes.
-/

namespace MarkupDsl

namespace Store

variable {store before between after : Store} {path upper : FilePath} {place other : Place}
  {content : Content}

/-! ## Entries that are put -/

theorem lookup_put {entry : Entry} (below : place ≠ []) :
    entry? (store.put place entry) other =
      if other = place then some entry else store.entry? other := by
  unfold entry? put allEntries
  by_cases top : other = []
  · rw [if_pos top, if_pos top, if_neg fun same => below (same.symm.trans top)]
  · rw [if_neg top, if_neg top, List.cons_append, List.find?_cons]
    by_cases same : other = place
    · simp [same]
    · have apart : ¬ place = other := fun equal => same equal.symm
      simp only [decide_eq_false apart, if_neg same, List.find?_append, List.find?_filter]
      congr 3
      funext entry
      by_cases here : entry.1 = other
      · simp [here, same]
      · simp [here]

theorem ne_directory_of_eq_none (nothing : store.entry? place = none) :
    store.entry? place ≠ some .directory := by
  rw [nothing]
  rintro ⟨⟩

theorem ne_nil_of_ne_directory (other : store.entry? place ≠ some .directory) : place ≠ [] := by
  rintro rfl
  exact other rfl

/-! ## Steps -/

/-- A directory is made only where nothing stands. -/
theorem exists_of_makeDirectory (made : before.makeDirectory path = .ok after) :
    ∃ place, before.place path = .ok place ∧ before.entry? place = none ∧
      after = before.put place .directory := by
  obtain ⟨place, reached, made⟩ := bind_eq_ok_iff.1 made
  refine ⟨place, reached, ?_⟩
  split at made
  · cases made
  · next nothing =>
    cases made
    exact ⟨nothing, rfl⟩

/-- A file is written only where no directory stands. -/
theorem exists_of_writeFile (written : before.writeFile path content = .ok after) :
    ∃ place, before.place path = .ok place ∧ before.entry? place ≠ some .directory ∧
      after = before.put place (.file content) := by
  obtain ⟨place, reached, written⟩ := bind_eq_ok_iff.1 written
  refine ⟨place, reached, ?_⟩
  split at written
  · cases written
  · next free =>
    cases written
    exact ⟨free, rfl⟩

theorem hasDirectoriesOf_put {entry : Entry} (free : before.entry? place ≠ some .directory) :
    (before.put place entry).HasDirectoriesOf before where
  home := rfl
  directories := by
    intro other here
    have apart : other ≠ place := by
      rintro rfl
      exact free here
    rw [lookup_put (ne_nil_of_ne_directory free), if_neg apart]
    exact here

/-- A file takes the place of no directory. -/
theorem hasDirectoriesOf_of_put_file (free : before.entry? place ≠ some .directory) :
    before.HasDirectoriesOf (before.put place (.file content)) where
  home := rfl
  directories := by
    intro other here
    rw [lookup_put (ne_nil_of_ne_directory free)] at here
    split at here
    · cases here
    · exact here

/-! ## Directories on the way to a path -/

/-- A store that is reached by making directories on the way to a path, one after the other, wherever
this ends. -/
inductive Prepares (path : FilePath) (before : Store) : Store → Prop where
  | nothing : Prepares path before before
  | directory {between after : Store} {upper : FilePath} (earlier : Prepares path before between)
      (above : upper.IsAbove path) (made : between.makeDirectory upper = .ok after) :
      Prepares path before after

/-- What such a store holds: all entries that were there, and otherwise only directories that the path
passes. -/
structure IsPreparedFrom (after before : Store) (path : FilePath) : Prop where
  home : after.home = before.home
  kept : ∀ place entry, before.entry? place = some entry → after.entry? place = some entry
  made : ∀ place entry, after.entry? place = some entry → before.entry? place = some entry ∨
    (before.entry? place = none ∧ entry = .directory ∧ after.Passes path place)

namespace IsPreparedFrom

theorem refl (store : Store) (path : FilePath) : store.IsPreparedFrom store path :=
  ⟨rfl, fun _ _ => id, fun _ _ => .inl⟩

theorem hasDirectoriesOf (prepared : after.IsPreparedFrom before path) :
    after.HasDirectoriesOf before :=
  ⟨prepared.home, fun place => prepared.kept place .directory⟩

theorem trans (earlier : between.IsPreparedFrom before path)
    (later : after.IsPreparedFrom between path) : after.IsPreparedFrom before path where
  home := later.home.trans earlier.home
  kept := fun place entry here => later.kept place entry (earlier.kept place entry here)
  made := by
    intro place entry here
    rcases later.made place entry here with there | ⟨nothing, directory, passed⟩
    · rcases earlier.made place entry there with original | ⟨nothing, directory, passed⟩
      · exact .inl original
      · exact .inr ⟨nothing, directory, later.hasDirectoriesOf.passes passed⟩
    · refine .inr ⟨?_, directory, passed⟩
      rw [Option.eq_none_iff_forall_ne_some] at nothing ⊢
      exact fun entry original => nothing entry (earlier.kept place entry original)

theorem of_makeDirectory (above : upper.IsAbove path)
    (made : before.makeDirectory upper = .ok after) : after.IsPreparedFrom before path := by
  obtain ⟨place, reached, nothing, rfl⟩ := exists_of_makeDirectory made
  have free := ne_directory_of_eq_none nothing
  have below := ne_nil_of_ne_directory free
  refine ⟨rfl, ?_, ?_⟩
  · intro other entry here
    have apart : other ≠ place := by
      rintro rfl
      rw [nothing] at here
      cases here
    rw [lookup_put below, if_neg apart]
    exact here
  · intro other entry here
    rw [lookup_put below] at here
    split at here
    · next same =>
      cases same
      cases here
      have passed := passes_of_place above reached
      exact .inr ⟨nothing, rfl, (hasDirectoriesOf_put free).passes passed⟩
    · exact .inl here

end IsPreparedFrom

/-- However far the making of directories got, the store holds what it held, and new directories. -/
theorem Prepares.isPreparedFrom (prepares : Prepares path before after) :
    after.IsPreparedFrom before path := by
  induction prepares with
  | nothing => exact .refl _ _
  | directory earlier above made ih => exact ih.trans (.of_makeDirectory above made)

theorem Prepares.of_parent (prepares : Prepares path.parent before after) :
    Prepares path before after := by
  induction prepares with
  | nothing => exact .nothing
  | directory earlier above made ih => exact .directory ih above.of_parent made

/-- A directory is made, or it was there, or something else fails; only the first changes the store. -/
theorem ensureDirectory_cases (store : Store) (path : FilePath) :
    (∃ after, store.makeDirectory path = .ok after ∧ store.ensureDirectory path = (after, none)) ∨
      (store.entryAt path = .ok .directory ∧ store.ensureDirectory path = (store, none)) ∨
      ∃ failure, store.ensureDirectory path = (store, some failure) := by
  unfold ensureDirectory
  split
  · next after made => exact .inl ⟨after, made, rfl⟩
  · exact .inr (.inr ⟨_, rfl⟩)
  · by_cases there : store.hasDirectory path = true
    · rw [if_pos there]
      refine .inr (.inl ⟨?_, rfl⟩)
      unfold hasDirectory at there
      split at there
      · assumption
      · cases there
    · rw [if_neg there]
      exact .inr (.inr ⟨_, rfl⟩)

theorem prepares_ensureDirectory (store : Store) (path : FilePath) :
    Prepares path store (store.ensureDirectory path).1 := by
  rcases ensureDirectory_cases store path with ⟨after, made, same⟩ | ⟨_, same⟩ | ⟨failure, same⟩
  · rw [same]
    exact .directory .nothing (.refl path) made
  · rw [same]
    exact .nothing
  · rw [same]
    exact .nothing

theorem entryAt_of_ensureDirectory (done : store.ensureDirectory path = (after, none)) :
    after.entryAt path = .ok .directory := by
  rcases ensureDirectory_cases store path with ⟨made, new, same⟩ | ⟨there, same⟩ | ⟨failure, same⟩
  · cases same.symm.trans done
    obtain ⟨place, reached, nothing, rfl⟩ := exists_of_makeDirectory new
    have free := ne_directory_of_eq_none nothing
    refine entryAt_eq_ok_iff.2 ⟨place, (hasDirectoriesOf_put free).place_eq_ok reached, ?_⟩
    rw [lookup_put (ne_nil_of_ne_directory free), if_pos rfl]
  · cases same.symm.trans done
    exact there
  · cases same.symm.trans done

theorem Prepares.trans (earlier : Prepares path before between) (later : Prepares path between after) :
    Prepares path before after := by
  induction later with
  | nothing => exact earlier
  | directory _ above made ih => exact .directory ih above made

/-- Whether or not all directories can be made, nothing else is done. -/
theorem prepares_ensureDirectories (store : Store) (path : FilePath) :
    Prepares path store (store.ensureDirectories path).1 := by
  fun_induction ensureDirectories store path with
  | case1 => exact .nothing
  | case2 path _ _ after made ih =>
      rw [made] at ih
      exact ih.of_parent.trans (prepares_ensureDirectory after path)
  | case3 path _ _ after failure made ih =>
      rw [made] at ih
      exact ih.of_parent
  | case4 path => exact prepares_ensureDirectory _ path

theorem entryAt_of_ensureDirectories (done : store.ensureDirectories path = (after, none)) :
    after.entryAt path = .ok .directory := by
  fun_induction ensureDirectories store path with
  | case1 => cases done
  | case2 => exact entryAt_of_ensureDirectory done
  | case3 => cases done
  | case4 => exact entryAt_of_ensureDirectory done

/-! ## Saving -/

/-- What a store holds after a file was saved under a path that leads to a place: the file, every other
entry that was there, and otherwise exactly the missing directories that the path passes. -/
structure IsSavedFrom (after before : Store) (path : FilePath) (content : Content) (place : Place) :
    Prop where
  home : after.home = before.home
  leads : after.place path = .ok place
  saved : after.entry? place = some (.file content)
  target : before.entry? place ≠ some .directory
  others : ∀ other, other ≠ place → ∀ entry, after.entry? other = some entry ↔
    before.entry? other = some entry ∨
      (before.entry? other = none ∧ entry = .directory ∧ after.Passes path.parent other)

/-- Once the way to a file is complete, writing it is all that is left to do. -/
theorem IsPreparedFrom.isSavedFrom (prepared : between.IsPreparedFrom before path.parent)
    (complete : between.entryAt path.parent = .ok .directory)
    (written : between.writeFile path content = .ok after) :
    ∃ place, after.IsSavedFrom before path content place := by
  obtain ⟨place, reached, free, rfl⟩ := exists_of_writeFile written
  have below := ne_nil_of_ne_directory free
  have more : (between.put place (.file content)).HasDirectoriesOf between :=
    hasDirectoriesOf_put free
  refine ⟨place, prepared.home, more.place_eq_ok reached, ?_, ?_, ?_⟩
  · rw [lookup_put below, if_pos rfl]
  · exact fun directory => free (prepared.kept place .directory directory)
  · intro other apart entry
    rw [lookup_put below, if_neg apart]
    constructor
    · intro here
      refine (prepared.made other entry here).imp_right ?_
      rintro ⟨nothing, directory, passed⟩
      exact ⟨nothing, directory, more.passes passed⟩
    · rintro (original | ⟨nothing, rfl, passed⟩)
      · exact prepared.kept other entry original
      · exact directory_of_passes complete ((hasDirectoriesOf_of_put_file free).passes passed)

/-- A file is saved, or nothing but directories on the way to it is made. -/
theorem save_cases (store : Store) (path : FilePath) (content : Content) :
    (∃ after place, store.save path content = (after, none) ∧
        after.IsSavedFrom store path content place) ∨
      ∃ after failure, store.save path content = (after, some failure) ∧
        after.IsPreparedFrom store path.parent := by
  have prepared := (prepares_ensureDirectories store path.parent).isPreparedFrom
  unfold save
  split
  · next after failure made =>
    rw [made] at prepared
    exact .inr ⟨after, failure, rfl, prepared⟩
  · next between made =>
    rw [made] at prepared
    have complete := entryAt_of_ensureDirectories made
    split
    · next after written =>
      obtain ⟨place, saved⟩ := prepared.isSavedFrom complete written
      exact .inl ⟨after, place, rfl, saved⟩
    · next cause refused => exact .inr ⟨between, ⟨cause, path⟩, rfl, prepared⟩

end Store

/--
A delivery to a file changes only the file.  Either it succeeds: then the file holds the text, every
other entry is as it was, and the only new directories are the missing ones on the way to the file, all
of them.  Or it fails because the file cannot be written: then every entry is as it was, and there may be
new directories on the way.  The failure is a mistake exactly if the way gets to a null character.
-/
theorem deliver_file_changes_only_target (store : Store) (programs : Programs) (path : FilePath)
    (text : String) :
    let delivery := deliver store programs text (.file path)
    ((delivery.error = none ∧ ∃ place, delivery.store.IsSavedFrom store path (.text text) place) ∨
        ∃ failure, delivery.error = some (.notWritten path failure) ∧
          delivery.store.IsPreparedFrom store path.parent) ∧
      ((∃ error, delivery.error = some error ∧ error.isMistake = true) ↔ store.ReachesNull path) := by
  intro delivery
  rw [← Store.exists_cause_of_save_iff store (.text text)]
  rcases Store.save_cases store path (.text text) with
    ⟨after, place, same, saved⟩ | ⟨after, failure, same, prepared⟩
  · have delivered : delivery = ⟨after, "", [], none⟩ := by
      simp only [delivery, deliver, same]
    rw [delivered, same]
    refine ⟨.inl ⟨rfl, place, saved⟩, ?_⟩
    constructor <;> rintro ⟨_, ⟨⟩, _⟩
  · have delivered : delivery = ⟨after, "", [], some (.notWritten path failure)⟩ := by
      simp only [delivery, deliver, same]
    rw [delivered, same]
    refine ⟨.inr ⟨failure, rfl, prepared⟩, ?_⟩
    constructor
    · rintro ⟨_, ⟨⟩, mistake⟩
      exact ⟨failure, rfl, of_decide_eq_true mistake⟩
    · rintro ⟨_, ⟨⟩, null⟩
      exact ⟨_, rfl, decide_eq_true null⟩

/-- A null character in the name of a file is neither written nor reported as a failed delivery. -/
theorem deliver_file_nullName :
    let delivery := deliver ⟨[], []⟩ [] "t" (.file (.ofString "a\x00b"))
    ¬ (delivery.error = none ∨
      ∃ error, delivery.error = some error ∧ error.isMistake = false) := by
  decide +kernel

end MarkupDsl
