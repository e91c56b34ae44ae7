import MarkupDsl.Proofs.CommandLine.Conversion
import MarkupDsl.Proofs.Storage.Saving

/-!
# Well-formed stores

The home of a store is a directory, and whatever stands in it stands in directories.  No operation on a
store destroys this, and so no run of the program does: every path leads to a place inside a directory,
and only there something new is put.
-/

namespace MarkupDsl

namespace Store

/-- Whether the home is a directory, and every entry stands in one. -/
structure WellFormed (store : Store) : Prop where
  home : store.entry? store.home = some .directory
  above : ∀ place entry, store.entry? place = some entry →
    store.entry? place.dropLast = some .directory

variable {store before after : Store} {path : FilePath} {place base : Place} {content : Content}

/-- Only the entries that a store lists can stand outside of directories. -/
theorem wellFormed_of_allEntries (home : store.entry? store.home = some .directory)
    (listed : ∀ entry ∈ store.allEntries, store.entry? entry.1.dropLast = some .directory) :
    store.WellFormed := by
  refine ⟨home, fun place entry here => ?_⟩
  unfold entry? at here
  split at here
  · next top =>
    rw [top]
    rfl
  · obtain ⟨found, present, rfl⟩ := Option.map_eq_some_iff.1 here
    have named := List.find?_some present
    have same : found.1 = place := of_decide_eq_true named
    exact same ▸ listed found (List.mem_of_find?_eq_some present)

example : WellFormed ⟨[(["work"], .directory)], ["work"]⟩ :=
  wellFormed_of_allEntries (by decide) (by decide)

namespace WellFormed

/-! ## Where paths lead -/

/-- Following parts from a place inside a directory leads to a place inside a directory, since every
part goes on from a directory. -/
theorem directory_above_of_follow (wellFormed : store.WellFormed) {parts : List String}
    (inside : store.entry? base.dropLast = some .directory)
    (led : store.follow base parts = .ok place) :
    store.entry? place.dropLast = some .directory := by
  fun_induction follow store base parts with
  | case1 =>
      cases led
      exact inside
  | case2 => cases led
  | case3 => cases led
  | case4 => cases led
  | case5 base part rest here short ih =>
      refine ih ?_ led
      split
      · exact wellFormed.above base.dropLast .directory inside
      · rw [List.dropLast_concat]
        exact here

theorem directory_above_of_place (wellFormed : store.WellFormed) (led : store.place path = .ok place) :
    store.entry? place.dropLast = some .directory := by
  refine wellFormed.directory_above_of_follow ?_ (place_eq_ok_iff.1 led).2
  unfold start
  split
  · exact wellFormed.above store.home .directory wellFormed.home
  · rfl

/-- A path without parts leads to a directory, so that no directory can be made there. -/
theorem makeDirectory_of_empty (wellFormed : store.WellFormed) (anchor : Anchor) :
    store.makeDirectory ⟨anchor, []⟩ = .error .alreadyThere := by
  have here : store.entry? (store.start ⟨anchor, []⟩) = some .directory := by
    unfold start
    split
    · exact wellFormed.home
    · rfl
  have led : store.place ⟨anchor, []⟩ = .ok (store.start ⟨anchor, []⟩) := by
    refine place_eq_ok_iff.2 ⟨?_, rfl⟩
    cases anchor <;> decide
  simp only [makeDirectory, led, bind, Except.bind, here]
  rfl

/-! ## Operations -/

theorem put (wellFormed : store.WellFormed) (free : store.entry? place ≠ some .directory)
    (inside : store.entry? place.dropLast = some .directory) (entry : Entry) :
    (store.put place entry).WellFormed := by
  have below := ne_nil_of_ne_directory free
  have more : (store.put place entry).HasDirectoriesOf store := hasDirectoriesOf_put free
  have kept := more.directories
  refine ⟨kept store.home wellFormed.home, fun other standing here => ?_⟩
  rw [lookup_put below] at here
  split at here
  · next same => exact same ▸ kept _ inside
  · exact kept _ (wellFormed.above other standing here)

theorem makeDirectory (wellFormed : before.WellFormed) (made : before.makeDirectory path = .ok after) :
    after.WellFormed := by
  obtain ⟨place, led, nothing, rfl⟩ := exists_of_makeDirectory made
  exact wellFormed.put (ne_directory_of_eq_none nothing) (wellFormed.directory_above_of_place led) _

theorem writeFile (wellFormed : before.WellFormed)
    (written : before.writeFile path content = .ok after) : after.WellFormed := by
  obtain ⟨place, led, free, rfl⟩ := exists_of_writeFile written
  exact wellFormed.put free (wellFormed.directory_above_of_place led) _

/-- However far the making of directories got. -/
theorem of_prepares (wellFormed : before.WellFormed) (prepares : Prepares path before after) :
    after.WellFormed := by
  induction prepares with
  | nothing => exact wellFormed
  | directory _ _ made ih => exact ih.makeDirectory made

theorem save (wellFormed : store.WellFormed) (path : FilePath) (content : Content) :
    (store.save path content).1.WellFormed := by
  have prepared := wellFormed.of_prepares (prepares_ensureDirectories store path.parent)
  unfold Store.save
  split
  · next after failure made =>
    rw [made] at prepared
    exact prepared
  · next between made =>
    rw [made] at prepared
    split
    · next after written => exact prepared.writeFile written
    · exact prepared

end WellFormed

end Store

/-! ## Deliveries and runs -/

theorem store_runProgram (store : Store) (program : String) (arguments : List String) (input : String)
    (conduct : Conduct) : (runProgram store program arguments input conduct).store = store := by
  unfold runProgram
  split <;> rfl

theorem Store.WellFormed.deliver {store : Store} (wellFormed : store.WellFormed) (programs : Programs)
    (text : String) (destination : Destination) :
    (deliver store programs text destination).store.WellFormed := by
  cases destination with
  | standardOutput => exact wellFormed
  | file path =>
      have saved := wellFormed.save path (.text text)
      rw [MarkupDsl.deliver]
      split
      · next after same =>
        rw [same] at saved
        exact saved
      · next after failure same =>
        rw [same] at saved
        exact saved
  | clipboard commands =>
      rw [MarkupDsl.deliver]
      split
      · exact wellFormed
      · exact wellFormed
      · split
        · exact wellFormed
        · rw [store_runProgram]
          exact wellFormed

namespace CommandLine

variable {surroundings : Surroundings}

theorem convert_wellFormed (options : Options) (wellFormed : surroundings.store.WellFormed) :
    (convert options surroundings).store.WellFormed := by
  cases converted : options.conversion surroundings with
  | error obstacle =>
      rw [(convert_of_stops (.unconverted converted)).2.store]
      exact wellFormed
  | ok conversion =>
      cases made : options.code conversion with
      | error obstacle =>
          rw [(convert_of_stops (.unbound converted made)).2.store]
          exact wellFormed
      | ok code =>
          rw [(convert_follows converted made).store]
          exact wellFormed.deliver _ _ _

/-- Whatever a run is asked for, it leaves a well-formed store behind. -/
theorem run_wellFormed (arguments : List String) (wellFormed : surroundings.store.WellFormed) :
    (run arguments surroundings).store.WellFormed := by
  rw [run]
  split
  · exact wellFormed
  · exact wellFormed
  · next request _ =>
    cases request with
    | explanation => exact wellFormed
    | conversion options => exact convert_wellFormed options wellFormed
    | display tables =>
        rw [Request.carryOut, displayTables]
        split
        · exact wellFormed
        · exact wellFormed
    | check path =>
        rw [Request.carryOut, checkTables]
        split
        · exact wellFormed
        · exact wellFormed

end CommandLine

end MarkupDsl
