import MarkupDsl.Proofs.Classification.Documents
import MarkupDsl.Proofs.Storage.Way

/-!
# Presets and the directory of a program

A name is tried as a path before it is tried as a preset, so the name of a preset means the preset
only where the home of the store holds nothing under it.  A file that stands there is loaded in the
place of the preset.

The preset is loaded from the directory of presets, so its file has to lie there as it comes with the
program.
-/

namespace MarkupDsl

/-! ## What the home of a store holds -/

namespace Store

/-- The home is a directory, and an entry stands in it under a name. -/
structure Holds (store : Store) (name : String) (entry : Entry) : Prop where
  home : store.entry? store.home = some .directory
  inside : store.entry? (store.home ++ [name]) = some entry

/-- The home holds nothing under a name. -/
def Lacks (store : Store) (name : String) : Prop := ∀ entry, ¬ store.Holds name entry

variable {store : Store} {name : String} {entry : Entry}

theorem lacks_of_absent (absent : store.entry? (store.home ++ [name]) = none) :
    store.Lacks name := by
  rintro entry ⟨-, inside⟩
  rw [absent] at inside
  cases inside

structure IsStep (name : String) : Prop where
  downward : name ≠ ".."
  short : name.utf8ByteSize ≤ 255
  free : '\x00' ∉ name.toList

theorem written_step (name : String) : FilePath.written ⟨.home, [name]⟩ = name := by
  simp [FilePath.written, FilePath.anchorText]

theorem place_step (step : IsStep name) :
    store.place ⟨.home, [name]⟩ =
      match store.entry? store.home with
      | none => .error .missing
      | some (.file _) => .error .notDirectory
      | some .directory => .ok (store.home ++ [name]) := by
  have free : name.toList.contains '\x00' ≠ true := fun found =>
    step.free (List.contains_iff_mem.1 found)
  have small : ¬ 4096 ≤ name.utf8ByteSize := by
    have := step.short
    omega
  rw [place, written_step, if_neg free, if_neg small, if_pos rfl]
  cases home : store.entry? store.home with
  | none => rw [follow, home]
  | some base =>
      cases base with
      | file content => rw [follow, home]
      | directory =>
          rw [follow_cons home step.short step.downward]
          rfl

theorem entryAt_of_holds (step : IsStep name) (holds : store.Holds name entry) :
    store.entryAt ⟨.home, [name]⟩ = .ok entry := by
  simp only [entryAt, place_step step, holds.home, bind, Except.bind, holds.inside]
  rfl

/-- What is not there is missing, or the home is no directory to look in.  Neither is a failure of
the question whether it is there. -/
theorem entryAt_of_lacks (step : IsStep name) (lacks : store.Lacks name) :
    store.entryAt ⟨.home, [name]⟩ = .error .missing ∨
      store.entryAt ⟨.home, [name]⟩ = .error .notDirectory := by
  simp only [entryAt, place_step step]
  cases home : store.entry? store.home with
  | none => exact Or.inl rfl
  | some base =>
      cases base with
      | file content => exact Or.inr rfl
      | directory =>
          cases inside : store.entry? (store.home ++ [name]) with
          | none =>
              left
              simp only [bind, Except.bind, inside]
              rfl
          | some entry => exact absurd ⟨home, inside⟩ (lacks entry)

theorem hasEntry_of_holds (step : IsStep name) (holds : store.Holds name entry) :
    store.hasEntry ⟨.home, [name]⟩ = .ok true := by
  rw [hasEntry, entryAt_of_holds step holds]

theorem hasEntry_of_lacks (step : IsStep name) (lacks : store.Lacks name) :
    store.hasEntry ⟨.home, [name]⟩ = .ok false := by
  rw [hasEntry]
  rcases entryAt_of_lacks step lacks with missing | shut
  · rw [missing]
  · rw [shut]

/-- Whether the presets lie where they are looked for, as they come with the program. -/
def HoldsPresets (store : Store) : Prop :=
  ∀ preset : Preset, store.entryAt (Source.presetPath store preset.name) =
    .ok (.file (.text preset.document))

end Store

namespace Preset

theorem isStep_name (preset : Preset) : Store.IsStep preset.name := by
  cases preset <;> exact ⟨by decide, by decide, by decide⟩

theorem ofString_name (preset : Preset) :
    FilePath.ofString preset.name = ⟨.home, [preset.name]⟩ := by
  cases preset <;> decide

end Preset

/-! ## The standard installation -/

section

variable {entries : List (Place × Entry)} {home place : Place}

theorem presetPath_standard (preset : Preset) :
    Source.presetPath ⟨entries, home⟩ preset.name =
      ⟨.root, ["usr", "share", "markup-dsl", "presets", Preset.fileName preset.name]⟩ := by
  cases preset <;> rfl

/-- In the directory of the installation there is what is installed, unless something was put there. -/
theorem entry?_standard (untouched : ∀ entry ∈ entries, entry.1.head? ≠ some "usr")
    (inside : place.head? = some "usr") :
    Store.entry? ⟨entries, home⟩ place = Store.entry? ⟨[], home⟩ place := by
  have skipped : entries.find? (fun entry => entry.1 = place) = none := by
    refine List.find?_eq_none.2 fun entry member same => untouched entry member ?_
    rw [of_decide_eq_true same, inside]
  rw [Store.entry?, Store.entry?, Store.allEntries, Store.allEntries, List.find?_append, skipped]
  rfl

theorem follow_standard (untouched : ∀ entry ∈ entries, entry.1.head? ≠ some "usr")
    (rest : List String) :
    Store.follow ⟨entries, home⟩ [] ("usr" :: "share" :: "markup-dsl" :: "presets" :: rest) =
      Store.follow ⟨entries, home⟩ ["usr", "share", "markup-dsl", "presets"] rest := by
  have stands {place : Place} (inside : place.head? = some "usr")
      (installed : Store.entry? ⟨[], home⟩ place = some .directory) :
      Store.entry? ⟨entries, home⟩ place = some .directory :=
    (entry?_standard untouched inside).trans installed
  rw [Store.follow_cons rfl (by decide) (by decide),
    Store.follow_cons (stands rfl rfl) (by decide) (by decide),
    Store.follow_cons (stands rfl rfl) (by decide) (by decide),
    Store.follow_cons (stands rfl rfl) (by decide) (by decide)]
  rfl

/-- Whatever a store holds outside of the directory of the installation, and wherever its home is, it
holds the presets. -/
theorem holdsPresets_standard (untouched : ∀ entry ∈ entries, entry.1.head? ≠ some "usr") :
    Store.HoldsPresets ⟨entries, home⟩ := by
  intro preset
  rw [presetPath_standard, Store.entryAt_eq_ok_iff]
  refine ⟨["usr", "share", "markup-dsl", "presets", Preset.fileName preset.name], ?_, ?_⟩
  · refine Store.place_eq_ok_iff.2 ⟨by cases preset <;> decide, ?_⟩
    refine (follow_standard untouched [_]).trans ?_
    rw [Store.follow_cons ((entry?_standard untouched rfl).trans rfl)
      (by cases preset <;> decide) (by cases preset <;> decide)]
    rfl
  · rw [entry?_standard untouched rfl]
    cases preset <;> rfl

theorem knownPresets_standard (untouched : ∀ entry ∈ entries, entry.1.head? ≠ some "usr") :
    Source.knownPresets ⟨entries, home⟩ = Preset.all.map Preset.name := by
  have led : Store.place ⟨entries, home⟩ Installation.standard.presets =
      .ok ["usr", "share", "markup-dsl", "presets"] :=
    Store.place_eq_ok_iff.2 ⟨by decide, follow_standard untouched []⟩
  have stands : Store.entry? ⟨entries, home⟩ ["usr", "share", "markup-dsl", "presets"] =
      some .directory := (entry?_standard untouched rfl).trans rfl
  have elsewhere : (entries.filterMap fun entry =>
      if entry.1.dropLast = ["usr", "share", "markup-dsl", "presets"] then entry.1.getLast?
      else none) = [] := by
    refine List.filterMap_eq_nil_iff.2 fun entry member => ?_
    split
    · next inside =>
      have first := congrArg List.head? inside
      rw [List.head?_dropLast] at first
      split at first
      · exact absurd first (untouched entry member)
      · cases first
    · rfl
  have names : Store.namesIn ⟨entries, home⟩ Installation.standard.presets =
      Preset.all.map fun preset => Preset.fileName preset.name := by
    rw [Store.namesIn, led]
    dsimp only
    rw [if_pos stands, Store.allEntries, List.filterMap_append, elsewhere]
    rfl
  have sorted : (Preset.all.map Preset.name).mergeSort = Preset.all.map Preset.name :=
    List.mergeSort_of_pairwise (by decide)
  rw [Source.knownPresets, names, ← sorted]
  rfl

end

namespace Source

variable {store : Store} {preset : Preset}

/-- No preset's name has an extension, so only what the home holds decides between a file there and
the file of the preset. -/
theorem resolveName_name (store : Store) (preset : Preset) :
    resolveName store preset.name =
      (ask (store.hasEntry ⟨.home, [preset.name]⟩)).bind fun there =>
        if there then .ok ⟨.home, [preset.name]⟩ else resolvePreset store preset.name := by
  have bare : (⟨.home, [preset.name]⟩ : FilePath).hasExtension = false := by
    cases preset <;> decide
  simp only [resolveName, Preset.ofString_name, bare, Bool.false_eq_true, if_false]
  rfl

theorem load_of_resolve {source : Source} {path : FilePath}
    (resolved : resolve store source = .ok path) : load store source = loadFile store path := by
  rw [load, resolved]
  rfl

theorem resolvePreset_of_entryAt {name : String} {entry : Entry}
    (found : store.entryAt (presetPath store name) = .ok entry) :
    resolvePreset store name = .ok (presetPath store name) := by
  rw [resolvePreset, Store.hasEntry_of_entryAt found]
  rfl

/-- The tables in a file with the given content. -/
def tablesIn (path : FilePath) (content : Content) : Except LoadError Tables :=
  match Store.decode content with
  | .error error => .error (.unreadable error)
  | .ok document => tablesOf path document

theorem loadFile_eq_tablesIn {path : FilePath} {content : Content}
    (found : store.entryAt path = .ok (.file content)) :
    loadFile store path = tablesIn path content := by
  rw [loadFile, Store.readText, found]
  rfl

theorem tablesIn_document (preset : Preset) (path : FilePath) :
    tablesIn path (.text preset.document) = .ok preset.tables := by
  rw [tablesIn, preset.decode_document]
  dsimp only
  rw [preset.tablesOf_document path]

theorem load_name_of_lacks (preset : Preset) (installed : store.HoldsPresets)
    (lacks : store.Lacks preset.name) :
    load store (.name preset.name) = .ok preset.tables := by
  have found := installed preset
  have resolved : resolve store (.name preset.name) = .ok (presetPath store preset.name) := by
    rw [resolve, resolveName_name, Store.hasEntry_of_lacks preset.isStep_name lacks]
    simp only [ask, Except.bind, Bool.false_eq_true, if_false]
    exact resolvePreset_of_entryAt found
  rw [load_of_resolve resolved, loadFile_eq_tablesIn found, tablesIn_document]

theorem load_name_of_holds {content : Content} (holds : store.Holds preset.name (.file content)) :
    load store (.name preset.name) = tablesIn ⟨.home, [preset.name]⟩ content := by
  have resolved : resolve store (.name preset.name) = .ok ⟨.home, [preset.name]⟩ := by
    rw [resolve, resolveName_name, Store.hasEntry_of_holds preset.isStep_name holds]
    rfl
  rw [load_of_resolve resolved,
    loadFile_eq_tablesIn (Store.entryAt_of_holds preset.isStep_name holds)]

end Source

theorem Memory.fetch_empty (store : Store) :
    (Memory.empty.fetch store none).1 = Source.load store (.name Preset.standard.name) := by
  simp only [fetch, tables?, empty, key, List.find?_nil, Option.map_none]
  cases Source.load store (.name Preset.standard.name) <;> rfl

/-! ## Presets are loaded from every directory that does not name a file like them -/

/--
Where the presets lie in their directory, a preset is what is loaded from its file there.  Where the
home of the store holds nothing under the name of a preset, that name means the preset and loading it
succeeds; where a file stands under the name, the name means that file.  The standard preset is also
what is loaded where no name is given.
-/
theorem Source.load_preset_unless_shadowed (store : Store) (installed : store.HoldsPresets) :
    (∀ preset : Preset, loadFile store (presetPath store preset.name) = .ok preset.tables) ∧
    (∀ preset ∈ Preset.all, store.Lacks preset.name →
      load store (.name preset.name) = .ok preset.tables) ∧
    (store.Lacks "extended" →
      load store .standard = .ok Preset.extended.tables ∧
      (Memory.empty.fetch store none).1 = .ok Preset.extended.tables) ∧
    ∀ preset ∈ Preset.all, ∀ content, store.Holds preset.name (.file content) →
      load store (.name preset.name) = tablesIn ⟨.home, [preset.name]⟩ content := by
  refine ⟨fun preset => ?_, fun preset _ lacks => load_name_of_lacks preset installed lacks,
    fun lacks => ?_, fun preset _ content holds => load_name_of_holds holds⟩
  · rw [loadFile_eq_tablesIn (installed preset), tablesIn_document]
  · have loaded : load store (.name Preset.extended.name) = .ok Preset.extended.tables :=
      load_name_of_lacks .extended installed lacks
    constructor
    · exact loaded
    · rw [Memory.fetch_empty]
      exact loaded

/-- A home with a file named like the minimal preset, and none like the extended one. -/
theorem Source.load_preset_unless_shadowed_minimal :
    let document := "hyphen_fallback: true"
    let store : Store :=
      ⟨[(["work"], .directory), (["work", "minimal"], .file (.text document))], ["work"]⟩
    (store.HoldsPresets ∧ knownPresets store = Preset.all.map Preset.name) ∧
    load store (.name "extended") = .ok Preset.extended.tables ∧
    load store .standard = .ok Preset.extended.tables ∧
    (Memory.empty.fetch store none).1 = .ok Preset.extended.tables ∧
    (load store (.name "minimal")).toOption =
      some { Tables.empty with hyphenFallback := true } := by
  intro document store
  have installed : store.HoldsPresets := holdsPresets_standard (by decide)
  have known : knownPresets store = Preset.all.map Preset.name := knownPresets_standard (by decide)
  have lacks : store.Lacks "extended" := Store.lacks_of_absent rfl
  have holds : store.Holds "minimal" (.file (.text document)) := ⟨rfl, rfl⟩
  obtain ⟨_, named, standard, shadowed⟩ := load_preset_unless_shadowed store installed
  refine ⟨⟨installed, known⟩, named .extended (by decide) lacks, (standard lacks).1,
    (standard lacks).2, ?_⟩
  rw [show "minimal" = Preset.minimal.name from rfl,
    shadowed .minimal (by decide) (.text document) holds]
  decide +kernel

/-- An empty file named like the extended preset is loaded in its place, also where no name is
given. -/
theorem Source.extended_shadowed :
    let store : Store := ⟨[(["extended"], .file (.text ""))], []⟩
    store.HoldsPresets ∧
    (∃ preset ∈ Preset.all, load store (.name preset.name) ≠ .ok preset.tables) ∧
    load store .standard ≠ .ok Preset.extended.tables ∧
    (Memory.empty.fetch store none).1 ≠ .ok Preset.extended.tables := by
  intro store
  have holds : store.Holds "extended" (.file (.text "")) := ⟨rfl, rfl⟩
  have shadowed : load store (.name Preset.extended.name) ≠ .ok Preset.extended.tables := by
    have blank : (tablesIn ⟨.home, [Preset.extended.name]⟩ (.text "")).toOption =
        some Tables.empty := by decide +kernel
    have distinct : some Preset.extended.tables ≠ some Tables.empty := by decide
    rw [load_name_of_holds holds]
    intro same
    rw [same] at blank
    exact distinct blank
  refine ⟨holdsPresets_standard (by decide), ⟨.extended, by decide, shadowed⟩, shadowed, ?_⟩
  rw [Memory.fetch_empty]
  exact shadowed

end MarkupDsl
