import MarkupDsl.Classification.Source

/-!
# The documents of the presets

A preset is what its document describes: reading the document and validating what it holds gives the
tables of the preset.
-/

namespace MarkupDsl

/-- What a document describes does not depend on where it lies. -/
theorem Source.tablesOf_eq_ok {path other : FilePath} {document : String} {tables : Tables}
    (described : (tablesOf other document).toOption = some tables) :
    tablesOf path document = .ok tables := by
  cases read : Yaml.read document with
  | error error =>
      rw [tablesOf, read] at described
      cases error <;> cases described
  | ok data =>
      rw [tablesOf, read] at described ⊢
      dsimp only at described ⊢
      generalize (if data.isNothing then Data.mapping [] else data) = data at described ⊢
      split at described
      · exact congrArg Except.ok (Option.some.inj described)
      · cases described
      · cases described

namespace Preset

/-! ## Lines as characters -/

/-- Lines, each of them laid out as its characters.  The kernel runs the reader on characters, for it
is slow to take them from strings. -/
inductive LaidOut : List String → List (List Char) → Prop where
  | nil : LaidOut [] []
  | cons {lines : List String} {css : List (List Char)} (cs : List Char) (rest : LaidOut lines css) :
      LaidOut (String.ofList cs :: lines) (cs :: css)

theorem LaidOut.toList_eq {lines : List String} {css : List (List Char)}
    (laidOut : LaidOut lines css) : lines.map String.toList = css := by
  induction laidOut with
  | nil => rfl
  | cons cs _ ih => rw [List.map_cons, String.toList_ofList, ih]

theorem LaidOut.toList_document {preset : Preset} {css : List (List Char)}
    (laidOut : LaidOut preset.lines css) :
    preset.document.toList = css.flatMap (· ++ ['\n']) := by
  have ending : "\n".toList = ['\n'] := String.toList_ofList
  rw [document, String.toList_join, ← laidOut.toList_eq, List.flatMap_map, List.flatMap_map]
  simp only [String.toList_append, ending]

/-! ## What the documents describe -/

theorem exists_laidOut (preset : Preset) :
    ∃ css, LaidOut preset.lines css ∧ css.all (! ·.contains '\r') = true ∧
      (Source.tablesOf ⟨.root, []⟩ (.ofList (css.flatMap (· ++ ['\n'])))).toOption =
        some preset.tables := by
  cases preset
  all_goals
    apply Exists.intro
    refine ⟨?laidOut, ?free, ?described⟩
    case laidOut =>
      -- The characters are found here, line by line.
      dsimp only [lines, extendedLines, minimalLines]
      repeat apply LaidOut.cons
      exact .nil
    case free => decide +kernel
    case described =>
      rw [Source.tablesOf, Yaml.read, String.toList_ofList]
      decide +kernel

theorem tablesOf_document (preset : Preset) (path : FilePath) :
    Source.tablesOf path preset.document = .ok preset.tables := by
  obtain ⟨css, laidOut, _, described⟩ := exists_laidOut preset
  rw [← laidOut.toList_document, String.ofList_toList] at described
  exact Source.tablesOf_eq_ok described

/-- A document of a preset has no carriage returns, so it is read as it stands. -/
theorem decode_document (preset : Preset) :
    Store.decode (.text preset.document) = .ok preset.document := by
  obtain ⟨css, laidOut, free, _⟩ := exists_laidOut preset
  have absent : '\r' ∉ preset.document.toList := by
    rw [laidOut.toList_document, List.mem_flatMap]
    rintro ⟨line, member, inside⟩
    rcases List.mem_append.1 inside with within | ending
    · have without := List.all_eq_true.1 free line member
      rw [List.contains_iff_mem.2 within] at without
      cases without
    · exact absurd (List.mem_singleton.1 ending) (by decide)
  rw [Store.decode, Text.unifyLineEnds_of_notMem absent, String.ofList_toList]

end Preset

end MarkupDsl
