import MarkupDsl.Proofs.Classification.Comparison
import MarkupDsl.Proofs.Classification.Loading

/-!
# Documents without a mapping

Tables are described by a mapping, and a document that holds nothing describes empty tables.  Any other
document is refused for not being a mapping, with one exception: values that count as nothing, such as
false, zero and what is empty, are taken for a document that holds nothing.
-/

namespace MarkupDsl

namespace Data

def IsMapping (data : Data) : Prop := ∃ entries, data = .mapping entries

/-- The values that count as nothing, although they are neither null nor a mapping. -/
inductive IsHollow : Data → Prop where
  | no : IsHollow (.bool false)
  | zero : IsHollow (.int 0)
  | floatZero {value : Float} (zero : (value == 0) = true) : IsHollow (.float value)
  | text : IsHollow (.text "")
  | bytes : IsHollow (.bytes [])
  | list : IsHollow (.list [])

/-- What counts as nothing is null, hollow, or a mapping. -/
theorem isNothing_iff {data : Data} (other : ¬ data.IsMapping) :
    data.isNothing = true ↔ data = .null ∨ data.IsHollow := by
  constructor
  · intro nothing
    cases data with
    | null => exact .inl rfl
    | bool value =>
        cases value with
        | false => exact .inr .no
        | true => cases nothing
    | int value =>
        cases eq_of_beq nothing
        exact .inr .zero
    | float value => exact .inr (.floatZero nothing)
    | text value =>
        cases String.isEmpty_iff.1 nothing
        exact .inr .text
    | bytes value =>
        cases List.isEmpty_iff.1 nothing
        exact .inr .bytes
    | list items =>
        cases List.isEmpty_iff.1 nothing
        exact .inr .list
    | mapping entries => exact absurd ⟨entries, rfl⟩ other
    | illFormedText | moment instant written | other written => cases nothing
  · rintro (rfl | hollow)
    · rfl
    · cases hollow with
      | no | zero | text | bytes | list => rfl
      | floatZero zero => exact zero

end Data

namespace Source

variable {store : Store} {source : Source} {path : FilePath} {document : String} {data : Data}

theorem tablesOf_of_isNothing (read : Yaml.read document = .ok data)
    (nothing : data.isNothing = true) : tablesOf path document = .ok Tables.empty := by
  rw [tablesOf, read]
  dsimp only
  rw [if_pos nothing]
  rfl

theorem tablesOf_of_not_isMapping (read : Yaml.read document = .ok data)
    (something : data.isNothing = false) (other : ¬ data.IsMapping) :
    tablesOf path document = .error (.tables (.notMapping path)) := by
  rw [tablesOf, read]
  dsimp only
  rw [something, if_neg Bool.false_ne_true]
  cases data with
  | mapping entries => exact absurd ⟨entries, rfl⟩ other
  | null | bool | int | float | text | illFormedText | bytes | list | moment | other => rfl

/--
A document that is no mapping is refused for that, exactly if it is neither null nor hollow; and exactly
if it is one of these, it describes empty tables.
-/
theorem load_not_isMapping_iff (leads : source.LeadsTo store path)
    (shown : store.readText path = .ok document) (read : Yaml.read document = .ok data)
    (other : ¬ data.IsMapping) :
    (load store source = .error (.tables (.notMapping path)) ↔ data ≠ .null ∧ ¬ data.IsHollow) ∧
      (load store source = .ok Tables.empty ↔ data = .null ∨ data.IsHollow) := by
  rw [load_of_leadsTo leads, loadFile, shown, ← Data.isNothing_iff other, ← not_or,
    ← Data.isNothing_iff other]
  change (tablesOf path document = _ ↔ _) ∧ (tablesOf path document = _ ↔ _)
  by_cases nothing : data.isNothing = true
  · rw [tablesOf_of_isNothing read nothing]
    exact ⟨⟨by rintro ⟨⟩, fun something => absurd nothing something⟩,
      ⟨fun _ => nothing, fun _ => rfl⟩⟩
  · rw [tablesOf_of_not_isMapping read (Bool.eq_false_iff.2 nothing) other]
    exact ⟨⟨fun _ => nothing, fun _ => rfl⟩, ⟨by rintro ⟨⟩, fun something => absurd something nothing⟩⟩

/-- A list with an item is refused, and an empty document describes empty tables. -/
theorem load_not_isMapping_iff_list :
    let store : Store :=
      ⟨[(["full.yaml"], .file (.text "- a\n")), (["empty.yaml"], .file (.text ""))], []⟩
    ((name "full.yaml").LeadsTo store (.ofString "full.yaml") ∧
        store.readText (.ofString "full.yaml") = .ok "- a\n" ∧
        Yaml.read "- a\n" = .ok (.list [.text "a"]) ∧ ¬ (Data.list [.text "a"]).IsMapping ∧
        Data.list [.text "a"] ≠ .null ∧ ¬ (Data.list [.text "a"]).IsHollow) ∧
      load store (.name "full.yaml") = .error (.tables (.notMapping (.ofString "full.yaml"))) ∧
      load store (.name "empty.yaml") = .ok Tables.empty := by
  intro store
  have leads : (name "full.yaml").LeadsTo store (.ofString "full.yaml") :=
    .direct (show store.entryAt (.ofString "full.yaml") = .ok (.file (.text "- a\n")) by decide)
  have shown : store.readText (.ofString "full.yaml") = .ok "- a\n" := by decide
  have read : Yaml.read "- a\n" = .ok (.list [.text "a"]) :=
    Yaml.read_eq_ok_of_isSame (by decide +kernel)
  have other : ¬ (Data.list [.text "a"]).IsMapping := by rintro ⟨_, ⟨⟩⟩
  have solid : Data.list [.text "a"] ≠ .null ∧ ¬ (Data.list [.text "a"]).IsHollow :=
    ⟨by rintro ⟨⟩, by rintro ⟨⟩⟩
  have emptyLeads : (name "empty.yaml").LeadsTo store (.ofString "empty.yaml") :=
    .direct (show store.entryAt (.ofString "empty.yaml") = .ok (.file (.text "")) by decide)
  have emptyRead : Yaml.read "" = .ok .null := rfl
  have taken := load_not_isMapping_iff emptyLeads (by decide) emptyRead (by rintro ⟨_, ⟨⟩⟩)
  exact ⟨⟨leads, shown, read, other, solid⟩,
    (load_not_isMapping_iff leads shown read other).1.2 solid, taken.2.2 (.inl rfl)⟩

/-- An empty list is no mapping and not null, and yet it is not refused but taken for empty tables. -/
theorem load_emptyList :
    let store : Store := ⟨[(["tables.yaml"], .file (.text "[]\n"))], []⟩
    (Yaml.read "[]\n" = .ok (.list []) ∧ store.readText (.ofString "tables.yaml") = .ok "[]\n") ∧
    load store (.name "tables.yaml") = .ok Tables.empty ∧
    ¬ ∃ error, load store (.name "tables.yaml") = .error (.tables error) := by
  intro store
  have loaded : load store (.name "tables.yaml") = .ok Tables.empty := by decide +kernel
  refine ⟨⟨Yaml.read_eq_ok_of_isSame (by decide +kernel), by decide⟩, loaded, ?_⟩
  rintro ⟨error, refused⟩
  rw [loaded] at refused
  cases refused

end Source

end MarkupDsl
