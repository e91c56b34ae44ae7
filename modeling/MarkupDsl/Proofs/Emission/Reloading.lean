import MarkupDsl.Proofs.Classification.Comparison
import MarkupDsl.Proofs.Classification.Loading
import MarkupDsl.Proofs.Emission.Agreement
import MarkupDsl.Proofs.Spelling.Claimants
import MarkupDsl.Yaml.Printer
import Mathlib.Control.Monad.Basic

/-!
# Conversions with reloaded tables

Tables that are written to a file and loaded again have their families in order.  That changes the
spelling of exactly those names whose first claimant is not the one with the shortest beginning, and
so it changes a conversion only if the tree has an attribute of such a name.
-/

namespace MarkupDsl

open Spelling

/-! ## Loading -/

theorem Source.load_file_of_readText {store : Store} {path : FilePath} {document : String}
    (written : store.readText path = .ok document) :
    load store (.file path) = tablesOf path document := by
  cases found : store.entryAt path with
  | error cause =>
      rw [Store.readText, found] at written
      cases written
  | ok entry =>
      have leads : (Source.file path).LeadsTo store path := .direct found
      rw [load_of_leadsTo leads, loadFile, written]

/-! ## Agreement -/

variable {tables : Tables}

theorem Tables.WellFormed.agreeOn_ordered (wellFormed : tables.WellFormed) (skipBlankText : Bool)
    {names : List String} (kept : ∀ name ∈ names, ShortestFirst (claimants tables name)) :
    Settings.AgreeOn ⟨tables.ordered, skipBlankText⟩ ⟨tables, skipBlankText⟩ names :=
  Settings.agreeOn_of_attributeName_eq skipBlankText fun name member =>
    (attributeName_ordered_iff wellFormed name).2 (kept name member)

/-- Settings that differ in their families alone and emit an attribute alike spell its name alike. -/
theorem attributeName_eq_of_text_eq {families : List (String × Namespace)} {name : String}
    (same : (transpile ⟨{ tables with namespaces := families }, false⟩
        (some (.element "p" [⟨name, none⟩] []))).map Conversion.text =
      (transpile ⟨tables, false⟩ (some (.element "p" [⟨name, none⟩] []))).map Conversion.text) :
    attributeName { tables with namespaces := families } name = attributeName tables name := by
  rw [transpile_of_isExpressible _ rfl, transpile_of_isExpressible _ rfl] at same
  have codes := congrArg String.toList (Except.ok.inj same)
  rw [Conversion.toList_text_ofEvents, Conversion.toList_text_ofEvents, rootEvents, rootEvents,
    Node.events, Node.events, Event.codeOf_code, Event.codeOf_code] at codes
  -- behind the opening nothing depends on the families
  have openings := List.append_cancel_right codes
  apply String.toList_inj.1
  simpa [openingCode, attributeCode, attributeValue] using openings

/-! ## A name with two claimants -/

/-- Tables with two families that have one name; the one with the longer beginning comes first. -/
def Tables.overlapping : Tables :=
  { Tables.empty with
    namespaces := [
      ("x-y-", ⟨"B", NameSet.ofList ["z"], false⟩),
      ("x-", ⟨"A", NameSet.ofList ["y-z"], true⟩)] }

theorem Tables.isValidated_overlapping : overlapping.IsValidated :=
  ⟨.mapping [(.text "namespaces", .mapping [
    (.text "x-y-", .mapping [(.text "namespace", .text "B"), (.text "names", .list [.text "z"])]),
    (.text "x-", .mapping [(.text "namespace", .text "A"), (.text "names", .list [.text "y-z"]),
      (.text "data_alias", .bool true)])])], rfl⟩

theorem Tables.read_print_overlapping :
    Yaml.read (Yaml.print overlapping.payload) = .ok overlapping.payload := by
  apply Yaml.read_eq_ok_of_isSame
  rw [Yaml.print, String.toList_ofList]
  decide +kernel

def Store.ofOverlapping : Store :=
  ⟨[(["t"], .file (.text (Yaml.print Tables.overlapping.payload)))], []⟩

/-- The file is read as it was written, because it has no carriage returns. -/
theorem Store.readText_ofOverlapping :
    ofOverlapping.readText ⟨.home, ["t"]⟩ = .ok (Yaml.print Tables.overlapping.payload) := by
  have entry : ofOverlapping.entryAt ⟨.home, ["t"]⟩ =
      .ok (.file (.text (Yaml.print Tables.overlapping.payload))) := by
    rfl
  have unified : Text.unifyLineEnds (Yaml.printChars Tables.overlapping.payload) =
      Yaml.printChars Tables.overlapping.payload := by
    decide +kernel
  rw [readText, entry]
  change decode _ = _
  rw [decode, Yaml.print, String.toList_ofList, unified]

/-! ## Reloading -/

/--
Validated tables that a file holds as they are written are loaded from it, provided that the document
is read as what was written.  A name keeps its spelling exactly when its first claimant is the one
with the shortest beginning; a tree all of whose attributes have such names is converted as before;
and every tree keeps its text exactly when all names are such names.
-/
theorem Tables.reloaded_keeps_iff_shortestFirst (validated : tables.IsValidated) {store : Store}
    {path : FilePath} (written : store.readText path = .ok (Yaml.print tables.payload))
    (faithful : Yaml.read (Yaml.print tables.payload) = .ok tables.payload) :
    ∃ reloaded, Source.load store (.file path) = .ok reloaded ∧
      (∀ name, attributeName reloaded name = attributeName tables name ↔
        ShortestFirst (claimants tables name)) ∧
      (∀ skipBlankText root, (∀ name ∈ root.attributeNames, ShortestFirst (claimants tables name)) →
        transpile ⟨reloaded, skipBlankText⟩ (some root) =
          transpile ⟨tables, skipBlankText⟩ (some root)) ∧
      ((∀ skipBlankText root,
          (transpile ⟨reloaded, skipBlankText⟩ (some root)).map Conversion.text =
            (transpile ⟨tables, skipBlankText⟩ (some root)).map Conversion.text) ↔
        ∀ name, ShortestFirst (claimants tables name)) := by
  have wellFormed := validated.wellFormed
  have keeps := attributeName_ordered_iff wellFormed
  refine ⟨tables.ordered, ?_, keeps, ?_, ?_, ?_⟩
  · rw [Source.load_file_of_readText written]
    exact wellFormed.tablesOf_payload faithful path
  · intro skipBlankText root kept
    exact (wellFormed.agreeOn_ordered skipBlankText kept).transpile_eq
  · intro same name
    exact (keeps name).1 (attributeName_eq_of_text_eq (same false _))
  · intro kept skipBlankText root
    rw [(wellFormed.agreeOn_ordered skipBlankText fun name _ => kept name).transpile_eq]

/-- All that is asked of the tables holds of the overlapping ones. -/
theorem Tables.reloaded_keeps_iff_shortestFirst_overlapping :
    (overlapping.IsValidated ∧
      Store.ofOverlapping.readText ⟨.home, ["t"]⟩ = .ok (Yaml.print overlapping.payload) ∧
      Yaml.read (Yaml.print overlapping.payload) = .ok overlapping.payload) ∧
    ∃ reloaded, Source.load Store.ofOverlapping (.file ⟨.home, ["t"]⟩) = .ok reloaded ∧
      (∀ name, attributeName reloaded name = attributeName overlapping name ↔
        ShortestFirst (claimants overlapping name)) ∧
      (∀ skipBlankText root,
        (∀ name ∈ root.attributeNames, ShortestFirst (claimants overlapping name)) →
          transpile ⟨reloaded, skipBlankText⟩ (some root) =
            transpile ⟨overlapping, skipBlankText⟩ (some root)) ∧
      ((∀ skipBlankText root,
          (transpile ⟨reloaded, skipBlankText⟩ (some root)).map Conversion.text =
            (transpile ⟨overlapping, skipBlankText⟩ (some root)).map Conversion.text) ↔
        ∀ name, ShortestFirst (claimants overlapping name)) :=
  ⟨⟨isValidated_overlapping, Store.readText_ofOverlapping, read_print_overlapping⟩,
    reloaded_keeps_iff_shortestFirst isValidated_overlapping Store.readText_ofOverlapping
      read_print_overlapping⟩

/-- Reloading does not keep all spellings: the ordered families give the shared name to the other one. -/
theorem Tables.reloaded_spells_otherwise :
    ¬ ∀ (tables reloaded : Tables) (store : Store) (path : FilePath), tables.IsValidated →
      store.readText path = .ok (Yaml.print tables.payload) →
      Yaml.read (Yaml.print tables.payload) = .ok tables.payload →
      Source.load store (.file path) = .ok reloaded →
        (∀ name, attributeName reloaded name = attributeName tables name) ∧
        ∀ skipBlankText root,
          (transpile ⟨reloaded, skipBlankText⟩ (some root)).map Conversion.text =
            (transpile ⟨tables, skipBlankText⟩ (some root)).map Conversion.text := by
  intro all
  have loaded : Source.load Store.ofOverlapping (.file ⟨.home, ["t"]⟩) =
      .ok overlapping.ordered := by
    rw [Source.load_file_of_readText Store.readText_ofOverlapping]
    exact isValidated_overlapping.wellFormed.tablesOf_payload read_print_overlapping _
  have kept := (all _ _ _ _ isValidated_overlapping Store.readText_ofOverlapping
    read_print_overlapping loaded).1 "x-y-z"
  have before : attributeName overlapping "x-y-z" = "B.z" := by decide +kernel
  have after : attributeName overlapping.ordered "x-y-z" = "A.y_z" := by decide +kernel
  rw [before, after] at kept
  exact absurd kept (by decide)

end MarkupDsl
