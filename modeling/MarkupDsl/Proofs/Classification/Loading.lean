import MarkupDsl.Proofs.Classification.Presets
import MarkupDsl.Proofs.Classification.Source

/-!
# How loading ends

A source leads to a file or to an error about tables.  Loading returns tables that the validation
accepts or reports an error about tables, with a few exceptions: a name that is too long to be looked
for, a directory or bytes in the place of a text, and a document with a value that does not exist.

The file may be one that a name leads to from the directory of presets, in it or out of it.
-/

namespace MarkupDsl.Source

/-! ## What a source leads to -/

def path : Source → FilePath
  | standard => .ofString Preset.standard.name
  | name written => .ofString written
  | file path => path

/-- The name that is looked for among the presets, if a source is one without an extension. -/
def bareName? : Source → Option String
  | standard => some Preset.standard.name
  | name written => if (FilePath.ofString written).hasExtension then none else some written
  | file _ => none

/-- The file that a source leads to. -/
inductive LeadsTo (store : Store) (source : Source) : FilePath → Prop where
  | direct {entry : Entry} (found : store.entryAt source.path = .ok entry) :
      LeadsTo store source source.path
  | preset {name : String} {entry : Entry} (missing : store.hasEntry source.path = .ok false)
      (bare : source.bareName? = some name)
      (found : store.entryAt (presetPath store name) = .ok entry) :
      LeadsTo store source (presetPath store name)

/-- The ways in which loading ends with an error that is not about tables. -/
inductive Escapes (store : Store) (source : Source) : LoadError → Prop where
  | overlong (long : store.entryAt source.path = .error .nameTooLong) :
      Escapes store source (.unreadable (.unreachable .nameTooLong))
  | overlongPreset {name : String} (missing : store.hasEntry source.path = .ok false)
      (bare : source.bareName? = some name)
      (long : store.entryAt (presetPath store name) = .error .nameTooLong) :
      Escapes store source (.unreadable (.unreachable .nameTooLong))
  | withheld {path : FilePath} {error : Store.ReadError} (leads : source.LeadsTo store path)
      (withheld : store.Withholds path error) : Escapes store source (.unreadable error)
  /-- A document of a good form with a value that does not exist. -/
  | noValue {path : FilePath} {document : String} {error : Yaml.Error}
      (leads : source.LeadsTo store path) (shown : store.readText path = .ok document)
      (failed : Yaml.read document = .error error) (formed : ∀ rule, error ≠ .malformed rule) :
      Escapes store source (.noValue error)

variable {store : Store} {source : Source} {path : FilePath}

/-! ## Resolution -/

/-- What stands at the path of a source goes first, and a bare name is looked for among the presets. -/
theorem resolve_eq (store : Store) (source : Source) :
    resolve store source =
      (ask (store.hasEntry source.path)).bind fun there =>
        if there then .ok source.path
        else
          match source.bareName? with
          | some bare => resolvePreset store bare
          | none => .error (.tables (.noFile source.path)) := by
  have named (written : String) : resolveName store written =
      (ask (store.hasEntry (.ofString written))).bind fun there =>
        if there then .ok (.ofString written)
        else
          match (name written).bareName? with
          | some bare => resolvePreset store bare
          | none => .error (.tables (.noFile (.ofString written))) := by
    unfold resolveName bareName?
    by_cases extended : (FilePath.ofString written).hasExtension = true
    · simp only [if_pos extended, resolveFile]
      rfl
    · simp only [if_neg extended]
      rfl
  cases source with
  | standard => exact named Preset.standard.name
  | name written => exact named written
  | file path => rfl

theorem resolve_of_bareName? {name : String} (missing : store.hasEntry source.path = .ok false)
    (bare : source.bareName? = some name) : resolve store source = resolvePreset store name := by
  rw [resolve_eq, missing, bare]
  simp only [ask, Except.bind, Bool.false_eq_true, if_false]

theorem resolve_of_leadsTo (leads : source.LeadsTo store path) :
    resolve store source = .ok path := by
  cases leads with
  | direct found =>
      rw [resolve_eq, Store.hasEntry_of_entryAt found]
      rfl
  | preset missing bare found =>
      rw [resolve_of_bareName? missing bare, resolvePreset_of_entryAt found]

theorem load_of_leadsTo (leads : source.LeadsTo store path) :
    load store source = loadFile store path :=
  load_of_resolve (resolve_of_leadsTo leads)

theorem LeadsTo.exists_entryAt (leads : source.LeadsTo store path) :
    ∃ entry, store.entryAt path = .ok entry := by
  cases leads with
  | direct found => exact ⟨_, found⟩
  | preset _ _ found => exact ⟨_, found⟩

end MarkupDsl.Source
