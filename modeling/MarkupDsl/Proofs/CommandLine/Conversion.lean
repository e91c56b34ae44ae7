import MarkupDsl.CommandLine.Program
import MarkupDsl.Proofs.Classification.Source
import MarkupDsl.Proofs.CommandLine.Request
import MarkupDsl.Proofs.Delivery
import Mathlib.Control.Monad.Basic

/-!
# What a conversion delivers

A conversion that stops for want of code leaves everything as it was.  Otherwise its code goes to
the one destination that the arguments select, and the status tells whether it arrived.
-/

namespace MarkupDsl.CommandLine

/-! ## Values of switches -/

namespace Arguments

variable {arguments : Arguments} {switch : Switch} {text : String}

theorem fullText?_eq_some_iff :
    arguments.fullText? switch = some text ↔
      arguments.value? switch = some (.text text) ∧ text ≠ "" := by
  unfold fullText?
  split
  · next given same =>
    rw [same, Option.some_inj, Value.text.injEq, Option.ite_none_left_eq_some, Option.some_inj]
    constructor
    · rintro ⟨full, rfl⟩
      exact ⟨rfl, full⟩
    · rintro ⟨rfl, full⟩
      exact ⟨full, rfl⟩
  · next same => simp [same]
  · next same => simp [same]

theorem eq_empty_of_fullText? (missing : arguments.fullText? switch = none)
    (given : arguments.value? switch = some (.text text)) : text = "" := by
  refine Decidable.byContradiction fun full => ?_
  rw [fullText?_eq_some_iff.2 ⟨given, full⟩] at missing
  cases missing

/-! ## What arguments select -/

/-- The destination that arguments select. -/
inductive Selects (arguments : Arguments) : Destination → Prop where
  | clipboard (asked : arguments.has .clipboard = true) :
      Selects arguments (.clipboard Destination.clipboardCommands)
  | file {path : String} (unasked : arguments.has .clipboard = false)
      (named : arguments.value? .output = some (.text path)) (full : path ≠ "") :
      Selects arguments (.file (.ofString path))
  | standardOutput (unasked : arguments.has .clipboard = false)
      (unnamed : ∀ path, arguments.value? .output = some (.text path) → path = "") :
      Selects arguments .standardOutput

theorem selects_destination (arguments : Arguments) : arguments.Selects arguments.destination := by
  unfold destination
  split
  · next asked => exact .clipboard asked
  · next unasked =>
    have unasked := Bool.eq_false_iff.2 unasked
    split
    · next path full =>
      obtain ⟨named, full⟩ := fullText?_eq_some_iff.1 full
      exact .file unasked named full
    · next missing => exact .standardOutput unasked fun _ named => eq_empty_of_fullText? missing named

end Arguments

/-! ## Runs -/

/-- Why a conversion stops before anything is delivered. -/
inductive Options.Stops (options : Options) (surroundings : Surroundings) : Obstacle → Prop where
  | unconverted {obstacle : Obstacle} (refused : options.conversion surroundings = .error obstacle) :
      Stops options surroundings obstacle
  | unbound {conversion : Conversion} {obstacle : Obstacle}
      (converted : options.conversion surroundings = .ok conversion)
      (refused : options.code conversion = .error obstacle) : Stops options surroundings obstacle

/-- A run that touches nothing. -/
structure Outcome.Untouching (surroundings : Surroundings) (outcome : Outcome) : Prop where
  printed : outcome.printed = ""
  store : outcome.store = surroundings.store
  runs : outcome.runs = []

variable {options : Options} {surroundings : Surroundings}

theorem run_of_conversion {written : List String}
    (accepted : Request.read written = .ok (.conversion options)) :
    run written surroundings = convert options surroundings := by
  unfold run
  rw [accepted]
  rfl

theorem tables_of_lacks (installed : surroundings.store.HoldsPresets)
    (lacks : surroundings.store.Lacks Preset.extended.name) :
    surroundings.tables none = .ok Preset.extended.tables := by
  have found : Source.load surroundings.store .standard = .ok Preset.extended.tables :=
    Source.load_name_of_lacks .extended installed lacks
  rw [Surroundings.tables, found]
  rfl

/-- With tables at hand a conversion needs a document and a root. -/
theorem conversion_of_tables {tables : Tables}
    (loaded : surroundings.tables options.tables = .ok tables) :
    options.conversion surroundings =
      (surroundings.document options.input).bind fun text =>
        (options.root text).bind fun root =>
          (transpile ⟨tables, options.skipBlankText⟩ (some root)).mapError fun error =>
            .root options.input (.precheck error) := by
  rw [Options.conversion, loaded]
  rfl

theorem convert_of_stops {obstacle : Obstacle} (stops : options.Stops surroundings obstacle) :
    (convert options surroundings).conclusion = .stopped obstacle ∧
      (convert options surroundings).Untouching surroundings := by
  unfold convert
  cases stops with
  | unconverted refused =>
      rw [refused]
      exact ⟨rfl, rfl, rfl, rfl⟩
  | unbound converted refused =>
      rw [converted]
      dsimp only
      rw [refused]
      exact ⟨rfl, rfl, rfl, rfl⟩

/-- A run that ends as a delivery does. -/
structure Outcome.Follows (delivery : Delivery) (outcome : Outcome) : Prop where
  printed : outcome.printed = delivery.printed
  store : outcome.store = delivery.store
  runs : outcome.runs = delivery.runs
  conclusion : outcome.conclusion = delivery.error.elim .finished .undelivered

/-- A conversion that has its code ends as the delivery of the code does. -/
theorem convert_follows {conversion : Conversion} {code : String}
    (converted : options.conversion surroundings = .ok conversion)
    (made : options.code conversion = .ok code) :
    (convert options surroundings).Follows
      (deliver surroundings.store surroundings.programs code options.destination) := by
  unfold convert
  rw [converted]
  dsimp only
  rw [made]
  dsimp only
  generalize deliver surroundings.store surroundings.programs code options.destination = delivery
  refine ⟨rfl, rfl, rfl, ?_⟩
  cases delivery.error <;> rfl

end MarkupDsl.CommandLine
