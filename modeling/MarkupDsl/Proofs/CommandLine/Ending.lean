import MarkupDsl.Proofs.CommandLine.Conversion
import MarkupDsl.Proofs.Root
import MarkupDsl.Proofs.Storage.NullPath

/-!
# How a conversion ends

A conversion whose tables are loaded finishes, or it stops with a message, or its delivery fails for
what is there.  There are three exceptions: a document that is withheld, a document or a selector with
which the search for the root goes wrong, and a path to a file that no file can have.
-/

namespace MarkupDsl.CommandLine

/-- The documented ways in which a conversion ends. -/
inductive Conclusion.IsDocumented : Conclusion → Prop where
  | finished : IsDocumented .finished
  | explained {obstacle : Obstacle} {message : String} (told : obstacle.message? = some message) :
      IsDocumented (.stopped obstacle)
  | undelivered {error : DeliveryError} (failed : error.isMistake = false) :
      IsDocumented (.undelivered error)

theorem Conclusion.not_isDocumented_of_message? {obstacle : Obstacle}
    (untold : obstacle.message? = none) : ¬ (Conclusion.stopped obstacle).IsDocumented := by
  rintro (_ | told | _)
  rw [untold] at told
  cases told

/-! ## The document -/

inductive Surroundings.Withholds (surroundings : Surroundings) :
    Option FilePath → Store.ReadError → Prop where
  | input {bytes : List UInt8} (given : surroundings.input = .illFormed bytes) :
      Withholds surroundings none .illFormed
  | overlong {path : FilePath} (long : surroundings.store.entryAt path = .error .nameTooLong) :
      Withholds surroundings (some path) (.unreachable .nameTooLong)
  | file {path : FilePath} {error : Store.ReadError}
      (withheld : surroundings.store.Withholds path error) :
      Withholds surroundings (some path) error

variable {surroundings : Surroundings} {options : Options}

theorem document_of_withholds {input : Option FilePath} {error : Store.ReadError}
    (withheld : surroundings.Withholds input error) :
    surroundings.document input = .error (.unreadableInput error) := by
  cases withheld with
  | input given =>
      rw [Surroundings.document, given]
      rfl
  | overlong long =>
      rw [Surroundings.document, Store.hasEntry_of_overlong long]
      rfl
  | file withheld =>
      obtain ⟨entry, found⟩ := withheld.exists_entryAt
      rw [Surroundings.document, Store.hasEntry_of_entryAt found]
      dsimp only
      rw [Store.readText_of_withholds withheld]
      rfl

theorem document_cases (surroundings : Surroundings) (input : Option FilePath) :
    (∃ text, surroundings.document input = .ok text) ∨
      (∃ path, surroundings.document input = .error (.noInput path)) ∨
      ∃ error, surroundings.Withholds input error := by
  cases input with
  | none =>
      cases given : surroundings.input with
      | text data => exact .inl ⟨_, by rw [Surroundings.document, given]; rfl⟩
      | illFormed bytes => exact .inr (.inr ⟨_, .input given⟩)
  | some path =>
      rcases Store.hasEntry_cases surroundings.store path with
        ⟨entry, found, there⟩ | missing | ⟨long, _⟩
      · rcases Store.readText_cases found with ⟨error, withheld, _⟩ | ⟨text, shown⟩
        · exact .inr (.inr ⟨error, .file withheld⟩)
        · refine .inl ⟨text, ?_⟩
          rw [Surroundings.document, there]
          dsimp only
          rw [shown]
          rfl
      · exact .inr (.inl ⟨path, by rw [Surroundings.document, missing]; rfl⟩)
      · exact .inr (.inr ⟨_, .overlong long⟩)

/-! ## The root -/

inductive Options.Baffles (options : Options) (text : String) : Obstacle → Prop where
  | document {error : Html.Error} (full : Text.blank text = false)
      (failed : Html.read text = .error error) :
      Baffles options text (.root options.input (.document error))
  /-- The selector is not even a text. -/
  | noText {document : List Html.Tree} (shown : readDocument text = .ok document)
      (given : options.selector = some .nothing) : Baffles options text (.noText .selector)
  | malformed {document : List Html.Tree} {selector : String} {error : Selector.Error}
      (shown : readDocument text = .ok document)
      (given : options.selector = some (.text selector))
      (failed : Selector.read selector = .error error) :
      Baffles options text (.root options.input (.selector error))
  | undecided {document : List Html.Tree} {selector : String} {choices : List Selector.Compound}
      {cause : Selector.Undecided} (shown : readDocument text = .ok document)
      (given : options.selector = some (.text selector))
      (formed : Selector.read selector = .ok choices)
      (failed : Selector.firstMatch? choices document = .error cause) :
      Baffles options text (.root options.input (.undecided cause))

namespace Options

variable {text : String} {document : List Html.Tree} {obstacle : Obstacle}

theorem root_of_error {error : RootError} (options : Options)
    (failed : readDocument text = .error error) :
    options.root text = .error (.root options.input error) := by
  unfold root
  split
  · rw [documentRoot_of_error failed]
    rfl
  · rw [documentRoot_of_error failed]
    rfl
  · rw [failed]

theorem root_of_read (options : Options) (shown : readDocument text = .ok document) :
    options.root text =
      match options.selector with
      | none => ((standardRoot document).map Html.Tree.toNode).mapError (.root options.input)
      | some (.text selector) =>
        ((selectedRoot document selector).map Html.Tree.toNode).mapError (.root options.input)
      | some .nothing => .error (.noText .selector) := by
  unfold root
  cases options.selector with
  | none =>
      dsimp only
      rw [documentRoot_of_read shown]
      rfl
  | some value =>
      cases value with
      | text selector =>
          dsimp only
          rw [documentRoot_of_read shown]
          rfl
      | nothing =>
          dsimp only
          rw [shown]

theorem root_of_baffles (baffles : options.Baffles text obstacle) :
    options.root text = .error obstacle := by
  cases baffles with
  | document full failed => exact root_of_error options (readDocument_of_error full failed)
  | noText shown given => rw [root_of_read options shown, given]
  | malformed shown given failed =>
      rw [root_of_read options shown, given]
      dsimp only
      rw [selectedRoot_of_malformed failed]
      rfl
  | undecided shown given formed failed =>
      rw [root_of_read options shown, given]
      dsimp only
      rw [selectedRoot_of_undecided formed failed]
      rfl

theorem Baffles.message? (baffles : options.Baffles text obstacle) : obstacle.message? = none := by
  cases baffles <;> rfl

theorem root_cases (options : Options) (text : String) :
    (∃ root, options.root text = .ok root) ∨
      (∃ error, options.root text = .error (.root options.input (.precheck error))) ∨
      ∃ obstacle, options.Baffles text obstacle := by
  rcases readDocument_cases text with ⟨document, shown⟩ | blank | ⟨full, error, failed⟩
  · rw [root_of_read options shown]
    cases given : options.selector with
    | none =>
        rcases standardRoot_cases document with ⟨tree, found⟩ | ⟨error, missing⟩
        · exact .inl ⟨tree.toNode, by rw [found]; rfl⟩
        · exact .inr (.inl ⟨error, by rw [missing]; rfl⟩)
    | some value =>
        cases value with
        | nothing => exact .inr (.inr ⟨_, .noText shown given⟩)
        | text selector =>
            rcases selectedRoot_cases document selector with
              ⟨tree, found⟩ | ⟨error, missing⟩ | ⟨error, failed⟩ | ⟨choices, cause, formed, failed⟩
            · exact .inl ⟨tree.toNode, by dsimp only; rw [found]; rfl⟩
            · exact .inr (.inl ⟨error, by dsimp only; rw [missing]; rfl⟩)
            · exact .inr (.inr ⟨_, .malformed shown given failed⟩)
            · exact .inr (.inr ⟨_, .undecided shown given formed failed⟩)
  · exact .inr (.inl ⟨_, root_of_error options blank⟩)
  · exact .inr (.inr ⟨_, .document full failed⟩)

end Options

/-! ## The delivery -/

/-- A delivery to a place that arguments select fails for what is there, unless the place is a file
and saving it gets to a null character. -/
theorem Arguments.Selects.isMistake_or {arguments : Arguments} {destination : Destination}
    {error : DeliveryError} (selects : arguments.Selects destination) (store : Store)
    (programs : Programs) (text : String)
    (failed : (deliver store programs text destination).error = some error) :
    error.isMistake = false ∨ ∃ path failure, destination = .file path ∧
      store.ReachesNull path ∧ (store.save path (.text text)).2 = some failure := by
  cases selects with
  | clipboard =>
      have delivers := delivers_deliver isPossible_clipboardCommands store programs text
      exact .inl (delivers.isMistake_eq_false isPossible_clipboardCommands failed)
  | standardOutput => cases failed
  | @file path =>
      rw [deliver] at failed
      split at failed
      · cases failed
      · next after failure saved =>
        cases failed
        have unsaved : (store.save (.ofString path) (.text text)).2 = some failure :=
          congrArg Prod.snd saved
        -- the only failure of saving that is not due to what is there
        by_cases null : failure.cause = .nullCharacter
        · have reached := (store.exists_cause_of_save_iff (.text text)).1 ⟨failure, unsaved, null⟩
          exact .inr ⟨_, failure, rfl, reached, unsaved⟩
        · exact .inl (decide_eq_false null)

/-! ## Conversions -/

/-- The conclusions of conversions that are not documented. -/
inductive Options.Escapes (options : Options) (surroundings : Surroundings) : Conclusion → Prop where
  | unread {error : Store.ReadError} (withheld : surroundings.Withholds options.input error) :
      Escapes options surroundings (.stopped (.unreadableInput error))
  | baffled {text : String} {obstacle : Obstacle}
      (shown : surroundings.document options.input = .ok text)
      (baffles : options.Baffles text obstacle) : Escapes options surroundings (.stopped obstacle)
  /-- The code is to be saved to a path that no file can have. -/
  | misplaced {conversion : Conversion} {code : String} {path : FilePath} {failure : Store.Failure}
      (converted : options.conversion surroundings = .ok conversion)
      (made : options.code conversion = .ok code) (chosen : options.destination = .file path)
      (reached : surroundings.store.ReachesNull path)
      (failed : (surroundings.store.save path (.text code)).2 = some failure) :
      Escapes options surroundings (.undelivered (.notWritten path failure))

variable {tables : Tables} {conclusion : Conclusion}

/-- There is a conversion, or a message tells why there is none, or the end is not documented. -/
theorem conversion_cases (loaded : surroundings.tables options.tables = .ok tables) :
    (∃ conversion, options.conversion surroundings = .ok conversion) ∨
      (∃ obstacle message, options.conversion surroundings = .error obstacle ∧
        obstacle.message? = some message) ∨
      ∃ conclusion, options.Escapes surroundings conclusion := by
  rw [conversion_of_tables loaded]
  rcases document_cases surroundings options.input with
    ⟨text, shown⟩ | ⟨path, missing⟩ | ⟨error, withheld⟩
  · rw [shown]
    rcases options.root_cases text with ⟨root, found⟩ | ⟨error, missing⟩ | ⟨obstacle, baffles⟩
    · dsimp only [Except.bind]
      rw [found]
      dsimp only
      cases transpile ⟨tables, options.skipBlankText⟩ (some root) with
      | ok conversion => exact .inl ⟨conversion, rfl⟩
      | error error => exact .inr (.inl ⟨_, _, rfl, rfl⟩)
    · exact .inr (.inl ⟨_, _, by rw [Except.bind, missing]; rfl, rfl⟩)
    · exact .inr (.inr ⟨_, .baffled shown baffles⟩)
  · exact .inr (.inl ⟨_, _, by rw [missing]; rfl, rfl⟩)
  · exact .inr (.inr ⟨_, .unread withheld⟩)

/-- A name that nothing can be bound to is told. -/
theorem message?_of_code {conversion : Conversion} {obstacle : Obstacle}
    (refused : options.code conversion = .error obstacle) :
    ∃ message, obstacle.message? = some message := by
  unfold Options.code at refused
  split at refused
  · cases refused
  · next name _ =>
    cases rendered : Binding.render conversion.text name with
    | ok code =>
        rw [rendered] at refused
        cases refused
    | error error =>
        rw [rendered] at refused
        cases refused
        exact ⟨_, rfl⟩

theorem convert_of_escapes (loaded : surroundings.tables options.tables = .ok tables)
    (escapes : options.Escapes surroundings conclusion) :
    (convert options surroundings).conclusion = conclusion := by
  cases escapes with
  | unread withheld =>
      refine (convert_of_stops (.unconverted ?_)).1
      rw [conversion_of_tables loaded, document_of_withholds withheld]
      rfl
  | baffled shown baffles =>
      refine (convert_of_stops (.unconverted ?_)).1
      rw [conversion_of_tables loaded, shown, Except.bind, Options.root_of_baffles baffles]
      rfl
  | @misplaced conversion code path failure converted made chosen _ failed =>
      have delivered : (deliver surroundings.store surroundings.programs code (.file path)).error =
          some (.notWritten path failure) := by
        rw [deliver]
        split
        · next saved =>
          rw [saved] at failed
          cases failed
        · next saved =>
          rw [saved] at failed
          cases failed
          rfl
      rw [(convert_follows converted made).conclusion, chosen, delivered]
      rfl

theorem Options.Escapes.not_isDocumented (escapes : options.Escapes surroundings conclusion) :
    ¬ conclusion.IsDocumented := by
  cases escapes with
  | unread => exact Conclusion.not_isDocumented_of_message? rfl
  | baffled _ baffles => exact Conclusion.not_isDocumented_of_message? baffles.message?
  | @misplaced conversion code _ failure _ _ _ reached failed =>
      obtain ⟨same, unsaved, null⟩ :=
        (surroundings.store.exists_cause_of_save_iff (.text code)).2 reached
      -- saving fails in one way only, so the failure that is noted is the one at the null character
      rw [failed] at unsaved
      cases unsaved
      rintro (_ | _ | found)
      rw [DeliveryError.isMistake, null] at found
      cases found

/-- A conversion to a place that arguments select ends in a documented way where it cannot escape. -/
theorem isDocumented_of_regular {arguments : Arguments}
    (selects : arguments.Selects options.destination)
    (loaded : surroundings.tables options.tables = .ok tables)
    (regular : ∀ conclusion, ¬ options.Escapes surroundings conclusion) :
    (convert options surroundings).conclusion.IsDocumented := by
  rcases conversion_cases loaded with
    ⟨conversion, converted⟩ | ⟨obstacle, message, refused, told⟩ | ⟨conclusion, escapes⟩
  · cases made : options.code conversion with
    | error obstacle =>
        obtain ⟨message, told⟩ := message?_of_code made
        rw [(convert_of_stops (.unbound converted made)).1]
        exact .explained told
    | ok code =>
        rw [(convert_follows converted made).conclusion]
        cases failed : (deliver surroundings.store surroundings.programs code
            options.destination).error with
        | none => exact .finished
        | some error =>
            rcases selects.isMistake_or surroundings.store surroundings.programs code failed with
              honest | ⟨path, failure, chosen, reached, unsaved⟩
            · exact .undelivered honest
            · exact absurd (.misplaced converted made chosen reached unsaved) (regular _)
  · rw [(convert_of_stops (.unconverted refused)).1]
    exact .explained told
  · exact absurd escapes (regular conclusion)

/--
A conversion whose tables are loaded ends in a documented way, exactly if it cannot escape: if its
document is not withheld, if nothing that goes untold stands in the way of a root, and if its code is
not to be saved to a path that no file can have.  Where it can escape, it does.
-/
theorem run_conversion_isDocumented_iff {written : List String} (surroundings : Surroundings)
    (accepted : Request.read written = .ok (.conversion options))
    (loaded : surroundings.tables options.tables = .ok tables) :
    ((run written surroundings).conclusion.IsDocumented ↔
      ∀ conclusion, ¬ options.Escapes surroundings conclusion) ∧
    ∀ conclusion, options.Escapes surroundings conclusion →
      (run written surroundings).conclusion = conclusion := by
  rw [run_of_conversion accepted]
  have ended : ∀ conclusion, options.Escapes surroundings conclusion →
      (convert options surroundings).conclusion = conclusion :=
    fun _ escapes => convert_of_escapes loaded escapes
  refine ⟨⟨?_, ?_⟩, ended⟩
  · intro documented conclusion escapes
    rw [ended conclusion escapes] at documented
    exact escapes.not_isDocumented documented
  · obtain ⟨_, arguments, _, _, _, rfl⟩ := Request.exists_of_read_eq_conversion accepted
    exact isDocumented_of_regular arguments.selects_destination loaded

/-- A name that nothing can be bound to is told, unless the standard input encodes no text. -/
theorem run_conversion_isDocumented_iff_misnamed :
    let written := ["convert", "--wrap", "Page"]
    let options : Options := ⟨none, none, none, false, some "Page", .standardOutput⟩
    let plain : Surroundings := ⟨.text "<p>Hi</p>", ⟨[], []⟩, []⟩
    let garbled : Surroundings := ⟨.illFormed [0xff], ⟨[], []⟩, []⟩
    (Request.read written = .ok (.conversion options) ∧
      plain.tables options.tables = .ok Preset.extended.tables ∧
      garbled.tables options.tables = .ok Preset.extended.tables) ∧
    (∀ conclusion, ¬ options.Escapes plain conclusion) ∧
    options.Escapes garbled (.stopped (.unreadableInput .illFormed)) ∧
      (run written garbled).conclusion = .stopped (.unreadableInput .illFormed) := by
  intro written options plain garbled
  have accepted : Request.read written = .ok (.conversion options) := by decide +kernel
  have lacks : plain.store.Lacks Preset.extended.name :=
    Store.lacks_of_absent rfl
  have loaded : plain.tables none = .ok Preset.extended.tables :=
    tables_of_lacks (holdsPresets_standard (by decide)) lacks
  have escapes : options.Escapes garbled (.stopped (.unreadableInput .illFormed)) :=
    .unread (.input rfl)
  refine ⟨⟨accepted, loaded, loaded⟩, ?_, escapes, ?_⟩
  · refine (run_conversion_isDocumented_iff plain accepted loaded).1.1 ?_
    have told : (run written plain).conclusion = .stopped (.binding ⟨"Page"⟩) := by
      rw [run_of_conversion accepted, convert, conversion_of_tables loaded]
      decide +kernel
    rw [told]
    exact .explained rfl
  · exact (run_conversion_isDocumented_iff garbled accepted loaded).2 _ escapes

/-- A directory in the place of the document ends a conversion in a way that is not documented. -/
theorem run_conversion_directory :
    let written := ["convert", "--in", "dir"]
    let surroundings : Surroundings := ⟨.text "", ⟨[(["dir"], .directory)], []⟩, []⟩
    ∃ options tables, Request.read written = .ok (.conversion options) ∧
      surroundings.tables options.tables = .ok tables ∧
        ¬ (run written surroundings).conclusion.IsDocumented := by
  intro written surroundings
  let options : Options := ⟨some (.ofString "dir"), none, none, false, none, .standardOutput⟩
  have accepted : Request.read written = .ok (.conversion options) := by decide +kernel
  have lacks : surroundings.store.Lacks Preset.extended.name :=
    Store.lacks_of_absent rfl
  have loaded : surroundings.tables none = .ok Preset.extended.tables :=
    tables_of_lacks (holdsPresets_standard (by decide)) lacks
  have ended : (run written surroundings).conclusion =
      .stopped (.unreadableInput (.unreachable .isDirectory)) := by
    rw [run_of_conversion accepted, convert, conversion_of_tables loaded]
    decide +kernel
  refine ⟨options, Preset.extended.tables, accepted, loaded, ?_⟩
  rw [ended]
  exact Conclusion.not_isDocumented_of_message? rfl

end MarkupDsl.CommandLine
