import MarkupDsl.Proofs.Classification.Source

/-!
# Remembered tables

Tables that were asked for by a name once are remembered under its key, and from then on the store is
not looked at for that key.  A request that fails leaves the memory as it is, and a request with one
key does not touch what is remembered under another.  Between requests the store may change at will.
-/

namespace MarkupDsl.Memory

/-! ## Single requests -/

section

variable {memory : Memory} {store : Store} {name : Option String} {tables : Tables}

/-- No name and the empty name have the key of the standard preset; any other name is a key itself. -/
theorem key_eq (name : Option String) :
    key name = if name.getD "" = "" then "extended" else name.getD "" := by
  cases name with
  | none => rfl
  | some written => rfl

theorem fetch_of_remembered (remembered : memory.tables? (key name) = some tables) :
    memory.fetch store name = (.ok tables, memory) := by
  rw [fetch, remembered]

theorem fetch_of_loaded (unknown : memory.tables? (key name) = none)
    (loaded : Source.load store (.name (key name)) = .ok tables) :
    memory.fetch store name = (.ok tables, ⟨(key name, tables) :: memory.loaded⟩) := by
  rw [fetch, unknown, loaded]

theorem fetch_of_failed {error : LoadError} (unknown : memory.tables? (key name) = none)
    (failed : Source.load store (.name (key name)) = .error error) :
    memory.fetch store name = (.error error, memory) := by
  rw [fetch, unknown, failed]

theorem tables?_cons (key other : String) (tables : Tables) (loaded : List (String × Tables)) :
    tables? ⟨(key, tables) :: loaded⟩ other =
      if key = other then some tables else tables? ⟨loaded⟩ other := by
  by_cases same : key = other
  · simp [tables?, same]
  · simp [tables?, same]

/-- A request is answered with the remembered tables, or else with what loading gives. -/
theorem fetch_fst (memory : Memory) (store : Store) (name : Option String) :
    (memory.fetch store name).1 =
      (memory.tables? (key name)).elim (Source.load store (.name (key name))) .ok := by
  cases remembered : memory.tables? (key name) with
  | some tables => rw [fetch_of_remembered remembered]; rfl
  | none =>
      cases loaded : Source.load store (.name (key name)) with
      | ok tables => rw [fetch_of_loaded remembered loaded]; rfl
      | error error => rw [fetch_of_failed remembered loaded]; rfl

/-- A request leaves its answer under its own key, if that is tables, and leaves all other keys as
they are. -/
theorem tables?_fetch (memory : Memory) (store : Store) (name : Option String) (other : String) :
    (memory.fetch store name).2.tables? other =
      if key name = other then (memory.fetch store name).1.toOption else memory.tables? other := by
  cases remembered : memory.tables? (key name) with
  | some tables =>
      rw [fetch_of_remembered remembered]
      split
      · next same => rw [← same, remembered]; rfl
      · rfl
  | none =>
      cases loaded : Source.load store (.name (key name)) with
      | ok tables =>
          rw [fetch_of_loaded remembered loaded, tables?_cons]
          rfl
      | error error =>
          rw [fetch_of_failed remembered loaded]
          split
          · next same => rw [← same, remembered]; rfl
          · rfl

theorem fetch_snd_of_error {error : LoadError} (failed : (memory.fetch store name).1 = .error error) :
    (memory.fetch store name).2 = memory := by
  cases remembered : memory.tables? (key name) with
  | some tables =>
      rw [fetch_of_remembered remembered] at failed
      cases failed
  | none =>
      cases loaded : Source.load store (.name (key name)) with
      | ok tables =>
          rw [fetch_of_loaded remembered loaded] at failed
          cases failed
      | error error => rw [fetch_of_failed remembered loaded]

end

/-! ## Histories -/

/-- What happens from one moment to the next. -/
inductive Occasion where
  | request (name : Option String)
  | change (store : Store)

/-- A memory, and the store that tables are loaded from at the moment. -/
structure Situation where
  memory : Memory
  store : Store

namespace Situation

/-- What a request would be answered with. -/
def answer (now : Situation) (name : Option String) : Except LoadError Tables :=
  (now.memory.fetch now.store name).1

def after (now : Situation) : Occasion → Situation
  | .request name => { now with memory := (now.memory.fetch now.store name).2 }
  | .change store => { now with store := store }

/-- The situation after occasions that follow one another. -/
def afterAll (now : Situation) (history : List Occasion) : Situation := history.foldl after now

/-- Whether no request of a history that has a key is answered with tables. -/
def Fails (key : String) (now : Situation) (history : List Occasion) : Prop :=
  ∀ before name later, history = before ++ .request name :: later → Memory.key name = key →
    ∃ error, (now.afterAll before).answer name = .error error

variable {now other : Situation} {key : String} {tables : Tables}

theorem tables?_after_request (now : Situation) (name : Option String) (key : String) :
    (now.after (.request name)).memory.tables? key =
      if Memory.key name = key then (now.answer name).toOption else now.memory.tables? key :=
  tables?_fetch now.memory now.store name key

theorem answer_of_remembered {name : Option String}
    (remembered : now.memory.tables? (Memory.key name) = some tables) :
    now.answer name = .ok tables := by
  rw [answer, fetch_fst, remembered]
  rfl

theorem answer_of_unknown {name : Option String}
    (unknown : now.memory.tables? (Memory.key name) = none) :
    now.answer name = Source.load now.store (.name (Memory.key name)) := by
  rw [answer, fetch_fst, unknown]
  rfl

/-! ### What is remembered stays -/

theorem remembered_after (remembered : now.memory.tables? key = some tables) (occasion : Occasion) :
    (now.after occasion).memory.tables? key = some tables := by
  cases occasion with
  | change store => exact remembered
  | request name =>
      rw [tables?_after_request]
      split
      · next same =>
        rw [answer_of_remembered (same ▸ remembered)]
        rfl
      · exact remembered

theorem remembered_afterAll (remembered : now.memory.tables? key = some tables)
    (history : List Occasion) : (now.afterAll history).memory.tables? key = some tables := by
  induction history generalizing now with
  | nil => exact remembered
  | cons first rest ih => exact ih (remembered_after remembered first)

/-! ### What failed is not remembered -/

theorem Fails.head {first : Occasion} {rest : List Occasion} (fails : Fails key now (first :: rest))
    {name : Option String} (asked : first = .request name) (same : Memory.key name = key) :
    ∃ error, now.answer name = .error error :=
  fails [] name rest (congrArg (· :: rest) asked) same

theorem Fails.tail {first : Occasion} {rest : List Occasion} (fails : Fails key now (first :: rest)) :
    Fails key (now.after first) rest := by
  intro before name later split same
  exact fails (first :: before) name later (congrArg (first :: ·) split) same

/-- Requests with other keys do not count as failures of a key. -/
theorem fails_of_other_keys {history : List Occasion}
    (others : ∀ name, .request name ∈ history → Memory.key name ≠ key) : Fails key now history := by
  rintro before name later rfl same
  exact absurd same (others name (List.mem_append_right before List.mem_cons_self))

theorem unknown_afterAll (unknown : now.memory.tables? key = none) {history : List Occasion}
    (fails : Fails key now history) : (now.afterAll history).memory.tables? key = none := by
  induction history generalizing now with
  | nil => exact unknown
  | cons first rest ih =>
      refine ih ?_ fails.tail
      cases first with
      | change store => exact unknown
      | request name =>
          rw [tables?_after_request]
          split
          · next same =>
            obtain ⟨error, failed⟩ := fails.head rfl same
            rw [failed]
            rfl
          · exact unknown

/-! ### Other keys do not count -/

/-- Whether two situations cannot be told apart by requests with a key. -/
def AgreeOn (key : String) (now other : Situation) : Prop :=
  now.store = other.store ∧ now.memory.tables? key = other.memory.tables? key

theorem AgreeOn.answer_eq (agree : AgreeOn key now other) {name : Option String}
    (same : Memory.key name = key) : now.answer name = other.answer name := by
  subst same
  rw [answer, answer, fetch_fst, fetch_fst, agree.1, agree.2]

theorem AgreeOn.after (agree : AgreeOn key now other) (occasion : Occasion) :
    AgreeOn key (now.after occasion) (other.after occasion) := by
  cases occasion with
  | change store => exact ⟨rfl, agree.2⟩
  | request name =>
      refine ⟨agree.1, ?_⟩
      rw [tables?_after_request, tables?_after_request]
      split
      · next same => rw [agree.answer_eq same]
      · exact agree.2

theorem AgreeOn.afterAll (agree : AgreeOn key now other) (history : List Occasion) :
    AgreeOn key (now.afterAll history) (other.afterAll history) := by
  induction history generalizing now other with
  | nil => exact agree
  | cons first rest ih => exact ih (agree.after first)

theorem agreeOn_after_request {name : Option String} (different : Memory.key name ≠ key) :
    AgreeOn key (now.after (.request name)) now :=
  ⟨rfl, by rw [tables?_after_request, if_neg different]⟩

/-! ### Requests in every history -/

/--
Remembered tables are stable, and failures leave no trace.  No name and the empty name have the key of
the standard preset.  In every situation, whatever happens `later`: once a request was answered with
tables, so is every later request with its key.  A request that fails changes nothing, and as long as
the requests with its key fail, the next one loads from the store of that time.  A request does not
change the answers to requests with another key.
-/
theorem answer_stable (now : Situation) (name other : Option String) (later : List Occasion) :
    Memory.key name = (if name.getD "" = "" then "extended" else name.getD "") ∧
    (∀ tables, now.answer name = .ok tables → Memory.key other = Memory.key name →
      ((now.after (.request name)).afterAll later).answer other = .ok tables) ∧
    (∀ error, now.answer name = .error error →
      now.after (.request name) = now ∧
      (Memory.key other = Memory.key name → Fails (Memory.key name) now later →
        (now.afterAll later).answer other =
          Source.load (now.afterAll later).store (.name (Memory.key name)))) ∧
    (Memory.key other ≠ Memory.key name →
      ((now.after (.request name)).afterAll later).answer other =
        (now.afterAll later).answer other) := by
  refine ⟨key_eq name, ?_, ?_, ?_⟩
  · intro tables answered same
    have remembered :
        (now.after (.request name)).memory.tables? (Memory.key name) = some tables := by
      rw [tables?_after_request, if_pos rfl, answered]
      rfl
    exact answer_of_remembered (same ▸ remembered_afterAll remembered later)
  · intro error failed
    -- what is remembered cannot fail, so nothing is remembered under the key
    have unknown : now.memory.tables? (Memory.key name) = none := by
      cases remembered : now.memory.tables? (Memory.key name) with
      | none => rfl
      | some tables =>
          rw [answer_of_remembered remembered] at failed
          cases failed
    constructor
    · rw [after, fetch_snd_of_error failed]
    · intro same fails
      rw [← same] at unknown fails ⊢
      exact answer_of_unknown (unknown_afterAll unknown fails)
  · intro different
    exact ((agreeOn_after_request (Ne.symm different)).afterAll later).answer_eq rfl

/--
A file named like the standard preset holds no text at first, then an empty document, then no text
again.  It is loaded once it can be, also beside a request for another preset, and is not loaded again.
-/
theorem answer_stable_mended :
    let broken : Store := ⟨[(["extended"], .file (.illFormed [255]))], []⟩
    let mended : Store := ⟨[(["extended"], .file (.text ""))], []⟩
    let start : Situation := ⟨empty, broken⟩
    let between : List Occasion := [.request (some "minimal"), .change mended]
    let now := start.afterAll between
    (start.answer none = .error (.unreadable .illFormed) ∧ start.after (.request none) = start ∧
      now.answer (some "") = .ok Tables.empty) ∧
    (((now.after (.request (some ""))).afterAll [.change broken]).answer (some "extended") =
      .ok Tables.empty) ∧
    ((start.after (.request (some "minimal"))).afterAll [.change mended]).answer none =
      .ok Tables.empty := by
  intro broken mended start between now
  have shadowed : broken.Holds Preset.extended.name (.file (.illFormed [255])) := ⟨rfl, rfl⟩
  have replaced : mended.Holds Preset.extended.name (.file (.text "")) := ⟨rfl, rfl⟩
  have failed : start.answer none = .error (.unreadable .illFormed) := by
    rw [answer_of_unknown rfl]
    exact Source.load_name_of_holds shadowed
  have loaded : Source.load mended (.name "extended") = .ok Tables.empty := by
    have blank : Source.tablesIn ⟨.home, ["extended"]⟩ (.text "") = .ok Tables.empty := by
      decide +kernel
    exact (Source.load_name_of_holds replaced).trans blank
  have unasked : Fails "extended" start between := by
    apply fails_of_other_keys
    rintro name member
    obtain rfl : name = some "minimal" := by simpa [between] using member
    decide
  obtain ⟨_, _, afresh, _⟩ := answer_stable start none (some "") between
  obtain ⟨untouched, reloaded⟩ := afresh _ failed
  have answered : now.answer (some "") = .ok Tables.empty := (reloaded rfl unasked).trans loaded
  obtain ⟨_, kept, _, _⟩ := answer_stable now (some "") (some "extended") [.change broken]
  obtain ⟨_, _, _, apart⟩ := answer_stable start (some "minimal") none [.change mended]
  refine ⟨⟨failed, untouched, answered⟩, kept _ answered rfl, ?_⟩
  rw [apart (by decide), answer_of_unknown rfl]
  exact loaded

end Situation

end MarkupDsl.Memory
