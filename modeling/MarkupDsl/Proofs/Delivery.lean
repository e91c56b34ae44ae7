import MarkupDsl.Delivery
import MarkupDsl.Proofs.Storage.NullFree

/-!
# What a delivery does

A delivery tries one destination and leaves the others as they are: standard output gets the text
with a line feed at its end, a file is saved in the store, or the text is the input of the first
command whose program is installed.  A destination that could exist fails only for what is there.
-/

namespace MarkupDsl

/-! ## Commands -/

namespace Programs

/-- Whether a command names a program that is not installed. -/
def Lacks (programs : Programs) (command : Command) : Prop :=
  ∃ program arguments, command = program :: arguments ∧ programs.conduct? program = none

def IsFirst (programs : Programs) (commands : List Command) (program : String)
    (arguments : List String) (conduct : Conduct) : Prop :=
  ∃ before after, commands = before ++ (program :: arguments) :: after ∧
    programs.conduct? program = some conduct ∧ ∀ command ∈ before, programs.Lacks command

theorem IsFirst.mem {programs : Programs} {commands : List Command} {program : String}
    {arguments : List String} {conduct : Conduct}
    (first : programs.IsFirst commands program arguments conduct) :
    program :: arguments ∈ commands := by
  obtain ⟨before, after, rfl, _⟩ := first
  exact List.mem_append_right before List.mem_cons_self

end Programs

variable {programs : Programs} {commands : List Command}

theorem lacks_of_firstInstalled (found : firstInstalled programs commands = .ok none) :
    ∀ command ∈ commands, programs.Lacks command := by
  fun_induction firstInstalled programs commands with
  | case1 => rintro _ ⟨⟩
  | case2 => cases found
  | case3 => cases found
  | case4 program arguments rest absent ih =>
      exact List.forall_mem_cons.2 ⟨⟨program, arguments, rfl, absent⟩, ih found⟩

theorem isFirst_of_firstInstalled {program : String} {arguments : List String} {conduct : Conduct}
    (found : firstInstalled programs commands = .ok (some (program, arguments, conduct))) :
    programs.IsFirst commands program arguments conduct := by
  fun_induction firstInstalled programs commands with
  | case1 => cases found
  | case2 => cases found
  | case3 first given rest conduct installed =>
      cases found
      exact ⟨[], rest, rfl, installed, by rintro _ ⟨⟩⟩
  | case4 first given rest absent ih =>
      obtain ⟨before, after, rfl, installed, missing⟩ := ih found
      refine ⟨(first :: given) :: before, after, rfl, installed, ?_⟩
      exact List.forall_mem_cons.2 ⟨⟨first, given, rfl, absent⟩, missing⟩

/-- The search goes wrong only at a command that names no program. -/
theorem nil_mem_of_firstInstalled {error : DeliveryError}
    (refused : firstInstalled programs commands = .error error) : [] ∈ commands := by
  fun_induction firstInstalled programs commands with
  | case1 => cases refused
  | case2 => exact List.mem_cons_self
  | case3 => cases refused
  | case4 program arguments rest absent ih => exact List.mem_cons_of_mem _ (ih refused)

/-! ## Deliveries -/

/-- Whether a destination is one that could exist: the path holds no null character, and every
command names a program and has arguments that it can be given. -/
def Destination.IsPossible : Destination → Prop
  | .standardOutput => True
  | .file path => path.IsNullFree
  | .clipboard commands => ∀ command ∈ commands,
      ∃ program arguments, command = program :: arguments ∧
        ∀ argument ∈ arguments, '\x00' ∉ argument.toList

theorem isPossible_clipboardCommands :
    (Destination.clipboard Destination.clipboardCommands).IsPossible := by
  unfold Destination.IsPossible Destination.clipboardCommands
  simp only [List.forall_mem_cons]
  refine ⟨⟨_, _, rfl, ?_⟩, ⟨_, _, rfl, ?_⟩, ⟨_, _, rfl, ?_⟩, ⟨_, _, rfl, ?_⟩, by rintro _ ⟨⟩⟩ <;>
    decide

/-- What the delivery of a text to a destination does, and what it leaves as it is. -/
inductive Delivers (store : Store) (programs : Programs) (text : String) :
    Destination → Delivery → Prop where
  | printed : Delivers store programs text .standardOutput ⟨store, withFinalLineFeed text, [], none⟩
  | saved {path : FilePath} {after : Store} (saved : store.save path (.text text) = (after, none)) :
      Delivers store programs text (.file path) ⟨after, "", [], none⟩
  | notSaved {path : FilePath} {after : Store} {failure : Store.Failure}
      (failed : store.save path (.text text) = (after, some failure)) :
      Delivers store programs text (.file path)
        ⟨after, "", [], some (.notWritten path failure)⟩
  | noProgram {commands : List Command} (missing : ∀ command ∈ commands, programs.Lacks command) :
      Delivers store programs text (.clipboard commands)
        ⟨store, "", [], some (.noCommand commands)⟩
  | taken {commands : List Command} {program : String} {arguments : List String}
      (first : programs.IsFirst commands program arguments (.exits 0)) :
      Delivers store programs text (.clipboard commands)
        ⟨store, "", [⟨program, arguments, text⟩], none⟩
  | exited {commands : List Command} {program : String} {arguments : List String} {status : Nat}
      (first : programs.IsFirst commands program arguments (.exits status)) (failed : status ≠ 0) :
      Delivers store programs text (.clipboard commands)
        ⟨store, "", [⟨program, arguments, text⟩],
          some (.commandFailed program arguments (.exit status))⟩
  | terminated {commands : List Command} {program : String} {arguments : List String}
      (first : programs.IsFirst commands program arguments .terminated) :
      Delivers store programs text (.clipboard commands)
        ⟨store, "", [⟨program, arguments, text⟩],
          some (.commandFailed program arguments .terminated)⟩
  | notStarted {commands : List Command} {program : String} {arguments : List String}
      (first : programs.IsFirst commands program arguments .notExecutable) :
      Delivers store programs text (.clipboard commands)
        ⟨store, "", [], some (.commandFailed program arguments .notExecutable)⟩

theorem delivers_runProgram {program : String} {arguments : List String} {conduct : Conduct}
    (store : Store) (text : String)
    (first : programs.IsFirst commands program arguments conduct) :
    Delivers store programs text (.clipboard commands)
      (runProgram store program arguments text conduct) := by
  cases conduct with
  | exits status =>
      cases status with
      | zero => exact .taken first
      | succ status => exact .exited first (Nat.succ_ne_zero status)
  | terminated => exact .terminated first
  | notExecutable => exact .notStarted first

/-- A delivery to a destination that could exist does what deliveries do. -/
theorem delivers_deliver {destination : Destination} (possible : destination.IsPossible)
    (store : Store) (programs : Programs) (text : String) :
    Delivers store programs text destination (deliver store programs text destination) := by
  cases destination with
  | standardOutput => exact .printed
  | file path =>
      rw [deliver]
      split
      · next after same => exact .saved same
      · next after failure same => exact .notSaved same
  | clipboard commands =>
      rw [deliver]
      split
      · next error refused =>
        obtain ⟨program, arguments, impossible, _⟩ := possible [] (nil_mem_of_firstInstalled refused)
        cases impossible
      · next found => exact .noProgram (lacks_of_firstInstalled found)
      · next program arguments conduct found =>
        have first := isFirst_of_firstInstalled found
        obtain ⟨_, _, same, free⟩ := possible _ first.mem
        cases same
        -- every command is possible, so none of the arguments is refused
        have givable : ¬ arguments.any (fun argument => argument.toList.contains '\x00') = true := by
          rw [List.any_eq_true]
          rintro ⟨argument, member, inside⟩
          exact free argument member (List.contains_iff_mem.1 inside)
        rw [if_neg givable]
        exact delivers_runProgram store text first

namespace Delivers

variable {store : Store} {text : String} {destination : Destination} {delivery : Delivery}

/-- A delivery to a destination that could exist is not a mistake. -/
theorem isMistake_eq_false (delivers : Delivers store programs text destination delivery)
    (possible : destination.IsPossible) {error : DeliveryError}
    (failed : delivery.error = some error) : error.isMistake = false := by
  cases delivers with
  | printed | saved | taken => cases failed
  | notSaved unsaved =>
      cases failed
      exact decide_eq_false (Store.cause_of_save store possible (congrArg Prod.snd unsaved))
  | noProgram | exited | terminated | notStarted =>
      cases failed
      rfl

end Delivers

end MarkupDsl
