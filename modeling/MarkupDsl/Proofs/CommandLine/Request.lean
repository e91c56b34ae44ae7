import MarkupDsl.Proofs.CommandLine.Arguments

/-!
# Requests for conversions

The arguments that ask for a conversion are the name of that command and arguments that its grammar
accepts, with none left over.  The texts of the options come from them.
-/

namespace MarkupDsl.CommandLine

/-! ## The outer command -/

/-- The whole program has no switch but the one for help. -/
theorem Grammar.eq_help_of_mem_whole {switch : Switch} (member : switch ∈ Grammar.whole.switches) :
    switch = .help :=
  List.mem_singleton.1 member

/--
A command of the program is named by its first argument, and all that follow are left to it: before
it there is no argument with a use.
-/
theorem Grammar.eq_cons_of_read_whole {written : List String} {arguments : Arguments}
    {command : String} (accepted : Grammar.whole.read written = .ok arguments)
    (named : arguments.operand = some command) (useful : arguments.extras = []) :
    written = command :: arguments.left := by
  obtain ⟨items, rfl, standing, reads⟩ := exists_reads_of_read accepted
  cases reads with
  | done => cases named
  | extra rest =>
      have kept := rest.extras_prefix
      rw [useful, List.prefix_nil] at kept
      cases kept
  | valued takes =>
      cases standing _ List.mem_cons_self with
      | switch known =>
          rw [eq_help_of_mem_whole known] at takes
          cases takes
  | valuedByNext takes =>
      cases standing _ List.mem_cons_self with
      | switch known =>
          rw [eq_help_of_mem_whole known] at takes
          cases takes
  | plain noHelp =>
      cases standing _ List.mem_cons_self with
      | switch known => exact absurd (eq_help_of_mem_whole known) noHelp
  | command _ operand =>
      unfold takeOperand at operand
      dsimp only [whole] at operand
      split at operand
      · cases operand
        cases named
        rfl
      · cases operand
  | commandBehindSeparator _ operand => cases operand
  | operand direct => cases direct
  | operandBeforeSeparator direct => cases direct
  | operandBehindSeparator direct => cases direct

/-! ## Conversions -/

namespace Request

theorem exists_of_behind {extras all : List String} {reading : Reading} {request : Request}
    (accepted : behind extras reading = .ok (request, all)) :
    ∃ further, reading = .ok (request, further) ∧ all = extras ++ further := by
  cases reading with
  | error halt => cases accepted
  | ok result =>
      cases accepted
      exact ⟨result.2, rfl, rfl⟩

/-- The commands about tables do not convert. -/
theorem ne_conversion_of_readTables {written extras : List String} {request : Request}
    (accepted : readTables written = .ok (request, extras)) (options : Options) :
    request ≠ .conversion options := by
  rintro rfl
  obtain ⟨arguments, _, accepted⟩ := bind_eq_ok_iff.1 accepted
  split at accepted
  · cases accepted
  · obtain ⟨further, accepted, _⟩ := exists_of_behind accepted
    obtain ⟨inner, _, accepted⟩ := bind_eq_ok_iff.1 accepted
    cases accepted
  · obtain ⟨further, accepted, _⟩ := exists_of_behind accepted
    obtain ⟨inner, _, accepted⟩ := bind_eq_ok_iff.1 accepted
    cases accepted

/--
A conversion is asked for by the name of the command and arguments that its grammar accepts; they
make up the options, and none of them is without a use.
-/
theorem exists_of_read_eq_conversion {written : List String} {options : Options}
    (accepted : Request.read written = .ok (.conversion options)) :
    ∃ rest arguments, written = "convert" :: rest ∧
      Grammar.convert.read rest = .ok arguments ∧ arguments.extras = [] ∧
      options = .ofArguments arguments := by
  have whole : readAll written = .ok (.conversion options, []) := by
    obtain ⟨⟨request, extras⟩, all, accepted⟩ := bind_eq_ok_iff.1 accepted
    split at accepted
    · next same =>
      cases accepted
      rw [all, same]
    · cases accepted
  obtain ⟨outer, read, inner⟩ := bind_eq_ok_iff.1 whole
  split at inner
  · cases inner
  · next named =>
    obtain ⟨further, reading, useful⟩ := exists_of_behind inner
    obtain ⟨outerUseful, rfl⟩ := List.append_eq_nil_iff.1 useful.symm
    obtain ⟨arguments, accepted, same⟩ := bind_eq_ok_iff.1 reading
    obtain ⟨made, left⟩ := Prod.mk.inj (Except.ok.inj same)
    refine ⟨outer.left, arguments, ?_, accepted, left, (Request.conversion.inj made).symm⟩
    exact Grammar.eq_cons_of_read_whole read named outerUseful
  · obtain ⟨further, reading, _⟩ := exists_of_behind inner
    exact absurd rfl (ne_conversion_of_readTables reading options)

end Request

end MarkupDsl.CommandLine
