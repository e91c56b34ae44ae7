import MarkupDsl.CommandLine.Request
import MarkupDsl.Proofs.Step

/-!
# Where the values of switches come from

What a command reads out of its arguments is part of what was written: the value of a switch is one
of the arguments, or the end of one, and the arguments of a further command are the last arguments
of the outer one.
-/

namespace MarkupDsl.CommandLine

/-! ## Classified arguments -/

/-- How an item may stand for an argument of a command. -/
inductive Item.StandsFor (grammar : Grammar) : String → Item → Prop where
  | argument (value : String) : StandsFor grammar value (.argument value)
  | separator : StandsFor grammar CommandLine.separator .separator
  | unknown (written : String) : StandsFor grammar written (.switch written none)
  | switch {written : String} {found : Found} (known : found.switch ∈ grammar.switches)
      (ending : ∀ value ∈ found.value, value.toList <:+ written.toList) :
      StandsFor grammar written (.switch written (some found))

theorem suffix_of_cutAtEquals? {written : List Char} {parts : String × String}
    (cut : cutAtEquals? written = some parts) : parts.2.toList <:+ written := by
  unfold cutAtEquals? at cut
  split at cut
  · cases cut
  · next c value same =>
    cases cut
    rw [String.toList_ofList]
    exact (List.suffix_cons c value).trans (same ▸ List.dropWhile_suffix _)

namespace Grammar

theorem mem_switches_of_mem_named {grammar : Grammar} {entry : String × Switch}
    (member : entry ∈ grammar.named) : entry.2 ∈ grammar.switches := by
  obtain ⟨switch, present, listed⟩ := List.mem_flatMap.1 member
  obtain ⟨name, _, rfl⟩ := List.mem_map.1 listed
  exact present

theorem mem_switches_of_lookup {grammar : Grammar} {name : String} {switch : Switch}
    (found : grammar.named.lookup name = some switch) : switch ∈ grammar.switches := by
  obtain ⟨before, after, same, _⟩ := List.lookup_eq_some_iff.1 found
  have member : (name, switch) ∈ grammar.named := by
    rw [same]
    exact List.mem_append_right before List.mem_cons_self
  exact mem_switches_of_mem_named member

/-- What a name may be meant for is a switch of the command, with the end of the argument. -/
theorem standsFor_of_mem_candidates {grammar : Grammar} {written : String} {found : Found}
    (member : found ∈ grammar.candidates written) :
    Item.StandsFor grammar written (.switch written (some found)) := by
  unfold candidates at member
  split at member
  · cases cut : cutAtEquals? written.toList with
    | none =>
        rw [cut] at member
        obtain ⟨entry, present, same⟩ := List.mem_filterMap.1 member
        obtain ⟨_, same⟩ := Option.ite_none_right_eq_some.1 same
        cases same
        exact .switch (mem_switches_of_mem_named present) (by rintro _ ⟨⟩)
    | some parts =>
        rw [cut] at member
        obtain ⟨entry, present, same⟩ := List.mem_filterMap.1 member
        obtain ⟨_, same⟩ := Option.ite_none_right_eq_some.1 same
        cases same
        refine .switch (mem_switches_of_mem_named present) ?_
        rintro _ ⟨⟩
        exact suffix_of_cutAtEquals? cut
  · obtain ⟨entry, present, same⟩ := List.mem_filterMap.1 member
    split at same
    · cases same
      refine .switch (mem_switches_of_mem_named present) ?_
      rintro _ ⟨⟩
      rw [String.toList_ofList]
      exact List.drop_suffix 2 _
    · obtain ⟨_, same⟩ := Option.ite_none_right_eq_some.1 same
      cases same
      exact .switch (mem_switches_of_mem_named present) (by rintro _ ⟨⟩)

theorem standsFor_of_named {grammar : Grammar} {written name : String} {value : Option String}
    {item : Item}
    (found : (grammar.named.lookup name).map (fun switch =>
      Item.switch written (some ⟨switch, name, value⟩)) = some item)
    (ending : ∀ text ∈ value, text.toList <:+ written.toList) : item.StandsFor grammar written := by
  obtain ⟨switch, listed, rfl⟩ := Option.map_eq_some_iff.1 found
  exact .switch (mem_switches_of_lookup listed) ending

theorem standsFor_of_classify {grammar : Grammar} {written : String} {item : Item}
    (classified : grammar.classify written = .ok item) : item.StandsFor grammar written := by
  unfold classify at classified
  dsimp only at classified
  split at classified
  · split at classified
    · next named =>
      cases classified
      exact standsFor_of_named named (by rintro _ ⟨⟩)
    · split at classified
      · cases classified
        exact .argument written
      · split at classified
        · next named =>
          cases classified
          obtain ⟨parts, cut, named⟩ := Option.bind_eq_some_iff.1 named
          refine standsFor_of_named named ?_
          rintro _ ⟨⟩
          exact suffix_of_cutAtEquals? cut
        · split at classified
          · next found only =>
            cases classified
            refine standsFor_of_mem_candidates ?_
            rw [only]
            exact List.mem_singleton_self found
          · split at classified
            · cases classified
              exact .argument written
            · cases classified
              exact .unknown written
          · cases classified
  · cases classified
    exact .argument written

theorem written_of_standsFor {grammar : Grammar} {written : String} {item : Item}
    (stands : item.StandsFor grammar written) : Item.written item = written := by
  cases stands <;> rfl

theorem standsFor_of_items {grammar : Grammar} {written : List String} {items : List Item}
    (classified : grammar.items written = .ok items) :
    items.map Item.written = written ∧
      ∀ item ∈ items, item.StandsFor grammar (Item.written item) := by
  induction written generalizing items with
  | nil =>
      cases classified
      exact ⟨rfl, by rintro _ ⟨⟩⟩
  | cons first rest ih =>
      rw [Grammar.items] at classified
      split at classified
      · next same =>
        -- nothing behind the separator is a switch
        cases classified
        refine ⟨?_, List.forall_mem_cons.2 ⟨.separator, ?_⟩⟩
        · rw [List.map_cons, List.map_map, same]
          exact congrArg (separator :: ·) (List.map_id' rest)
        · intro item member
          obtain ⟨value, _, rfl⟩ := List.mem_map.1 member
          exact .argument value
      · obtain ⟨item, head, classified⟩ := bind_eq_ok_iff.1 classified
        obtain ⟨others, tail, classified⟩ := bind_eq_ok_iff.1 classified
        cases classified
        obtain ⟨kept, standing⟩ := ih tail
        have stands := standsFor_of_classify head
        have same := written_of_standsFor stands
        refine ⟨?_, List.forall_mem_cons.2 ⟨?_, standing⟩⟩
        · rw [List.map_cons, same, kept]
        · rw [same]
          exact stands

/-! ## Reading -/

/-- How a command may read items, from the arguments that it has made out so far to all of them. -/
inductive Reads (grammar : Grammar) : Arguments → List Item → Arguments → Prop where
  | done {arguments : Arguments} : Reads grammar arguments [] arguments
  | extra {arguments result : Arguments} {item : Item} {items : List Item}
      (rest : Reads grammar { arguments with extras := arguments.extras ++ [Item.written item] } items
        result) :
      Reads grammar arguments (item :: items) result
  | valued {arguments taken result : Arguments} {written value : String} {found : Found}
      {items : List Item} (takes : found.switch.takesValue = true)
      (present : found.value = some value)
      (take : arguments.take found.switch (.ofText value) = .ok taken)
      (rest : Reads grammar taken items result) :
      Reads grammar arguments (.switch written (some found) :: items) result
  | valuedByNext {arguments taken result : Arguments} {written value : String} {found : Found}
      {items : List Item} (takes : found.switch.takesValue = true)
      (take : arguments.take found.switch (.ofText value) = .ok taken)
      (rest : Reads grammar taken items result) :
      Reads grammar arguments (.switch written (some found) :: .argument value :: items) result
  | plain {arguments taken result : Arguments} {written : String} {found : Found}
      {items : List Item} (noHelp : found.switch ≠ .help)
      (take : arguments.take found.switch .nothing = .ok taken)
      (rest : Reads grammar taken items result) :
      Reads grammar arguments (.switch written (some found) :: items) result
  | command {arguments result : Arguments} {value : String} {items : List Item}
      (delegates : grammar.delegates = true)
      (operand : grammar.takeOperand arguments value items = .ok result) :
      Reads grammar arguments (.argument value :: items) result
  | commandBehindSeparator {arguments result : Arguments} {value : String} {items : List Item}
      (delegates : grammar.delegates = true)
      (operand : grammar.takeOperand arguments separator items = .ok result) :
      Reads grammar arguments (.separator :: .argument value :: items) result
  | operand {arguments taken result : Arguments} {value : String} {items : List Item}
      (delegates : grammar.delegates = false)
      (operand : grammar.takeOperand arguments value items = .ok taken)
      (rest : Reads grammar taken items result) :
      Reads grammar arguments (.argument value :: items) result
  | operandBeforeSeparator {arguments taken result : Arguments} {value : String}
      {items : List Item} (delegates : grammar.delegates = false)
      (operand : grammar.takeOperand arguments value (.separator :: items) = .ok taken)
      (rest : Reads grammar taken items result) :
      Reads grammar arguments (.argument value :: .separator :: items) result
  | operandBehindSeparator {arguments taken result : Arguments} {value : String}
      {items : List Item} (delegates : grammar.delegates = false)
      (operand : grammar.takeOperand arguments value items = .ok taken)
      (rest : Reads grammar taken items result) :
      Reads grammar arguments (.separator :: .argument value :: items) result

theorem reads_of_readItems {grammar : Grammar} {arguments result : Arguments} {items : List Item}
    (accepted : grammar.readItems arguments items = .ok result) :
    Reads grammar arguments items result := by
  fun_induction readItems grammar arguments items with
  | case1 arguments =>
      cases accepted
      exact .done
  | case2 arguments written rest ih => exact .extra (ih accepted)
  | case3 arguments written found takes value rest present ih =>
      obtain ⟨taken, take, later⟩ := bind_eq_ok_iff.1 accepted
      exact .valued takes present (mapError_eq_ok_iff.1 take) (ih taken later)
  | case4 arguments written found takes value rest absent ih =>
      obtain ⟨taken, take, later⟩ := bind_eq_ok_iff.1 accepted
      exact .valuedByNext takes (mapError_eq_ok_iff.1 take) (ih taken later)
  | case5 => cases accepted
  | case6 arguments written found rest plain continued value present ih =>
      obtain ⟨_, _, later⟩ := bind_eq_ok_iff.1 accepted
      dsimp only [continued] at later
      split at later
      · cases later
      · next noHelp =>
        obtain ⟨taken, take, later⟩ := bind_eq_ok_iff.1 later
        exact .plain noHelp (mapError_eq_ok_iff.1 take) (ih taken later)
  | case7 arguments written found rest plain continued absent ih =>
      dsimp only [continued] at accepted
      split at accepted
      · cases accepted
      · next noHelp =>
        obtain ⟨taken, take, later⟩ := bind_eq_ok_iff.1 accepted
        exact .plain noHelp (mapError_eq_ok_iff.1 take) (ih taken later)
  | case8 arguments value rest awaited ih =>
      obtain ⟨taken, operand, later⟩ := bind_eq_ok_iff.1 accepted
      have operand := mapError_eq_ok_iff.1 operand
      have readsRest := ih taken
      split at later
      · next delegates =>
        cases later
        exact .command delegates operand
      · next direct =>
        have direct := Bool.eq_false_iff.2 direct
        -- a separator that comes right behind the operand belongs to it
        rcases rest with _ | ⟨next, rest⟩
        · exact .operand direct operand (readsRest later)
        · cases next with
          | argument value => exact .operand direct operand (readsRest later)
          | separator => exact .operandBeforeSeparator direct operand (readsRest later)
          | switch written found => exact .operand direct operand (readsRest later)
  | case9 arguments value rest awaited ih => exact .extra (ih accepted)
  | case10 arguments awaited value rest delegates =>
      exact .commandBehindSeparator delegates (mapError_eq_ok_iff.1 accepted)
  | case11 arguments awaited value rest direct ih =>
      obtain ⟨taken, operand, later⟩ := bind_eq_ok_iff.1 accepted
      exact .operandBehindSeparator (Bool.eq_false_iff.2 direct) (mapError_eq_ok_iff.1 operand)
        (ih taken later)
  | case12 arguments awaited rest noArgument ih => exact .extra (ih accepted)
  | case13 arguments rest awaited ih => exact .extra (ih accepted)

end Grammar

/-! ## What reading keeps -/

/-- Taking in a switch puts it behind those that were given before and changes nothing else. -/
theorem Arguments.eq_of_take {arguments taken : Arguments} {switch : Switch} {value : Value}
    (take : arguments.take switch value = .ok taken) :
    taken = { arguments with given := arguments.given ++ [(switch, value)] } := by
  unfold Arguments.take at take
  split at take
  · cases take
    rfl
  · split at take
    · cases take
    · cases take
      rfl

theorem Grammar.given_of_takeOperand {grammar : Grammar} {arguments taken : Arguments}
    {value : String} {items : List Item}
    (operand : grammar.takeOperand arguments value items = .ok taken) :
    taken.given = arguments.given ∧ taken.extras = arguments.extras := by
  unfold Grammar.takeOperand at operand
  split at operand
  · split at operand
    · cases operand
      exact ⟨rfl, rfl⟩
    · cases operand
  · cases operand
    exact ⟨rfl, rfl⟩
  · cases operand
    exact ⟨rfl, rfl⟩

def Arguments.ValuesFrom (arguments : Arguments) (written : List String) : Prop :=
  ∀ switch value, (switch, Value.text value) ∈ arguments.given →
    ∃ text ∈ written, value.toList <:+ text.toList

/-- A value that is the end of a text may be taken in. -/
theorem Arguments.ValuesFrom.take {arguments taken : Arguments} {written : List String}
    (values : arguments.ValuesFrom written) {switch : Switch} {value text : String}
    (present : text ∈ written) (ending : value.toList <:+ text.toList)
    (take : arguments.take switch (.ofText value) = .ok taken) : taken.ValuesFrom written := by
  rw [Arguments.eq_of_take take]
  intro other given member
  rcases List.mem_append.1 member with before | new
  · exact values other given before
  · have same := List.mem_singleton.1 new
    rw [Prod.mk.injEq, Value.ofText] at same
    split at same
    · cases same.2
    · cases same.2
      exact ⟨text, present, ending⟩

theorem Arguments.ValuesFrom.takeOperand {arguments taken : Arguments} {written : List String}
    (values : arguments.ValuesFrom written) {grammar : Grammar} {value : String} {items : List Item}
    (operand : grammar.takeOperand arguments value items = .ok taken) :
    taken.ValuesFrom written := by
  unfold Arguments.ValuesFrom
  rw [(Grammar.given_of_takeOperand operand).1]
  exact values

namespace Grammar

/-- No argument that is without a use becomes useful by reading on. -/
theorem Reads.extras_prefix {grammar : Grammar} {arguments result : Arguments} {items : List Item}
    (reads : Reads grammar arguments items result) : arguments.extras <+: result.extras := by
  induction reads with
  | done => exact List.prefix_rfl
  | extra _ ih => exact (List.prefix_append _ _).trans ih
  | valued _ _ take _ ih | valuedByNext _ take _ ih | plain _ take _ ih =>
      rw [Arguments.eq_of_take take] at ih
      exact ih
  | command _ operand | commandBehindSeparator _ operand =>
      exact (given_of_takeOperand operand).2 ▸ List.prefix_rfl
  | operand _ operand _ ih | operandBeforeSeparator _ operand _ ih
  | operandBehindSeparator _ operand _ ih =>
      rw [(given_of_takeOperand operand).2] at ih
      exact ih

theorem exists_reads_of_read {grammar : Grammar} {written : List String} {arguments : Arguments}
    (accepted : grammar.read written = .ok arguments) :
    ∃ items, items.map Item.written = written ∧
      (∀ item ∈ items, item.StandsFor grammar (Item.written item)) ∧
      Reads grammar ⟨[], none, [], []⟩ items arguments := by
  obtain ⟨items, classified, accepted⟩ := bind_eq_ok_iff.1 accepted
  obtain ⟨result, read, accepted⟩ := bind_eq_ok_iff.1 accepted
  have same : result = arguments := by
    split at accepted
    · split at accepted
      · cases accepted
      · cases accepted
        rfl
    · cases accepted
      rfl
    · cases accepted
      rfl
  obtain ⟨kept, standing⟩ := standsFor_of_items (mapError_eq_ok_iff.1 classified)
  exact ⟨items, kept, standing, same ▸ reads_of_readItems (mapError_eq_ok_iff.1 read)⟩

end Grammar

end MarkupDsl.CommandLine
