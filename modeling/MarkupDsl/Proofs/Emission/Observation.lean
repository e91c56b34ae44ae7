import MarkupDsl.Proofs.Emission.Events

/-!
# Observed conversions

A conversion before an observer goes through the same events as one without, and shows each warning
in its turn.  Unless the observer stops it, it ends as the conversion without an observer does; if
the observer stops it, the observer has taken in the warnings up to the one at which it stopped, and
no others.  A converter that is called again and again therefore carries nothing from one call to
the next but its settings and the state of its observer.
-/

namespace MarkupDsl

section

variable {σ ε : Type} (observer : Observer σ ε)

/-! ## Warnings in turn -/

def observe : List Warning → σ → σ × Option ε
  | [], state => (state, none)
  | warning :: rest, state =>
    match observer warning state with
    | (state, some error) => (state, some error)
    | (state, none) => observe rest state

theorem observe_cons_of_accepted {warning : Warning} {before after : σ}
    (accepted : observer warning before = (after, none)) (rest : List Warning) :
    observe observer (warning :: rest) before = observe observer rest after := by
  rw [observe, accepted]

theorem observe_cons_of_stopped {warning : Warning} {before after : σ} {error : ε}
    (stopped : observer warning before = (after, some error)) (rest : List Warning) :
    observe observer (warning :: rest) before = (after, some error) := by
  rw [observe, stopped]

theorem exists_of_observe_eq_some {warnings : List Warning} {before after : σ} {error : ε}
    (stopped : observe observer warnings before = (after, some error)) :
    ∃ seen last rest middle, warnings = seen ++ last :: rest ∧
      observe observer seen before = (middle, none) ∧
      observer last middle = (after, some error) := by
  induction warnings generalizing before with
  | nil => cases stopped
  | cons first others ih =>
      rcases taken : observer first before with ⟨next, _ | raised⟩
      · rw [observe_cons_of_accepted observer taken] at stopped
        obtain ⟨seen, last, rest, middle, rfl, accepted, raised⟩ := ih stopped
        refine ⟨first :: seen, last, rest, middle, rfl, ?_, raised⟩
        rw [observe_cons_of_accepted observer taken, accepted]
      · rw [observe_cons_of_stopped observer taken] at stopped
        cases stopped
        exact ⟨[], first, others, before, rfl, rfl, taken⟩

/-! ## Events in turn -/

def Event.happen : Event → Observed σ ε Unit
  | .code piece => Observed.write piece
  | .skipped warning => Observed.report observer warning

def Event.happenAll : List Event → Observed σ ε Unit
  | [] => return
  | event :: rest => do
    event.happen observer
    Event.happenAll rest

end

section

variable {σ ε : Type} {observer : Observer σ ε}

namespace Event

theorem happenAll_cons (event : Event) (rest : List Event) :
    happenAll observer (event :: rest) = (do event.happen observer; happenAll observer rest) := rfl

theorem happenAll_append (first second : List Event) :
    happenAll observer (first ++ second) =
      (do happenAll observer first; happenAll observer second) := by
  induction first with
  | nil => rw [List.nil_append, happenAll, pure_bind]
  | cons event rest ih =>
      rw [List.cons_append, happenAll_cons, happenAll_cons, ih, bind_assoc]

theorem happenAll_singleton (event : Event) : happenAll observer [event] = event.happen observer :=
  bind_pure_unit

end Event

namespace Node

mutual

theorem emit_eq_happenAll (settings : Settings) (path : Path) :
    ∀ node : Node, node.emit observer settings path =
      Event.happenAll observer (node.events settings path)
  | comment data => by
      rw [emit, events, Event.happenAll_singleton]
      rfl
  | text data => by
      rw [emit, events, Event.happenAll_singleton]
      rfl
  | unrecognized kind data => by
      rw [emit, events, Event.happenAll_singleton]
      rfl
  | foreign typeName => by
      rw [emit, events, Event.happenAll_singleton]
      rfl
  | element tag attributes children => by
      have below := emitChildren_eq_happenAll settings path 0 children
      rw [emit, events, Event.happenAll_cons]
      by_cases void : Text.lower tag ∈ settings.tables.voidTags
      · simp only [if_pos void]
        rfl
      · by_cases raw : Text.lower tag ∈ settings.tables.rawTextTags
        · simp only [if_neg void, if_pos raw]
          rw [Event.happenAll_singleton]
          rfl
        · simp only [if_neg void, if_neg raw]
          rw [Event.happenAll_cons, Event.happenAll_append, Event.happenAll_singleton, ← below]
          rfl

theorem emitChildren_eq_happenAll (settings : Settings) (path : Path) (index : Nat) :
    ∀ children : List Node, emitChildren observer settings path index children =
      Event.happenAll observer (childEvents settings path index children)
  | [] => by
      rw [emitChildren, childEvents]
      rfl
  | child :: rest => by
      have here := emit_eq_happenAll settings (path ++ [Step.ofNode child index]) child
      have later := emitChildren_eq_happenAll settings path (index + 1) rest
      rw [emitChildren, childEvents, Event.happenAll_append, here, later]
      by_cases inexpressible : (!child.isExpressible) = true
      · simp only [if_pos inexpressible]
      · by_cases left : settings.leavesOut child = true
        · simp only [if_neg inexpressible, if_pos left]
          rfl
        · simp only [if_neg inexpressible, if_neg left]
          rw [Event.happenAll_cons, Event.happenAll_append, Event.happenAll_singleton]
          simp only [bind_assoc]
          rfl

end

end Node

/-! ## What a conversion comes to -/

def Conversion.append (first second : Conversion) : Conversion :=
  ⟨first.text ++ second.text, first.warnings ++ second.warnings⟩

theorem Conversion.append_assoc (first second third : Conversion) :
    (first.append second).append third = first.append (second.append third) := by
  simp only [append, String.append_assoc, List.append_assoc]

theorem Conversion.append_nil (conversion : Conversion) :
    conversion.append ⟨"", []⟩ = conversion := by
  simp only [append, String.append_empty, List.append_nil]

theorem Conversion.nil_append (conversion : Conversion) :
    Conversion.append ⟨"", []⟩ conversion = conversion := by
  simp only [append, String.empty_append, List.nil_append]

theorem Conversion.ofEvents_code (piece : String) (rest : List Event) :
    ofEvents (.code piece :: rest) = append ⟨piece, []⟩ (ofEvents rest) := by
  have text : (ofEvents (.code piece :: rest)).text = piece ++ (ofEvents rest).text := by
    apply String.toList_inj.1
    rw [String.toList_append, toList_text_ofEvents, toList_text_ofEvents, Event.codeOf_code]
  rw [append, List.nil_append, ← text]
  rfl

theorem Conversion.ofEvents_skipped (warning : Warning) (rest : List Event) :
    ofEvents (.skipped warning :: rest) = append ⟨"", [warning]⟩ (ofEvents rest) := by
  rw [append, String.empty_append]
  rfl

namespace Event

theorem happenAll_code (piece : String) (rest : List Event) (conversion : Conversion) (state : σ) :
    happenAll observer (.code piece :: rest) ⟨conversion, state⟩ =
      happenAll observer rest ⟨conversion.append ⟨piece, []⟩, state⟩ := by
  rw [Conversion.append, List.append_nil]
  rfl

theorem happenAll_skipped_of_accepted {warning : Warning} {before after : σ}
    (accepted : observer warning before = (after, none)) (rest : List Event)
    (conversion : Conversion) :
    happenAll observer (.skipped warning :: rest) ⟨conversion, before⟩ =
      happenAll observer rest ⟨conversion.append ⟨"", [warning]⟩, after⟩ := by
  have reported : Observed.report observer warning ⟨conversion, before⟩ =
      .ok () ⟨conversion.append ⟨"", [warning]⟩, after⟩ := by
    rw [Observed.report, accepted, Conversion.append, String.append_empty]
  change EStateM.bind (Observed.report observer warning) _ _ = _
  rw [EStateM.bind, reported]

theorem happenAll_skipped_of_stopped {warning : Warning} {before after : σ} {error : ε}
    (stopped : observer warning before = (after, some error)) (rest : List Event)
    (conversion : Conversion) :
    happenAll observer (.skipped warning :: rest) ⟨conversion, before⟩ =
      .error error ⟨conversion.append ⟨"", [warning]⟩, after⟩ := by
  have reported : Observed.report observer warning ⟨conversion, before⟩ =
      .error error ⟨conversion.append ⟨"", [warning]⟩, after⟩ := by
    rw [Observed.report, stopped, Conversion.append, String.append_empty]
  change EStateM.bind (Observed.report observer warning) _ _ = _
  rw [EStateM.bind, reported]

theorem happenAll_of_accepted {events : List Event} {before after : σ}
    (accepted : observe observer (warningsOf events) before = (after, none))
    (conversion : Conversion) :
    happenAll observer events ⟨conversion, before⟩ =
      .ok () ⟨conversion.append (Conversion.ofEvents events), after⟩ := by
  induction events generalizing before conversion with
  | nil =>
      cases accepted
      have nothing : Conversion.ofEvents [] = ⟨"", []⟩ := rfl
      rw [nothing, Conversion.append_nil]
      rfl
  | cons event rest ih =>
      cases event with
      | code piece =>
          rw [happenAll_code, ih accepted, Conversion.append_assoc, ← Conversion.ofEvents_code]
      | skipped warning =>
          rw [warningsOf_skipped] at accepted
          rcases taken : observer warning before with ⟨next, _ | error⟩
          · rw [observe_cons_of_accepted observer taken] at accepted
            rw [happenAll_skipped_of_accepted taken, ih accepted, Conversion.append_assoc,
              ← Conversion.ofEvents_skipped]
          · rw [observe_cons_of_stopped observer taken] at accepted
            cases accepted

theorem happenAll_of_stopped {events : List Event} {before after : σ} {error : ε}
    (stopped : observe observer (warningsOf events) before = (after, some error))
    (conversion : Conversion) :
    ∃ reached, happenAll observer events ⟨conversion, before⟩ = .error error ⟨reached, after⟩ := by
  induction events generalizing before conversion with
  | nil => cases stopped
  | cons event rest ih =>
      cases event with
      | code piece =>
          rw [happenAll_code]
          exact ih stopped _
      | skipped warning =>
          rw [warningsOf_skipped] at stopped
          rcases taken : observer warning before with ⟨next, _ | raised⟩
          · rw [observe_cons_of_accepted observer taken] at stopped
            rw [happenAll_skipped_of_accepted taken]
            exact ih stopped _
          · rw [observe_cons_of_stopped observer taken] at stopped
            cases stopped
            exact ⟨_, happenAll_skipped_of_stopped taken rest conversion⟩

end Event

/-! ## One call -/

/-- A tree that is refused without an observer is refused before one, who takes in nothing. -/
theorem transpileObserved_of_refused {settings : Settings} {root : Option Node}
    {error : PrecheckError} (refused : transpile settings root = .error error) (state : σ) :
    transpileObserved observer settings root state = (state, .refused error) := by
  unfold transpile at refused
  unfold transpileObserved
  cases checked : precheck root with
  | error cause =>
      rw [checked] at refused
      cases refused
      rfl
  | ok node =>
      rw [checked] at refused
      cases refused

/-- A conversion whose warnings are all accepted is finished as it is without an observer. -/
theorem transpileObserved_of_accepted {settings : Settings} {root : Option Node}
    {conversion : Conversion} (converted : transpile settings root = .ok conversion)
    {before after : σ} (accepted : observe observer conversion.warnings before = (after, none)) :
    transpileObserved observer settings root before = (after, .finished conversion) := by
  unfold transpile at converted
  unfold transpileObserved
  cases checked : precheck root with
  | error cause =>
      rw [checked] at converted
      cases converted
  | ok node =>
      rw [checked] at converted
      cases converted
      have happened := Event.happenAll_of_accepted accepted ⟨"", []⟩
      rw [Conversion.nil_append] at happened
      simp only [Node.emit_eq_happenAll, rootEvents] at happened ⊢
      rw [happened]

theorem transpileObserved_of_stopped {settings : Settings} {root : Option Node}
    {conversion : Conversion} (converted : transpile settings root = .ok conversion)
    {before after : σ} {error : ε}
    (stopped : observe observer conversion.warnings before = (after, some error)) :
    transpileObserved observer settings root before = (after, .stopped error) := by
  unfold transpile at converted
  unfold transpileObserved
  cases checked : precheck root with
  | error cause =>
      rw [checked] at converted
      cases converted
  | ok node =>
      rw [checked] at converted
      cases converted
      obtain ⟨reached, happened⟩ := Event.happenAll_of_stopped stopped ⟨"", []⟩
      simp only [Node.emit_eq_happenAll, rootEvents] at happened ⊢
      rw [happened]

end

end MarkupDsl
