import MarkupDsl.Proofs.Emission.Observation

/-!
# Converters that are called again and again

A call of a converter is accounted for by the conversion of its tree under the settings of the call,
made afresh and without an observer: the call is refused or finished just as that conversion is, or
the observer stops it at one of the warnings of that conversion.  What the observer receives from it
are those warnings, up to the one at which it stops.  A run is accounted for call by call, so nothing
but the settings and the state of the observer passes from one call to the next.
-/

namespace MarkupDsl

variable {σ ε : Type} {observer : Observer σ ε}

/-! ## What an observer receives -/

/-- An observer that keeps the warnings that it has received, the one at which it stops included. -/
def Observer.recording (observer : Observer σ ε) : Observer (List Warning × σ) ε :=
  fun warning memory =>
    match observer warning memory.2 with
    | (state, error) => ((memory.1 ++ [warning], state), error)

theorem Observer.recording_eq {warning : Warning} {before after : σ} {error : Option ε}
    (taken : observer warning before = (after, error)) (received : List Warning) :
    observer.recording warning (received, before) = ((received ++ [warning], after), error) := by
  rw [recording, taken]

theorem observe_recording_of_accepted {warnings : List Warning} {before after : σ}
    (accepted : observe observer warnings before = (after, none)) (received : List Warning) :
    observe observer.recording warnings (received, before) =
      ((received ++ warnings, after), none) := by
  induction warnings generalizing before received with
  | nil =>
      cases accepted
      rw [observe, List.append_nil]
  | cons first rest ih =>
      rcases taken : observer first before with ⟨middle, _ | error⟩
      · rw [observe_cons_of_accepted observer taken] at accepted
        rw [observe_cons_of_accepted _ (Observer.recording_eq taken received), ih accepted,
          List.append_assoc, List.singleton_append]
      · rw [observe_cons_of_stopped observer taken] at accepted
        cases accepted

/-- The warnings up to the one at which the observer stops are received, and no others. -/
theorem observe_recording_of_stopped {seen : List Warning} {last : Warning} {before middle after : σ}
    {error : ε} (accepted : observe observer seen before = (middle, none))
    (stopped : observer last middle = (after, some error)) (rest received : List Warning) :
    observe observer.recording (seen ++ last :: rest) (received, before) =
      ((received ++ (seen ++ [last]), after), some error) := by
  induction seen generalizing before received with
  | nil =>
      cases accepted
      exact observe_cons_of_stopped _ (Observer.recording_eq stopped received) rest
  | cons first others ih =>
      rcases taken : observer first before with ⟨next, _ | raised⟩
      · rw [observe_cons_of_accepted observer taken] at accepted
        rw [List.cons_append, observe_cons_of_accepted _ (Observer.recording_eq taken received),
          ih accepted, List.append_assoc, List.singleton_append, List.cons_append]
      · rw [observe_cons_of_stopped observer taken] at accepted
        cases accepted

/-! ## One call -/

/--
How a call may go that is carried out under `settings`: the state of the observer before it, how it
ends, what the observer receives, and the state of the observer after it.
-/
inductive Accounted (observer : Observer σ ε) (settings : Settings) (root : Option Node) :
    σ → Ending ε → List Warning → σ → Prop where
  | refused {state : σ} {error : PrecheckError} (refused : transpile settings root = .error error) :
      Accounted observer settings root state (.refused error) [] state
  | finished {before after : σ} {conversion : Conversion}
      (converted : transpile settings root = .ok conversion)
      (accepted : observe observer conversion.warnings before = (after, none)) :
      Accounted observer settings root before (.finished conversion) conversion.warnings after
  | stopped {before middle after : σ} {conversion : Conversion} {seen rest : List Warning}
      {last : Warning} {error : ε} (converted : transpile settings root = .ok conversion)
      (split : conversion.warnings = seen ++ last :: rest)
      (accepted : observe observer seen before = (middle, none))
      (raised : observer last middle = (after, some error)) :
      Accounted observer settings root before (.stopped error) (seen ++ [last]) after

/-- Every conversion before an observer is accounted for, whether or not the observer records. -/
theorem exists_accounted (observer : Observer σ ε) (settings : Settings) (root : Option Node)
    (received : List Warning) (before : σ) :
    ∃ ending share after,
      transpileObserved observer settings root before = (after, ending) ∧
      transpileObserved observer.recording settings root (received, before) =
        ((received ++ share, after), ending) ∧
      Accounted observer settings root before ending share after := by
  cases converted : transpile settings root with
  | error error =>
      refine ⟨.refused error, [], before, ?_, ?_, .refused converted⟩
      · exact transpileObserved_of_refused converted before
      · rw [transpileObserved_of_refused converted, List.append_nil]
  | ok conversion =>
      rcases observed : observe observer conversion.warnings before with ⟨after, _ | error⟩
      · refine ⟨.finished conversion, conversion.warnings, after, ?_, ?_, .finished converted observed⟩
        · exact transpileObserved_of_accepted converted observed
        · exact transpileObserved_of_accepted converted
            (observe_recording_of_accepted observed received)
      · obtain ⟨seen, last, rest, middle, split, accepted, raised⟩ :=
          exists_of_observe_eq_some observer observed
        have recorded := observe_recording_of_stopped accepted raised rest received
        rw [← split] at recorded
        refine ⟨.stopped error, seen ++ [last], after, ?_, ?_,
          .stopped converted split accepted raised⟩
        · exact transpileObserved_of_stopped converted observed
        · exact transpileObserved_of_stopped converted recorded

/-! ## Runs -/

/--
How the calls of a run may go, one after the other.  Each of them is carried out under the settings
as they have been changed up to then, and each has a share in what the observer receives.
-/
inductive RunAccounted (observer : Observer σ ε) :
    Settings → σ → List Call → List (Ending ε) → List (List Warning) → σ → Prop where
  | nil {settings : Settings} {state : σ} : RunAccounted observer settings state [] [] [] state
  | cons {settings : Settings} {before middle after : σ} {call : Call} {calls : List Call}
      {ending : Ending ε} {endings : List (Ending ε)} {share : List Warning}
      {shares : List (List Warning)}
      (first : Accounted observer (call.settings settings) call.root before ending share middle)
      (rest : RunAccounted observer (call.settings settings) middle calls endings shares after) :
      RunAccounted observer settings before (call :: calls) (ending :: endings) (share :: shares)
        after

namespace Converter

theorem exists_runAccounted (observer : Observer σ ε) (settings : Settings)
    (received : List Warning) (before : σ) (calls : List Call) :
    ∃ now endings shares after,
      Converter.calls observer ⟨settings, before⟩ calls = (⟨now, after⟩, endings) ∧
      Converter.calls observer.recording ⟨settings, (received, before)⟩ calls =
        (⟨now, (received ++ shares.flatten, after)⟩, endings) ∧
      RunAccounted observer settings before calls endings shares after := by
  induction calls generalizing settings received before with
  | nil =>
      refine ⟨settings, [], [], before, rfl, ?_, .nil⟩
      rw [List.flatten_nil, List.append_nil]
      rfl
  | cons call calls ih =>
      obtain ⟨ending, share, middle, plain, recorded, accounted⟩ :=
        exists_accounted observer (call.settings settings) call.root received before
      obtain ⟨now, endings, shares, after, plainRest, recordedRest, rest⟩ :=
        ih (call.settings settings) (received ++ share) middle
      refine ⟨now, ending :: endings, share :: shares, after, ?_, ?_, .cons accounted rest⟩
      · rw [Converter.calls, Converter.call, plain]
        simp only [plainRest]
      · rw [Converter.calls, Converter.call, recorded, List.flatten_cons]
        simp only [recordedRest, List.append_assoc]

/--
A converter carries nothing from one call to the next.  Whatever the calls, the changes of the
settings between them and the errors with which the observer stops some of them, every call ends as
the fresh conversion of its tree under its settings does, or with the error of the observer.  What
the observer receives in all are the shares of the calls in their order: all warnings of a finished
call, the warnings of a stopped call up to the one at which the observer stops, and nothing from a
refused one.
-/
theorem calls_accounted (observer : Observer σ ε) (settings : Settings) (state : σ)
    (calls : List Call) :
    ∃ now endings shares after,
      Converter.calls observer ⟨settings, state⟩ calls = (⟨now, after⟩, endings) ∧
      Converter.calls observer.recording ⟨settings, ([], state)⟩ calls =
        (⟨now, (shares.flatten, after)⟩, endings) ∧
      RunAccounted observer settings state calls endings shares after := by
  obtain ⟨now, endings, shares, after, plain, recorded, accounted⟩ :=
    exists_runAccounted observer settings [] state calls
  rw [List.nil_append] at recorded
  exact ⟨now, endings, shares, after, plain, recorded, accounted⟩

end Converter

end MarkupDsl
