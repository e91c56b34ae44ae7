import MarkupDsl.Root

/-!
# How the search for a root ends

A text that is not blank is read as a document, or it breaks the rules of one.  Without a selector the
root of a document is the first `html` element at any depth, or else the one element at the top level;
this is always decided.  With a selector it is the first element that the
selector selects, provided that the text is a selector and that the search can be decided.
-/

namespace MarkupDsl

open Html Selector

/-! ## Documents -/

theorem readDocument_cases (text : String) :
    (∃ document, readDocument text = .ok document) ∨
      readDocument text = .error (.precheck .blankDocument) ∨
      (Text.blank text = false ∧ ∃ error, Html.read text = .error error) := by
  cases blank : Text.blank text with
  | true => exact .inr (.inl (if_pos blank))
  | false =>
      have shown : readDocument text = (Html.read text).mapError .document :=
        if_neg (Bool.eq_false_iff.1 blank)
      cases read : Html.read text with
      | error error => exact .inr (.inr ⟨rfl, error, rfl⟩)
      | ok document => exact .inl ⟨document, by rw [shown, read]; rfl⟩

theorem readDocument_of_error {text : String} {error : Html.Error} (full : Text.blank text = false)
    (failed : Html.read text = .error error) : readDocument text = .error (.document error) := by
  rw [readDocument, if_neg (Bool.eq_false_iff.1 full), failed]
  rfl

theorem documentRoot_of_error {text : String} {error : RootError}
    (failed : readDocument text = .error error) (selector : Option String) :
    documentRoot text selector = .error error := by
  rw [documentRoot, failed]
  rfl

theorem documentRoot_of_read {text : String} {document : List Tree}
    (shown : readDocument text = .ok document) (selector : Option String) :
    documentRoot text selector = (rootOf document selector).map Tree.toNode := by
  rw [documentRoot, shown]
  change (rootOf document selector).bind _ = _
  cases rootOf document selector <;> rfl

/-! ## Without a selector -/

theorem holdsOne_type (name : String) (here : Location) :
    holdsOne false here [[.type none name]] = pure (hasName false none name here) := by
  simp only [holdsOne, holdsAll, Test.holds, pure_bind]
  cases hasName false none name here <;> rfl

/-- A search for a name looks at nothing but names, so it is always decided. -/
theorem firstMatch?_type (name : String) (document : List Tree) :
    firstMatch? [[.type none name]] document =
      .ok ((Location.inside false (.document document)).find? (hasName false none name)) := by
  simp only [firstMatch?, holdsOne_type]
  rw [List.findM?_pure]
  rfl

theorem firstMatch?_htmlChoices (document : List Tree) :
    firstMatch? htmlChoices document =
      .ok ((Location.inside false (.document document)).find? (hasName false none "html")) :=
  firstMatch?_type "html" document

theorem standardRoot_cases (document : List Tree) :
    (∃ tree, standardRoot document = .ok tree) ∨
      ∃ error, standardRoot document = .error (.precheck error) := by
  rw [standardRoot, firstMatch?_htmlChoices]
  cases (Location.inside false (.document document)).find? (hasName false none "html") with
  | some here => exact .inl ⟨here.tree, rfl⟩
  | none =>
      dsimp only
      split
      · exact .inl ⟨_, rfl⟩
      · exact .inr ⟨_, rfl⟩

/-! ## With a selector -/

theorem selectedRoot_of_malformed {selector : String} {error : Selector.Error}
    (failed : Selector.read selector = .error error) (document : List Tree) :
    selectedRoot document selector = .error (.selector error) := by
  rw [selectedRoot, failed]

theorem selectedRoot_of_undecided {document : List Tree} {selector : String}
    {choices : List Compound} {cause : Undecided} (formed : Selector.read selector = .ok choices)
    (undecided : firstMatch? choices document = .error cause) :
    selectedRoot document selector = .error (.undecided cause) := by
  rw [selectedRoot, formed]
  dsimp only
  rw [undecided]

/-- A selector finds a root or none, unless it is none itself or the search is not decided. -/
theorem selectedRoot_cases (document : List Tree) (selector : String) :
    (∃ tree, selectedRoot document selector = .ok tree) ∨
      (∃ error, selectedRoot document selector = .error (.precheck error)) ∨
      (∃ error, Selector.read selector = .error error) ∨
      ∃ choices cause, Selector.read selector = .ok choices ∧
        firstMatch? choices document = .error cause := by
  cases formed : Selector.read selector with
  | error error => exact .inr (.inr (.inl ⟨error, rfl⟩))
  | ok choices =>
      cases found : firstMatch? choices document with
      | error cause => exact .inr (.inr (.inr ⟨choices, cause, rfl, found⟩))
      | ok match? =>
          rw [selectedRoot, formed]
          dsimp only
          rw [found]
          cases match? with
          | some here => exact .inl ⟨here.tree, rfl⟩
          | none => exact .inr (.inl ⟨_, rfl⟩)

end MarkupDsl
