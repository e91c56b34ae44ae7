import MarkupDsl.Proofs.Classification.Validation
import MarkupDsl.Proofs.Emission.NormalForm
import MarkupDsl.Proofs.Emission.Report

/-!
# Blank texts

Settings may leave out the blank texts among the children of elements.  This is the same as to take
them out of the tree beforehand, except for the texts below raw-text elements, which all count.  The
reports are made about the tree as it is, so leaving out texts does not show in them.
-/

namespace MarkupDsl

namespace Node

/-- Whether a node is a text that holds nothing but blanks. -/
def isBlankText : Node → Bool
  | text data => Text.blank data
  | element .. | comment _ | unrecognized .. | foreign _ => false

mutual

/-- A node without the blank texts below it, apart from those below a raw-text element. -/
def condensed (tables : Tables) : Node → Node
  | element tag attributes children =>
    element tag attributes <|
      if Text.lower tag ∈ tables.rawTextTags then children else condensedAll tables children
  | text data => text data
  | comment data => comment data
  | unrecognized kind data => unrecognized kind data
  | foreign typeName => foreign typeName

/-- The nodes of a list that are no blank texts, each of them condensed. -/
def condensedAll (tables : Tables) : List Node → List Node
  | [] => []
  | child :: rest =>
    if child.isBlankText then condensedAll tables rest
    else condensed tables child :: condensedAll tables rest

end

/-! ## What settings leave out -/

@[simp] theorem leavesOut_skipping (tables : Tables) (node : Node) :
    Settings.leavesOut ⟨tables, true⟩ node = node.isBlankText := by
  cases node <;> rfl

@[simp] theorem leavesOut_keeping (tables : Tables) (node : Node) :
    Settings.leavesOut ⟨tables, false⟩ node = false := by
  cases node <;> rfl

theorem isExpressible_condensed (tables : Tables) (node : Node) :
    (node.condensed tables).isExpressible = node.isExpressible := by
  cases node <;> rfl

/-! ## Normal forms -/

mutual

/-- A node has the normal form without blank texts that its condensed node has with all texts. -/
theorem normalForm?_condensed (tables : Tables) : ∀ node : Node,
    (node.condensed tables).normalForm? ⟨tables, false⟩ = node.normalForm? ⟨tables, true⟩
  | text data => rfl
  | comment data => rfl
  | unrecognized kind data => rfl
  | foreign typeName => rfl
  | element tag attributes children => by
      have below := normalForms_condensedAll tables children
      by_cases void : Text.lower tag ∈ tables.voidTags
      · simp [condensed, normalForm?, void]
      · by_cases raw : Text.lower tag ∈ tables.rawTextTags
        · simp [condensed, normalForm?, void, raw]
        · simp [condensed, normalForm?, void, raw, below]

theorem normalForms_condensedAll (tables : Tables) : ∀ children : List Node,
    normalForms ⟨tables, false⟩ (condensedAll tables children) =
      normalForms ⟨tables, true⟩ children
  | [] => rfl
  | child :: rest => by
      have here := normalForm?_condensed tables child
      have later := normalForms_condensedAll tables rest
      by_cases blank : child.isBlankText = true
      · simp [condensedAll, normalForms, blank, later]
      · simp [condensedAll, normalForms, blank, here, later]

end

end Node

/-! ## Conversions -/

/--
To skip blank texts is to prune the tree of them, and nothing else.  The conversion that skips them has
the warnings of the one that keeps them, and it has the text that the condensed tree is converted to
with all texts kept.
-/
theorem transpile_skipping (tables : Tables) {root : Node}
    (expressible : root.isExpressible = true) :
    ∃ skipping keeping condensed : Conversion,
      transpile ⟨tables, true⟩ (some root) = .ok skipping ∧
      transpile ⟨tables, false⟩ (some root) = .ok keeping ∧
      transpile ⟨tables, false⟩ (some (root.condensed tables)) = .ok condensed ∧
      skipping.warnings = keeping.warnings ∧ skipping.text = condensed.text := by
  have condensedExpressible : (root.condensed tables).isExpressible = true := by
    rw [Node.isExpressible_condensed, expressible]
  have skips := transpile_of_isExpressible ⟨tables, true⟩ expressible
  have keeps := transpile_of_isExpressible ⟨tables, false⟩ expressible
  have condenses := transpile_of_isExpressible ⟨tables, false⟩ condensedExpressible
  refine ⟨_, _, _, skips, keeps, condenses, ?_, ?_⟩
  · rw [warnings_rootEvents, warnings_rootEvents]
  · -- the two texts are the code of one normal form
    obtain ⟨form, found⟩ := Node.exists_normalForm ⟨tables, true⟩ expressible
    have skippedText := transpile_text found
    have condensedText := transpile_text ((Node.normalForm?_condensed tables root).trans found)
    rw [skips] at skippedText
    rw [condenses, ← skippedText] at condensedText
    exact (Except.ok.inj condensedText).symm

/-- A tree with blank texts below open, void and raw-text elements, and a report behind them. -/
def Node.spaced : Node :=
  .element "p" [] [.text "\n ",
    .element "Title" [] [.text " ", .element "b" [] [.text "\t"]],
    .element "BR" [] [.text " "], .text "", .comment " ", .unrecognized "CData" "x", .text " a"]

/-- The blank texts below the raw-text element stay, those below the void element go. -/
theorem transpile_skipping_spaced :
    let tables := { Tables.sample with rawTextTags := NameSet.ofList ["title"] }
    (Node.spaced.isExpressible = true ∧ Node.spaced.condensed tables = .element "p" [] [
      .element "Title" [] [.text " ", .element "b" [] [.text "\t"]],
      .element "BR" [] [], .comment " ", .unrecognized "CData" "x", .text " a"]) ∧
    ∃ skipping keeping condensed : Conversion,
      transpile ⟨tables, true⟩ (some Node.spaced) = .ok skipping ∧
      transpile ⟨tables, false⟩ (some Node.spaced) = .ok keeping ∧
      transpile ⟨tables, false⟩ (some (Node.spaced.condensed tables)) = .ok condensed ∧
      skipping.warnings = keeping.warnings ∧ skipping.text = condensed.text :=
  ⟨⟨rfl, rfl⟩, transpile_skipping _ rfl⟩

end MarkupDsl
