import MarkupDsl.Proofs.Classification.Validation
import MarkupDsl.Proofs.Emission.NormalForm
import MarkupDsl.Proofs.Emission.Report

/-!
# Pruned trees

A conversion passes over the nodes that cannot be expressed, over everything below a void element,
and over everything but the texts below a raw-text element.  Pruning takes away what is passed over.
A pruned tree has the normal form of the whole tree, so it is converted to the same text, and no
report is left to be made about it.
-/

namespace MarkupDsl

namespace Node

mutual

/--
A node without what is passed over below it.  The text that takes the place of the children of a
raw-text element is the whole text of the element, with the texts below void elements inside it.
-/
def pruned (tables : Tables) : Node → Node
  | element tag attributes children =>
    element tag attributes <|
      if Text.lower tag ∈ tables.voidTags then []
      else if Text.lower tag ∈ tables.rawTextTags then
        [text (element tag attributes children).textContent]
      else prunedAll tables children
  | text data => text data
  | comment data => comment data
  | unrecognized kind data => unrecognized kind data
  | foreign typeName => foreign typeName

/-- The nodes of a list that can be expressed, each of them pruned. -/
def prunedAll (tables : Tables) : List Node → List Node
  | [] => []
  | child :: rest =>
    if child.isExpressible then pruned tables child :: prunedAll tables rest
    else prunedAll tables rest

end

/-! ## What pruning keeps -/

theorem isExpressible_pruned (tables : Tables) (node : Node) :
    (node.pruned tables).isExpressible = node.isExpressible := by
  cases node <;> rfl

theorem leavesOut_pruned (settings : Settings) (tables : Tables) (node : Node) :
    settings.leavesOut (node.pruned tables) = settings.leavesOut node := by
  cases node <;> rfl

theorem textContent_element_text (tag : String) (attributes : List Attribute) (data : String) :
    (element tag attributes [text data]).textContent = data := by
  apply String.toList_inj.1
  rw [textContent, texts, textsOfAll, textsOfAll, texts, String.toList_join]
  simp

mutual

theorem normalForm?_pruned (settings : Settings) :
    ∀ node : Node,
      (node.pruned settings.tables).normalForm? settings = node.normalForm? settings
  | text data => rfl
  | comment data => rfl
  | unrecognized kind data => rfl
  | foreign typeName => rfl
  | element tag attributes children => by
      rw [pruned]
      by_cases void : Text.lower tag ∈ settings.tables.voidTags
      · simp only [normalForm?, if_pos void]
      · by_cases raw : Text.lower tag ∈ settings.tables.rawTextTags
        · simp only [normalForm?, if_neg void, if_pos raw, textContent_element_text]
        · simp only [normalForm?, if_neg void, if_neg raw,
            normalForms_prunedAll settings children]

theorem normalForms_prunedAll (settings : Settings) :
    ∀ children : List Node,
      normalForms settings (prunedAll settings.tables children) = normalForms settings children
  | [] => rfl
  | child :: rest => by
      have here := normalForm?_pruned settings child
      have later := normalForms_prunedAll settings rest
      rw [prunedAll, normalForms]
      by_cases expressible : child.isExpressible = true
      · rw [if_pos expressible, normalForms, leavesOut_pruned, here, later]
      · -- a child that cannot be expressed has no normal form, and none is left out in silence
        have noForm : normalForm? settings child = none := by
          rw [← isSome_normalForm? settings child] at expressible
          exact Option.not_isSome_iff_eq_none.1 expressible
        have reported : ¬settings.leavesOut child = true := fun left =>
          expressible (isExpressible_of_leavesOut left)
        rw [if_neg expressible, if_neg reported, noForm, later]
        rfl

end

/-! ## What pruning takes away -/

mutual

/-- No node is reported at or below a pruned node that can be expressed. -/
theorem reported_pruned (tables : Tables) :
    ∀ node : Node, node.isExpressible = true → (node.pruned tables).reported tables = []
  | text data, _ => rfl
  | comment data, _ => rfl
  | element tag attributes children, _ => by
      rw [pruned, reported, isClosed]
      by_cases void : Text.lower tag ∈ tables.voidTags
      · rw [decide_eq_true void]
        rfl
      · by_cases raw : Text.lower tag ∈ tables.rawTextTags
        · rw [decide_eq_true raw, Bool.or_true]
          rfl
        · rw [decide_eq_false void, decide_eq_false raw, if_neg void, if_neg raw]
          exact reportedBelow_prunedAll tables 0 children

theorem reportedBelow_prunedAll (tables : Tables) (index : Nat) :
    ∀ children : List Node, reportedBelow tables index (prunedAll tables children) = []
  | [] => rfl
  | child :: rest => by
      rw [prunedAll]
      split
      · next expressible =>
        rw [reportedBelow, reported_pruned tables child expressible,
          reportedBelow_prunedAll tables (index + 1) rest]
        rfl
      · exact reportedBelow_prunedAll tables index rest

end

end Node

/--
What is passed over has no influence on the text: a tree that can be expressed and its pruned tree
are converted to the same text, and the conversion of the pruned tree has no warnings.
-/
theorem transpile_pruned (settings : Settings) {root : Node}
    (expressible : root.isExpressible = true) :
    ∃ conversion, transpile settings (some (root.pruned settings.tables)) = .ok conversion ∧
      conversion.warnings = [] ∧
      (transpile settings (some root)).map Conversion.text = .ok conversion.text := by
  obtain ⟨form, found⟩ := Node.exists_normalForm settings expressible
  have prunedExpressible : (root.pruned settings.tables).isExpressible = true := by
    rw [Node.isExpressible_pruned, expressible]
  have converted := transpile_of_isExpressible settings prunedExpressible
  refine ⟨_, converted, ?_, ?_⟩
  · rw [warnings_rootEvents, Node.reported_pruned settings.tables root expressible]
    rfl
  · have prunedText := transpile_text ((Node.normalForm?_pruned settings root).trans found)
    rw [converted] at prunedText
    rw [transpile_text found, ← prunedText]
    rfl

/-- A tree in which nodes are passed over in all three ways, one inside the other. -/
def Node.cluttered : Node :=
  .element "p" [] [.unrecognized "Doctype" "html",
    .element "Title" [] [.text "a ", .unrecognized "CData" "x",
      .element "br" [] [.text "\"b\"", .foreign "int"], .comment "no", .text " c"],
    .element "BR" [] [.text "lost", .unrecognized "Doctype" ""]]

/-- What is left of the cluttered tree; the text below the void element inside the title counts. -/
theorem transpile_pruned_cluttered :
    let tables := { Tables.sample with rawTextTags := NameSet.ofList ["br", "title"] }
    Node.cluttered.pruned tables = .element "p" [] [
        .element "Title" [] [.text "a \"b\" c"], .element "BR" [] []] ∧
      ∃ conversion, transpile ⟨tables, true⟩ (some (Node.cluttered.pruned tables)) = .ok conversion ∧
        conversion.warnings = [] ∧
        (transpile ⟨tables, true⟩ (some Node.cluttered)).map Conversion.text =
          .ok conversion.text :=
  ⟨rfl, transpile_pruned _ rfl⟩

end MarkupDsl
