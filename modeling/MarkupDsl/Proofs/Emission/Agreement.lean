import MarkupDsl.Proofs.Emission.Events

/-!
# Settings that agree on a tree

A conversion asks its settings for the codes of the attributes that stand in the tree, for the two
sets of tags, and whether blank texts are left out.  Settings that answer alike convert alike.
-/

namespace MarkupDsl

namespace Node

mutual

/-- The names of the attributes at or below a node. -/
def attributeNames : Node → List String
  | element _ attributes children =>
    attributes.map Attribute.name ++ attributeNamesOfAll children
  | text _ | comment _ | unrecognized .. | foreign _ => []

def attributeNamesOfAll : List Node → List String
  | [] => []
  | node :: nodes => attributeNames node ++ attributeNamesOfAll nodes

end

end Node

/-- Settings that treat tags, blank texts and the attributes of some names alike. -/
structure Settings.AgreeOn (first second : Settings) (names : List String) : Prop where
  voidTags : first.tables.voidTags = second.tables.voidTags
  rawTextTags : first.tables.rawTextTags = second.tables.rawTextTags
  skipBlankText : first.skipBlankText = second.skipBlankText
  attributes : ∀ name ∈ names, ∀ value,
    attributeCode first.tables ⟨name, value⟩ = attributeCode second.tables ⟨name, value⟩

/-- Tables that differ in their families alone agree on the names that they spell alike. -/
theorem Settings.agreeOn_of_attributeName_eq {tables : Tables}
    {families : List (String × Namespace)} {names : List String} (skipBlankText : Bool)
    (alike : ∀ name ∈ names, Spelling.attributeName { tables with namespaces := families } name =
      Spelling.attributeName tables name) :
    Settings.AgreeOn ⟨{ tables with namespaces := families }, skipBlankText⟩
      ⟨tables, skipBlankText⟩ names where
  voidTags := rfl
  rawTextTags := rfl
  skipBlankText := rfl
  attributes := by
    intro name member value
    unfold attributeCode
    dsimp only
    rw [alike name member]
    rfl

namespace Settings.AgreeOn

variable {first second : Settings} {names : List String}

theorem mono (agree : first.AgreeOn second names) {fewer : List String} (among : fewer ⊆ names) :
    first.AgreeOn second fewer :=
  { agree with attributes := fun name member => agree.attributes name (among member) }

theorem leavesOut_eq (agree : first.AgreeOn second names) (node : Node) :
    first.leavesOut node = second.leavesOut node := by
  cases node with
  | text data => exact congrArg (· && Text.blank data) agree.skipBlankText
  | element | comment | unrecognized | foreign => rfl

theorem openingCode_eq (tag : String) {attributes : List Attribute}
    (agree : first.AgreeOn second (attributes.map Attribute.name)) :
    openingCode first.tables tag attributes = openingCode second.tables tag attributes := by
  have same : attributes.map (attributeCode first.tables) =
      attributes.map (attributeCode second.tables) :=
    List.map_congr_left fun attr member =>
      agree.attributes attr.name (List.mem_map_of_mem member) attr.value
  rw [openingCode, openingCode, same]

mutual

theorem events_eq (path : Path) :
    ∀ node : Node, first.AgreeOn second node.attributeNames →
      node.events first path = node.events second path
  | .text data, _ => rfl
  | .comment data, _ => rfl
  | .unrecognized kind data, _ => rfl
  | .foreign typeName, _ => rfl
  | .element tag attributes children, agree => by
      rw [Node.attributeNames] at agree
      have opening := (agree.mono (List.subset_append_left _ _)).openingCode_eq (Text.lower tag)
      have below := childEvents_eq path 0 children (agree.mono (List.subset_append_right _ _))
      simp only [Node.events, opening, agree.voidTags, agree.rawTextTags, below]

theorem childEvents_eq (path : Path) (index : Nat) :
    ∀ children : List Node, first.AgreeOn second (Node.attributeNamesOfAll children) →
      Node.childEvents first path index children = Node.childEvents second path index children
  | [], _ => rfl
  | child :: rest, agree => by
      rw [Node.attributeNamesOfAll] at agree
      have here := events_eq (path ++ [Step.ofNode child index]) child
        (agree.mono (List.subset_append_left _ _))
      have later := childEvents_eq path (index + 1) rest (agree.mono (List.subset_append_right _ _))
      simp only [Node.childEvents, here, agree.leavesOut_eq child, later]

end

theorem transpile_eq {root : Node} (agree : first.AgreeOn second root.attributeNames) :
    transpile first (some root) = transpile second (some root) := by
  have same : rootEvents first root = rootEvents second root := events_eq _ root agree
  cases expressible : root.isExpressible with
  | true =>
      rw [transpile_of_isExpressible first expressible, transpile_of_isExpressible second expressible,
        same]
  | false =>
      rw [transpile_of_inexpressible first expressible, transpile_of_inexpressible second expressible]

end Settings.AgreeOn

end MarkupDsl
