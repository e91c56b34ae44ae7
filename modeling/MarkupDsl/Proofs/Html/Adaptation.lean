import MarkupDsl.Proofs.Emission.Report
import MarkupDsl.Proofs.Html.Position
import Mathlib.Data.List.Forall2

/-!
# The markup tree of a document tree

The markup tree has a node wherever the document tree has one, and it is what that node becomes.  So
positions are the same in both trees, and the text of an element is put together from the texts that
stand inside it in the document.
-/

namespace MarkupDsl

def Node.ownText? : Node → Option String
  | text data => some data
  | element .. | comment _ | unrecognized .. | foreign _ => none

theorem Node.ownText?_eq_some_iff {node : Node} {data : String} :
    node.ownText? = some data ↔ node = .text data := by
  cases node <;> simp [ownText?]

namespace Html

/-! ## What a node becomes -/

/-- What the value of an attribute becomes: words are joined by one space. -/
inductive Value.Becomes : Value → Option String → Prop where
  | nothing : Becomes .none .none
  | text (data : String) : Becomes (.text data) (some data)
  | words (items : List String) : Becomes (.words items) (some (String.intercalate " " items))

structure IsAttributeOf (entry : String × Value) (attr : Attribute) : Prop where
  name : attr.name = entry.1
  value : entry.2.Becomes attr.value

namespace Tree

/-- What a node becomes, the nodes inside it apart. -/
inductive Becomes : Tree → Node → Prop where
  | element (name : String) {attributes : List (String × Value)} {written : List Attribute}
      (kept : List.Forall₂ IsAttributeOf attributes written) (children : List Tree)
      (nodes : List Node) :
      Becomes (.element name attributes children) (.element name written nodes)
  | text {kind : StringKind} (readable : kind ∈ [.text, .script, .style, .template])
      (data : String) : Becomes (.string kind data) (.text data)
  | comment (data : String) : Becomes (.string .comment data) (.comment data)
  | cdata (data : String) : Becomes (.string .cdata data) (.unrecognized "cdata" data)
  | doctype (data : String) : Becomes (.string .doctype data) (.unrecognized "doctype" data)
  | declaration (data : String) :
      Becomes (.string .declaration data) (.unrecognized "declaration" data)
  | instruction {kind : StringKind} (either : kind ∈ [.instruction, .xmlInstruction])
      (data : String) : Becomes (.string kind data) (.unrecognized "processing-instruction" data)
  | foreign (typeName : String) : Becomes (.foreign typeName) (.unrecognized typeName "")

theorem becomes_toMarkup (value : Value) : value.Becomes value.toMarkup := by
  cases value with
  | none => exact .nothing
  | text data => exact .text data
  | words items => exact .words items

theorem becomes_toNode_string (kind : StringKind) (data : String) :
    Becomes (.string kind data) (kind.toNode data) := by
  cases kind with
  | text | script | style | template => exact .text (by decide) data
  | comment => exact .comment data
  | cdata => exact .cdata data
  | doctype => exact .doctype data
  | declaration => exact .declaration data
  | instruction | xmlInstruction => exact .instruction (by decide) data

theorem becomes_toNode (tree : Tree) : tree.Becomes tree.toNode := by
  cases tree with
  | element name attributes children =>
      refine .element name ?_ children _
      rw [List.forall₂_map_right_iff, List.forall₂_same]
      exact fun entry _ => ⟨rfl, becomes_toMarkup entry.2⟩
  | string kind data => exact becomes_toNode_string kind data
  | foreign typeName => exact .foreign typeName

/-! ## Places -/

theorem toNodes_eq_map (trees : List Tree) : toNodes trees = trees.map toNode := by
  induction trees with
  | nil => rfl
  | cons tree trees ih => rw [toNodes, ih, List.map_cons]

theorem children_toNode (tree : Tree) : tree.toNode.children = tree.children.map toNode := by
  cases tree with
  | element name attributes nodes => exact toNodes_eq_map nodes
  | string kind data => cases kind <;> rfl
  | foreign typeName => rfl

theorem nodeAt?_toNode (tree : Tree) (position : List Nat) :
    tree.toNode.nodeAt? position = (tree.treeAt? position).map toNode := by
  induction position generalizing tree with
  | nil => rfl
  | cons index rest ih =>
      rw [Node.nodeAt?, children_toNode, List.getElem?_map, treeAt?_cons]
      cases tree.children[index]? with
      | none => rfl
      | some child => exact ih child

/-! ## Texts -/

mutual

theorem texts_toNode :
    ∀ tree : Tree, tree.toNode.texts = tree.placed.filterMap fun entry => entry.2.toNode.ownText?
  | foreign _ => rfl
  | string kind data => by cases kind <;> rfl
  | element name attributes children => by
      rw [toNode, Node.texts, textsOfAll_toNodes 0 children, placed]
      rfl

theorem textsOfAll_toNodes (index : Nat) :
    ∀ trees : List Tree, Node.textsOfAll (toNodes trees) =
      (placedAmong index trees).filterMap fun entry => entry.2.toNode.ownText?
  | [] => rfl
  | tree :: trees => by
      rw [toNodes, Node.textsOfAll, texts_toNode tree, textsOfAll_toNodes (index + 1) trees,
        placedAmong, List.filterMap_append, List.filterMap_map]
      rfl

end

def placedTexts (tree : Tree) : List (List Nat × String) :=
  tree.placed.filterMap fun entry => entry.2.toNode.ownText?.map fun data => (entry.1, data)

theorem mem_placedTexts_iff {tree : Tree} {position : List Nat} {data : String} :
    (position, data) ∈ tree.placedTexts ↔
      ∃ here, tree.treeAt? position = some here ∧ here.toNode = .text data := by
  rw [placedTexts, List.mem_filterMap]
  constructor
  · rintro ⟨⟨_, here⟩, member, taken⟩
    obtain ⟨_, own, same⟩ := Option.map_eq_some_iff.1 taken
    cases same
    exact ⟨here, mem_placed_iff.1 member, Node.ownText?_eq_some_iff.1 own⟩
  · rintro ⟨here, stands, text⟩
    refine ⟨(position, here), mem_placed_iff.2 stands, ?_⟩
    rw [Node.ownText?_eq_some_iff.2 text]
    rfl

theorem pairwise_placedTexts (tree : Tree) :
    tree.placedTexts.Pairwise fun first second => first.1 < second.1 := by
  refine (pairwise_placed tree).filterMap _ ?_
  intro first second earlier _ taken _ also
  obtain ⟨_, _, rfl⟩ := Option.map_eq_some_iff.1 taken
  obtain ⟨_, _, rfl⟩ := Option.map_eq_some_iff.1 also
  exact earlier

theorem textContent_toNode (tree : Tree) :
    tree.toNode.textContent = String.join (tree.placedTexts.map Prod.snd) := by
  rw [Node.textContent, texts_toNode, placedTexts, List.map_filterMap]
  refine congrArg String.join (List.filterMap_congr ?_)
  intro entry _
  rw [Option.map_map]
  exact (Option.map_id_apply).symm

/--
The markup tree keeps every node in its place.  At every position it has what the node of the document
tree at that position becomes, and nothing if there is none; elements keep their attributes, strings
become what their kind stands for.  The text of a tree is made of the data of those nodes inside it
that become texts, each of them once and in the order of the document.
-/
theorem toNode_keeps_places (tree : Tree) :
    (∀ position, tree.toNode.nodeAt? position = (tree.treeAt? position).map toNode) ∧
      (∀ here : Tree, here.Becomes here.toNode) ∧
      ∃ texts : List (List Nat × String),
        (texts.Pairwise fun first second => first.1 < second.1) ∧
        (∀ position data, (position, data) ∈ texts ↔
          ∃ here, tree.treeAt? position = some here ∧ here.toNode = .text data) ∧
        tree.toNode.textContent = String.join (texts.map Prod.snd) :=
  ⟨nodeAt?_toNode tree, becomes_toNode, tree.placedTexts, pairwise_placedTexts tree,
    fun _ _ => mem_placedTexts_iff, textContent_toNode tree⟩

end Tree

end Html

end MarkupDsl
