import MarkupDsl.Html.Location

/-!
# Positions in document trees

A node of a document tree is found by its position: the indices of the children to descend into, all
siblings counted.  The nodes of a tree can be listed together with their positions in the order of the
document, and this is the order of the positions as lists of numbers.  A search of a document goes
through its elements in the same order.
-/

namespace MarkupDsl.Html.Tree

/-! ## Positions -/

/-- The nodes directly in a node. -/
def children : Tree → List Tree
  | element _ _ children => children
  | string .. | foreign _ => []

def treeAt? (tree : Tree) : List Nat → Option Tree
  | [] => some tree
  | index :: rest =>
    match tree.children[index]? with
    | some child => treeAt? child rest
    | none => none

theorem treeAt?_cons (tree : Tree) (index : Nat) (rest : List Nat) :
    tree.treeAt? (index :: rest) = tree.children[index]?.bind (treeAt? · rest) := by
  rw [treeAt?]
  cases tree.children[index]? <;> rfl

/-! ## All nodes of a tree -/

mutual

def placed : Tree → List (List Nat × Tree)
  | element name attributes children =>
    ([], element name attributes children) :: placedAmong 0 children
  | string kind data => [([], string kind data)]
  | foreign typeName => [([], foreign typeName)]

def placedAmong (index : Nat) : List Tree → List (List Nat × Tree)
  | [] => []
  | child :: rest =>
    (placed child).map (fun entry => (index :: entry.1, entry.2)) ++ placedAmong (index + 1) rest

end

theorem placed_eq (tree : Tree) : tree.placed = ([], tree) :: placedAmong 0 tree.children := by
  cases tree <;> rw [placed] <;> rfl

theorem mem_placedAmong_iff {index : Nat} {trees : List Tree} {position : List Nat} {here : Tree} :
    (position, here) ∈ placedAmong index trees ↔
      ∃ offset child rest, trees[offset]? = some child ∧ (rest, here) ∈ placed child ∧
        position = (index + offset) :: rest := by
  induction trees generalizing index with
  | nil => simp [placedAmong]
  | cons first others ih =>
      rw [placedAmong, List.mem_append, List.mem_map, ih]
      constructor
      · rintro (⟨⟨rest, _⟩, member, same⟩ | ⟨offset, child, rest, present, member, rfl⟩)
        · cases same
          exact ⟨0, first, rest, rfl, member, rfl⟩
        · refine ⟨offset + 1, child, rest, present, member, ?_⟩
          rw [Nat.add_assoc, Nat.add_comm 1]
      · rintro ⟨offset, child, rest, present, member, rfl⟩
        cases offset with
        | zero =>
            cases present
            exact .inl ⟨(rest, here), member, rfl⟩
        | succ offset =>
            refine .inr ⟨offset, child, rest, present, member, ?_⟩
            rw [Nat.add_assoc, Nat.add_comm 1]

/-- A node is listed with a position exactly if it stands there. -/
theorem mem_placed_iff {tree here : Tree} {position : List Nat} :
    (position, here) ∈ tree.placed ↔ tree.treeAt? position = some here := by
  induction position generalizing tree with
  | nil =>
      rw [placed_eq, List.mem_cons, mem_placedAmong_iff, treeAt?]
      simp [eq_comm]
  | cons index rest ih =>
      rw [placed_eq, List.mem_cons, mem_placedAmong_iff, treeAt?_cons, Option.bind_eq_some_iff]
      constructor
      · rintro (impossible | ⟨offset, child, tail, present, member, same⟩)
        · cases impossible
        · rw [Nat.zero_add, List.cons.injEq] at same
          obtain ⟨rfl, rfl⟩ := same
          exact ⟨child, present, ih.1 member⟩
      · rintro ⟨child, present, stands⟩
        exact .inr ⟨index, child, rest, present, ih.2 stands, by rw [Nat.zero_add]⟩

mutual

theorem pairwise_placed :
    ∀ tree : Tree, tree.placed.Pairwise fun first second => first.1 < second.1
  | string .. | foreign _ => List.pairwise_singleton _ _
  | element name attributes children => by
      rw [placed, List.pairwise_cons]
      refine ⟨?_, pairwise_placedAmong 0 children⟩
      rintro ⟨position, here⟩ member
      obtain ⟨_, _, _, _, _, rfl⟩ := mem_placedAmong_iff.1 member
      exact List.nil_lt_cons _ _

theorem pairwise_placedAmong (index : Nat) :
    ∀ trees : List Tree, (placedAmong index trees).Pairwise fun first second => first.1 < second.1
  | [] => List.Pairwise.nil
  | child :: rest => by
      rw [placedAmong, List.pairwise_append, List.pairwise_map]
      refine ⟨?_, pairwise_placedAmong (index + 1) rest, ?_⟩
      · refine (pairwise_placed child).imp ?_
        intro first second earlier
        exact List.cons_lt_cons_iff.2 (.inr ⟨rfl, earlier⟩)
      · rintro _ inChild ⟨position, here⟩ later
        obtain ⟨first, _, rfl⟩ := List.mem_map.1 inChild
        obtain ⟨offset, _, _, _, _, rfl⟩ := mem_placedAmong_iff.1 later
        exact List.cons_lt_cons_iff.2 (.inl (by omega))

end

end MarkupDsl.Html.Tree

/-! ## Searches -/

namespace MarkupDsl.Html.Location

open MarkupDsl.Html.Tree

mutual

theorem map_tree_withInside (parent : Location) (before after : List Tree) :
    ∀ here : Tree, (withInside false parent before after here).map tree =
      (here.placed.map (·.2)).filter isElement
  | .string .. | .foreign _ => rfl
  | .element name attributes children => by
      rw [withInside, placed, List.map_cons, List.map_cons, List.filter_cons_of_pos rfl]
      exact congrArg (_ :: ·) (map_tree_insideOf _ [] 0 children)

theorem map_tree_insideOf (parent : Location) (before : List Tree) (index : Nat) :
    ∀ trees : List Tree, (insideOf false parent before trees).map tree =
      ((placedAmong index trees).map (·.2)).filter isElement
  | [] => rfl
  | here :: after => by
      rw [insideOf, placedAmong, List.map_append, List.map_append, List.map_map, List.filter_append,
        map_tree_withInside parent before after here,
        map_tree_insideOf parent (here :: before) (index + 1) after]
      rfl

end

/-- What a search of a document comes across are the elements that stand somewhere in it. -/
theorem exists_mem_inside_iff {document : List Tree} {found : Tree} :
    (∃ here ∈ inside false (.document document), here.tree = found) ↔
      found.isElement = true ∧ ∃ top ∈ document, ∃ position, top.treeAt? position = some found := by
  have listed : (inside false (.document document)).map tree =
      ((placedAmong 0 document).map (·.2)).filter isElement :=
    map_tree_insideOf (.document document) [] 0 document
  rw [← List.mem_map, listed, List.mem_filter, and_comm, List.mem_map]
  refine and_congr_right' ?_
  constructor
  · rintro ⟨⟨position, _⟩, member, rfl⟩
    obtain ⟨offset, top, rest, present, member, -⟩ := mem_placedAmong_iff.1 member
    exact ⟨top, List.mem_of_getElem? present, rest, mem_placed_iff.1 member⟩
  · rintro ⟨top, member, position, stands⟩
    obtain ⟨offset, present⟩ := List.mem_iff_getElem?.1 member
    exact ⟨_, mem_placedAmong_iff.2
      ⟨offset, top, position, present, mem_placed_iff.2 stands, rfl⟩, rfl⟩

end MarkupDsl.Html.Location
