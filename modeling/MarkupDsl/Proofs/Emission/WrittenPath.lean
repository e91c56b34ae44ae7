import MarkupDsl.Proofs.Classification.Validation
import MarkupDsl.Proofs.Emission.Report
import MarkupDsl.Proofs.Text.Cut
import MarkupDsl.Proofs.Text.LowerCase

/-!
# Reading paths

The written form of a path names the reported node.  Its pieces between the arrows are the written
steps, provided that no tag holds a space; the index of a step is the number between its last
brackets, or the number after its hash sign, whatever else the tag holds.  The indices after the
first are the position of the node.
-/

namespace MarkupDsl

open Text

/-! ## Steps -/

def readNumber? (digits : List Char) : Option Nat :=
  if digits ≠ [] ∧ digits.all Char.isDigit then some (Nat.ofDigitChars 10 digits 0) else none

theorem readNumber?_toDigits (n : Nat) : readNumber? (Nat.toDigits 10 n) = some n := by
  have digits : (Nat.toDigits 10 n).all Char.isDigit = true := by
    rw [List.all_eq_true]
    intro c member
    exact Nat.isDigit_of_mem_toDigits (by decide) (by decide) member
  unfold readNumber?
  rw [if_pos ⟨Nat.toDigits_ne_nil, digits⟩, Nat.ofDigitChars_ten_toDigits]

/-- A character that is no digit does not stand in a written number. -/
theorem not_mem_toDigits {c : Char} (other : c.isDigit = false) (n : Nat) :
    c ∉ Nat.toDigits 10 n := by
  intro member
  rw [Nat.isDigit_of_mem_toDigits (by decide) (by decide) member] at other
  cases other

namespace Step

def readIndex? (cs : List Char) : Option Nat :=
  match cs.reverse with
  | ']' :: inner => readNumber? (inner.takeWhile (· != '[')).reverse
  | _ => readNumber? (cs.drop 1)

theorem toList_written_some (tag : String) (index : Nat) :
    (written ⟨some tag, index⟩).toList =
      tag.toList ++ '[' :: (Nat.toDigits 10 index ++ [']']) := by
  simp [written]

theorem toList_written_none (index : Nat) :
    (written ⟨none, index⟩).toList = '#' :: Nat.toDigits 10 index := by
  simp [written]

/-- The index of a written step is read back, whatever the tag. -/
theorem readIndex?_written (step : Step) : readIndex? step.written.toList = some step.index := by
  obtain ⟨tag, index⟩ := step
  cases tag with
  | some tag =>
      have backwards : (tag.toList ++ '[' :: (Nat.toDigits 10 index ++ [']'])).reverse =
          ']' :: ((Nat.toDigits 10 index).reverse ++ '[' :: tag.toList.reverse) := by
        simp
      have digits : ∀ c ∈ (Nat.toDigits 10 index).reverse, (c != '[') = true := by
        intro c member
        rw [bne_iff_ne]
        rintro rfl
        exact not_mem_toDigits rfl index (List.mem_reverse.1 member)
      have taken : ((Nat.toDigits 10 index).reverse ++ '[' :: tag.toList.reverse).takeWhile
          (· != '[') = (Nat.toDigits 10 index).reverse := by
        rw [List.takeWhile_append_of_pos digits, List.takeWhile_cons_of_neg (by decide),
          List.append_nil]
      rw [toList_written_some, readIndex?, backwards]
      simp only [taken]
      rw [List.reverse_reverse, readNumber?_toDigits]
  | none =>
      rw [toList_written_none, readIndex?]
      split
      · next inner bracket =>
        have present : ']' ∈ '#' :: Nat.toDigits 10 index := by
          rw [← List.mem_reverse, bracket]
          exact List.mem_cons_self
        rcases List.mem_cons.1 present with impossible | digit
        · cases impossible
        · exact absurd digit (not_mem_toDigits rfl index)
      · exact readNumber?_toDigits index

/-- Whether the tag of a step, if it has one, holds no space. -/
def IsSpaceFree (step : Step) : Prop := ∀ tag ∈ step.tag, ' ' ∉ tag.toList

/-- No space comes into a written step but from its tag. -/
theorem IsSpaceFree.not_mem_written {step : Step} (free : step.IsSpaceFree) :
    ' ' ∉ step.written.toList := by
  obtain ⟨tag, index⟩ := step
  have digits : ' ' ∉ Nat.toDigits 10 index := not_mem_toDigits rfl index
  cases tag with
  | some tag =>
      rw [toList_written_some]
      simp [free tag rfl, digits]
  | none =>
      rw [toList_written_none]
      simp [digits]

end Step

/-! ## Paths -/

namespace Path

def arrow : List Char := [' ', '>', ' ']

/-- Read a written path: the position of the node below the root of the conversion. -/
def readPosition? (written : String) : Option (List Nat) :=
  ((pieces arrow written.toList).drop 1).mapM Step.readIndex?

theorem mapM_readIndex?_written (steps : List Step) :
    (steps.map fun step => step.written.toList).mapM Step.readIndex? =
      some (steps.map Step.index) := by
  induction steps with
  | nil => rfl
  | cons step steps ih =>
      rw [List.map_cons, List.mapM_cons, Step.readIndex?_written, ih]
      rfl

/-- A written path is read back as the indices after the first, if no tag holds a space. -/
theorem readPosition?_written {first : Step} {steps : List Step}
    (free : ∀ step ∈ first :: steps, step.IsSpaceFree) :
    readPosition? (written (first :: steps)) = some (steps.map Step.index) := by
  have separator : " > ".toList = arrow := rfl
  have joined : (written (first :: steps)).toList =
      arrow.intercalate (first.written.toList :: steps.map fun step => step.written.toList) := by
    rw [written, String.toList_intercalate, separator, List.map_map]
    rfl
  have apart : ∀ piece ∈ first.written.toList :: steps.map (fun step => step.written.toList),
      ' ' ∉ piece := by
    intro piece member
    rw [← List.map_cons (f := fun step : Step => step.written.toList)] at member
    obtain ⟨step, present, rfl⟩ := List.mem_map.1 member
    exact (free step present).not_mem_written
  rw [readPosition?, joined, arrow, pieces_intercalate apart, List.drop_one, List.tail_cons,
    mapM_readIndex?_written]

example : readPosition? "div[0] > ul[7][2] > #1" = some [2, 1] := by cbv

end Path

/-! ## Trees -/

namespace Node

mutual

/-- Whether no tag in a tree holds a space. -/
def isSpaceFree : Node → Bool
  | element tag _ children => decide (' ' ∉ tag.toList) && areSpaceFree children
  | text _ | comment _ | unrecognized .. | foreign _ => true

def areSpaceFree : List Node → Bool
  | [] => true
  | node :: nodes => isSpaceFree node && areSpaceFree nodes

end

theorem isSpaceFree_of_mem {nodes : List Node} (free : areSpaceFree nodes = true) {node : Node}
    (member : node ∈ nodes) : node.isSpaceFree = true := by
  induction nodes with
  | nil => cases member
  | cons first others ih =>
      rw [areSpaceFree, Bool.and_eq_true] at free
      rcases List.mem_cons.1 member with rfl | later
      · exact free.1
      · exact ih free.2 later

theorem isSpaceFree_of_child {node child : Node} (free : node.isSpaceFree = true) {index : Nat}
    (found : node.children[index]? = some child) : child.isSpaceFree = true := by
  cases node with
  | element tag attributes nodes =>
      rw [isSpaceFree, Bool.and_eq_true] at free
      exact isSpaceFree_of_mem free.2 (List.mem_of_getElem? found)
  | text | comment | unrecognized | foreign => cases found

/-- A step carries a tag in lower case, and lower-casing makes no spaces. -/
theorem isSpaceFree_ofNode {node : Node} (free : node.isSpaceFree = true) (index : Nat) :
    (Step.ofNode node index).IsSpaceFree := by
  cases node with
  | element tag attributes nodes =>
      rw [isSpaceFree, Bool.and_eq_true, decide_eq_true_eq] at free
      intro lowered own present
      cases own
      exact free.1 (mem_of_mem_lower present rfl)
  | text | comment | unrecognized | foreign =>
      intro lowered impossible
      cases impossible

/-- The steps to a position go through tags of the tree only. -/
theorem isSpaceFree_of_mem_stepsTo {node : Node} (free : node.isSpaceFree = true)
    {position : List Nat} {step : Step} (member : step ∈ node.stepsTo position) :
    step.IsSpaceFree := by
  induction position generalizing node with
  | nil => cases member
  | cons index rest ih =>
      rw [stepsTo] at member
      split at member
      · next child found =>
        have inner := isSpaceFree_of_child free found
        rcases List.mem_cons.1 member with rfl | later
        · exact isSpaceFree_ofNode inner index
        · exact ih inner later
      · cases member

theorem map_index_stepsTo {root node : Node} {position : List Nat}
    (found : root.nodeAt? position = some node) :
    (root.stepsTo position).map Step.index = position := by
  induction position generalizing root with
  | nil => rfl
  | cons index rest ih =>
      rw [nodeAt?] at found
      split at found
      · next child present =>
        have same : (Step.ofNode child index).index = index := by
          cases child <;> rfl
        rw [stepsTo_cons present, List.map_cons, same, ih found]
      · cases found

theorem readPosition?_reportAt {root node : Node} (free : root.isSpaceFree = true)
    {position : List Nat} (found : root.nodeAt? position = some node) (index : Nat) :
    Path.readPosition? (reportAt [Step.ofNode root index] root position).path.written =
      some position := by
  have steps : ∀ step ∈ Step.ofNode root index :: root.stepsTo position, step.IsSpaceFree := by
    intro step member
    rcases List.mem_cons.1 member with rfl | later
    · exact isSpaceFree_ofNode free index
    · exact isSpaceFree_of_mem_stepsTo free later
  have read := Path.readPosition?_written steps
  rw [map_index_stepsTo found] at read
  exact read

end Node

/--
Reports are exact and locate the skipped node.  The conversion of an element succeeds, and its
warnings stand one by one for the positions of the nodes that have to be reported, in the order of
the document.  Each of them has the kind of its node.  If no tag holds a space, the written path of
each is read back as the position of its node, so that no two of the written paths are the same.
-/
theorem transpile_warnings_exact (settings : Settings) (tag : String) (attributes : List Attribute)
    (children : List Node) :
    ∃ (conversion : Conversion) (positions : List (List Nat)),
      transpile settings (some (.element tag attributes children)) = .ok conversion ∧
      positions.Pairwise (· < ·) ∧
      (∀ position, position ∈ positions ↔
        (Node.element tag attributes children).IsReported settings.tables position) ∧
      conversion.warnings.map (fun warning => some warning.kind) = positions.map (fun position =>
        ((Node.element tag attributes children).nodeAt? position).map Node.kindName) ∧
      ((Node.element tag attributes children).isSpaceFree = true →
        conversion.warnings.map (fun warning => Path.readPosition? warning.path.written) =
          positions.map some ∧
        (conversion.warnings.map fun warning => warning.path.written).Nodup) := by
  generalize same : Node.element tag attributes children = root
  have expressible : root.isExpressible = true := by
    rw [← same]
    rfl
  have warnings := warnings_rootEvents settings root
  have ordered := Node.pairwise_reported settings.tables root
  refine ⟨Conversion.ofEvents (rootEvents settings root), root.reported settings.tables,
    transpile_of_isExpressible settings expressible, ordered, fun _ => Node.mem_reported_iff,
    ?_, ?_⟩
  · rw [warnings, List.map_map]
    refine List.map_congr_left fun position member => ?_
    obtain ⟨node, found⟩ := Node.exists_nodeAt?_of_mem_reported member
    simp [Node.reportAt, found]
  · intro free
    have read : ∀ position ∈ root.reported settings.tables,
        Path.readPosition? (Node.reportAt [Step.ofNode root 0] root position).path.written =
          some position := by
      intro position member
      obtain ⟨node, found⟩ := Node.exists_nodeAt?_of_mem_reported member
      exact Node.readPosition?_reportAt free found 0
    rw [warnings, List.map_map, List.map_map]
    refine ⟨List.map_congr_left read, List.pairwise_map.2 (ordered.imp_of_mem ?_)⟩
    -- paths that are read back as different positions are different
    intro first second firstMember secondMember earlier equal
    have same : some first = some second := by
      rw [← read first firstMember, ← read second secondMember]
      exact congrArg Path.readPosition? equal
    cases same
    exact List.lt_irrefl first earlier

/-- Brackets and digits in tags do not make the written paths of two reports the same. -/
theorem transpile_warnings_sample :
    ∃ conversion : Conversion,
      transpile ⟨.sample, true⟩ (some (.element "UL" []
          [.element "li[1]" [] [.unrecognized "Doctype" "html", .text " "],
            .element "li" [] [.foreign "int"]])) = .ok conversion ∧
        (conversion.warnings.map fun warning => warning.path.written).Nodup := by
  obtain ⟨conversion, _, converted, _, _, _, located⟩ :=
    transpile_warnings_exact ⟨.sample, true⟩ "UL" []
      [.element "li[1]" [] [.unrecognized "Doctype" "html", .text " "],
        .element "li" [] [.foreign "int"]]
  exact ⟨conversion, converted, (located (by decide)).2⟩

end MarkupDsl
