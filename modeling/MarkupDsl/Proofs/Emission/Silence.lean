import MarkupDsl.Classification.Presets
import MarkupDsl.Proofs.Emission.Report
import Mathlib.Data.List.Perm.Subperm

/-!
# Nodes that are lost in silence

Nothing below a void element or a raw-text element is visited for reports.  So a conversion has at
most as many warnings as the tree has nodes that cannot be expressed, and it has just as many exactly
when none of these nodes stands below such an element.
-/

namespace MarkupDsl

namespace Node

/-! ## Counting -/

/-- Whether a node is a markup construct that the emitted code cannot express. -/
def isUnrecognized : Node → Bool
  | unrecognized .. => true
  | element .. | text _ | comment _ | foreign _ => false

/-- Whether a node is an object that is no markup at all. -/
def isForeign : Node → Bool
  | foreign _ => true
  | element .. | text _ | comment _ | unrecognized .. => false

mutual

/-- The number of nodes of a sort at or below a node. -/
def count (sort : Node → Bool) : Node → Nat
  | element tag attributes children =>
    (sort (element tag attributes children)).toNat + countAmong sort children
  | text data => (sort (text data)).toNat
  | comment data => (sort (comment data)).toNat
  | unrecognized kind data => (sort (unrecognized kind data)).toNat
  | foreign typeName => (sort (foreign typeName)).toNat

def countAmong (sort : Node → Bool) : List Node → Nat
  | [] => 0
  | node :: nodes => count sort node + countAmong sort nodes

end

/-! ## The positions of the nodes that cannot be expressed -/

/-- The positions of the nodes that cannot be expressed: with empty tables nothing is passed over. -/
def inexpressible (root : Node) : List (List Nat) := root.reported Tables.empty

theorem isClosed_empty (node : Node) : node.isClosed Tables.empty = false := by
  cases node <;> rfl

theorem mem_inexpressible_iff {root : Node} {position : List Nat} :
    position ∈ root.inexpressible ↔
      ∃ node, root.nodeAt? position = some node ∧ node.isExpressible = false := by
  rw [inexpressible, mem_reported_iff]
  constructor
  · exact And.left
  · intro stands
    exact ⟨stands, fun _ _ _ _ node _ => isClosed_empty node⟩

mutual

/-- All nodes that cannot be expressed are listed, once each. -/
theorem length_inexpressible :
    ∀ node : Node, node.inexpressible.length = node.count isUnrecognized + node.count isForeign
  | text _ | comment _ | unrecognized .. | foreign _ => rfl
  | element tag attributes children => by
      have below := length_reportedBelow_empty 0 children
      rw [inexpressible, reported, isClosed_empty, count, count]
      simpa [isUnrecognized, isForeign] using below

theorem length_reportedBelow_empty (index : Nat) :
    ∀ nodes : List Node, (reportedBelow Tables.empty index nodes).length =
      countAmong isUnrecognized nodes + countAmong isForeign nodes
  | [] => rfl
  | node :: nodes => by
      have here := length_inexpressible node
      have later := length_reportedBelow_empty (index + 1) nodes
      rw [inexpressible] at here
      rw [reportedBelow, List.length_append, List.length_map, here, later, countAmong, countAmong]
      omega

end

/-! ## Reported and lost -/

/-- No position is listed twice, because each comes after the one before it. -/
theorem nodup_reported (tables : Tables) (root : Node) : (root.reported tables).Nodup := by
  refine (pairwise_reported tables root).imp ?_
  rintro first _ earlier rfl
  exact List.lt_irrefl first earlier

theorem subperm_reported (tables : Tables) (root : Node) :
    List.Subperm (root.reported tables) root.inexpressible :=
  (nodup_reported tables root).subperm fun _ member =>
    mem_inexpressible_iff.2 (mem_reported_iff.1 member).1

/-- As many nodes are reported as cannot be expressed exactly when each of these is reported. -/
theorem length_reported_eq_iff {tables : Tables} {root : Node} :
    (root.reported tables).length = root.inexpressible.length ↔
      ∀ position node, root.nodeAt? position = some node → node.isExpressible = false →
        root.IsReported tables position := by
  have among := subperm_reported tables root
  constructor
  · intro same position node found inexpressible
    have all := among.perm_of_length_le (Nat.le_of_eq same.symm)
    exact mem_reported_iff.1 (all.symm.subset (mem_inexpressible_iff.2 ⟨node, found, inexpressible⟩))
  · intro reported
    have back : root.inexpressible ⊆ root.reported tables := by
      intro position member
      obtain ⟨node, found, inexpressible⟩ := mem_inexpressible_iff.1 member
      exact mem_reported_iff.2 (reported position node found inexpressible)
    have also := (nodup_reported Tables.empty root).subperm back
    exact Nat.le_antisymm among.length_le also.length_le

end Node

/--
Nodes are lost in silence exactly below void and raw-text elements.  The conversion of an element has
at most as many warnings as the tree has nodes that cannot be expressed; it has as many if and only if
each of these nodes has to be reported, that is, none of them has a void or a raw-text element above
it.  In a tree without foreign objects the nodes that cannot be expressed are the unrecognized ones.
-/
theorem transpile_warnings_length_eq_iff (settings : Settings) (tag : String)
    (attributes : List Attribute) (children : List Node) :
    ∃ conversion, transpile settings (some (.element tag attributes children)) = .ok conversion ∧
      conversion.warnings.length ≤ (Node.element tag attributes children).count Node.isUnrecognized +
        (Node.element tag attributes children).count Node.isForeign ∧
      (conversion.warnings.length = (Node.element tag attributes children).count Node.isUnrecognized +
          (Node.element tag attributes children).count Node.isForeign ↔
        ∀ position node, (Node.element tag attributes children).nodeAt? position = some node →
          node.isExpressible = false →
            (Node.element tag attributes children).IsReported settings.tables position) := by
  generalize same : Node.element tag attributes children = root
  have expressible : root.isExpressible = true := by
    rw [← same]
    rfl
  refine ⟨_, transpile_of_isExpressible settings expressible, ?_⟩
  rw [warnings_rootEvents, List.length_map, ← Node.length_inexpressible]
  exact ⟨(Node.subperm_reported settings.tables root).length_le, Node.length_reported_eq_iff⟩

def Node.sectionInTitle : Node := .element "title" [] [.text "a", .unrecognized "cdata" "x"]

/-- A marked section in a title is not reported, although it is not emitted either. -/
theorem transpile_sectionInTitle :
    transpile ⟨Preset.minimal.tables, false⟩ (some .sectionInTitle) =
        .ok ⟨"title [] \"a\"", []⟩ ∧
      ¬ ∀ (settings : Settings) (tag : String) (attributes : List Attribute) (children : List Node)
        (conversion : Conversion),
        transpile settings (some (.element tag attributes children)) = .ok conversion →
          conversion.warnings.length =
            (Node.element tag attributes children).count Node.isUnrecognized := by
  have silent : transpile ⟨Preset.minimal.tables, false⟩ (some .sectionInTitle) =
      .ok ⟨"title [] \"a\"", []⟩ := by
    rw [transpile_of_isExpressible _ rfl]
    refine congrArg Except.ok ?_
    decide +kernel
  refine ⟨silent, ?_⟩
  intro all
  exact absurd (all _ _ _ _ _ silent) (by decide)

end MarkupDsl
