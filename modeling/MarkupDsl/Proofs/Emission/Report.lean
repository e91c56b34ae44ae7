import MarkupDsl.Proofs.Emission.Events

/-!
# Reported nodes

A node of a tree is found by its position: the indices of the children to descend into, all siblings
counted.  Positions are compared as lists of numbers, and this is the order of the document.  A
conversion reports the nodes that cannot be expressed, apart from those below a void element or a
raw-text element, and it reports them once each and in the order of the document.
-/

namespace MarkupDsl

namespace Node

/-! ## Positions -/

def children : Node → List Node
  | element _ _ children => children
  | text _ | comment _ | unrecognized .. | foreign _ => []

def nodeAt? (node : Node) : List Nat → Option Node
  | [] => some node
  | index :: rest =>
    match node.children[index]? with
    | some child => nodeAt? child rest
    | none => none

def stepsTo (node : Node) : List Nat → Path
  | [] => []
  | index :: rest =>
    match node.children[index]? with
    | some child => Step.ofNode child index :: stepsTo child rest
    | none => []

/-- Whether the children of a node are not emitted one by one. -/
def isClosed (tables : Tables) : Node → Bool
  | element tag _ _ =>
    decide (Text.lower tag ∈ tables.voidTags) || decide (Text.lower tag ∈ tables.rawTextTags)
  | text _ | comment _ | unrecognized .. | foreign _ => false

/--
Whether a node that has to be reported stands at a position: it cannot be expressed, and no node
above it is closed.
-/
def IsReported (tables : Tables) (root : Node) (position : List Nat) : Prop :=
  (∃ node, root.nodeAt? position = some node ∧ node.isExpressible = false) ∧
    ∀ above below, position = above ++ below → below ≠ [] →
      ∀ node, root.nodeAt? above = some node → node.isClosed tables = false

theorem nodeAt?_cons {node child : Node} {index : Nat} (found : node.children[index]? = some child)
    (rest : List Nat) : node.nodeAt? (index :: rest) = child.nodeAt? rest := by
  rw [nodeAt?, found]

theorem stepsTo_cons {node child : Node} {index : Nat} (found : node.children[index]? = some child)
    (rest : List Nat) :
    node.stepsTo (index :: rest) = Step.ofNode child index :: child.stepsTo rest := by
  rw [stepsTo, found]

/-- A node is reported itself exactly when it cannot be expressed. -/
theorem isReported_nil_iff {tables : Tables} {root : Node} :
    root.IsReported tables [] ↔ root.isExpressible = false := by
  constructor
  · rintro ⟨⟨node, found, inexpressible⟩, _⟩
    cases found
    exact inexpressible
  · intro inexpressible
    refine ⟨⟨root, rfl, inexpressible⟩, ?_⟩
    intro above below same proper
    exact absurd (List.append_eq_nil_iff.1 same.symm).2 proper

theorem isReported_cons_iff {tables : Tables} {root : Node} {index : Nat} {rest : List Nat} :
    root.IsReported tables (index :: rest) ↔
      root.isClosed tables = false ∧
        ∃ child, root.children[index]? = some child ∧ child.IsReported tables rest := by
  constructor
  · rintro ⟨⟨node, found, inexpressible⟩, open_⟩
    refine ⟨open_ [] _ rfl (List.cons_ne_nil _ _) root rfl, ?_⟩
    rw [nodeAt?] at found
    split at found
    · next child present =>
      refine ⟨child, present, ⟨node, found, inexpressible⟩, ?_⟩
      intro above below same proper other reached
      refine open_ (index :: above) below ?_ proper other ?_
      · rw [same, List.cons_append]
      · rw [nodeAt?_cons present, reached]
    · cases found
  · rintro ⟨rootOpen, child, present, ⟨node, found, inexpressible⟩, open_⟩
    refine ⟨⟨node, ?_, inexpressible⟩, ?_⟩
    · rw [nodeAt?_cons present, found]
    · intro above below same proper other reached
      cases above with
      | nil =>
          cases reached
          exact rootOpen
      | cons first above =>
          rw [List.cons_append, List.cons.injEq] at same
          obtain ⟨rfl, same⟩ := same
          rw [nodeAt?_cons present] at reached
          exact open_ above below same proper other reached

/-! ## The positions of the reported nodes -/

mutual

def reported (tables : Tables) : Node → List (List Nat)
  | element tag attributes children =>
    if isClosed tables (element tag attributes children) then []
    else reportedBelow tables 0 children
  | text _ | comment _ => []
  | unrecognized .. | foreign _ => [[]]

def reportedBelow (tables : Tables) (index : Nat) : List Node → List (List Nat)
  | [] => []
  | child :: rest =>
    (reported tables child).map (index :: ·) ++ reportedBelow tables (index + 1) rest

end

theorem mem_reportedBelow_iff {tables : Tables} {index : Nat} {nodes : List Node}
    {position : List Nat} :
    position ∈ reportedBelow tables index nodes ↔
      ∃ offset child rest, nodes[offset]? = some child ∧ rest ∈ reported tables child ∧
        position = (index + offset) :: rest := by
  induction nodes generalizing index with
  | nil => simp [reportedBelow]
  | cons first others ih =>
      rw [reportedBelow, List.mem_append, List.mem_map, ih]
      constructor
      · rintro (⟨rest, member, rfl⟩ | ⟨offset, child, rest, present, member, rfl⟩)
        · exact ⟨0, first, rest, rfl, member, rfl⟩
        · refine ⟨offset + 1, child, rest, present, member, ?_⟩
          rw [Nat.add_assoc, Nat.add_comm 1]
      · rintro ⟨offset, child, rest, present, member, rfl⟩
        cases offset with
        | zero =>
            cases present
            exact Or.inl ⟨rest, member, rfl⟩
        | succ offset =>
            refine Or.inr ⟨offset, child, rest, present, member, ?_⟩
            rw [Nat.add_assoc, Nat.add_comm 1]

/-- The listed positions are exactly those at which a node has to be reported. -/
theorem mem_reported_iff {tables : Tables} {root : Node} {position : List Nat} :
    position ∈ root.reported tables ↔ root.IsReported tables position := by
  induction position generalizing root with
  | nil =>
      rw [isReported_nil_iff]
      cases root with
      | element tag attributes children =>
          rw [reported]
          split
          · simp [isExpressible]
          · rw [mem_reportedBelow_iff]
            simp [isExpressible]
      | text | comment | unrecognized | foreign => simp [reported, isExpressible]
  | cons index rest ih =>
      rw [isReported_cons_iff]
      cases root with
      | element tag attributes nodes =>
          rw [reported]
          by_cases closed : isClosed tables (element tag attributes nodes) = true
          · rw [if_pos closed, closed]
            simp
          · rw [if_neg closed, mem_reportedBelow_iff]
            constructor
            · rintro ⟨offset, child, tail, present, member, same⟩
              rw [Nat.zero_add, List.cons.injEq] at same
              obtain ⟨rfl, rfl⟩ := same
              exact ⟨Bool.eq_false_iff.2 closed, child, present, ih.1 member⟩
            · rintro ⟨_, child, present, inside⟩
              exact ⟨index, child, rest, present, ih.2 inside, by rw [Nat.zero_add]⟩
      | text | comment | unrecognized | foreign => simp [reported, children]

mutual

theorem pairwise_reported (tables : Tables) :
    ∀ node : Node, (node.reported tables).Pairwise (· < ·)
  | element tag attributes children => by
      rw [reported]
      split
      · exact List.Pairwise.nil
      · exact pairwise_reportedBelow tables 0 children
  | text _ | comment _ => List.Pairwise.nil
  | unrecognized .. | foreign _ => List.pairwise_singleton _ _

theorem pairwise_reportedBelow (tables : Tables) (index : Nat) :
    ∀ nodes : List Node, (reportedBelow tables index nodes).Pairwise (· < ·)
  | [] => List.Pairwise.nil
  | child :: rest => by
      rw [reportedBelow, List.pairwise_append]
      refine ⟨?_, pairwise_reportedBelow tables (index + 1) rest, ?_⟩
      · refine List.Pairwise.map _ ?_ (pairwise_reported tables child)
        intro first second earlier
        exact List.cons_lt_cons_iff.2 (Or.inr ⟨rfl, earlier⟩)
      · intro first inChild second later
        obtain ⟨tail, _, rfl⟩ := List.mem_map.1 inChild
        obtain ⟨offset, _, _, _, _, rfl⟩ := mem_reportedBelow_iff.1 later
        exact List.cons_lt_cons_iff.2 (Or.inl (by omega))

end

theorem exists_nodeAt?_of_mem_reported {tables : Tables} {root : Node} {position : List Nat}
    (member : position ∈ root.reported tables) : ∃ node, root.nodeAt? position = some node := by
  obtain ⟨⟨node, found, _⟩, _⟩ := mem_reported_iff.1 member
  exact ⟨node, found⟩

/-! ## Warnings -/

def reportAt (path : Path) (node : Node) (position : List Nat) : Warning :=
  ⟨((node.nodeAt? position).map kindName).getD "", path ++ node.stepsTo position⟩

theorem reportAt_cons {path : Path} {node child : Node} {index : Nat}
    (found : node.children[index]? = some child) (rest : List Nat) :
    reportAt path node (index :: rest) =
      reportAt (path ++ [Step.ofNode child index]) child rest := by
  unfold reportAt
  rw [nodeAt?_cons found, stepsTo_cons found, List.append_assoc]
  rfl

theorem reported_of_leavesOut {settings : Settings} {node : Node}
    (left : settings.leavesOut node = true) : node.reported settings.tables = [] := by
  cases node with
  | text data => rfl
  | element | comment | unrecognized | foreign => cases left

mutual

theorem warningsOf_events (settings : Settings) :
    ∀ (node : Node) (path : Path), Event.warningsOf (events settings path node) =
      (node.reported settings.tables).map (reportAt path node)
  | text data, path => by rw [events]; rfl
  | comment data, path => by rw [events]; rfl
  | unrecognized kind data, path => by
      rw [events, Event.warningsOf_skipped, Event.warningsOf_nil, reported, List.map_singleton,
        reportAt, stepsTo, List.append_nil]
      rfl
  | foreign typeName, path => by
      rw [events, Event.warningsOf_skipped, Event.warningsOf_nil, reported, List.map_singleton,
        reportAt, stepsTo, List.append_nil]
      rfl
  | element tag attributes nodes, path => by
      have below := warningsOf_childEvents settings nodes path [] tag attributes
      rw [events, reported, isClosed, Event.warningsOf_code]
      by_cases void : Text.lower tag ∈ settings.tables.voidTags
      · rw [if_pos void, decide_eq_true void]
        rfl
      · rw [if_neg void, decide_eq_false void]
        by_cases raw : Text.lower tag ∈ settings.tables.rawTextTags
        · rw [if_pos raw, decide_eq_true raw]
          rfl
        · rw [if_neg raw, decide_eq_false raw, Event.warningsOf_code, Event.warningsOf_append,
            Event.warningsOf_code, Event.warningsOf_nil, List.append_nil]
          exact below

/--
The warnings of the last children of an element are the reports of the positions below them.  The
children `before` them count in the indices.
-/
theorem warningsOf_childEvents (settings : Settings) :
    ∀ (nodes : List Node) (path : Path) (before : List Node) (tag : String)
      (attributes : List Attribute),
      Event.warningsOf (childEvents settings path before.length nodes) =
        (reportedBelow settings.tables before.length nodes).map
          (reportAt path (element tag attributes (before ++ nodes)))
  | [], path, before, tag, attributes => by
      rw [childEvents, reportedBelow]
      rfl
  | child :: rest, path, before, tag, attributes => by
      have here := warningsOf_events settings child
        (path ++ [Step.ofNode child before.length])
      have later := warningsOf_childEvents settings rest path (before ++ [child]) tag attributes
      have found : (element tag attributes (before ++ child :: rest)).children[before.length]? =
          some child := by
        simp [children]
      have same : reportAt path (element tag attributes (before ++ child :: rest)) ∘
          (before.length :: ·) = reportAt (path ++ [Step.ofNode child before.length]) child :=
        funext fun position => reportAt_cons found position
      rw [List.length_append, List.length_singleton, List.append_assoc,
        List.singleton_append] at later
      rw [childEvents, reportedBelow, Event.warningsOf_append, List.map_append, List.map_map, same,
        later, ← here]
      congr 1
      by_cases left : settings.leavesOut child = true
      · rw [here, reported_of_leavesOut left, isExpressible_of_leavesOut left, if_pos left]
        rfl
      · rw [if_neg left]
        split
        · rfl
        · rw [Event.warningsOf_code, Event.warningsOf_append, Event.warningsOf_code,
            Event.warningsOf_nil, List.append_nil]

end

end Node

theorem warnings_rootEvents (settings : Settings) (root : Node) :
    (Conversion.ofEvents (rootEvents settings root)).warnings =
      (root.reported settings.tables).map (Node.reportAt [Step.ofNode root 0] root) := by
  rw [Conversion.warnings_ofEvents]
  exact Node.warningsOf_events settings root [Step.ofNode root 0]

end MarkupDsl
