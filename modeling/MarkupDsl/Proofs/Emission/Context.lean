import MarkupDsl.Proofs.Classification.Validation
import MarkupDsl.Proofs.Emission.NormalForm
import MarkupDsl.Proofs.Emission.Report

/-!
# Trees with a hole

A context is a tree in which the place of one child is a hole.  If every element around the hole is
open, the events of a node that is put into it stand unbroken among the events of the whole tree, and
what stands around them depends on the context alone.  So the code of the node is the code that it has
as a root, and its reports are the reports that it has as a root, with longer paths.
-/

namespace MarkupDsl

/-! ## Contexts -/

structure Frame where
  tag : String
  attributes : List Attribute
  before : List Node
  after : List Node

/-- A tree with a hole: the elements around the hole, the nearest first. -/
abbrev Context := List Frame

namespace Frame

def fill (frame : Frame) (node : Node) : Node :=
  .element frame.tag frame.attributes (frame.before ++ node :: frame.after)

/-- Whether the children of the element are emitted one by one. -/
def IsOpen (tables : Tables) (frame : Frame) : Prop :=
  Text.lower frame.tag ∉ tables.voidTags ∧ Text.lower frame.tag ∉ tables.rawTextTags

instance (tables : Tables) (frame : Frame) : Decidable (frame.IsOpen tables) :=
  inferInstanceAs (Decidable (_ ∧ _))

end Frame

namespace Context

/-- The tree that a node makes up when it is put into the hole. -/
def fill : Context → Node → Node
  | [], node => node
  | frame :: outer, node => fill outer (frame.fill node)

/-- The index of the hole among its siblings. -/
def index : Context → Nat
  | [] => 0
  | frame :: _ => frame.before.length

/-- The path of the hole: the steps of the elements around it. -/
def path : Context → Path
  | [] => []
  | frame :: outer => path outer ++ [⟨some (Text.lower frame.tag), index outer⟩]

end Context

theorem Context.isExpressible_fill (context : Context) {node : Node}
    (expressible : node.isExpressible = true) : (context.fill node).isExpressible = true := by
  induction context generalizing node with
  | nil => exact expressible
  | cons frame outer ih => exact ih rfl

/-! ## Events around the hole -/

theorem Node.childEvents_append (settings : Settings) (path : Path) (index : Nat)
    (first second : List Node) :
    childEvents settings path index (first ++ second) =
      childEvents settings path index first ++
        childEvents settings path (index + first.length) second := by
  induction first generalizing index with
  | nil => rfl
  | cons child rest ih =>
      have counted : index + 1 + rest.length = index + (child :: rest).length := by
        rw [List.length_cons]
        omega
      rw [List.cons_append, childEvents, childEvents, ih, counted, List.append_assoc]

namespace Frame

def eventsBefore (settings : Settings) (path : Path) (frame : Frame) : List Event :=
  .code (openingCode settings.tables (Text.lower frame.tag) frame.attributes) :: .code "[" ::
    (Node.childEvents settings path 0 frame.before ++ [.code "\n"])

def eventsAfter (settings : Settings) (path : Path) (frame : Frame) : List Event :=
  .code ";" ::
    (Node.childEvents settings path (frame.before.length + 1) frame.after ++ [.code "]"])

/-- The events of a filled frame are those around the hole, with those of the node between them. -/
theorem events_fill {settings : Settings} {frame : Frame} (opened : frame.IsOpen settings.tables)
    {node : Node} (expressible : node.isExpressible = true)
    (emitted : settings.leavesOut node = false) (path : Path) :
    (frame.fill node).events settings path =
      frame.eventsBefore settings path ++
        node.events settings (path ++ [Step.ofNode node frame.before.length]) ++
        frame.eventsAfter settings path := by
  have here (rest : List Node) :
      Node.childEvents settings path frame.before.length (node :: rest) =
        .code "\n" :: (node.events settings (path ++ [Step.ofNode node frame.before.length]) ++
          .code ";" :: Node.childEvents settings path (frame.before.length + 1) rest) := by
    rw [Node.childEvents, expressible, emitted]
    simp
  rw [fill, Node.events, if_neg opened.1, if_neg opened.2, Node.childEvents_append, Nat.zero_add,
    here]
  simp [eventsBefore, eventsAfter]

end Frame

namespace Context

def eventsBefore (settings : Settings) : Context → List Event
  | [] => []
  | frame :: outer =>
    eventsBefore settings outer ++ frame.eventsBefore settings (path (frame :: outer))

def eventsAfter (settings : Settings) : Context → List Event
  | [] => []
  | frame :: outer =>
    frame.eventsAfter settings (path (frame :: outer)) ++ eventsAfter settings outer

theorem rootEvents_fill {settings : Settings} {context : Context}
    (opened : ∀ frame ∈ context, frame.IsOpen settings.tables) {node : Node}
    (expressible : node.isExpressible = true) (emitted : settings.leavesOut node = false) :
    rootEvents settings (context.fill node) =
      context.eventsBefore settings ++
        node.events settings (context.path ++ [Step.ofNode node context.index]) ++
        context.eventsAfter settings := by
  -- from the hole outwards: a filled frame is itself a node that is emitted in the outer hole
  induction context generalizing node with
  | nil => simp [fill, path, index, eventsBefore, eventsAfter, rootEvents]
  | cons frame outer ih =>
      obtain ⟨frameOpened, outerOpened⟩ := List.forall_mem_cons.1 opened
      have outside := @ih outerOpened (frame.fill node) rfl rfl
      have inside := Frame.events_fill frameOpened expressible emitted (path (frame :: outer))
      have step : Step.ofNode (frame.fill node) (index outer) =
          ⟨some (Text.lower frame.tag), index outer⟩ := rfl
      rw [step] at outside
      rw [path] at inside
      rw [fill, outside, inside]
      simp [eventsBefore, eventsAfter, path, index]

end Context

/-! ## Conversions -/

theorem Conversion.ofEvents_between (before events after : List Event) :
    ofEvents (before ++ events ++ after) =
      ⟨(ofEvents before).text ++ (ofEvents events).text ++ (ofEvents after).text,
        (ofEvents before).warnings ++ (ofEvents events).warnings ++ (ofEvents after).warnings⟩ := by
  have text : (ofEvents (before ++ events ++ after)).text =
      (ofEvents before).text ++ (ofEvents events).text ++ (ofEvents after).text := by
    apply String.toList_inj.1
    simp [toList_text_ofEvents]
  rw [← text]
  simp [ofEvents]

/-- The text of a node does not depend on where it stands. -/
theorem Node.text_ofEvents_events (settings : Settings) (node : Node) (path other : Path) :
    (Conversion.ofEvents (node.events settings path)).text =
      (Conversion.ofEvents (node.events settings other)).text := by
  apply String.toList_inj.1
  rw [Conversion.toList_text_ofEvents, Conversion.toList_text_ofEvents, codeOf_events, codeOf_events]

/-- A warning whose path starts with other steps in the place of its first one. -/
def Warning.startingWith (start : Path) (warning : Warning) : Warning :=
  { warning with path := start ++ warning.path.tail }

theorem Node.warnings_ofEvents_events (settings : Settings) (node : Node) (path : Path)
    (first : Step) :
    (Conversion.ofEvents (node.events settings path)).warnings =
      (Conversion.ofEvents (node.events settings [first])).warnings.map
        (Warning.startingWith path) := by
  rw [Conversion.warnings_ofEvents, Conversion.warnings_ofEvents, warningsOf_events,
    warningsOf_events, List.map_map]
  rfl

/--
Narrowing the root never changes how a subtree is emitted.  In a context whose hole lies in open
elements only, a node that is emitted has the text that it has as a root, between two texts that
depend on the context alone.  Its warnings are the ones that it has as a root, between two lists that
depend on the context alone; in each path the first step, which is the node's own with the index zero,
gives way to the path of the hole and the node's own step with its index there.
-/
theorem transpile_fill {settings : Settings} {context : Context}
    (opened : ∀ frame ∈ context, frame.IsOpen settings.tables) :
    ∃ (before after : String) (earlier later : List Warning), ∀ node : Node,
      node.isExpressible = true → settings.leavesOut node = false →
        ∃ alone, transpile settings (some node) = .ok alone ∧
          (∀ warning ∈ alone.warnings, ∃ steps, warning.path = Step.ofNode node 0 :: steps) ∧
          transpile settings (some (context.fill node)) = .ok
            ⟨before ++ alone.text ++ after,
              earlier ++
                alone.warnings.map
                  (Warning.startingWith (context.path ++ [Step.ofNode node context.index])) ++
                later⟩ := by
  refine ⟨(Conversion.ofEvents (context.eventsBefore settings)).text,
    (Conversion.ofEvents (context.eventsAfter settings)).text,
    (Conversion.ofEvents (context.eventsBefore settings)).warnings,
    (Conversion.ofEvents (context.eventsAfter settings)).warnings, ?_⟩
  intro node expressible emitted
  refine ⟨_, transpile_of_isExpressible settings expressible, ?_, ?_⟩
  · intro warning member
    rw [warnings_rootEvents] at member
    obtain ⟨position, _, rfl⟩ := List.mem_map.1 member
    exact ⟨_, rfl⟩
  · rw [transpile_of_isExpressible settings (context.isExpressible_fill expressible),
      Context.rootEvents_fill opened expressible emitted, Conversion.ofEvents_between,
      Node.text_ofEvents_events settings node _ [Step.ofNode node 0],
      Node.warnings_ofEvents_events settings node _ (Step.ofNode node 0)]
    rfl

/-- A hole in an item of a list, with nodes that are reported before and behind it. -/
def Context.nested : Context := [
  ⟨"LI", [], [.text " ", .foreign "int"], [.unrecognized "CData" "x"]⟩,
  ⟨"ul", [⟨"class", some "a"⟩], [.comment "first", .text " "], [.element "br" [] []]⟩]

/-- The report inside the node comes between those around the hole, and its path goes through them. -/
theorem transpile_fill_nested :
    (∀ frame ∈ Context.nested, frame.IsOpen Tables.sample) ∧
    Context.nested.path = [⟨some "ul", 0⟩, ⟨some "li", 2⟩] ∧ Context.nested.index = 2 ∧
    ∃ (before after : String) (earlier later : List Warning) (alone : Conversion),
      transpile ⟨.sample, true⟩ (some (.element "P" [] [.unrecognized "Doctype" "html"])) =
        .ok alone ∧
      transpile ⟨.sample, true⟩
          (some (Context.nested.fill (.element "P" [] [.unrecognized "Doctype" "html"]))) = .ok
        ⟨before ++ alone.text ++ after,
          earlier ++
            alone.warnings.map
              (Warning.startingWith [⟨some "ul", 0⟩, ⟨some "li", 2⟩, ⟨some "p", 2⟩]) ++
            later⟩ := by
  have opened : ∀ frame ∈ Context.nested, frame.IsOpen Tables.sample := by decide
  obtain ⟨before, after, earlier, later, conversions⟩ :=
    @transpile_fill ⟨.sample, true⟩ _ opened
  obtain ⟨alone, converted, _, filled⟩ :=
    conversions (.element "P" [] [.unrecognized "Doctype" "html"]) rfl rfl
  exact ⟨opened, rfl, rfl, before, after, earlier, later, alone, converted, filled⟩

end MarkupDsl
