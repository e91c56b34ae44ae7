import MarkupDsl.Proofs.Emission.Events
import MarkupDsl.Proofs.Literal.Reading

/-!
# Normal forms of trees

What the code of a tree tells of it.  The tags of a normal form are in lower case, its attributes
are the texts that they are spelled as, and an element is void, or has one text, or has children.
The nodes that cannot be expressed and the blank texts that the settings leave out are gone.

A conversion emits exactly the code of the normal form: neither paths nor reports show in it.
-/

namespace MarkupDsl

/-- What the code of a tree tells of it. -/
inductive NormalForm where
  | text (data : String)
  | comment (data : String)
  | void (tag : String) (attributes : List (String × String))
  | rawText (tag : String) (attributes : List (String × String)) (content : String)
  | element (tag : String) (attributes : List (String × String)) (children : List NormalForm)

/-- The texts that the name and the value of an attribute are spelled as. -/
def Attribute.spelled (tables : Tables) (attr : Attribute) : String × String :=
  (Spelling.attributeName tables attr.name, Spelling.attributeValue tables attr.name attr.value)

namespace Node

mutual

/-- The normal form of a node that can be expressed. -/
def normalForm? (settings : Settings) : Node → Option NormalForm
  | text data => some (.text data)
  | comment data => some (.comment data)
  | element tag attributes children =>
    let name := Text.lower tag
    let spelled := attributes.map (Attribute.spelled settings.tables)
    if name ∈ settings.tables.voidTags then some (.void name spelled)
    else if name ∈ settings.tables.rawTextTags then
      some (.rawText name spelled (element tag attributes children).textContent)
    else some (.element name spelled (normalForms settings children))
  | unrecognized .. | foreign _ => none

def normalForms (settings : Settings) : List Node → List NormalForm
  | [] => []
  | child :: rest =>
    if settings.leavesOut child then normalForms settings rest
    else (normalForm? settings child).toList ++ normalForms settings rest

end

/-- The nodes with a normal form are those that can be expressed. -/
theorem isSome_normalForm? (settings : Settings) (node : Node) :
    (node.normalForm? settings).isSome = node.isExpressible := by
  cases node with
  | element tag attributes children =>
      unfold normalForm?
      dsimp only
      repeat' split
      all_goals rfl
  | text data => simp [normalForm?, isExpressible]
  | comment data => simp [normalForm?, isExpressible]
  | unrecognized kind data => simp [normalForm?, isExpressible]
  | foreign typeName => simp [normalForm?, isExpressible]

theorem exists_normalForm (settings : Settings) {node : Node}
    (expressible : node.isExpressible = true) : ∃ form, node.normalForm? settings = some form := by
  rw [← isSome_normalForm? settings] at expressible
  exact Option.isSome_iff_exists.1 expressible

end Node

/-! ## The code of a normal form -/

namespace NormalForm

def attributeChars (spelled : String × String) : List Char :=
  spelled.1.toList ++ ' ' :: (spelled.2.toList ++ [';', ' '])

def openingChars (tag : String) (attributes : List (String × String)) : List Char :=
  tag.toList ++ ' ' :: '[' :: (attributes.flatMap attributeChars ++ [']', ' '])

def textWord : List Char := ['t', 'x', 't']

def commentWord : List Char := ['c', 'o', 'm', 'm', 'e', 'n', 't']

mutual

/-- The code of a normal form. -/
def code : NormalForm → List Char
  | text data => textWord ++ ' ' :: Literal.stringChars data.toList
  | comment data => commentWord ++ ' ' :: Literal.stringChars data.toList
  | void tag attributes => openingChars tag attributes
  | rawText tag attributes content =>
    openingChars tag attributes ++ Literal.stringChars content.toList
  | element tag attributes children =>
    openingChars tag attributes ++ '[' :: (codeOfAll children ++ [']'])

def codeOfAll : List NormalForm → List Char
  | [] => []
  | child :: rest => '\n' :: (code child ++ ';' :: codeOfAll rest)

end

end NormalForm

/-! ## The code of a tree -/

theorem toList_openingCode (tables : Tables) (tag : String) (attributes : List Attribute) :
    (openingCode tables tag attributes).toList =
      NormalForm.openingChars tag (attributes.map (Attribute.spelled tables)) := by
  have each (attr : Attribute) : (attributeCode tables attr).toList =
      NormalForm.attributeChars (attr.spelled tables) := by
    simp [attributeCode, NormalForm.attributeChars, Attribute.spelled]
  have joined : (String.join (attributes.map (attributeCode tables))).toList =
      (attributes.map (Attribute.spelled tables)).flatMap NormalForm.attributeChars := by
    rw [String.toList_join, List.flatMap_map, List.flatMap_map]
    simp only [each]
  simp [openingCode, NormalForm.openingChars, joined]

namespace Node

/-- A node is emitted as the code of its normal form, or as nothing if it has none. -/
def formCode (settings : Settings) (node : Node) : List Char :=
  (node.normalForm? settings).elim [] NormalForm.code

mutual

theorem codeOf_events (settings : Settings) (path : Path) :
    ∀ node : Node, Event.codeOf (events settings path node) = formCode settings node
  | text data => by
      rw [events, Event.codeOf_code, String.toList_append, Literal.toList_encodeString]
      exact List.append_nil _
  | comment data => by
      rw [events, Event.codeOf_code, String.toList_append, Literal.toList_encodeString]
      exact List.append_nil _
  | unrecognized kind data => by rw [events, Event.codeOf_skipped]; rfl
  | foreign typeName => by rw [events, Event.codeOf_skipped]; rfl
  | element tag attributes children => by
      rw [formCode, events, normalForm?, Event.codeOf_code, toList_openingCode]
      by_cases void : Text.lower tag ∈ settings.tables.voidTags
      · rw [if_pos void, if_pos void, Event.codeOf_nil, List.append_nil]
        rfl
      · rw [if_neg void, if_neg void]
        by_cases raw : Text.lower tag ∈ settings.tables.rawTextTags
        · rw [if_pos raw, if_pos raw, Event.codeOf_code, Literal.toList_encodeString,
            Event.codeOf_nil, List.append_nil]
          rfl
        · rw [if_neg raw, if_neg raw, Event.codeOf_code, Event.codeOf_append, Event.codeOf_code,
            Event.codeOf_nil, codeOf_childEvents settings path 0 children]
          rfl

theorem codeOf_childEvents (settings : Settings) (path : Path) (index : Nat) :
    ∀ children : List Node, Event.codeOf (childEvents settings path index children) =
      NormalForm.codeOfAll (normalForms settings children)
  | [] => by simp [childEvents, normalForms, NormalForm.codeOfAll]
  | child :: rest => by
      have here := codeOf_events settings (path ++ [Step.ofNode child index]) child
      have later := codeOf_childEvents settings path (index + 1) rest
      rw [childEvents, normalForms, Event.codeOf_append, later]
      by_cases left : settings.leavesOut child = true
      · rw [isExpressible_of_leavesOut left, if_pos left, if_pos left]
        rfl
      · rw [if_neg left, if_neg left]
        rw [formCode] at here
        cases form : normalForm? settings child with
        | none =>
            have inexpressible := isSome_normalForm? settings child
            rw [form] at inexpressible here
            rw [← inexpressible]
            exact congrArg (· ++ NormalForm.codeOfAll (normalForms settings rest)) here
        | some shape =>
            have expressible := isSome_normalForm? settings child
            rw [form] at expressible here
            rw [← expressible]
            change '\n' :: Event.codeOf (events settings _ child ++ [.code ";"]) ++ _ =
              '\n' :: (shape.code ++ ';' :: NormalForm.codeOfAll (normalForms settings rest))
            rw [Event.codeOf_append, here]
            simp

end

end Node

theorem transpile_text {settings : Settings} {root : Node} {form : NormalForm}
    (found : root.normalForm? settings = some form) :
    (transpile settings (some root)).map Conversion.text = .ok (String.ofList form.code) := by
  have expressible : root.isExpressible = true := by
    rw [← Node.isSome_normalForm? settings, found]
    rfl
  have emitted := Node.codeOf_events settings [Step.ofNode root 0] root
  rw [Node.formCode, found] at emitted
  rw [transpile_of_isExpressible settings expressible]
  refine congrArg Except.ok (String.toList_inj.1 ?_)
  rw [Conversion.toList_text_ofEvents, String.toList_ofList]
  exact emitted

end MarkupDsl
