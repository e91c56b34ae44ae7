import MarkupDsl.Html.Document
import MarkupDsl.Proofs.Html.Position
import MarkupDsl.Proofs.Step
import MarkupDsl.Proofs.Text.LowerCase

/-!
# Names in a document

The names of elements are taken from opening tags, where they are put in lower case.  Each step of a
scan keeps to that, taking in a token keeps the names of the tree that is built in lower case, and so
the names of all elements of a document that is read are.
-/

namespace MarkupDsl.Html

def IsLowered (name : String) : Prop := ∃ written, name = Text.lower written

theorem IsLowered.plainLower_eq {name : String} (lowered : IsLowered name) :
    Text.plainLower name = name := by
  obtain ⟨written, rfl⟩ := lowered
  exact Text.plainLower_lower written

/-! ## Tokens -/

/-- Whether a token, if it opens an element, does so under a name in lower case. -/
def Token.IsNamed : Token → Prop
  | opening name _ _ => IsLowered name
  | text _ | closing _ | comment _ | doctype _ | cdata _ | declaration _ | instruction _ => True

def Step.IsNamed : Step → Prop
  | next (some token) _ _ => token.IsNamed
  | next none _ _ | unfinished | stop _ _ => True

theorem isNamed_openingStep {first : Char} {cs : List Char} {step : Step}
    (made : openingStep first cs = .ok step) : step.IsNamed := by
  unfold openingStep at made
  split at made
  · cases made
    trivial
  · cases made
    trivial
  · obtain ⟨attributes, _, made⟩ := bind_eq_ok_iff.1 made
    cases made
    exact ⟨_, rfl⟩

theorem isNamed_closingStep (raw : RawElement) (cs : List Char) : (closingStep raw cs).IsNamed := by
  unfold closingStep
  repeat' split
  all_goals trivial

theorem isNamed_bracketStep {token : List Char → Token} (named : ∀ data, (token data).IsNamed)
    (cs : List Char) : (bracketStep token cs).IsNamed := by
  unfold bracketStep
  split
  · trivial
  · exact named _

theorem isNamed_sectionToken (data : List Char) : (sectionToken data).IsNamed := by
  unfold sectionToken
  split <;> trivial

theorem isNamed_sectionStep {cs : List Char} {step : Step} (made : sectionStep cs = .ok step) :
    step.IsNamed := by
  unfold sectionStep at made
  dsimp only at made
  split at made
  · cases made
    trivial
  · split at made
    · cases made
    · split at made
      · cases made
        trivial
      · split at made
        · cases made
          split
          · trivial
          · exact isNamed_sectionToken _
        · split at made
          · cases made
            split
            · trivial
            · exact isNamed_sectionToken _
          · cases made

theorem isNamed_declarationStep {cs : List Char} {step : Step}
    (made : declarationStep cs = .ok step) : step.IsNamed := by
  unfold declarationStep at made
  split at made
  · split at made <;> cases made <;> trivial
  · exact isNamed_sectionStep made
  · split at made <;>
    · cases made
      refine isNamed_bracketStep ?_ _
      exact fun data => trivial

theorem isNamed_numberStep {cs : List Char} {step : Step} (made : numberStep cs = .ok step) :
    step.IsNamed := by
  unfold numberStep at made
  dsimp only at made
  -- in each base the step is read off digits, or it takes the text as it is
  split at made
  all_goals
    obtain ⟨found, read, made⟩ := bind_eq_ok_iff.1 made
    split at made
    · cases made
      split at read
      · cases read
      · split at read
        · cases read
        · obtain ⟨code, _, read⟩ := bind_eq_ok_iff.1 read
          cases read
          trivial
    · split at made <;> cases made <;> trivial

theorem isNamed_referenceStep {final : Bool} {cs : List Char} {step : Step}
    (made : referenceStep final cs = .ok step) : step.IsNamed := by
  unfold referenceStep at made
  split at made
  · cases made
    trivial
  · exact isNamed_numberStep made
  · split at made
    · split at made <;> cases made <;> trivial
    · cases made
      trivial

theorem isNamed_markupStep {raw : RawElement} {cs : List Char} {step : Step}
    (made : markupStep raw cs = .ok step) : step.IsNamed := by
  unfold markupStep at made
  split at made
  · cases made
    trivial
  · cases made
    exact isNamed_closingStep raw _
  · cases made
    refine isNamed_bracketStep ?_ _
    exact fun data => trivial
  · exact isNamed_declarationStep made
  · split at made
    · exact isNamed_openingStep made
    · cases made
      trivial

def Scan.IsNamed (scan : Scan) : Prop := ∀ token ∈ scan.tokens, token.IsNamed

theorem isNamed_of_mem_textToken? {text : List Char} :
    ∀ token ∈ (textToken? text).toList, token.IsNamed := by
  intro token member
  rw [textToken?] at member
  split at member
  · cases member
  · cases List.mem_singleton.1 member
    trivial

theorem Scan.IsNamed.after {scan : Scan} (named : scan.IsNamed) {tokens : List Token}
    (before : ∀ token ∈ tokens, token.IsNamed) : (scan.after tokens).IsNamed :=
  List.forall_mem_append.2 ⟨before, named⟩

theorem isNamed_scanSteps {final : Bool} {bound : Nat} {raw : RawElement} {cs : List Char}
    {scan : Scan} (made : scanSteps final bound raw cs = .ok scan) : scan.IsNamed := by
  induction bound generalizing raw cs scan with
  | zero =>
      cases made
      rintro token ⟨⟩
  | succ bound ih =>
      cases cs with
      | nil =>
          cases made
          rintro token ⟨⟩
      | cons c cs =>
          unfold scanSteps at made
          dsimp only at made
          split at made
          · cases made
            rintro token ⟨⟩
          · rename_i text behind _
            cases behind with
            | nil =>
                cases made
                exact isNamed_of_mem_textToken?
            | cons mark rest =>
                dsimp only at made
                rw [← apply_ite (· >>= _)] at made
                obtain ⟨step, taken, made⟩ := bind_eq_ok_iff.1 made
                have named : step.IsNamed := by
                  split at taken
                  · exact isNamed_markupStep taken
                  · exact isNamed_referenceStep taken
                have before : ∀ token ∈ (textToken? text).toList, token.IsNamed :=
                  isNamed_of_mem_textToken?
                cases step with
                | unfinished =>
                    dsimp only at made
                    split at made
                    · obtain ⟨later, scanned, made⟩ := bind_eq_ok_iff.1 made
                      cases made
                      have last : Token.IsNamed (.text (unfinishedText rest).1) := trivial
                      exact (ih scanned).after
                        (List.forall_mem_append.2 ⟨before, List.forall_mem_singleton.2 last⟩)
                    · cases made
                      exact before
                | stop left rest =>
                    cases made
                    exact List.forall_mem_append.2 ⟨before, isNamed_of_mem_textToken?⟩
                | next token raw rest =>
                    obtain ⟨later, scanned, made⟩ := bind_eq_ok_iff.1 made
                    cases made
                    refine (ih scanned).after (List.forall_mem_append.2 ⟨before, ?_⟩)
                    intro other member
                    cases Option.mem_toList.1 member
                    exact named

theorem isNamed_tokens {document : List Char} {found : List Token}
    (made : tokens document = .ok found) : ∀ token ∈ found, token.IsNamed := by
  obtain ⟨first, scanned, made⟩ := bind_eq_ok_iff.1 made
  obtain ⟨second, scannedAgain, made⟩ := bind_eq_ok_iff.1 made
  cases made
  refine List.forall_mem_append.2 ⟨List.forall_mem_append.2 ⟨?_, ?_⟩, ?_⟩
  · exact isNamed_scanSteps scanned
  · exact isNamed_scanSteps scannedAgain
  · split
    · rintro token ⟨⟩
    · exact isNamed_of_mem_textToken?

/-! ## Trees -/

def Tree.IsNamed (tree : Tree) : Prop :=
  ∀ position name attributes children,
    tree.treeAt? position = some (element name attributes children) → IsLowered name

theorem Tree.isNamed_element {name : String} (attributes : List (String × Value))
    {children : List Tree} (lowered : IsLowered name) (named : ∀ child ∈ children, child.IsNamed) :
    (element name attributes children).IsNamed := by
  intro position innerName innerAttributes inner stands
  cases position with
  | nil =>
      cases stands
      exact lowered
  | cons index rest =>
      rw [treeAt?_cons, Option.bind_eq_some_iff] at stands
      obtain ⟨child, present, stands⟩ := stands
      exact named child (List.mem_of_getElem? present) rest _ _ _ stands

theorem Tree.isNamed_string (kind : StringKind) (data : String) : (string kind data).IsNamed := by
  intro position name attributes children stands
  cases position <;> cases stands

/-! ## The builder -/

structure OpenElement.IsNamed (element : OpenElement) : Prop where
  name : IsLowered element.name
  children : ∀ child ∈ element.children, child.IsNamed

/-- Whether all names in a document, as far as it is built, are in lower case. -/
structure Builder.IsNamed (builder : Builder) : Prop where
  stack : ∀ element ∈ builder.stack, element.IsNamed
  roots : ∀ tree ∈ builder.roots, tree.IsNamed

namespace Builder

variable {builder : Builder}

theorem isNamed_empty : empty.IsNamed where
  stack := by rintro element ⟨⟩
  roots := by rintro tree ⟨⟩

theorem IsNamed.add (named : builder.IsNamed) {tree : Tree} (joins : tree.IsNamed) :
    (builder.add tree).IsNamed := by
  rw [Builder.add]
  split
  · exact ⟨named.stack, List.forall_mem_cons.2 ⟨joins, named.roots⟩⟩
  · rename_i inner outer shape
    obtain ⟨innerNamed, outerNamed⟩ := List.forall_mem_cons.1 (shape ▸ named.stack)
    have grown : OpenElement.IsNamed { inner with children := tree :: inner.children } :=
      ⟨innerNamed.name, List.forall_mem_cons.2 ⟨joins, innerNamed.children⟩⟩
    exact ⟨List.forall_mem_cons.2 ⟨grown, outerNamed⟩, named.roots⟩

theorem IsNamed.flush (named : builder.IsNamed) (kind : StringKind) :
    (builder.flush kind).IsNamed := by
  rw [Builder.flush]
  split
  · exact named
  · have cleared : IsNamed { builder with pending := [] } := ⟨named.stack, named.roots⟩
    exact cleared.add (Tree.isNamed_string _ _)

theorem IsNamed.append (named : builder.IsNamed) (text : List Char) :
    (builder.append text).IsNamed :=
  ⟨named.stack, named.roots⟩

theorem IsNamed.addString (named : builder.IsNamed) (kind : StringKind) (data : List Char) :
    (builder.addString kind data).IsNamed :=
  ((named.flush .text).append data).flush kind

theorem isNamed_finished {element : OpenElement} (named : element.IsNamed) :
    (finished element).IsNamed :=
  Tree.isNamed_element _ named.name fun child member =>
    named.children child (List.mem_reverse.1 member)

theorem IsNamed.closeInner (named : builder.IsNamed) (count : Nat) :
    (closeInner count builder).IsNamed := by
  induction count generalizing builder with
  | zero => exact named
  | succ count ih =>
      rw [Builder.closeInner]
      split
      · exact named
      · rename_i inner outer shape
        obtain ⟨innerNamed, outerNamed⟩ := List.forall_mem_cons.1 (shape ▸ named.stack)
        have popped : IsNamed { builder with stack := outer } := ⟨outerNamed, named.roots⟩
        exact ih (popped.add (isNamed_finished innerNamed))

theorem IsNamed.close (named : builder.IsNamed) (name : String) : (builder.close name).IsNamed := by
  rw [Builder.close]
  split
  · exact named.flush .text
  · exact (named.flush .text).closeInner _

theorem IsNamed.closeTag (named : builder.IsNamed) (name : String) :
    (builder.closeTag name).IsNamed := by
  rw [Builder.closeTag]
  split
  · exact ⟨named.stack, named.roots⟩
  · exact named.close name

theorem IsNamed.openElement (named : builder.IsNamed) {name : String} (lowered : IsLowered name)
    (attributes : List (String × String)) : (builder.openElement name attributes).IsNamed := by
  have flushed := named.flush .text
  have opened : OpenElement.IsNamed ⟨name, attributesOf attributes, []⟩ :=
    ⟨lowered, by rintro child ⟨⟩⟩
  exact ⟨List.forall_mem_cons.2 ⟨opened, flushed.stack⟩, flushed.roots⟩

theorem IsNamed.take (named : builder.IsNamed) {token : Token} (taken : token.IsNamed) :
    (builder.take token).IsNamed := by
  cases token with
  | text data => exact named.append data
  | opening name attributes selfClosing =>
      have opened := named.openElement taken attributes
      cases selfClosing with
      | true => exact opened.close name
      | false =>
          rw [Builder.take]
          dsimp only
          split
          · have closed := opened.close name
            exact ⟨closed.stack, closed.roots⟩
          · exact opened
  | closing name => exact named.closeTag name
  | comment data => exact named.addString .comment data
  | doctype data => exact named.addString .doctype data
  | cdata data => exact named.addString .cdata data
  | declaration data => exact named.addString .declaration data
  | instruction data => exact named.addString .instruction data

theorem IsNamed.takeAll (named : builder.IsNamed) {found : List Token}
    (taken : ∀ token ∈ found, token.IsNamed) : (found.foldl Builder.take builder).IsNamed := by
  induction found generalizing builder with
  | nil => exact named
  | cons token rest ih =>
      obtain ⟨first, later⟩ := List.forall_mem_cons.1 taken
      exact ih (named.take first) later

theorem IsNamed.finish (named : builder.IsNamed) : ∀ tree ∈ builder.finish, tree.IsNamed := by
  intro tree member
  exact ((named.flush .text).closeInner _).roots tree (List.mem_reverse.1 member)

end Builder

theorem isNamed_of_read {text : String} {document : List Tree} (made : read text = .ok document) :
    ∀ tree ∈ document, tree.IsNamed := by
  obtain ⟨found, scanned, made⟩ := bind_eq_ok_iff.1 made
  cases made
  exact (Builder.isNamed_empty.takeAll (isNamed_tokens scanned)).finish

end MarkupDsl.Html
