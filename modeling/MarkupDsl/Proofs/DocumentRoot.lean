import MarkupDsl.Proofs.Emission.Events
import MarkupDsl.Proofs.Html.Name
import MarkupDsl.Proofs.Root

/-!
# Documents with and without a root

A text that is blank or that breaks the rules of documents has no root, and is refused as such.  A
document lacks a root if the given selector selects nothing in it, or if without a selector there is
neither an `html` element in it nor a single element at its top level.  Every other document has a
root, which is an element and can be converted whatever the tables are.
-/

namespace MarkupDsl

open Html Selector

/-! ## Roots -/

def HasElement (document : List Tree) (name : String) : Prop :=
  ∃ top ∈ document, ∃ position attributes children,
    top.treeAt? position = some (.element name attributes children)

/-- Whether the search of a document for a selector, if one is given, finds the first element that is
selected, or none if none is. -/
def FindsFirst (document : List Tree) (selects : Location → Bool) : Option String → Prop
  | some selector =>
    ∃ choices, Selector.read selector = .ok choices ∧
      firstMatch? choices document = .ok ((Location.inside false (.document document)).find? selects)
  | none => True

/-- Whether a document has no root. -/
def LacksRoot (document : List Tree) (selects : Location → Bool) : Option String → Prop
  | some _ => ∀ here ∈ Location.inside false (.document document), selects here = false
  | none => ¬HasElement document "html" ∧ document.countP Tree.isElement ≠ 1

/-- Whether the search for a root ends with the error of a conversion, for a reason. -/
def IsRefused {α : Type} (result : Except RootError α) (reason : PrecheckReason) : Prop :=
  ∃ error, result = .error (.precheck error) ∧ error.reason = reason

theorem IsRefused.reason_eq {α : Type} {result : Except RootError α} {first second : PrecheckReason}
    (once : IsRefused result first) (again : IsRefused result second) : first = second := by
  obtain ⟨error, refused, rfl⟩ := once
  obtain ⟨other, refusedAgain, rfl⟩ := again
  cases refused.symm.trans refusedAgain
  rfl

theorem not_isRefused_ok {α : Type} {result : Except RootError α} {root : α}
    (found : result = .ok root) (reason : PrecheckReason) : ¬IsRefused result reason := by
  rintro ⟨error, refused, -⟩
  cases found.symm.trans refused

/-! ## Without a selector -/

/-- Among names in lower case the search for an `html` element finds nothing but that name. -/
theorem hasName_html_iff {here : Location} (lowered : IsLowered here.name) :
    hasName false none "html" here = true ↔ here.name = "html" := by
  have ownTag : here.tag = here.name := lowered.plainLower_eq
  have sought : Text.plainLower "html" = "html" := by decide +kernel
  have whole : ("html" == "*") = false := by decide
  rw [hasName, whole, sought, ownTag, Bool.false_or]
  exact beq_iff_eq.trans eq_comm

/-- The search for an `html` element comes across one exactly if there is one at some depth. -/
theorem exists_hasName_html_iff {document : List Tree} (named : ∀ top ∈ document, top.IsNamed) :
    (∃ here ∈ Location.inside false (.document document), hasName false none "html" here = true) ↔
      HasElement document "html" := by
  constructor
  · rintro ⟨here, member, chosen⟩
    obtain ⟨-, top, inDocument, position, stands⟩ :=
      Location.exists_mem_inside_iff.1 ⟨here, member, rfl⟩
    have lowered : IsLowered here.name := named top inDocument position _ _ _ stands
    refine ⟨top, inDocument, position, here.attributes, here.children, ?_⟩
    rw [stands, Location.tree, (hasName_html_iff lowered).1 chosen]
  · rintro ⟨top, inDocument, position, attributes, children, stands⟩
    obtain ⟨here, member, same⟩ :=
      Location.exists_mem_inside_iff.2 ⟨rfl, top, inDocument, position, stands⟩
    have name : here.name = "html" := (Tree.element.inj same).1
    have lowered : IsLowered here.name := name ▸ named top inDocument position _ _ _ stands
    exact ⟨here, member, (hasName_html_iff lowered).2 name⟩

/-- Without a selector a document that lacks a root is refused, and any other has an element as its
root. -/
theorem standardRoot_ends {document : List Tree} (named : ∀ top ∈ document, top.IsNamed)
    (selects : Location → Bool) :
    (LacksRoot document selects none ∧ IsRefused (standardRoot document) .missingRoot) ∨
      (¬LacksRoot document selects none ∧
        ∃ name attributes children,
          standardRoot document = .ok (.element name attributes children)) := by
  rw [standardRoot, firstMatch?_htmlChoices]
  cases found : (Location.inside false (.document document)).find? (hasName false none "html") with
  | some here =>
      have present : HasElement document "html" := (exists_hasName_html_iff named).1
        ⟨here, List.mem_of_find?_eq_some found, List.find?_some found⟩
      exact .inr ⟨fun lacking => lacking.1 present, _, _, _, rfl⟩
  | none =>
      have absent : ¬HasElement document "html" := by
        intro present
        obtain ⟨here, member, chosen⟩ := (exists_hasName_html_iff named).2 present
        exact List.find?_eq_none.1 found here member chosen
      dsimp only
      split
      · rename_i tree single
        have one : document.countP Tree.isElement = 1 := by
          rw [List.countP_eq_length_filter, single, List.length_singleton]
        have element : tree.isElement = true :=
          (List.mem_filter.1 (single ▸ List.mem_singleton_self tree)).2
        refine .inr ⟨fun lacking => lacking.2 one, ?_⟩
        cases tree with
        | element name attributes children => exact ⟨name, attributes, children, rfl⟩
        | string | foreign => cases element
      · rename_i trees several
        refine .inl ⟨⟨absent, fun one => ?_⟩, _, rfl, rfl⟩
        rw [List.countP_eq_length_filter, List.length_eq_one_iff] at one
        obtain ⟨tree, single⟩ := one
        exact several tree single

/-! ## With a selector -/

theorem selectedRoot_ends {document : List Tree} {selector : String} {selects : Location → Bool}
    (finds : FindsFirst document selects (some selector)) :
    (LacksRoot document selects (some selector) ∧
        IsRefused (selectedRoot document selector) .missingRoot) ∨
      (¬LacksRoot document selects (some selector) ∧ ∃ name attributes children,
        selectedRoot document selector = .ok (.element name attributes children)) := by
  obtain ⟨choices, formed, searched⟩ := finds
  rw [selectedRoot, formed]
  dsimp only
  rw [searched]
  cases found : (Location.inside false (.document document)).find? selects with
  | some here =>
      refine .inr ⟨fun lacking => ?_, _, _, _, rfl⟩
      have passed := lacking here (List.mem_of_find?_eq_some found)
      rw [List.find?_some found] at passed
      cases passed
  | none =>
      refine .inl ⟨fun here member => ?_, _, rfl, rfl⟩
      exact Bool.eq_false_iff.2 (List.find?_eq_none.1 found here member)

/-! ## Texts -/

theorem rootOf_ends {document : List Tree} {selector : Option String} {selects : Location → Bool}
    (named : ∀ top ∈ document, top.IsNamed) (finds : FindsFirst document selects selector) :
    (LacksRoot document selects selector ∧ IsRefused (rootOf document selector) .missingRoot) ∨
      (¬LacksRoot document selects selector ∧ ∃ name attributes children,
        rootOf document selector = .ok (.element name attributes children)) := by
  cases selector with
  | none => exact standardRoot_ends named selects
  | some selector => exact selectedRoot_ends finds

/-- What is read from a text that is not blank lacks a root, or its root is an element. -/
theorem documentRoot_ends {text : String} {document : List Tree} {selector : Option String}
    {selects : Location → Bool} (full : Text.blank text = false)
    (made : Html.read text = .ok document) (finds : FindsFirst document selects selector) :
    (LacksRoot document selects selector ∧
        IsRefused (documentRoot text selector) .missingRoot) ∨
      (¬LacksRoot document selects selector ∧ ∃ name attributes children,
        documentRoot text selector = .ok (.element name attributes children)) := by
  have shown : readDocument text = .ok document := by
    rw [readDocument, if_neg (Bool.eq_false_iff.1 full), made]
    rfl
  rw [documentRoot_of_read shown]
  obtain ⟨lacking, error, refused, reason⟩ | ⟨held, name, attributes, children, found⟩ :=
    rootOf_ends (isNamed_of_read made) finds
  · refine .inl ⟨lacking, error, ?_, reason⟩
    rw [refused]
    rfl
  · rw [found]
    exact .inr ⟨held, _, _, _, rfl⟩

/-- Nothing but a blank text is refused as empty. -/
theorem isRefused_emptyDocument_iff {text : String} {selector : Option String}
    {selects : Location → Bool}
    (finds : ∀ document, Html.read text = .ok document → FindsFirst document selects selector) :
    IsRefused (documentRoot text selector) .emptyDocument ↔ Text.blank text = true := by
  cases blank : Text.blank text with
  | true => exact iff_of_true ⟨_, documentRoot_of_error (if_pos blank) selector, rfl⟩ rfl
  | false =>
      refine iff_of_false (fun empty => ?_) Bool.false_ne_true
      cases made : Html.read text with
      | error error =>
          have failed := documentRoot_of_error (readDocument_of_error blank made) selector
          obtain ⟨other, refused, -⟩ := empty
          cases failed.symm.trans refused
      | ok document =>
          obtain ⟨-, missing⟩ | ⟨-, _, _, _, found⟩ :=
            documentRoot_ends blank made (finds document made)
          · cases empty.reason_eq missing
          · exact not_isRefused_ok found _ empty

/-- A blank text is refused as empty; a text that cannot be read is refused with the error of reading;
a document that lacks a root is refused for that, and every other one has a root, which is an element
and is converted under any settings.  The search for a selector is taken to find the first element
that is selected. -/
theorem documentRoot_isRefused_iff (text : String) (selector : Option String)
    (selects : Location → Bool)
    (finds : ∀ document, Html.read text = .ok document → FindsFirst document selects selector) :
    (IsRefused (documentRoot text selector) .emptyDocument ↔ Text.blank text = true) ∧
      (Text.blank text = false →
        (∀ error, Html.read text = .error error →
          documentRoot text selector = .error (.document error)) ∧
        ∀ document, Html.read text = .ok document →
          (IsRefused (documentRoot text selector) .missingRoot ↔
            LacksRoot document selects selector) ∧
          (¬LacksRoot document selects selector →
            ∃ name attributes children,
              documentRoot text selector = .ok (.element name attributes children) ∧
              ∀ settings, ∃ conversion,
                transpile settings (some (.element name attributes children)) = .ok conversion)) := by
  refine ⟨isRefused_emptyDocument_iff finds, fun full => ⟨?_, ?_⟩⟩
  · intro error unread
    exact documentRoot_of_error (readDocument_of_error full unread) selector
  · intro document made
    obtain ⟨lacking, missing⟩ | ⟨held, name, attributes, children, found⟩ :=
      documentRoot_ends full made (finds document made)
    · exact ⟨iff_of_true missing lacking, fun held => absurd lacking held⟩
    · refine ⟨iff_of_false (not_isRefused_ok found _) held, fun _ => ?_⟩
      exact ⟨name, attributes, children, found,
        fun settings => ⟨_, transpile_of_isExpressible settings rfl⟩⟩

/-- The search for a paragraph in a text that is one. -/
theorem documentRoot_isRefused_iff_paragraph :
    (∀ document, Html.read "<p>Hi</p>" = .ok document →
      FindsFirst document (hasName false none "p") (some "p")) ∧
    ∃ name attributes children,
      documentRoot "<p>Hi</p>" (some "p") = .ok (.element name attributes children) ∧
      ∀ settings, ∃ conversion,
        transpile settings (some (.element name attributes children)) = .ok conversion := by
  have formed : Selector.read "p" = .ok [[.type none "p"]] := by with_unfolding_all rfl
  have made : Html.read "<p>Hi</p>" = .ok [.element "p" [] [.string .text "Hi"]] := by
    with_unfolding_all rfl
  have finds (document : List Tree) : FindsFirst document (hasName false none "p") (some "p") :=
    ⟨_, formed, firstMatch?_type "p" document⟩
  refine ⟨fun document _ => finds document, ?_⟩
  obtain ⟨-, ends⟩ := documentRoot_isRefused_iff "<p>Hi</p>" (some "p") (hasName false none "p")
    fun document _ => finds document
  refine ((ends (by decide +kernel)).2 _ made).2 fun lacking => ?_
  have missed := lacking _ (List.mem_cons_self ..)
  revert missed
  decide +kernel

/-- A text with a section of an unknown kind is neither refused for the lack of a root nor does it
have one. -/
theorem documentRoot_unknownSection :
    Text.blank "<p>a</p><![x]>" = false ∧
      ¬(IsRefused (documentRoot "<p>a</p><![x]>" none) .missingRoot ∨
        ∃ name attributes children,
          documentRoot "<p>a</p><![x]>" none = .ok (.element name attributes children)) := by
  have full : Text.blank "<p>a</p><![x]>" = false := by decide +kernel
  have unread : Html.read "<p>a</p><![x]>" = .error .rejected := by with_unfolding_all rfl
  have failed := documentRoot_of_error (readDocument_of_error full unread) none
  refine ⟨full, ?_⟩
  rintro (⟨other, refused, -⟩ | ⟨_, _, _, found⟩)
  · cases failed.symm.trans refused
  · cases failed.symm.trans found

end MarkupDsl
