import MarkupDsl.Binding
import MarkupDsl.Proofs.Text.Cut
import MarkupDsl.Proofs.Text.LowerCase
import Mathlib.Data.List.TakeWhile

/-!
# Names that code is bound to

The names of values are the texts of one form, the lone underscore apart.  Code is bound to each of
them, and the first line of the binding is then `let`, the name and an equals sign.  It is also bound
to a text of that form with a line feed behind it, and the name then ends the first line.
-/

namespace MarkupDsl.Binding

/-! ## The form of names -/

def IsSmallLetter (c : Char) : Prop := 'a' ≤ c ∧ c ≤ 'z'

def IsCapitalLetter (c : Char) : Prop := 'A' ≤ c ∧ c ≤ 'Z'

def IsDigit (c : Char) : Prop := '0' ≤ c ∧ c ≤ '9'

/-- The form of names: a small letter or an underscore, then letters, digits, underscores and
apostrophes. -/
inductive HasForm : List Char → Prop where
  | intro {first : Char} {rest : List Char} (begins : IsSmallLetter first ∨ first = '_')
      (continues : ∀ c ∈ rest,
        IsCapitalLetter c ∨ IsSmallLetter c ∨ IsDigit c ∨ c = '_' ∨ c = '\'') :
      HasForm (first :: rest)

/-- The names of values: of that form as a whole, and not the lone underscore. -/
structure IsValueName (name : String) : Prop where
  form : HasForm name.toList
  notLone : name ≠ "_"

/-- The texts that a line feed keeps from having the form of names. -/
def EndsLine (name : String) : Prop := ∃ stem, HasForm stem ∧ name.toList = stem ++ ['\n']

theorem EndsLine.lineFeed_mem {name : String} (ends : EndsLine name) : '\n' ∈ name.toList := by
  obtain ⟨stem, _, same⟩ := ends
  rw [same]
  exact List.mem_append_right stem List.mem_cons_self

theorem isStart_iff {c : Char} : isStart c = true ↔ IsSmallLetter c ∨ c = '_' := by
  rw [isStart, Bool.or_eq_true, Text.isLower_iff, beq_iff_eq]
  rfl

theorem isAlphanum_iff {c : Char} :
    c.isAlphanum = true ↔ IsCapitalLetter c ∨ IsSmallLetter c ∨ IsDigit c := by
  have parts : c.isAlphanum = (c.isUpper || c.isLower || c.isDigit) := rfl
  have digits : c.isDigit = true ↔ IsDigit c := by
    simp [IsDigit, Char.isDigit, Char.le_def]
  rw [parts, Bool.or_eq_true, Bool.or_eq_true, Text.isUpper_iff, Text.isLower_iff, digits, or_assoc]
  rfl

theorem isInner_iff {c : Char} : isInner c = true ↔
    IsCapitalLetter c ∨ IsSmallLetter c ∨ IsDigit c ∨ c = '_' ∨ c = '\'' := by
  simp only [isInner, Bool.or_eq_true, isAlphanum_iff, beq_iff_eq, or_assoc]

theorem hasForm_cons_iff {first : Char} {rest : List Char} :
    HasForm (first :: rest) ↔ (isStart first && rest.all isInner) = true := by
  rw [Bool.and_eq_true, isStart_iff, List.all_eq_true]
  constructor
  · rintro ⟨begins, continues⟩
    exact ⟨begins, fun c member => isInner_iff.2 (continues c member)⟩
  · rintro ⟨begins, continues⟩
    exact ⟨begins, fun c member => isInner_iff.1 (continues c member)⟩

theorem HasForm.lineFeed_notMem {cs : List Char} (form : HasForm cs) : '\n' ∉ cs := by
  obtain ⟨begins, continues⟩ := form
  rw [List.mem_cons]
  rintro (same | member)
  · rw [← isStart_iff, ← same] at begins
    cases begins
  · have inner := isInner_iff.2 (continues _ member)
    cases inner

theorem IsValueName.not_endsLine {name : String} (value : IsValueName name) : ¬ EndsLine name :=
  fun ends => value.form.lineFeed_notMem ends.lineFeed_mem

/-! ## Acceptance -/

theorem withoutFinalLineFeed_concat (cs : List Char) :
    withoutFinalLineFeed (cs ++ ['\n']) = cs := by
  rw [withoutFinalLineFeed, if_pos List.getLast?_concat, List.dropLast_concat]

theorem withoutFinalLineFeed_of_notMem {cs : List Char} (free : '\n' ∉ cs) :
    withoutFinalLineFeed cs = cs :=
  if_neg fun ended => free (List.mem_of_getLast? ended)

/-- A text is itself without its final line feed, or one line feed follows what is left. -/
theorem withoutFinalLineFeed_cases (cs : List Char) :
    withoutFinalLineFeed cs = cs ∨ cs = withoutFinalLineFeed cs ++ ['\n'] := by
  by_cases ended : cs.getLast? = some '\n'
  · right
    obtain ⟨body, rfl⟩ := List.getLast?_eq_some_iff.1 ended
    rw [withoutFinalLineFeed_concat]
  · exact .inl (if_neg ended)

theorem hasNameForm_iff {cs : List Char} :
    hasNameForm cs = true ↔ HasForm (withoutFinalLineFeed cs) := by
  unfold hasNameForm
  split
  · next same =>
    rw [same]
    exact iff_of_false Bool.false_ne_true (by rintro ⟨⟩)
  · next first rest same => rw [same, hasForm_cons_iff]

/-- A name is accepted if it has the form of names, a line feed behind it or not. -/
theorem accepts_iff {name : String} : accepts name = true ↔ IsValueName name ∨ EndsLine name := by
  rw [accepts, Bool.and_eq_true, hasNameForm_iff, bne_iff_ne]
  constructor
  · rintro ⟨form, notLone⟩
    rcases withoutFinalLineFeed_cases name.toList with same | ended
    · rw [same] at form
      exact .inl ⟨form, notLone⟩
    · exact .inr ⟨_, form, ended⟩
  · rintro (⟨form, notLone⟩ | ⟨stem, form, ended⟩)
    · rw [withoutFinalLineFeed_of_notMem form.lineFeed_notMem]
      exact ⟨form, notLone⟩
    · refine ⟨?_, ?_⟩
      · rw [ended, withoutFinalLineFeed_concat]
        exact form
      · rintro rfl
        have last := congrArg List.getLast? ended
        rw [List.getLast?_concat] at last
        cases last

/-! ## The first line -/

/-- The first line of a text, without the line feed that ends it. -/
def firstLine (code : String) : String := String.ofList (code.toList.takeWhile (· != '\n'))

theorem firstLine_append {line rest : String} (free : '\n' ∉ line.toList) :
    firstLine (line ++ "\n" ++ rest) = line := by
  have parts : (line ++ "\n" ++ rest).toList = line.toList ++ '\n' :: rest.toList := by
    rw [String.toList_append, String.toList_append, List.append_assoc]
    rfl
  rw [firstLine, parts, Text.takeWhile_append_mark free, String.ofList_toList]

theorem lineFeed_notMem_firstLine (code : String) : '\n' ∉ (firstLine code).toList := by
  rw [firstLine, String.toList_ofList]
  intro member
  have free := List.mem_takeWhile_imp member
  cases free

/-! ## Bindings -/

def opening (name : String) : String := "let " ++ name ++ " ="

theorem lineFeed_notMem_opening_iff {name : String} :
    '\n' ∉ (opening name).toList ↔ '\n' ∉ name.toList := by
  simp [opening, String.toList_append]

/-- An accepted name and the equals sign are followed by a line feed and the rest of the code. -/
theorem render_of_accepts {name : String} (accepted : accepts name = true) (body : String) :
    ∃ rest, render body name = .ok (opening name ++ "\n" ++ rest) := by
  refine ⟨"  let open Dream_html in\n  let open HTML in\n  " ++ body ++ "\n", ?_⟩
  rw [render, if_pos accepted]
  refine congrArg Except.ok ?_
  rw [← String.toList_inj]
  simp [opening, String.toList_append]

/-- The first line of a binding holds the name as a whole, unless the name breaks the line. -/
theorem firstLine_eq_opening_iff {name : String} (rest : String) :
    firstLine (opening name ++ "\n" ++ rest) = opening name ↔ '\n' ∉ name.toList := by
  rw [← lineFeed_notMem_opening_iff]
  constructor
  · intro same
    rw [← same]
    exact lineFeed_notMem_firstLine _
  · exact firstLine_append

/--
Code is bound to the names of values, with the name as a whole in the first line.  It is bound besides
to the texts that a line feed keeps from having the form of names, the lone underscore with a line feed
among them, and there the first line is another one.  All other names are refused.
-/
theorem render_binds_iff (body name : String) :
    (render body name = .error ⟨name⟩ ↔ ¬ IsValueName name ∧ ¬ EndsLine name) ∧
      ((∃ code, render body name = .ok code ∧ firstLine code = "let " ++ name ++ " =") ↔
        IsValueName name) ∧
      ((∃ code, render body name = .ok code ∧ firstLine code ≠ "let " ++ name ++ " =") ↔
        EndsLine name) := by
  rw [← not_or, ← accepts_iff]
  by_cases accepted : accepts name = true
  · obtain ⟨rest, rendered⟩ := render_of_accepts accepted body
    rw [rendered]
    refine ⟨iff_of_false (by rintro ⟨⟩) (not_not_intro accepted), ?_⟩
    rcases accepts_iff.1 accepted with value | ends
    · have whole := (firstLine_eq_opening_iff rest).2 value.form.lineFeed_notMem
      refine ⟨iff_of_true ⟨_, rfl, whole⟩ value, iff_of_false ?_ value.not_endsLine⟩
      rintro ⟨code, same, other⟩
      cases same
      exact other whole
    · have broken := mt (firstLine_eq_opening_iff rest).1 (not_not_intro ends.lineFeed_mem)
      refine ⟨iff_of_false ?_ fun value => value.not_endsLine ends,
        iff_of_true ⟨_, rfl, broken⟩ ends⟩
      rintro ⟨code, same, whole⟩
      cases same
      exact broken whole
  · have refused : render body name = .error ⟨name⟩ := if_neg accepted
    have neither := not_or.1 (accepts_iff.not.1 accepted)
    rw [refused]
    refine ⟨iff_of_true rfl accepted, iff_of_false ?_ neither.1, iff_of_false ?_ neither.2⟩ <;>
    · rintro ⟨code, impossible, _⟩
      cases impossible

/-- A name with a line feed behind it is bound to, although it is not the name of a value. -/
theorem render_lineFeed :
    (∃ code, render "p [] []" "page\n" = .ok code ∧ firstLine code = "let page") ∧
      ¬ ∀ body name, (∃ error, render body name = .error error) ↔ ¬ IsValueName name := by
  have rendered : render "p [] []" "page\n" = .ok
      "let page\n =\n  let open Dream_html in\n  let open HTML in\n  p [] []\n" := by decide +kernel
  refine ⟨⟨_, rendered, by decide +kernel⟩, ?_⟩
  intro all
  have broken : '\n' ∈ "page\n".toList := by decide
  obtain ⟨error, refused⟩ :=
    (all "p [] []" "page\n").2 fun value => value.form.lineFeed_notMem broken
  rw [rendered] at refused
  cases refused

end MarkupDsl.Binding
