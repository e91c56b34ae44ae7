import MarkupDsl.Proofs.Text.LowerCase

/-!
# Words and marks

The marks are the characters that structure the emitted code: the space, quotes, braces, brackets,
the bar, the semicolon and the sigil of variants.  A word is a run of other characters, so it is
known where a word in the code ends: at the next mark.
-/

namespace MarkupDsl.Text

def marks : List Char := [' ', '"', '{', '}', '|', '[', ']', ';', '\x60']

def isMark (c : Char) : Bool := marks.contains c

/-- A text in which no mark stands. -/
def IsWord (cs : List Char) : Prop := ∀ c ∈ cs, isMark c = false

instance (cs : List Char) : Decidable (IsWord cs) :=
  decidable_of_iff (cs.all (fun c => !isMark c) = true) (by simp [IsWord])

def firstWord (cs : List Char) : List Char := cs.takeWhile fun c => !isMark c

def afterWord (cs : List Char) : List Char := cs.dropWhile fun c => !isMark c

/-! ## Words -/

theorem isWord_nil : IsWord [] := fun _ member => absurd member List.not_mem_nil

theorem isWord_cons {c : Char} {cs : List Char} (plain : isMark c = false) (word : IsWord cs) :
    IsWord (c :: cs) := by
  intro d member
  rcases List.mem_cons.1 member with rfl | member
  · exact plain
  · exact word d member

/-- A text of characters that have a property that no mark has is a word. -/
theorem isWord_of_all {p : Char → Bool} (plain : marks.all (fun c => !p c) = true) {cs : List Char}
    (all : ∀ c ∈ cs, p c = true) : IsWord cs := by
  intro c member
  cases mark : isMark c with
  | false => rfl
  | true =>
      have other := List.all_eq_true.1 plain c (List.contains_iff_mem.1 mark)
      rw [all c member] at other
      cases other

theorem IsWord.append {cs ds : List Char} (first : IsWord cs) (second : IsWord ds) :
    IsWord (cs ++ ds) := by
  intro c member
  rcases List.mem_append.1 member with member | member
  · exact first c member
  · exact second c member

theorem firstWord_append {word : List Char} (plain : IsWord word) {mark : Char}
    (ends : isMark mark = true) (rest : List Char) : firstWord (word ++ mark :: rest) = word := by
  have letters : ∀ c ∈ word, (!isMark c) = true := by
    intro c member
    rw [plain c member]
    rfl
  unfold firstWord
  rw [List.takeWhile_append_of_pos letters, List.takeWhile_cons, ends]
  exact List.append_nil word

theorem afterWord_append {word : List Char} (plain : IsWord word) {mark : Char}
    (ends : isMark mark = true) (rest : List Char) :
    afterWord (word ++ mark :: rest) = mark :: rest := by
  have letters : ∀ c ∈ word, (!isMark c) = true := by
    intro c member
    rw [plain c member]
    rfl
  unfold afterWord
  rw [List.dropWhile_append_of_pos letters, List.dropWhile_cons, ends]
  rfl

/-! ## Lower case -/

theorem isBasicSign_of_isMark {c : Char} (mark : isMark c = true) : isBasicSign c = true := by
  have signs : marks.all isBasicSign = true := by decide
  exact List.all_eq_true.1 signs c (List.contains_iff_mem.1 mark)

theorem isWord_lower {s : String} (word : IsWord s.toList) : IsWord (lower s).toList := by
  intro c member
  cases mark : isMark c with
  | false => rfl
  | true =>
      have present := mem_of_mem_lower member (isBasicSign_of_isMark mark)
      rw [word c present] at mark
      cases mark

end MarkupDsl.Text
