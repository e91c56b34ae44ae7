import MarkupDsl.Text.LowerCase

/-!
# What lower-casing leaves alone

Lower-casing makes letters out of letters.  No sign of the basic range other than a small letter
comes into a text by it, so separators, brackets and quotes of a lower-cased text were there before.
-/

namespace MarkupDsl.Text

/-- The characters of the basic range that are no small letters. -/
def isBasicSign (c : Char) : Bool := decide (c.toNat < 128) && !c.isLower

/-! ## The table of images -/

theorem toNat_ofNat_of_isValidChar {code : Nat} (valid : code.isValidChar) :
    (Char.ofNat code).toNat = code := by
  unfold Char.ofNat
  rw [dif_pos valid]
  rfl

theorem isBasicSign_ofNat {code : Nat} (beyond : 128 ≤ code) (valid : code.isValidChar) :
    isBasicSign (Char.ofNat code) = false := by
  unfold isBasicSign
  rw [toNat_ofNat_of_isValidChar valid, decide_eq_false (Nat.not_lt.2 beyond), Bool.false_and]

/--
The images of a run: those of the basic letters apart, they are the small letter of the one sign for
a unit that is named after it, or they lie beyond the basic range and stand for characters.
-/
def CaseRun.IsSound (run : CaseRun) : Prop :=
  run.last < 128 ∨ (run.first = run.last ∧ run.image = 107) ∨
    (128 ≤ run.image ∧ (run.image + (run.last - run.first) < 0xD800 ∨
      (0xDFFF < run.image ∧ run.image + (run.last - run.first) < 0x110000)))

instance (run : CaseRun) : Decidable run.IsSound := by
  unfold CaseRun.IsSound
  infer_instance

theorem isSound_of_mem_caseRuns : ∀ run ∈ caseRuns, run.IsSound := by
  decide +kernel

/-- The image of a character beyond the basic range is no basic sign. -/
theorem CaseRun.IsSound.isBasicSign_image {run : CaseRun} (sound : run.IsSound) {code image : Nat}
    (beyond : ¬ code < 128) (found : run.image? code = some image) :
    isBasicSign (Char.ofNat image) = false := by
  unfold CaseRun.image? at found
  split at found
  · next inside =>
    cases found
    obtain ⟨above, below, _⟩ := inside
    rcases sound with basic | ⟨single, letter⟩ | ⟨far, valid⟩
    · exact absurd (Nat.lt_of_le_of_lt below basic) beyond
    · have same : code - run.first = 0 := by omega
      rw [same, letter]
      rfl
    · apply isBasicSign_ofNat
      · omega
      · rcases valid with low | ⟨high, most⟩
        · exact Or.inl (by omega)
        · exact Or.inr ⟨by omega, by omega⟩
  · cases found

/-! ## Characters and texts -/

theorem isBasicSign_of_capital : ∀ code < 128, 65 ≤ code → code ≤ 90 →
    isBasicSign (Char.ofNat (code + 32)) = false := by
  decide +kernel

theorem eq_of_mem_lowerChar {c d : Char} (member : d ∈ lowerChar c) (sign : isBasicSign d = true) :
    d = c := by
  unfold lowerChar at member
  dsimp only at member
  split at member
  · next basic =>
    split at member
    · next capital =>
      have image := isBasicSign_of_capital c.toNat basic capital.1 capital.2
      rw [← List.mem_singleton.1 member, sign] at image
      cases image
    · exact List.mem_singleton.1 member
  · next beyond =>
    split at member
    · rcases List.mem_cons.1 member with rfl | member
      · cases sign
      · rw [List.mem_singleton.1 member] at sign
        cases sign
    · split at member
      · next image found =>
        obtain ⟨run, present, imaged⟩ := List.exists_of_findSome?_eq_some found
        have far := (isSound_of_mem_caseRuns run present).isBasicSign_image beyond imaged
        rw [← List.mem_singleton.1 member, sign] at far
        cases far
      · exact List.mem_singleton.1 member

theorem mem_of_mem_lowerAfter {before cs : List Char} {d : Char}
    (member : d ∈ lowerAfter before cs) (sign : isBasicSign d = true) : d ∈ cs := by
  induction cs generalizing before with
  | nil => cases member
  | cons c cs ih =>
      unfold lowerAfter at member
      dsimp only at member
      rcases List.mem_append.1 member with here | later
      · rw [List.mem_cons]
        left
        split at here
        · split at here <;>
          · rw [List.mem_singleton.1 here] at sign
            cases sign
        · exact eq_of_mem_lowerChar here sign
      · exact List.mem_cons_of_mem c (ih later)

theorem mem_of_mem_lower {s : String} {d : Char} (member : d ∈ (lower s).toList)
    (sign : isBasicSign d = true) : d ∈ s.toList := by
  unfold lower at member
  rw [String.toList_ofList] at member
  exact mem_of_mem_lowerAfter member sign

/-! ## Plain letters -/

theorem isUpper_iff {c : Char} : c.isUpper = true ↔ 'A' ≤ c ∧ c ≤ 'Z' := by
  delta Char.isUpper
  simp [Char.le_def]

theorem isLower_iff {c : Char} : c.isLower = true ↔ 'a' ≤ c ∧ c ≤ 'z' := by
  delta Char.isLower
  simp [Char.le_def]

theorem toNat_of_isUpper {c : Char} (upper : c.isUpper = true) : 65 ≤ c.toNat ∧ c.toNat ≤ 90 := by
  obtain ⟨above, below⟩ := isUpper_iff.1 upper
  exact ⟨above, below⟩

theorem isBasicSign_of_isUpper {c : Char} (upper : c.isUpper = true) : isBasicSign c = true := by
  obtain ⟨_, below⟩ := toNat_of_isUpper upper
  have small : ¬ c.isLower = true := by
    intro lower
    have above : 97 ≤ c.toNat := (isLower_iff.1 lower).1
    omega
  rw [isBasicSign, decide_eq_true (by omega), Bool.eq_false_iff.2 small]
  rfl

/-- No capital of the basic range is in the lower case of a character. -/
theorem isUpper_eq_false_of_mem_lowerChar {c d : Char} (member : d ∈ lowerChar c) : d.isUpper = false := by
  rw [Bool.eq_false_iff]
  intro upper
  have sign := isBasicSign_of_isUpper upper
  -- a capital there could only be the character itself, but that has a small letter for its image
  obtain rfl := eq_of_mem_lowerChar member sign
  obtain ⟨above, below⟩ := toNat_of_isUpper upper
  have image := isBasicSign_of_capital d.toNat (by omega) above below
  rw [lowerChar, if_pos (by omega), if_pos (isUpper_iff.1 upper), List.mem_singleton] at member
  rw [← member, sign] at image
  cases image

theorem isUpper_eq_false_of_mem_lowerAfter {before cs : List Char} {d : Char}
    (member : d ∈ lowerAfter before cs) : d.isUpper = false := by
  induction cs generalizing before with
  | nil => cases member
  | cons c cs ih =>
      unfold lowerAfter at member
      dsimp only at member
      rcases List.mem_append.1 member with here | later
      · split at here
        · split at here <;>
          · rw [List.mem_singleton.1 here]
            rfl
        · exact isUpper_eq_false_of_mem_lowerChar here
      · exact ih later

theorem plainLower_lower (s : String) : plainLower (lower s) = lower s := by
  rw [← String.toList_inj, plainLower, String.toList_map, lower, String.toList_ofList]
  refine (List.map_congr_left ?_).trans (List.map_id _)
  intro d member
  refine dif_neg ?_
  intro capital
  have upper : d.isUpper = true := isUpper_iff.2 capital
  rw [isUpper_eq_false_of_mem_lowerAfter member] at upper
  cases upper

end MarkupDsl.Text
