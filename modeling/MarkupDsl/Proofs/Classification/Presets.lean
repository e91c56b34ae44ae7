import MarkupDsl.Classification.Presets
import MarkupDsl.Proofs.Classification.Payload

/-!
# Presets are valid

The names in the presets are made of small letters, hyphens and low lines, which lower-casing leaves
alone.  So the presets are well-formed, and since their families stand in order, they are read back
from their plain data: a preset is a set of tables that the validation accepts.
-/

namespace MarkupDsl

/-! ## Small signs -/

namespace Text

def isSmallSign (c : Char) : Bool := c.isLower || c == '-' || c == '_'

theorem lowerChar_of_isSmallSign {c : Char} (small : isSmallSign c = true) : lowerChar c = [c] := by
  simp only [isSmallSign, Bool.or_eq_true, beq_iff_eq] at small
  rcases small with (letter | rfl) | rfl
  · obtain ⟨above, below⟩ : 'a' ≤ c ∧ c ≤ 'z' := by
      obtain ⟨above, below⟩ := (Bool.and_eq_true _ _).mp letter
      exact ⟨of_decide_eq_true above, of_decide_eq_true below⟩
    have basic : c.toNat < 128 := Nat.lt_of_le_of_lt (UInt32.le_iff_toNat_le.1 below) (by decide)
    have noCapital : ¬ ('A' ≤ c ∧ c ≤ 'Z') := by
      rintro ⟨-, capital⟩
      exact absurd (Char.le_trans above capital) (by decide)
    unfold lowerChar
    dsimp only
    rw [if_pos basic, if_neg noCapital]
  · rfl
  · rfl

theorem lowerAfter_of_isSmallSign {before cs : List Char}
    (small : ∀ c ∈ cs, isSmallSign c = true) : lowerAfter before cs = cs := by
  induction cs generalizing before with
  | nil => rfl
  | cons c cs ih =>
      obtain ⟨here, later⟩ := List.forall_mem_cons.1 small
      have noSigma : ¬ c.toNat = 0x3A3 := by
        intro sigma
        have same : c = Char.ofNat 0x3A3 := by rw [← sigma, Char.ofNat_toNat]
        rw [same] at here
        exact absurd here (by decide)
      rw [lowerAfter, if_neg noSigma, lowerChar_of_isSmallSign here, ih later]
      rfl

end Text

def Validation.isSmallName (name : String) : Bool :=
  name != "" && name.toList.all Text.isSmallSign

theorem Validation.isGoodName_of_isSmallName {name : String} (small : isSmallName name = true) :
    isGoodName name = true := by
  obtain ⟨full, signs⟩ := (Bool.and_eq_true _ _).mp small
  have low : Text.IsLower name := by
    rw [Text.IsLower, Text.lower, Text.lowerAfter_of_isSmallSign (List.all_eq_true.1 signs),
      String.ofList_toList]
  simp [isGoodName, bne_iff_ne.1 full, low]

theorem NameSet.isGood_ofList {names : List String}
    (small : names.all Validation.isSmallName = true) : (ofList names).IsGood := by
  intro name member
  exact Validation.isGoodName_of_isSmallName (List.all_eq_true.1 small name (mem_ofList.1 member))

/-! ## The presets -/

namespace Preset

theorem all_isSmallName :
    (htmlSuffixNames ++ htmlVariantNames ++ htmlNumericNames ++ htmlBooleanNames ++ htmlVoidTags ++
      htmlRawTextTags ++ ariaNames ++ htmxNames ++ ariaVariantNames ++ ariaNumericNames ++
      ariaBooleanNames ++ htmxBooleanNames).all Validation.isSmallName = true := by
  decide +kernel

theorem hyphenFree_htmlSuffixNames : ∀ name ∈ htmlSuffixNames, '-' ∉ name.toList := by
  decide +kernel

theorem areWellFormed_namespaces (preset : Preset) : AreWellFormed preset.tables.namespaces := by
  have small := all_isSmallName
  simp only [List.all_append, Bool.and_eq_true] at small
  cases preset with
  | minimal => exact ⟨List.nodup_nil, by rintro _ ⟨⟩, by rintro _ ⟨⟩⟩
  | extended =>
      have aria : aria.WellFormed := ⟨by decide, NameSet.isGood_ofList (by simp [small])⟩
      have htmx : htmx.WellFormed := ⟨by decide, NameSet.isGood_ofList (by simp [small])⟩
      refine ⟨by decide, by decide, ?_⟩
      exact List.forall_mem_cons.2 ⟨aria, List.forall_mem_cons.2 ⟨htmx, by rintro _ ⟨⟩⟩⟩

theorem wellFormed_tables (preset : Preset) : preset.tables.WellFormed := by
  have small := all_isSmallName
  simp only [List.all_append, Bool.and_eq_true] at small
  have namespaces := areWellFormed_namespaces preset
  constructor
  case namespaces => exact namespaces
  case hyphenFree =>
    intro name member
    cases preset <;> exact hyphenFree_htmlSuffixNames name (NameSet.mem_ofList.1 member)
  all_goals
    cases preset <;> exact NameSet.isGood_ofList (by simp [small])

theorem ordered_tables (preset : Preset) : preset.tables.ordered = preset.tables := by
  cases preset with
  | minimal => rfl
  | extended =>
      have before : "aria-" < "hx-" := by decide
      have ordered : sortEntries extended.tables.namespaces = extended.tables.namespaces := by
        simp [tables, sortEntries, insertEntry, before]
      rw [Tables.ordered, ordered]

theorem isValidated_tables (preset : Preset) : preset.tables.IsValidated := by
  refine ⟨preset.tables.payload, ?_⟩
  rw [(wellFormed_tables preset).read_payload, ordered_tables]

end Preset

end MarkupDsl
