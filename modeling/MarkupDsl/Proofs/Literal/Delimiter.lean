import MarkupDsl.Proofs.Literal.Reading
import Mathlib.Data.Nat.Init
import Mathlib.Tactic.Ring

/-!
# The search for a delimiter

The ids of quoted strings are tried one after the other, the empty one first, until one is free in the
text.  The closing sequences of different ids do not overlap, so a text that keeps the search going
past `k` ids is longer than their closing sequences together.  Hence the search ends, and it ends
early: the number of letters grows with the square root of the length of the text, and there are texts
for which the bound is exact.
-/

namespace MarkupDsl.Literal

open Text

/-! ## The search -/

/--
The search from the id with `start` letters on, without a bound: an id whose closing sequence stands in
the text is given one more letter, and the search ends at the first id that is free.
-/
inductive Search (raw : List Char) : Nat → Nat → Prop where
  | ends {k : Nat} (free : ¬ closing k <:+: raw) : Search raw k k
  | goesOn {k last : Nat} (taken : closing k <:+: raw) (later : Search raw (k + 1) last) :
      Search raw k last

section

variable {raw : List Char} {start last other : Nat}

theorem Search.free (search : Search raw start last) : ¬ closing last <:+: raw := by
  induction search with
  | ends free => exact free
  | goesOn _ _ ih => exact ih

/-- The search passes only ids that are taken. -/
theorem Search.taken (search : Search raw start last) :
    ∀ k, start ≤ k → k < last → closing k <:+: raw := by
  induction search with
  | ends _ => exact fun k above before => absurd before (Nat.not_lt.2 above)
  | goesOn taken _ ih =>
      intro k above before
      rcases Nat.eq_or_lt_of_le above with rfl | beyond
      · exact taken
      · exact ih k beyond before

/-- The search does not stop before the first free id. -/
theorem Search.of_taken (free : ¬ closing last <:+: raw) (le : start ≤ last)
    (taken : ∀ k, start ≤ k → k < last → closing k <:+: raw) : Search raw start last := by
  induction le using Nat.decreasingInduction with
  | self => exact .ends free
  | of_succ k before ih =>
      exact .goesOn (taken k (Nat.le_refl k) before)
        (ih fun j above => taken j (Nat.le_of_succ_le above))

theorem Search.unique (search : Search raw start last) (again : Search raw start other) :
    last = other := by
  induction search with
  | ends free =>
      cases again with
      | ends _ => rfl
      | goesOn taken _ => exact absurd taken free
  | goesOn taken _ ih =>
      cases again with
      | ends free => exact absurd taken free
      | goesOn _ later => exact ih later

end

/-- The ids that are shorter than the chosen one are taken. -/
theorem closing_infix_of_lt_delimiterLength {raw : List Char} {k : Nat}
    (shorter : k < delimiterLength raw) : closing k <:+: raw := by
  unfold delimiterLength at shorter
  cases found : (List.range (raw.length + 1)).find? fun k => !occurs (closing k) raw with
  | none =>
      have all := List.find?_range_eq_none.1 found raw.length (Nat.lt_succ_self _)
      rw [occurs_closing_length] at all
      cases all
  | some chosen =>
      rw [found, Option.getD_some] at shorter
      have taken := (List.find?_range_eq_some.1 found).2.2 k shorter
      rw [Bool.not_not] at taken
      exact occurs_eq_true_iff.1 taken

theorem search_iff {raw : List Char} {last : Nat} :
    Search raw 0 last ↔ last = delimiterLength raw := by
  have search : Search raw 0 (delimiterLength raw) :=
    .of_taken (occurs_eq_false_iff.1 (occurs_closing_delimiterLength raw)) (Nat.zero_le _)
      fun _ _ shorter => closing_infix_of_lt_delimiterLength shorter
  constructor
  · exact fun other => other.unique search
  · rintro rfl
    exact search

/-! ## Closing sequences side by side -/

/-- The closing sequences of the ids with fewer than `k` letters, one behind the other. -/
def closings (k : Nat) : List Char := (List.range k).flatMap closing

theorem closings_succ (k : Nat) : closings (k + 1) = closings k ++ closing k := by
  simp [closings, List.range_succ]

theorem closing_infix_closings {j k : Nat} (shorter : j < k) : closing j <:+: closings k :=
  List.infix_of_mem_flatten (List.mem_map_of_mem (List.mem_range.2 shorter))

theorem quote_notMem_closing (k : Nat) : '"' ∉ closing k := by
  simp [closing, delimiterId]

theorem length_closings (k : Nat) : (closings k).length = k * (k + 3) / 2 := by
  induction k with
  | zero => rfl
  | succ k ih =>
      have grows : (k + 1) * (k + 1 + 3) = k * (k + 3) + (k + 2) * 2 := by ring
      rw [closings_succ, List.length_append, ih, length_closing, grows,
        Nat.add_mul_div_right _ _ (by decide)]

/-- Of two different ids with their braces neither begins the other. -/
theorem eq_of_closing_begins {j k : Nat} (begins : delimiterId j ++ ['}'] <+: delimiterId k ++ ['}']) :
    j = k := by
  have letters (k : Nat) : '}' ∉ delimiterId k := by
    simp [delimiterId]
  obtain ⟨rest, same⟩ := begins
  rw [List.append_assoc] at same
  have ids := (append_mark_inj (letters j) (letters k) same).1
  simpa [delimiterId] using congrArg List.length ids

/-- Closing sequences of different ids do not overlap. -/
theorem closing_infix_or_infix {j k : Nat} (different : j ≠ k) {before after : List Char}
    (stands : closing j <:+: before ++ (closing k ++ after)) :
    closing j <:+: before ∨ closing j <:+: after := by
  rcases infix_or_infix_or_comparable (bar_not_mem_closing_tail j) (bar_not_mem_closing_tail k) stands
    with inBefore | inAfter | begins | begins
  · exact .inl inBefore
  · exact .inr inAfter
  · exact absurd (eq_of_closing_begins begins) different
  · exact absurd (eq_of_closing_begins begins).symm different

/-- A text in which all these closing sequences stand has room for all of them. -/
theorem length_closings_le {k : Nat} {raw : List Char} (taken : ∀ j < k, closing j <:+: raw) :
    (closings k).length ≤ raw.length := by
  induction k generalizing raw with
  | zero => exact Nat.zero_le _
  | succ k ih =>
      -- without the longest of them the others still stand in the text
      obtain ⟨before, after, same⟩ := taken k (Nat.lt_succ_self k)
      rw [List.append_assoc] at same
      have others : ∀ j < k, closing j <:+: before ++ after := by
        intro j shorter
        have stands := taken j (Nat.lt_succ_of_lt shorter)
        rw [← same] at stands
        rcases closing_infix_or_infix (Nat.ne_of_lt shorter) stands with inBefore | inAfter
        · exact inBefore.trans (List.prefix_append before after).isInfix
        · exact inAfter.trans (List.suffix_append before after).isInfix
      have room := ih others
      rw [← same, closings_succ]
      simp only [List.length_append] at room ⊢
      omega

theorem length_closings_lt {k : Nat} {raw : List Char} (quoted : '"' ∈ raw)
    (taken : ∀ j < k, closing j <:+: raw) : (closings k).length < raw.length := by
  have kept (j : Nat) : (closing j).filter (· != '"') = closing j := by
    refine List.filter_eq_self.2 fun c member => bne_iff_ne.2 ?_
    rintro rfl
    exact quote_notMem_closing j member
  have unquoted : ∀ j < k, closing j <:+: raw.filter (· != '"') := by
    intro j shorter
    have stands := (taken j shorter).filter (· != '"')
    rwa [kept] at stands
  calc (closings k).length
      ≤ (raw.filter (· != '"')).length := length_closings_le unquoted
    _ < raw.length := List.length_filter_lt_length_iff_exists.2 ⟨'"', quoted, by decide⟩

/-! ## The length of literals -/

theorem length_delimited (raw : List Char) :
    (delimited raw).length = raw.length + 2 * delimiterLength raw + 4 := by
  simp only [delimited, List.length_cons, List.length_append, length_closing, delimiterId,
    List.length_replicate]
  omega

/--
For a text with a double quote the search for an id ends, at the id of its literal and nowhere else.
This id is free and all shorter ones are taken.  It has so few letters that the closing sequences of
all shorter ids and a double quote fit into the text.  The literal has its letters twice and four
characters more than the text.
-/
theorem delimiterLength_minimal_and_short (raw : String) (quoted : '"' ∈ raw.toList) :
    let k := delimiterLength raw.toList
    (∀ last, Search raw.toList 0 last ↔ last = k) ∧
      ¬ closing k <:+: raw.toList ∧
      (∀ j < k, closing j <:+: raw.toList) ∧
      k * (k + 3) / 2 + 1 ≤ raw.length ∧
      (encodeString raw).length = raw.length + 2 * k + 4 := by
  intro k
  have search : Search raw.toList 0 k := search_iff.2 rfl
  have taken : ∀ j < k, closing j <:+: raw.toList := fun j => search.taken j (Nat.zero_le j)
  refine ⟨fun _ => search_iff, search.free, taken, ?_, ?_⟩
  · have room := length_closings_lt quoted taken
    rwa [length_closings, String.length_toList] at room
  · rw [← String.length_toList, ← String.length_toList, toList_encodeString, stringChars,
      if_pos quoted, length_delimited]

/-- A text that is as short as a text can be for which two letters are needed. -/
theorem delimiterLength_minimal_and_short_tight :
    let raw := "\"|\x7d|q\x7d"
    '"' ∈ raw.toList ∧ delimiterLength raw.toList = 2 ∧ Search raw.toList 0 2 ∧
      2 * (2 + 3) / 2 + 1 = raw.length ∧ (encodeString raw).length = raw.length + 2 * 2 + 4 := by
  intro raw
  have quoted : '"' ∈ raw.toList := by decide
  have letters : delimiterLength raw.toList = 2 := by decide +kernel
  obtain ⟨ends, _, _, _, length⟩ := delimiterLength_minimal_and_short raw quoted
  rw [letters] at ends length
  exact ⟨quoted, letters, (ends 2).2 rfl, by decide, length⟩

/-- A double quote and the closing sequences of all shorter ids need the id. -/
theorem delimiterLength_quote_closings (k : Nat) : delimiterLength ('"' :: closings k) = k := by
  have taken : ∀ j < k, closing j <:+: '"' :: closings k :=
    fun j shorter => List.infix_cons (closing_infix_closings shorter)
  have free : ¬ closing k <:+: '"' :: closings k := by
    intro stands
    have all : ∀ j < k + 1, closing j <:+: '"' :: closings k := by
      intro j le
      rcases Nat.lt_succ_iff_lt_or_eq.1 le with shorter | rfl
      · exact taken j shorter
      · exact stands
    have room := length_closings_lt List.mem_cons_self all
    rw [closings_succ, List.length_append, length_closing, List.length_cons] at room
    omega
  exact (search_iff.1 (.of_taken free (Nat.zero_le k) fun j _ => taken j)).symm

/-- The bound is exact: every number of letters is needed by a text that is no longer than it has to be. -/
theorem exists_delimiterLength_eq (k : Nat) :
    ∃ raw : List Char, '"' ∈ raw ∧ delimiterLength raw = k ∧ raw.length = k * (k + 3) / 2 + 1 := by
  refine ⟨'"' :: closings k, List.mem_cons_self, delimiterLength_quote_closings k, ?_⟩
  rw [List.length_cons, length_closings]

end MarkupDsl.Literal
