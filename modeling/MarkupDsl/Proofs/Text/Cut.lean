import MarkupDsl.Text.Split

/-!
# Cuts at a pattern

What it means that a pattern stands in a text, and where a text is cut.  A cut leaves the shortest
possible text before the pattern.  A pattern whose first character does not come again in it cannot
overlap itself, so a text that is free of it can be followed by it without moving the cut.  Nor can it
overlap another pattern of this kind that begins with the same character.
-/

namespace MarkupDsl.Text

/-! ## Beginnings and occurrences -/

theorem removeStart?_eq_some_iff {start cs rest : List Char} :
    removeStart? start cs = some rest ↔ cs = start ++ rest := by
  induction start generalizing cs with
  | nil =>
      change some cs = some rest ↔ cs = rest
      exact Option.some_inj
  | cons s start ih =>
      cases cs with
      | nil => simp [removeStart?]
      | cons c cs =>
          unfold removeStart?
          by_cases same : s = c
          · rw [if_pos same, ih, same]
            simp
          · rw [if_neg same]
            simp [Ne.symm same]

@[simp] theorem removeStart?_append (start rest : List Char) :
    removeStart? start (start ++ rest) = some rest :=
  removeStart?_eq_some_iff.2 rfl

/-- A pattern stands in a text exactly when the text is written around it. -/
theorem occurs_eq_true_iff {pattern cs : List Char} :
    occurs pattern cs = true ↔ pattern <:+: cs := by
  induction cs with
  | nil => simp [occurs]
  | cons c cs ih =>
      unfold occurs
      rw [Bool.or_eq_true, List.isPrefixOf_iff_prefix, ih, List.infix_cons_iff]

theorem occurs_eq_false_iff {pattern cs : List Char} :
    occurs pattern cs = false ↔ ¬ pattern <:+: cs := by
  rw [← occurs_eq_true_iff, Bool.not_eq_true]

/-! ## The first occurrence -/

theorem eq_append_of_cutAt? {pattern cs before rest : List Char}
    (cut : cutAt? pattern cs = some (before, rest)) : cs = before ++ (pattern ++ rest) := by
  induction cs generalizing before with
  | nil =>
      unfold cutAt? at cut
      split at cut
      · next empty =>
        cases cut
        simp [List.isEmpty_iff.1 empty]
      · cases cut
  | cons c cs ih =>
      unfold cutAt? at cut
      split at cut
      · next found =>
        cases cut
        rw [List.nil_append]
        exact removeStart?_eq_some_iff.1 found
      · obtain ⟨parts, inner, same⟩ := Option.map_eq_some_iff.1 cut
        cases same
        rw [List.cons_append, ← ih inner]

theorem cutAt?_append_self (pattern rest : List Char) :
    cutAt? pattern (pattern ++ rest) = some ([], rest) := by
  cases pattern with
  | nil => cases rest <;> rfl
  | cons p pattern =>
      rw [List.cons_append, cutAt?, ← List.cons_append, removeStart?_append]

theorem exists_cutAt?_of_append (pattern before rest : List Char) :
    ∃ parts, cutAt? pattern (before ++ (pattern ++ rest)) = some parts ∧
      parts.1.length ≤ before.length := by
  induction before with
  | nil =>
      rw [List.nil_append]
      exact ⟨_, cutAt?_append_self pattern rest, Nat.le_refl _⟩
  | cons c before ih =>
      obtain ⟨parts, inner, le⟩ := ih
      rw [List.cons_append]
      unfold cutAt?
      split
      · exact ⟨_, rfl, Nat.zero_le _⟩
      · refine ⟨(c :: parts.1, parts.2), ?_, Nat.succ_le_succ le⟩
        rw [inner]
        rfl

theorem cutAt?_eq_some_iff {pattern cs before rest : List Char} :
    cutAt? pattern cs = some (before, rest) ↔
      cs = before ++ (pattern ++ rest) ∧
        ∀ shorter after, cs = shorter ++ (pattern ++ after) → before.length ≤ shorter.length := by
  constructor
  · intro cut
    refine ⟨eq_append_of_cutAt? cut, ?_⟩
    intro shorter after same
    obtain ⟨parts, found, le⟩ := exists_cutAt?_of_append pattern shorter after
    rw [← same, cut] at found
    cases found
    exact le
  · rintro ⟨same, first⟩
    obtain ⟨⟨shorter, after⟩, found, le⟩ := exists_cutAt?_of_append pattern before rest
    rw [← same] at found
    have written := eq_append_of_cutAt? found
    have equal : before.length = shorter.length :=
      Nat.le_antisymm (first shorter after written) le
    obtain ⟨rfl, tails⟩ := List.append_inj (same.symm.trans written) equal
    rw [found, List.append_cancel_left tails]

/-! ## Patterns that do not overlap -/

/-- What stands before and behind the first mark of a text is determined by the text. -/
theorem append_mark_inj {mark : Char} {first second rest others : List Char} (free : mark ∉ first)
    (alsoFree : mark ∉ second) (same : first ++ mark :: rest = second ++ mark :: others) :
    first = second ∧ rest = others := by
  induction first generalizing second with
  | nil =>
      cases second with
      | nil => exact ⟨rfl, (List.cons.inj same).2⟩
      | cons c second => exact absurd ((List.cons.inj same).1 ▸ List.mem_cons_self) alsoFree
  | cons c first ih =>
      cases second with
      | nil => exact absurd ((List.cons.inj same).1 ▸ List.mem_cons_self) free
      | cons d second =>
          obtain ⟨rfl, later⟩ := List.cons.inj same
          obtain ⟨rfl, rfl⟩ := ih (fun member => free (List.mem_cons_of_mem c member))
            (fun member => alsoFree (List.mem_cons_of_mem c member)) later
          exact ⟨rfl, rfl⟩

/-- What stands before the first mark of a text is read off up to the mark. -/
theorem takeWhile_append_mark {mark : Char} {first : List Char} (free : mark ∉ first)
    (rest : List Char) : (first ++ mark :: rest).takeWhile (· != mark) = first := by
  have inside : ∀ c ∈ first, (c != mark) = true :=
    fun c member => bne_iff_ne.2 fun same => free (same ▸ member)
  rw [List.takeWhile_append_of_pos inside, List.takeWhile_cons, bne_self_eq_false]
  exact List.append_nil first

/-- A beginning without the mark ends before the mark. -/
theorem exists_append_of_append_eq {mark : Char} {tail rest inner others : List Char}
    (once : mark ∉ tail) (same : tail ++ rest = inner ++ mark :: others) :
    ∃ gap, inner = tail ++ gap ∧ rest = gap ++ mark :: others := by
  rcases List.append_eq_append_iff.1 same with ⟨gap, inside, border⟩ | ⟨gap, straddling, border⟩
  · exact ⟨gap, inside, border⟩
  · cases gap with
    | nil => exact ⟨[], by rw [straddling, List.append_nil, List.append_nil], border.symm⟩
    | cons c gap =>
        refine absurd ?_ once
        rw [straddling, (List.cons.inj border).1]
        exact List.mem_append_right _ List.mem_cons_self

/--
In a text that is free of a pattern and is followed by it, the pattern comes no earlier than there:
an occurrence across the border would hold the first character of the pattern once more.
-/
theorem length_le_of_append_eq {mark : Char} {tail before rest shorter after : List Char}
    (once : mark ∉ tail) (free : occurs (mark :: tail) before = false)
    (same : before ++ (mark :: tail ++ rest) = shorter ++ (mark :: tail ++ after)) :
    before.length ≤ shorter.length := by
  rcases List.append_eq_append_iff.1 same with ⟨more, longer, _⟩ | ⟨inner, longer, across⟩
  · rw [longer, List.length_append]
    exact Nat.le_add_right _ _
  · cases inner with
    | nil => simp [longer]
    | cons c inner =>
        exfalso
        rw [List.cons_append, List.cons_append, List.cons.injEq] at across
        obtain ⟨rfl, across⟩ := across
        obtain ⟨gap, rfl, _⟩ := exists_append_of_append_eq once across
        refine occurs_eq_false_iff.1 free ⟨shorter, gap, ?_⟩
        rw [longer]
        simp

/--
Two patterns that begin with the same mark and have it nowhere else do not overlap: where one is put
between two texts, the other stands in one of these, unless the one begins the other.
-/
theorem infix_or_infix_or_comparable {mark : Char} {first second before after : List Char}
    (once : mark ∉ first) (alsoOnce : mark ∉ second)
    (stands : mark :: first <:+: before ++ (mark :: second ++ after)) :
    mark :: first <:+: before ∨ mark :: first <:+: after ∨ first <+: second ∨ second <+: first := by
  obtain ⟨front, back, same⟩ := stands
  rw [List.append_assoc] at same
  have comparable (together : first ++ back = second ++ after) :
      first <+: second ∨ second <+: first :=
    List.prefix_or_prefix_of_prefix ⟨back, together⟩ (List.prefix_append second after)
  rcases List.append_eq_append_iff.1 same with ⟨inner, longer, across⟩ | ⟨inner, longer, across⟩
  · -- the occurrence begins in the text before, or where the other pattern begins
    cases inner with
    | nil => exact .inr (.inr (comparable (List.cons.inj across).2))
    | cons c inner =>
        rw [List.cons_append, List.cons_append, List.cons.injEq] at across
        obtain ⟨rfl, across⟩ := across
        obtain ⟨gap, rfl, _⟩ := exists_append_of_append_eq once across
        refine .inl ⟨front, gap, ?_⟩
        rw [longer]
        simp
  · -- the occurrence begins behind the mark of the other pattern
    cases inner with
    | nil => exact .inr (.inr (comparable (List.cons.inj across).2.symm))
    | cons c inner =>
        rw [List.cons_append, List.cons_append, List.cons.injEq] at across
        obtain ⟨rfl, across⟩ := across
        obtain ⟨gap, rfl, later⟩ := exists_append_of_append_eq alsoOnce across
        refine .inr (.inl ⟨gap, back, ?_⟩)
        rw [later]
        simp

/-- A text that is free of such a pattern is what stands before the first occurrence. -/
theorem cutAt?_append {mark : Char} {tail before : List Char} (once : mark ∉ tail)
    (free : occurs (mark :: tail) before = false) (rest : List Char) :
    cutAt? (mark :: tail) (before ++ (mark :: tail ++ rest)) = some (before, rest) :=
  cutAt?_eq_some_iff.2 ⟨rfl, fun _ _ same => length_le_of_append_eq once free same⟩

/-- A text without the first character of a pattern is what stands before the pattern. -/
theorem cutAt?_append_of_not_mem {mark : Char} {tail before : List Char} (free : mark ∉ before)
    (rest : List Char) :
    cutAt? (mark :: tail) (before ++ (mark :: tail ++ rest)) = some (before, rest) := by
  refine cutAt?_eq_some_iff.2 ⟨rfl, ?_⟩
  intro shorter after same
  rcases List.append_eq_append_iff.1 same with ⟨more, longer, _⟩ | ⟨inner, longer, across⟩
  · rw [longer, List.length_append]
    exact Nat.le_add_right _ _
  · cases inner with
    | nil => simp [longer]
    | cons c inner =>
        rw [List.cons_append, List.cons_append, List.cons.injEq] at across
        refine absurd ?_ free
        rw [longer, across.1]
        exact List.mem_append_right _ List.mem_cons_self

theorem cutAt?_eq_none_of_not_mem {mark : Char} {tail cs : List Char} (free : mark ∉ cs) :
    cutAt? (mark :: tail) cs = none := by
  cases cut : cutAt? (mark :: tail) cs with
  | none => rfl
  | some parts =>
      refine absurd ?_ free
      rw [eq_append_of_cutAt? cut]
      exact List.mem_append_right _ List.mem_cons_self

/-! ## All occurrences -/

def pieces (pattern cs : List Char) : List (List Char) :=
  match cutAt? pattern cs with
  | none => [cs]
  | some (before, rest) =>
    if rest.length < cs.length then before :: pieces pattern rest else [cs]
termination_by cs.length

/-- Joining pieces without the first character of the pattern and taking them apart again. -/
theorem pieces_intercalate {mark : Char} {tail first : List Char} {others : List (List Char)}
    (free : ∀ piece ∈ first :: others, mark ∉ piece) :
    pieces (mark :: tail) ((mark :: tail).intercalate (first :: others)) = first :: others := by
  induction others generalizing first with
  | nil =>
      rw [List.intercalate_singleton, pieces,
        cutAt?_eq_none_of_not_mem (free first List.mem_cons_self)]
  | cons second others ih =>
      have later := ih fun piece member => free piece (List.mem_cons_of_mem first member)
      have here := @cutAt?_append_of_not_mem mark tail first (free first List.mem_cons_self)
        ((mark :: tail).intercalate (second :: others))
      rw [List.intercalate_cons_cons, List.append_assoc, pieces, here]
      dsimp only
      rw [if_pos, later]
      simp only [List.length_append, List.length_cons]
      omega

end MarkupDsl.Text
