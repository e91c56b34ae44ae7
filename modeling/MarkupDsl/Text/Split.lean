/-!
# Cutting texts

Small operations on character lists that several readers share: removing a known beginning, cutting
at the first occurrence of a pattern, and joining pieces.
-/

namespace MarkupDsl.Text

def removeStart? : (start : List Char) → List Char → Option (List Char)
  | [], cs => some cs
  | _ :: _, [] => none
  | s :: start, c :: cs => if s = c then removeStart? start cs else none

def occurs (pattern : List Char) : List Char → Bool
  | [] => pattern.isEmpty
  | c :: cs => pattern.isPrefixOf (c :: cs) || occurs pattern cs

def cutAt? (pattern : List Char) : List Char → Option (List Char × List Char)
  | [] => if pattern.isEmpty then some ([], []) else none
  | c :: cs =>
    match removeStart? pattern (c :: cs) with
    | some rest => some ([], rest)
    | none => (cutAt? pattern cs).map fun parts => (c :: parts.1, parts.2)

def splitAtChar (separator : Char) : List Char → List (List Char)
  | [] => [[]]
  | c :: cs =>
    if c = separator then [] :: splitAtChar separator cs
    else
      match splitAtChar separator cs with
      | [] => [[c]]
      | piece :: pieces => (c :: piece) :: pieces

/-! ## Lengths -/

theorem length_dropWhile_le_length (p : Char → Bool) (cs : List Char) :
    (cs.dropWhile p).length ≤ cs.length :=
  (List.dropWhile_suffix p).length_le

/-- What follows the first occurrence of a pattern is no longer than the text. -/
theorem length_removeStart?_le {start cs rest : List Char} (h : removeStart? start cs = some rest) :
    rest.length ≤ cs.length := by
  induction start generalizing cs with
  | nil =>
    cases h
    exact Nat.le_refl _
  | cons s start ih =>
    cases cs with
    | nil => cases h
    | cons c cs =>
      unfold removeStart? at h
      split at h
      · exact Nat.le_succ_of_le (ih h)
      · cases h

/-- What follows a cut is no longer than the text. -/
theorem length_cutAt?_le {pattern cs : List Char} {parts : List Char × List Char}
    (h : cutAt? pattern cs = some parts) : parts.2.length ≤ cs.length := by
  induction cs generalizing parts with
  | nil =>
    unfold cutAt? at h
    split at h
    · cases h
      exact Nat.le_refl _
    · cases h
  | cons c cs ih =>
    unfold cutAt? at h
    split at h
    · next rest found =>
      cases h
      exact length_removeStart?_le found
    · obtain ⟨inner, found, same⟩ := Option.map_eq_some_iff.1 h
      have := ih found
      subst same
      exact Nat.le_succ_of_le this

end MarkupDsl.Text
