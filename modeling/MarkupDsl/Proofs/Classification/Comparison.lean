import MarkupDsl.Yaml.Document

/-!
# Comparing plain data

Values of plain data cannot be compared in general, because of the floating-point numbers among them.
Those that tables are written with can, and that tells what a given document is read as.
-/

namespace MarkupDsl

namespace Data

mutual

def isSame : Data → Data → Bool
  | bool first, bool second => first == second
  | text first, text second => first == second
  | list first, list second => areSame first second
  | mapping first, mapping second => haveSame first second
  | _, _ => false

def areSame : List Data → List Data → Bool
  | [], [] => true
  | first :: rest, second :: others => isSame first second && areSame rest others
  | _, _ => false

def haveSame : List (Data × Data) → List (Data × Data) → Bool
  | [], [] => true
  | (key, first) :: rest, (otherKey, second) :: others =>
    isSame key otherKey && isSame first second && haveSame rest others
  | _, _ => false

end

mutual

theorem eq_of_isSame {first second : Data} (same : isSame first second = true) :
    first = second := by
  unfold isSame at same
  split at same
  · rw [eq_of_beq same]
  · rw [eq_of_beq same]
  · rw [eq_of_areSame same]
  · rw [eq_of_haveSame same]
  · cases same

theorem eq_of_areSame {first second : List Data} (same : areSame first second = true) :
    first = second := by
  unfold areSame at same
  split at same
  · rfl
  · obtain ⟨here, later⟩ := Bool.and_eq_true_iff.1 same
    rw [eq_of_isSame here, eq_of_areSame later]
  · cases same

theorem eq_of_haveSame {first second : List (Data × Data)} (same : haveSame first second = true) :
    first = second := by
  unfold haveSame at same
  split at same
  · rfl
  · obtain ⟨here, later⟩ := Bool.and_eq_true_iff.1 same
    obtain ⟨keys, values⟩ := Bool.and_eq_true_iff.1 here
    rw [eq_of_isSame keys, eq_of_isSame values, eq_of_haveSame later]
  · cases same

end

end Data

theorem Yaml.read_eq_ok_of_isSame {document : String} {data : Data}
    (same : (readChars document.toList).toOption.any (Data.isSame data) = true) :
    read document = .ok data := by
  rw [read]
  cases found : readChars document.toList with
  | error cause =>
      rw [found] at same
      cases same
  | ok other =>
      rw [found] at same
      exact congrArg Except.ok (Data.eq_of_isSame same).symm

end MarkupDsl
