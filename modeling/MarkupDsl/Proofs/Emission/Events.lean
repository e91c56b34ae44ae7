import MarkupDsl.Emission

/-!
# What sequences of events make up

The code of a sequence of events and the warnings in it.  Both are put together piece by piece, so
they can be followed along the recursion that makes the events.
-/

namespace MarkupDsl

namespace Event

/-! ## Code -/

def codeOf (events : List Event) : List Char :=
  (events.filterMap code?).flatMap String.toList

@[simp] theorem codeOf_nil : codeOf [] = [] := rfl

@[simp] theorem codeOf_code (piece : String) (events : List Event) :
    codeOf (.code piece :: events) = piece.toList ++ codeOf events := rfl

@[simp] theorem codeOf_skipped (warning : Warning) (events : List Event) :
    codeOf (.skipped warning :: events) = codeOf events := rfl

@[simp] theorem codeOf_append (first second : List Event) :
    codeOf (first ++ second) = codeOf first ++ codeOf second := by
  unfold codeOf
  rw [List.filterMap_append, List.flatMap_append]

/-! ## Warnings -/

def warningsOf (events : List Event) : List Warning := events.filterMap warning?

@[simp] theorem warningsOf_nil : warningsOf [] = [] := rfl

@[simp] theorem warningsOf_code (piece : String) (events : List Event) :
    warningsOf (.code piece :: events) = warningsOf events := rfl

@[simp] theorem warningsOf_skipped (warning : Warning) (events : List Event) :
    warningsOf (.skipped warning :: events) = warning :: warningsOf events := rfl

@[simp] theorem warningsOf_append (first second : List Event) :
    warningsOf (first ++ second) = warningsOf first ++ warningsOf second :=
  List.filterMap_append

end Event

/-! ## Conversions -/

/-- What is left out without a report can be expressed. -/
theorem Node.isExpressible_of_leavesOut {settings : Settings} {node : Node}
    (left : settings.leavesOut node = true) : node.isExpressible = true := by
  cases node with
  | text data => rfl
  | element | comment | unrecognized | foreign => cases left

theorem Conversion.toList_text_ofEvents (events : List Event) :
    (Conversion.ofEvents events).text.toList = Event.codeOf events :=
  String.toList_join

theorem Conversion.warnings_ofEvents (events : List Event) :
    (Conversion.ofEvents events).warnings = Event.warningsOf events := rfl

/-- Without a root there is nothing to convert. -/
theorem transpile_none (settings : Settings) : transpile settings none = .error .noRoot := rfl

/-- A root that can be expressed is converted. -/
theorem transpile_of_isExpressible (settings : Settings) {root : Node}
    (expressible : root.isExpressible = true) :
    transpile settings (some root) = .ok (Conversion.ofEvents (rootEvents settings root)) := by
  have checked : precheck (some root) = .ok root := if_pos expressible
  unfold transpile
  rw [checked]
  rfl

/-- A root that cannot be expressed is refused. -/
theorem transpile_of_inexpressible (settings : Settings) {root : Node}
    (inexpressible : root.isExpressible = false) :
    transpile settings (some root) = .error (.inexpressibleRoot root.kindName) := by
  have refused : precheck (some root) = .error (.inexpressibleRoot root.kindName) :=
    if_neg (Bool.eq_false_iff.1 inexpressible)
  unfold transpile
  rw [refused]
  rfl

end MarkupDsl
