import MarkupDsl.Classification.NameSet

/-!
# Classification tables

The tables that say how attribute names, attribute values and elements are spelled.
-/

namespace MarkupDsl

/-- A family of attributes spelled `Module.name`. -/
structure Namespace where
  moduleName : String
  names : NameSet
  dataAlias : Bool
  deriving DecidableEq, Inhabited

/-- The tables a conversion is driven by. -/
structure Tables where
  suffixNames : NameSet
  namespaces : List (String × Namespace)
  variantNames : NameSet
  numericNames : NameSet
  booleanNames : NameSet
  voidTags : NameSet
  rawTextTags : NameSet
  hyphenFallback : Bool
  deriving DecidableEq, Inhabited

def Tables.empty : Tables := ⟨∅, [], ∅, ∅, ∅, ∅, ∅, false⟩

end MarkupDsl
