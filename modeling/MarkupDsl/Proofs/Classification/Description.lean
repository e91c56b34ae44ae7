import MarkupDsl.Classification.Tables
import MarkupDsl.Data
import MarkupDsl.Text.LowerCase
import Mathlib.Data.List.Forall2

/-!
# Data that describe tables

What plain data have to be like to count as tables, and which tables they describe, said without the
readings that check them: what a value says as a text or as a boolean, which names a list has, what a
family is told by, and what becomes of entries that are told more than once.
-/

namespace MarkupDsl

/-! ## Fields -/

inductive SetField where
  | suffixNames
  | variantNames
  | numericNames
  | booleanNames
  | voidTags
  | rawTextTags
  deriving DecidableEq

def SetField.key : SetField → String
  | suffixNames => "suffix_names"
  | variantNames => "variant_names"
  | numericNames => "numeric_names"
  | booleanNames => "boolean_names"
  | voidTags => "void_tags"
  | rawTextTags => "raw_text_tags"

def Tables.namesOf (tables : Tables) : SetField → NameSet
  | .suffixNames => tables.suffixNames
  | .variantNames => tables.variantNames
  | .numericNames => tables.numericNames
  | .booleanNames => tables.booleanNames
  | .voidTags => tables.voidTags
  | .rawTextTags => tables.rawTextTags

namespace Data

end Data

end MarkupDsl
