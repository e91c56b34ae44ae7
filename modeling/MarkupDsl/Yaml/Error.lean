/-!
# Faulty documents
-/

namespace MarkupDsl.Yaml

/-- Why a document cannot be read. -/
inductive Error where
  | malformed (rule : String)
  /-- An escape names a character that does not exist. -/
  | noSuchCharacter
  | characterTooLarge
  /-- A date or a time of day that does not exist. -/
  | noSuchTime
  | notNumber
  | emptyNumber
  | numberTooLong
  | tooManyPlaces
  | notTimestamp
  | notBoolean
  deriving DecidableEq, Repr

end MarkupDsl.Yaml
