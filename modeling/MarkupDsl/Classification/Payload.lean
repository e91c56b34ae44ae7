import MarkupDsl.Classification.Tables
import MarkupDsl.Data

/-!
# Tables as plain data

Tables are written with every field, sets as increasing lists and families in the order of their
beginnings, so that equal tables have one written form.
-/

namespace MarkupDsl

def insertEntry {α : Type} (entry : String × α) : List (String × α) → List (String × α)
  | [] => [entry]
  | first :: rest =>
    if entry.1 < first.1 then entry :: first :: rest else first :: insertEntry entry rest

def sortEntries {α : Type} (entries : List (String × α)) : List (String × α) :=
  entries.foldr insertEntry []

namespace NameSet

def payload (names : NameSet) : Data := .list (names.toList.map .text)

end NameSet

namespace Namespace

def payload (family : Namespace) : Data :=
  .mapping [
    (.text "namespace", .text family.moduleName),
    (.text "names", family.names.payload),
    (.text "data_alias", .bool family.dataAlias)]

end Namespace

namespace Tables

def payload (tables : Tables) : Data :=
  .mapping [
    (.text "suffix_names", tables.suffixNames.payload),
    (.text "namespaces",
      .mapping ((sortEntries tables.namespaces).map fun entry =>
        (.text entry.1, entry.2.payload))),
    (.text "variant_names", tables.variantNames.payload),
    (.text "numeric_names", tables.numericNames.payload),
    (.text "boolean_names", tables.booleanNames.payload),
    (.text "void_tags", tables.voidTags.payload),
    (.text "raw_text_tags", tables.rawTextTags.payload),
    (.text "hyphen_fallback", .bool tables.hyphenFallback)]

end Tables

end MarkupDsl
