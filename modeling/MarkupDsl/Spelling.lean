import MarkupDsl.Classification.Tables
import MarkupDsl.Literal

/-!
# Spelling of attributes

How the name and the value of an attribute are spelled in the emitted code.  A name is tried as a
suffixed name, as a member of a family, as the `data-` spelling of a member, and as a string
attribute, in this order.
-/

namespace MarkupDsl.Spelling

open Text

def dataStart : List Char := ['d', 'a', 't', 'a', '-']

def underscored (cs : List Char) : List Char := cs.map fun c => if c = '-' then '_' else c

def memberOf? (start : String) (family : Namespace) (name : List Char) : Option String :=
  match removeStart? start.toList name with
  | none => none
  | some bare =>
    if String.ofList bare ∈ family.names then
      some (family.moduleName ++ "." ++ String.ofList (underscored bare))
    else none

def member? (namespaces : List (String × Namespace)) (name : List Char) : Option String :=
  namespaces.findSome? fun entry => memberOf? entry.1 entry.2 name

def aliasMember? (namespaces : List (String × Namespace)) (name : List Char) : Option String :=
  match removeStart? dataStart name with
  | none => none
  | some bare => member? (namespaces.filter fun entry => entry.2.dataAlias) bare

def namespaced? (tables : Tables) (name : String) : Option String :=
  member? tables.namespaces name.toList <|> aliasMember? tables.namespaces name.toList

def attributeName (tables : Tables) (name : String) : String :=
  if name ∈ tables.suffixNames then name ++ "_"
  else
    match namespaced? tables name with
    | some spelled => spelled
    | none =>
      if tables.hyphenFallback ∧ '-' ∈ name.toList then
        "string_attr " ++ Literal.encodeString name
      else name

def attributeValue (tables : Tables) (name : String) : Option String → String
  | none => ""
  | some value =>
    if name ∈ tables.booleanNames then ""
    else if name ∈ tables.numericNames then value
    else if name ∈ tables.variantNames then Literal.encodeVariant value
    else Literal.encodeString value

end MarkupDsl.Spelling
