import MarkupDsl.Selector.Basic

/-!
# States of controls

The states of links, media and the controls of forms, put together from tests of names, attributes and
surroundings.  None of them looks into frames or out of them.
-/

namespace MarkupDsl.Selector

namespace Test

def named (names : List String) : Test := .oneOf (names.map fun name => [.type none name])

def valued (name : String) (values : List String) : Test :=
  .oneOf (values.map fun value =>
    [.attribute name (some ⟨.equal, value.toList, name == "type"⟩)])

def has (name : String) : Test := .attribute name none

def lacks (name : String) : Test := .noneOf [[has name]]

/-- The element has no attribute of the name or an empty one. -/
def unset (name : String) : Test := .oneOf [[lacks name], [valued name [""]]]

def link : Test := .framed (.oneOf [[named ["a", "area"], has "href"]])

def checked : Test :=
  .framed (.oneOf [
    [named ["input"], valued "type" ["checkbox", "radio"], has "checked"],
    [named ["option"], has "selected"]])

/-- The element is chosen from the start: it is checked, or it is the button that sends its form. -/
def chosen : Test :=
  .framed (.oneOf [
    [checked],
    [named ["button", "input"], valued "type" ["submit"], .after .descendant [named ["form"]],
      .sendsForm]])

def indeterminate : Test :=
  let radio : List Test := [named ["input"], valued "type" ["radio"], lacks "checked"]
  .framed (.oneOf [
    [named ["input"], valued "type" ["checkbox"], has "indeterminate"],
    radio ++ [unset "name"],
    [named ["progress"], lacks "value"],
    radio ++ [has "name", .noneOf [[valued "name" [""]]], .noneChecked]])

def bounded (inside : Bool) : Test :=
  .framed (.oneOf [
    [named ["input"], .range inside,
      valued "type" ["date", "month", "week", "time", "datetime-local", "number", "range"],
      .oneOf [[has "min"], [has "max"]]]])

def muted : Test := .framed (.oneOf [[named ["video", "audio"], has "muted"]])

def opened : Test := .framed (.oneOf [[named ["details", "dialog"], has "open"]])

def fieldsetControl : Test :=
  .oneOf [
    [named ["input"], .noneOf [[valued "type" ["hidden"]]]],
    [named ["button", "select", "textarea", "fieldset"]]]

def control : Test := .oneOf [[fieldsetControl], [named ["optgroup", "option"]]]

def firstLegend : List Test := [named ["legend"], .position 0 ⟨0, 1, true⟩ false true []]

def disabled : Test :=
  .framed (.oneOf [
    [control, has "disabled"],
    [named ["option"], .after .child [named ["optgroup"], has "disabled"]],
    [fieldsetControl, .after .child [named ["fieldset"], has "disabled"]],
    [fieldsetControl, .after .descendant
      [.noneOf [firstLegend], .after .child [named ["fieldset"], has "disabled"]]]])

def enabled : Test := .framed (.oneOf [[control, .noneOf [[disabled]]]])

def field : Test := named ["input", "select", "textarea"]

def required : Test := .framed (.oneOf [[field, has "required"]])

/-- The element is an entry field that may be left empty. -/
def optional : Test := .framed (.oneOf [[field, lacks "required"]])

def placeholderShown : Test :=
  let shown : List Test := [has "placeholder", .noneOf [[valued "placeholder" [""]]]]
  .framed (.oneOf [
    [named ["input"], .oneOf [[lacks "type"],
      [valued "type" ["", "text", "search", "url", "tel", "email", "password", "number"]]],
      unset "value"] ++ shown,
    [named ["textarea"], .textless] ++ shown])

def readWrite : Test :=
  .framed (.oneOf [
    [.oneOf [[named ["textarea"]], [named ["input"], .oneOf [[lacks "type"],
        [valued "type" ["", "date", "datetime-local", "email", "month", "number", "password",
          "search", "tel", "text", "time", "url", "week"]]]]],
      .noneOf [[has "readonly"], [disabled]]],
    [.oneOf [[valued "contenteditable" [""]],
      [.attribute "contenteditable" (some ⟨.equal, "true".toList, true⟩)]]]])

def readOnly : Test := .framed (.noneOf [[readWrite]])

end Test

end MarkupDsl.Selector
