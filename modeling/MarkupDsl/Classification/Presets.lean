import MarkupDsl.Classification.Tables

/-!
# Presets

Two sets of tables come with the program.  The minimal preset knows the attributes of plain HTML; the
extended preset adds the families of ARIA and htmx attributes and the keywords, numbers and presence
attributes among them.
-/

namespace MarkupDsl

/-- A set of tables that comes with the program. -/
inductive Preset where
  | extended
  | minimal
  deriving DecidableEq, Repr

namespace Preset

/-! ## Names of plain HTML -/

def htmlSuffixNames : List String := [
  "cite", "class", "data", "for", "form", "label", "method", "object", "open", "slot", "span",
  "style", "title", "type"]

def htmlVariantNames : List String := [
  "autocapitalize", "autocomplete", "capture", "crossorigin", "decoding", "dir", "enctype",
  "fetchpriority", "formenctype", "formmethod", "hidden", "http_equiv", "inputmode", "kind",
  "low", "method", "preload", "referrerpolicy", "role", "translate", "wrap"]

def htmlNumericNames : List String := [
  "cols", "colspan", "high", "low", "maxlength", "minlength", "optimum", "rows", "rowspan",
  "span", "start", "tabindex"]

def htmlBooleanNames : List String := [
  "async", "autofocus", "autoplay", "checked", "controls", "default", "defer", "disabled",
  "draggable", "formnovalidate", "ismap", "loop", "multiple", "muted", "novalidate", "open",
  "playsinline", "readonly", "required", "reversed", "selected"]

def htmlVoidTags : List String := [
  "area", "base", "br", "col", "embed", "hr", "img", "input", "link", "meta", "source", "track",
  "wbr"]

def htmlRawTextTags : List String := [
  "option", "script", "style", "textarea", "title"]

/-! ## Names of ARIA and htmx -/

def ariaNames : List String := [
  "activedescendant", "atomic", "autocomplete", "braillelabel", "brailleroledescription", "busy",
  "checked", "colcount", "colindextext", "colspan", "controls", "current", "describedby",
  "description", "details", "disabled", "errormessage", "expanded", "flowto", "haspopup",
  "hidden", "invalid", "keyshortcuts", "label", "labelledby", "level", "live", "modal",
  "multiline", "multiselectable", "orientation", "owns", "placeholder", "posinset", "pressed",
  "readonly", "relevant", "required", "roledescription", "rowcount", "rowindex", "rowindextext",
  "rowspan", "selected", "setsize", "sort", "valuemax", "valuemin", "valuenow", "valuetext"]

def htmxNames : List String := [
  "boost", "confirm", "delete", "disable", "disinherit", "encoding", "ext", "get", "headers",
  "history", "history-elt", "include", "indicator", "on", "params", "patch", "post", "preload",
  "preserve", "prompt", "push-url", "put", "replace-url", "request", "select", "select-oob",
  "sse-connect", "sse-swap", "swap", "swap-oob", "sync", "target", "trigger", "validate", "vals",
  "ws-connect", "ws-send"]

def ariaVariantNames : List String := [
  "aria-autocomplete", "aria-checked", "aria-current", "aria-haspopup", "aria-invalid",
  "aria-live", "aria-orientation", "aria-pressed", "aria-relevant", "aria-sort"]

def ariaNumericNames : List String := [
  "aria-valuemax", "aria-valuemin", "aria-valuenow"]

def ariaBooleanNames : List String := [
  "aria-atomic", "aria-busy", "aria-disabled", "aria-modal", "aria-multiline",
  "aria-multiselectable", "aria-readonly", "aria-required"]

def htmxBooleanNames : List String := [
  "data-hx-disable", "data-hx-history-elt", "data-hx-preload", "data-hx-preserve",
  "data-hx-validate", "data-hx-ws-send", "hx-disable", "hx-history-elt", "hx-preload",
  "hx-preserve", "hx-validate", "hx-ws-send"]

/-! ## The presets -/

def aria : Namespace := ⟨"Aria", .ofList ariaNames, false⟩

/-- The htmx family is also spelled after `data-`. -/
def htmx : Namespace := ⟨"Hx", .ofList htmxNames, true⟩

def tables : Preset → Tables
  | minimal =>
    { suffixNames := .ofList htmlSuffixNames
      namespaces := []
      variantNames := .ofList htmlVariantNames
      numericNames := .ofList htmlNumericNames
      booleanNames := .ofList htmlBooleanNames
      voidTags := .ofList htmlVoidTags
      rawTextTags := .ofList htmlRawTextTags
      hyphenFallback := false }
  | extended =>
    { suffixNames := .ofList htmlSuffixNames
      namespaces := [("aria-", aria), ("hx-", htmx)]
      variantNames := .ofList (htmlVariantNames ++ ariaVariantNames)
      numericNames := .ofList (htmlNumericNames ++ ariaNumericNames)
      booleanNames := .ofList (htmlBooleanNames ++ ariaBooleanNames ++ htmxBooleanNames)
      voidTags := .ofList htmlVoidTags
      rawTextTags := .ofList htmlRawTextTags
      hyphenFallback := true }

def name : Preset → String
  | extended => "extended"
  | minimal => "minimal"

def all : List Preset := [extended, minimal]

/-- The preset that is used where none is asked for. -/
def standard : Preset := extended

end Preset

end MarkupDsl
