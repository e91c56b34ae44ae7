import MarkupDsl.Classification.Presets
import MarkupDsl.Storage.Store

/-!
# The standard installation

Every preset comes with the program as a document, in a file of its own.  The files lie in one
directory.
-/

namespace MarkupDsl

namespace Preset

/-! ## Documents -/

def minimalLines : List String := [
  "# Plain HTML tables without namespaced attribute families.",
  "hyphen_fallback: false",
  "",
  "suffix_names: [cite, class, data, for, form, label, method, object, open, slot, span, style, title, type]",
  "",
  "namespaces: \x7b\x7d",
  "",
  "variant_names: [",
  "  autocapitalize, autocomplete, capture, crossorigin, decoding, dir, enctype,",
  "  fetchpriority, formenctype, formmethod, hidden, http_equiv, inputmode, kind,",
  "  low, method, preload, referrerpolicy, role, translate, wrap",
  "]",
  "",
  "numeric_names: [",
  "  cols, colspan, high, low, maxlength, minlength, optimum, rows, rowspan, span,",
  "  start, tabindex",
  "]",
  "",
  "boolean_names: [",
  "  async, autofocus, autoplay, checked, controls, default, defer, disabled,",
  "  draggable, formnovalidate, ismap, loop, multiple, muted, novalidate, open,",
  "  playsinline, readonly, required, reversed, selected",
  "]",
  "",
  "void_tags: [area, base, br, col, embed, hr, img, input, link, meta, source, track, wbr]",
  "",
  "raw_text_tags: [option, script, style, textarea, title]"]

def extendedLines : List String := [
  "# Attribute and element tables covering HTML, ARIA and htmx.",
  "hyphen_fallback: true",
  "",
  "suffix_names: [cite, class, data, for, form, label, method, object, open, slot, span, style, title, type]",
  "",
  "namespaces:",
  "  aria-:",
  "    namespace: Aria",
  "    data_alias: false",
  "    names: [",
  "      activedescendant, atomic, autocomplete, braillelabel, brailleroledescription,",
  "      busy, checked, colcount, colindextext, colspan, controls, current,",
  "      describedby, description, details, disabled, errormessage, expanded,",
  "      flowto, haspopup, hidden, invalid, keyshortcuts, label, labelledby, level,",
  "      live, modal, multiline, multiselectable, orientation, owns, placeholder,",
  "      posinset, pressed, readonly, relevant, required, roledescription,",
  "      rowcount, rowindex, rowindextext, rowspan, selected, setsize, sort,",
  "      valuemax, valuemin, valuenow, valuetext",
  "    ]",
  "  hx-:",
  "    namespace: Hx",
  "    data_alias: true",
  "    names: [",
  "      boost, confirm, delete, disable, disinherit, encoding, ext, get, headers,",
  "      history, history-elt, include, indicator, \"on\", params, patch, post,",
  "      preload, preserve, prompt, push-url, put, replace-url, request, select,",
  "      select-oob, sse-connect, sse-swap, swap, swap-oob, sync, target, trigger,",
  "      validate, vals, ws-connect, ws-send",
  "    ]",
  "",
  "variant_names: [",
  "  autocapitalize, autocomplete, capture, crossorigin, decoding, dir, enctype,",
  "  fetchpriority, formenctype, formmethod, hidden, http_equiv, inputmode, kind,",
  "  low, method, preload, referrerpolicy, role, translate, wrap,",
  "  aria-autocomplete, aria-checked, aria-current, aria-haspopup, aria-invalid,",
  "  aria-live, aria-orientation, aria-pressed, aria-relevant, aria-sort",
  "]",
  "",
  "numeric_names: [",
  "  cols, colspan, high, low, maxlength, minlength, optimum, rows, rowspan, span,",
  "  start, tabindex, aria-valuemax, aria-valuemin, aria-valuenow",
  "]",
  "",
  "boolean_names: [",
  "  async, autofocus, autoplay, checked, controls, default, defer, disabled,",
  "  draggable, formnovalidate, ismap, loop, multiple, muted, novalidate, open,",
  "  playsinline, readonly, required, reversed, selected,",
  "  aria-atomic, aria-busy, aria-disabled, aria-modal, aria-multiline,",
  "  aria-multiselectable, aria-readonly, aria-required,",
  "  hx-disable, data-hx-disable, hx-history-elt, data-hx-history-elt,",
  "  hx-preload, data-hx-preload, hx-preserve, data-hx-preserve,",
  "  hx-validate, data-hx-validate, hx-ws-send, data-hx-ws-send",
  "]",
  "",
  "void_tags: [area, base, br, col, embed, hr, img, input, link, meta, source, track, wbr]",
  "",
  "raw_text_tags: [option, script, style, textarea, title]"]

def lines : Preset → List String
  | extended => extendedLines
  | minimal => minimalLines

def document (preset : Preset) : String := String.join (preset.lines.map (· ++ "\n"))

/-! ## Files -/

def fileEnding : String := ".yaml"

def fileName (name : String) : String := name ++ fileEnding

end Preset

instance Installation.standard : Installation where
  presets := ⟨.root, ["usr", "share", "markup-dsl", "presets"]⟩
  entries :=
    let directory : Place := ["usr", "share", "markup-dsl", "presets"]
    [(["usr"], .directory), (["usr", "share"], .directory),
      (["usr", "share", "markup-dsl"], .directory), (directory, .directory)] ++
    Preset.all.map fun preset =>
      (directory ++ [Preset.fileName preset.name], .file (.text preset.document))

end MarkupDsl
