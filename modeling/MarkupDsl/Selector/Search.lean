import MarkupDsl.Html.Location
import MarkupDsl.Selector.Basic
import MarkupDsl.Selector.Language

/-!
# Searches

A search asks one element after another.  It keeps in mind which rows of siblings were asked about
what stands behind them, and which documents told no language, because later answers hang on that.
-/

namespace MarkupDsl.Selector

open Html

/-- That siblings were asked by a test about those behind them.  The sibling that was asked first is
kept in mind. -/
structure Question where
  place : Nat
  row : List Nat
  number : Nat
  counts : Bool

structure Notes where
  questions : List Question
  /-- The addresses of the outermost elements in whose documents no language was found. -/
  silent : List (List Nat)

/-- A step of a search.  It may find a test that cannot be decided. -/
abbrev Search (α : Type) := StateT Notes (Except Undecided) α

namespace Search

def result {α : Type} (search : Search α) : Except Undecided α := search.run' ⟨[], []⟩

/-- Note that a sibling is asked.  The answer tells which of its row was asked first, if one was asked
earlier. -/
def ask (place : Nat) (here : Location) (counts : Bool) : Search (Option Question) := do
  let row := (here.parent?.map Location.address).getD []
  let notes ← get
  match notes.questions.find? fun question => question.place == place && question.row == row with
  | some question => return some question
  | none =>
    let question := ⟨place, row, here.before.length, counts⟩
    set { notes with questions := question :: notes.questions }
    return none

/-- The language of an element.  Where none is written, the head of the document tells it; if that
does not either, there is no language at first, and an empty one whenever the document is asked
again. -/
def languageOf? (here : Location) : Search (Option String) := do
  match inheritedLanguage? here with
  | some language => return some language
  | none =>
    let outermost := outermostOf here
    let notes ← get
    if notes.silent.contains outermost.address then return some ""
    match headOf? outermost with
    | none => return none
    | some head =>
      let language? := headLanguage? head
      if language?.isNone then
        set { notes with silent := outermost.address :: notes.silent }
      return language?

end Search

end MarkupDsl.Selector
