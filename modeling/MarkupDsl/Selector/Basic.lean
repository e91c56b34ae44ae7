/-!
# Selectors

A selector is a list of choices, each of them a compound of tests.  An element is selected when it
passes all tests of one of the choices.  What a selector says about other elements, in the past or in
the future of the element, is a test as well.
-/

namespace MarkupDsl.Selector

inductive Comparison where
  | equal
  | beginning
  | ending
  | part
  | word
  | dashed
  deriving DecidableEq, Repr

structure ValueTest where
  comparison : Comparison
  value : List Char
  /-- Whether case does not count. -/
  anyCase : Bool
  deriving DecidableEq, Repr

inductive Relation where
  | descendant
  | child
  | sibling
  | adjacent
  deriving DecidableEq, Repr

/-- The positions `step * n + offset` for all `n` from zero, or `offset` alone. -/
structure Progression where
  step : Int
  offset : Int
  isSingle : Bool
  deriving DecidableEq, Repr

/-- A condition on an element.  Where the answer depends on what was asked before, the test keeps the
place in the selector where it stands. -/
inductive Test where
  | never
  /-- The element has a name, which may be `*` for any; the space of the name may be given. -/
  | type (space : Option String) (name : String)
  | id (value : String)
  | word (value : String)
  | attribute (name : String) (value : Option ValueTest)
  | language (ranges : List String)
  | direction (leftToRight : Bool)
  /-- The element is the only content of the document, blanks and comments apart. -/
  | root
  | scope
  /-- The element has no elements and no text but blanks in it. -/
  | empty
  | defined
  | textless
  /-- The position of the element among its siblings is one of a progression.  Only siblings of the
  same name or siblings selected by `among` may count. -/
  | position (place : Nat) (progression : Progression) (fromEnd sameName : Bool)
      (among : List (List Test))
  | oneOf (choices : List (List Test))
  | noneOf (choices : List (List Test))
  | after (relation : Relation) (tests : List Test)
  | before (place : Nat) (relation : Relation) (tests : List Test)
  /-- One of the texts is found in the element.  The content is taken as the list of its `pieces` of
  own text, or as one text; the texts are looked for in each piece if `own` is set, and for themselves
  otherwise. -/
  | contains (pieces own : Bool) (texts : List (List Char))
  /-- The element passes a test that does not look into frames or out of them. -/
  | framed (test : Test)
  | sendsForm
  /-- No button of the same name is checked in the form of the element. -/
  | noneChecked
  | range (inside : Bool)
  deriving Repr, Inhabited

def Test.isList : Test → Bool
  | .oneOf _ | .noneOf _ | .framed _ => true
  | _ => false

abbrev Compound := List Test

/-! ## Size -/

mutual

def Test.size : Test → Nat
  | .position _ _ _ _ choices | .oneOf choices | .noneOf choices => choicesSize choices
  | .after _ tests | .before _ _ tests => compoundSize tests
  | .framed test => test.size
  | .never | .type .. | .id _ | .word _ | .attribute .. | .language _ | .direction _ | .root
  | .scope | .empty | .defined | .textless | .contains .. | .sendsForm | .noneChecked | .range _ => 0

def compoundSize : List Test → Nat
  | [] => 1
  | test :: tests => test.size + compoundSize tests

def choicesSize : List (List Test) → Nat
  | [] => 0
  | choice :: choices => compoundSize choice + choicesSize choices

end

def mostCompounds : Nat := 10000

/-! ## Errors -/

/-- Why a text is no selector. -/
inductive Error where
  | malformed
  /-- A construct that is known but not supported. -/
  | unsupported
  /-- An escape names a character that does not exist. -/
  | noSuchCharacter
  | numberTooLong
  | tooLarge
  deriving DecidableEq, Repr

/-- Why a test cannot be decided. -/
inductive Undecided where
  | tooFar
  /-- The weeks of a year cannot be counted, because it is not between 1000 and 9999. -/
  | noSuchYear
  | numberTooLong
  /-- An input is asked for its bounds, but its kind is not written. -/
  | noKind
  deriving DecidableEq, Repr

end MarkupDsl.Selector
