/-!
# Bindings

The emitted code can be wrapped as the right-hand side of a binding, with the modules of the target
opened.
-/

namespace MarkupDsl.Binding

/-- Whether a character can begin the name of a value. -/
def isStart (c : Char) : Bool := c.isLower || c == '_'

/-- Whether a character can stand inside the name of a value. -/
def isInner (c : Char) : Bool := c.isAlphanum || c == '_' || c == '\''

def withoutFinalLineFeed (cs : List Char) : List Char :=
  if cs.getLast? = some '\n' then cs.dropLast else cs

/-- Whether a text has the form of a value name; one line feed may follow it. -/
def hasNameForm (cs : List Char) : Bool :=
  match withoutFinalLineFeed cs with
  | [] => false
  | c :: rest => isStart c && rest.all isInner

/-- Whether a text is accepted as the name of a binding: the lone underscore is not. -/
def accepts (name : String) : Bool := hasNameForm name.toList && name != "_"

/-- A name that no binding can have. -/
structure InvalidName where
  name : String
  deriving DecidableEq, Repr

def InvalidName.message (error : InvalidName) : String :=
  "'" ++ error.name ++ "' is not a valid OCaml value name"

def render (body name : String) : Except InvalidName String :=
  if accepts name then
    .ok ("let " ++ name ++ " =\n  let open Dream_html in\n  let open HTML in\n  " ++ body ++ "\n")
  else .error ⟨name⟩

end MarkupDsl.Binding
