/-!
# Markup events

A reply is markup: elements with attributes, and character data between them. It is read as a
stream of **events**, one for every opening, every piece of text and every closing, and no
document tree is ever built. An element written as `<have_credentials/>` gives an opening and
a closing; names are local names in their written letter case.
-/

namespace DaemonReply.Markup

/-- An attribute of an opening tag, its references already decoded. -/
structure Attribute where
  name : String
  value : String
  deriving DecidableEq, Repr, Inhabited

/-- What the reader of a reply learns, one step at a time. -/
inductive Event where
  /-- An element opens. -/
  | opened (name : String) (attributes : List Attribute)
  /-- Character data; one run of it may come in several pieces. -/
  | text (content : String)
  /-- An element closes. -/
  | closed (name : String)
  deriving DecidableEq, Repr, Inhabited

namespace Event

/-- The element's name; text has none. -/
def name? : Event → Option String
  | opened name _ => some name
  | text _ => none
  | closed name => some name

/-- Whether an element opens here. -/
def isOpen : Event → Bool
  | opened .. => true
  | _ => false

/-- Whether an element closes here. -/
def isClose : Event → Bool
  | closed _ => true
  | _ => false

@[simp] theorem name?_opened (name : String) (attributes : List Attribute) :
    (opened name attributes).name? = some name := rfl

@[simp] theorem name?_text (content : String) : (text content).name? = none := rfl

@[simp] theorem name?_closed (name : String) : (closed name).name? = some name := rfl

@[simp] theorem isOpen_opened (name : String) (attributes : List Attribute) :
    (opened name attributes).isOpen = true := rfl

@[simp] theorem isOpen_text (content : String) : (text content).isOpen = false := rfl

@[simp] theorem isOpen_closed (name : String) : (closed name).isOpen = false := rfl

@[simp] theorem isClose_opened (name : String) (attributes : List Attribute) :
    (opened name attributes).isClose = false := rfl

@[simp] theorem isClose_text (content : String) : (text content).isClose = false := rfl

@[simp] theorem isClose_closed (name : String) : (closed name).isClose = true := rfl

end Event

end DaemonReply.Markup
