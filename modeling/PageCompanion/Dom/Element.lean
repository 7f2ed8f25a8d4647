/-
# Elements

An element has a tag, attributes and, if it is an input, a text.  The attributes keep the order
in which they were first set; setting one again changes its value only.
-/
namespace PageCompanion.Dom

/-- An element: its tag, its attributes and its text. -/
structure Element where
  /-- The name it was created under. -/
  label : String
  tag : String
  /-- Its attributes, in the order in which they were first set. -/
  attributes : List (String × String) := []
  value : String := ""
deriving DecidableEq, Repr, Inhabited

namespace Element

/-- Only inputs can be copied. -/
def isInput (e : Element) : Bool :=
  e.tag == "input"

def attribute? (e : Element) (name : String) : Option String :=
  (e.attributes.find? fun a => a.1 == name).map (·.2)

/-- A list of attributes with one of them set, at its old place if it has one. -/
def putAttribute (name value : String) : List (String × String) → List (String × String)
  | [] => [(name, value)]
  | a :: rest => if a.1 = name then (name, value) :: rest else a :: putAttribute name value rest

def setAttribute (e : Element) (name value : String) : Element :=
  { e with attributes := putAttribute name value e.attributes }

def removeAttribute (e : Element) (name : String) : Element :=
  { e with attributes := e.attributes.filter fun a => a.1 != name }

/-- A new element with attributes set one after another. -/
def make (label tag : String) (attributes : List (String × String)) (value : String) : Element :=
  attributes.foldl (fun e a => e.setAttribute a.1 a.2) { label, tag, value }

end Element

end PageCompanion.Dom
