/-
# Pages

A page is what the companion runs on: a window, a document with elements below it, its cookies,
a clipboard and a constructor of custom events.  Any of them can stand below any other, and what
is in the document is what stands below it.  Everything on a page can change at any time;
`Page.Change` is the list of ways.  Elements are numbered as they are made and are never
forgotten, since one that was taken out of the document can be put back.

The clipboard is any value of the page's scripts, or cannot even be read.  The page keeps every
call that is made to a clipboard's write function, and every promise that such a call gave.
-/
import PageCompanion.Dom.Links
import PageCompanion.Dom.Selector
import PageCompanion.Script.Value
import PageCompanion.Text.Units

namespace PageCompanion.Dom

open Script (CallResult Fate Value)

/-- A place by its name on the page. -/
inductive Spot where
  | window
  | document
  /-- The body of the document, or the document when there is none. -/
  | body
  /-- The newest element of this name, or the document when there is none. -/
  | element (label : String)
deriving DecidableEq, Repr

/-- A call to the write function of a clipboard. -/
structure WriteCall where
  /-- The clipboard that the function was called on. -/
  receiver : Value
  text : String
  /-- The element selected last at that time, and the length of its text when it was. -/
  selected : Option (Nat × UInt32)
  /-- The function keeps a record of its calls. -/
  recorded : Bool

/-- A clipboard with a write function of the page's own, which records its calls. -/
def recordingClipboard (result : CallResult Value) : Value :=
  .object { properties := [("writeText", .object { kind := .function true result })] }

structure Page where
  elements : List Element := [{ label := "body", tag := "body" }]
  /-- Who stands below whom. -/
  links : Links := ⟨[⟨.node 0, .document⟩], by simp⟩
  /-- The number of the document's body. -/
  body? : Option Nat := some 0
  /-- The names of the elements with their numbers, the newest first. -/
  names : List (String × Nat) := []
  /-- The document is an HTML document, so that it has cookies. -/
  isHtml : Bool := true
  /-- What reading the document's cookies gives or throws. -/
  cookie : Except Value String := .ok ""
  /-- What reading the navigator's clipboard gives or throws. -/
  clipboard : Except Value Value :=
    .ok (recordingClipboard (.promises (.fulfilled .undefined)))
  /-- What the constructor of custom events throws, when it does. -/
  eventFault : Option Value := none
  /-- The promises that calls to write functions gave. -/
  promises : List (Fate Value) := []
  /-- The calls to write functions, the oldest first. -/
  calls : List WriteCall := []
  /-- The element selected last, with the length of its text when it was. -/
  selected : Option (Nat × UInt32) := none

namespace Page

/-! ## Looking at a page -/

def find? (p : Page) (label : String) : Option Nat :=
  (p.names.find? fun e => e.1 == label).map (·.2)

def place (p : Page) : Spot → Place
  | .window => .window
  | .document => .document
  | .body => p.body?.elim .document .node
  | .element label => (p.find? label).elim .document .node

def node? (p : Page) (spot : Spot) : Option Nat :=
  (p.place spot).node?

def element (p : Page) (n : Nat) : Element :=
  p.elements[n]?.getD default

def isInput (p : Page) (n : Nat) : Bool :=
  (p.element n).isInput

def isConnected (p : Page) (n : Nat) : Bool :=
  (p.links.above (.node n)).contains .document

/-- The elements of the document, each once, in tree order. -/
def inDocument (p : Page) : List Nat :=
  ((p.links.below .document).filterMap Place.node?).eraseDups

/-- The elements of the document that match a selector, in tree order. -/
def select (p : Page) (s : Selector) : List Nat :=
  p.inDocument.filter fun n => s.holds (p.element n)

/-- The exception that the page throws on a selector it cannot read. -/
def selectorError : Value :=
  .ofError "SyntaxError" "not a valid selector"

/-- The elements of the document that match a selector as it is written, or an exception. -/
def query (p : Page) (selector : String) : Except Value (List Nat) :=
  match Selector.ofText? selector with
  | none => .error selectorError
  | some s => .ok (p.select s)

/-- The places that a bubbling event sent to a place comes by, in order: the place itself and
those above it, and the window when the topmost is the document. -/
def path (p : Page) (target : Place) : List Place :=
  let chain := (target :: p.links.above target).eraseDups
  -- the window is above the document, but no link says so
  if chain.getLast? = some .document then chain ++ [.window] else chain

/-- The attributes of the body, or none without a body. -/
def bodyAttributes (p : Page) : List (String × String) :=
  p.body?.elim [] fun n => (p.element n).attributes

/-- The calls that a write function of the page's own recorded. -/
def recordedCalls (p : Page) : List WriteCall :=
  p.calls.filter (·.recorded)

/-! ## Changing a page -/

def modify (p : Page) (n : Nat) (f : Element → Element) : Page :=
  { p with elements := p.elements.modify n f }

/-- The page with a new element, which stands below nothing. -/
def create (p : Page) (e : Element) : Page :=
  { p with
    elements := p.elements ++ [e]
    names := (e.label, p.elements.length) :: p.names }

/-- The page without its body, which stands below nothing then. -/
def removeBody (p : Page) : Page :=
  match p.body? with
  | none => p
  | some n => { p with links := p.links.cut (.node n), body? := none }

/-- The page with a new body that has these attributes and nothing below it. -/
def putBody (p : Page) (attributes : List (String × String)) : Page :=
  { p with
    elements := p.elements ++ [Element.make "body" "body" attributes ""]
    links := p.links.put (.node p.elements.length) .document
    body? := some p.elements.length }

/-- Settle a promise that is open; a promise that is settled stays as it is. -/
def settleFate (fate : Fate Value) : Fate Value → Fate Value
  | .open => fate
  | settled => settled

/-- One change of a page. -/
inductive Change where
  /-- The body goes, and a new one with these attributes takes its place. -/
  | body (attributes : Option (List (String × String)))
  /-- Reading the cookies gives this from now on. -/
  | cookie (gives : Except Value String)
  /-- Reading the clipboard gives this from now on. -/
  | clipboard (gives : Except Value Value)
  /-- The constructor of custom events throws this from now on, or works again. -/
  | eventFault (thrown : Option Value)
  /-- A new element is made, which stands below nothing. -/
  | create (element : Element)
  /-- A place becomes the last child of another. -/
  | append (spot parent : Spot)
  /-- A place leaves its parent. -/
  | remove (spot : Spot)
  | value (spot : Spot) (text : String)
  | setAttribute (spot : Spot) (name value : String)
  | removeAttribute (spot : Spot) (name : String)
  /-- A promise is settled, if it is open. -/
  | settle (promise : Nat) (fate : Fate Value)

/-- The page with the element at a spot changed, if there is one. -/
def modifyAt (p : Page) (spot : Spot) (f : Element → Element) : Page :=
  (p.node? spot).elim p fun n => p.modify n f

def change (p : Page) : Change → Page
  | .body none => p.removeBody
  | .body (some attributes) => p.removeBody.putBody attributes
  | .cookie gives => { p with cookie := gives }
  | .clipboard gives => { p with clipboard := gives }
  | .eventFault thrown => { p with eventFault := thrown }
  | .create element => p.create element
  | .append spot parent => { p with links := p.links.put (p.place spot) (p.place parent) }
  | .remove spot => { p with links := p.links.cut (p.place spot) }
  | .value spot text => p.modifyAt spot fun e => { e with value := text }
  | .setAttribute spot name value => p.modifyAt spot (·.setAttribute name value)
  | .removeAttribute spot name => p.modifyAt spot (·.removeAttribute name)
  | .settle promise fate => { p with promises := p.promises.modify promise (settleFate fate) }

/-! ## Using a page -/

def selectAll (p : Page) (n : Nat) : Page :=
  { p with selected := some (n, Text.unitLength (p.element n).value) }

/-- The call of a write function, kept. -/
def call (p : Page) (receiver : Value) (text : String) (recorded : Bool) : Page :=
  { p with calls := p.calls ++ [⟨receiver, text, p.selected, recorded⟩] }

theorem isConnected_iff {p : Page} {n : Nat} :
    p.isConnected n = true ↔ Place.document ∈ p.links.above (.node n) := by
  simp [isConnected]

/-- The elements of the document are those that have it above them. -/
theorem mem_inDocument {p : Page} {n : Nat} : n ∈ p.inDocument ↔ p.isConnected n = true := by
  rw [isConnected_iff, ← Links.mem_below_iff, inDocument, List.mem_eraseDups, List.mem_filterMap]
  constructor
  · rintro ⟨q, hq, hn⟩
    cases q <;> simp_all [Place.node?]
  · exact fun h => ⟨.node n, h, rfl⟩

theorem mem_select {p : Page} {s : Selector} {n : Nat} :
    n ∈ p.select s ↔ p.isConnected n = true ∧ s.holds (p.element n) = true := by
  simp [select, mem_inDocument]

end Page

end PageCompanion.Dom
