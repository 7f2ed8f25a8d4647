/-
# Values of a page's scripts

What the page hands over comes from its scripts: the detail of an event, the clipboard, the
value that an exception carries.  A value is a primitive or an object; an object is plain, an
error or a function, and has properties besides.  Reading a property may throw.  Writing one may
throw as well, or may have no effect at all.  A function is known by its answer to a call: it
returns, it throws, or it gives a promise.

The name and the message of an error are texts, as the bindings to the scripts give them, and can
always be read.  They belong to the error itself, so that every error can be put in words.
-/
namespace PageCompanion.Script

/-- What becomes of a promise. -/
inductive Fate (α : Type) where
  | fulfilled (value : α)
  | rejected (reason : α)
  | open
deriving Repr

/-- What a call to a function gives. -/
inductive CallResult (α : Type) where
  | returns (value : α)
  | throws (value : α)
  /-- A new promise, with what has become of it so far. -/
  | promises (fate : Fate α)
deriving Repr

/-- What becomes of a write to a property. -/
inductive Writing (α : Type) where
  /-- The property has what was written. -/
  | kept
  /-- Nothing changes, and nothing is thrown. -/
  | ignored
  | throws (value : α)
deriving Repr

/-- The property by which a script reaches what an object inherits from. -/
def heritage : String := "__proto__"

/-- What becomes of a text that is written to an object with nothing special about it.  An object
inherits from objects only, so a text is ignored as what to inherit from. -/
def Writing.ordinary {α : Type} (name : String) : Writing α :=
  if name = heritage then .ignored else .kept

/-- What sort of object an object is. -/
inductive Kind (α : Type) where
  | plain
  /-- An error with its name and its message. -/
  | error (name message : String)
  /-- A function, which may keep a record of its calls. -/
  | function (recorded : Bool) (result : CallResult α)
deriving Repr

/-- An object over values `α`. -/
structure Object (α : Type) where
  kind : Kind α := .plain
  /-- The properties by name, the oldest first, without the name and the message of an error. -/
  properties : List (String × α) := []
  /-- A property whose reading throws, and what it throws. -/
  getTrap : Option (String × α) := none
  /-- What becomes of a text that is written to the property of a name. -/
  writing : String → Writing α := .ordinary

/-- A value of a page's scripts. -/
inductive Value where
  | undefined
  | null
  | bool (b : Bool)
  | number (n : Int)
  | string (s : String)
  | object (o : Object Value)

instance : Inhabited Value := ⟨.undefined⟩

/-! ## Errors -/

namespace Kind

variable {α : Type} {kind changed : Kind α} {name text : String}

/-- The text that an error has under a name. -/
def text? (kind : Kind α) (name : String) : Option String :=
  match kind with
  | .error own message =>
    if name = "name" then some own else if name = "message" then some message else none
  | _ => none

/-- An error with another text under a name that it has a text under. -/
def withText? (kind : Kind α) (name text : String) : Option (Kind α) :=
  match kind with
  | .error own message =>
    if name = "name" then some (.error text message)
    else if name = "message" then some (.error own text)
    else none
  | _ => none

theorem withText?_eq_none_iff : kind.withText? name text = none ↔ kind.text? name = none := by
  cases kind with
  | error own message =>
    rw [withText?, text?]
    split <;> grind
  | _ => simp [withText?, text?]

theorem text?_of_withText? (h : kind.withText? name text = some changed) (other : String) :
    changed.text? other = if name = other then some text else kind.text? other := by
  cases kind with
  | error own message =>
    rw [withText?] at h
    split at h <;> grind [text?]
  | _ => cases h

end Kind

/-! ## Properties -/

namespace Object

variable {α : Type}

def isFunction (o : Object α) : Bool :=
  match o.kind with
  | .function .. => true
  | _ => false

/-- A list of properties with one of them given a value, at its old place if it has one. -/
def putProperty (name : String) (value : α) : List (String × α) → List (String × α)
  | [] => [(name, value)]
  | p :: rest => if p.1 = name then (name, value) :: rest else p :: putProperty name value rest

theorem find?_putProperty (name : String) (value : α) (l : List (String × α)) (other : String) :
    ((putProperty name value l).find? fun p => p.1 == other).map (·.2)
      = if name = other then some value else (l.find? fun p => p.1 == other).map (·.2) := by
  induction l with
  | nil => by_cases h : name = other <;> simp [putProperty, h]
  | cons p rest ih =>
    by_cases hp : p.1 = name
    · by_cases h : name = other
      · simp [putProperty, hp, h]
      · have hpo : p.1 ≠ other := fun e => h (hp ▸ e)
        simp [putProperty, hp, h]
    · by_cases hpo : p.1 = other
      · have h : name ≠ other := fun e => hp (hpo.trans e.symm)
        have ho : other ≠ name := h.symm
        simp [putProperty, hpo, h, ho]
      · have step : ((putProperty name value (p :: rest)).find? fun q => q.1 == other)
            = (putProperty name value rest).find? fun q => q.1 == other := by
          simp [putProperty, hp, hpo]
        rw [step, ih]
        simp [hpo]

/-- What an object has under a name. -/
def find? (o : Object Value) (name : String) : Option Value :=
  match o.kind.text? name with
  | some text => some (.string text)
  | none => (o.properties.find? fun p => p.1 == name).map (·.2)

/-- The object with a text under a name. -/
def put (o : Object Value) (name text : String) : Object Value :=
  match o.kind.withText? name text with
  | some kind => { o with kind }
  | none => { o with properties := putProperty name (.string text) o.properties }

/-- Write a text to a property, which may throw. -/
def set (o : Object Value) (name text : String) : Except Value (Object Value) :=
  match o.writing name with
  | .kept => .ok (o.put name text)
  | .ignored => .ok o
  | .throws thrown => .error thrown

/-- What reading a property throws, if it does. -/
def trap? (o : Object Value) (name : String) : Option Value :=
  match o.kind.text? name, o.getTrap with
  | none, some (trapped, thrown) => if trapped = name then some thrown else none
  | _, _ => none

/-- Read a property, which may throw; a property that is not there is undefined. -/
def get (o : Object Value) (name : String) : Except Value Value :=
  match o.trap? name with
  | some thrown => .error thrown
  | none => .ok ((o.find? name).getD .undefined)

/-- A written property has the written text, and the others keep their values. -/
theorem find?_put (o : Object Value) (name text other : String) :
    (o.put name text).find? other = if name = other then some (.string text) else o.find? other := by
  cases hkind : o.kind.withText? name text with
  | some changed =>
    have htext := Kind.text?_of_withText? hkind other
    simp only [put, hkind, find?, htext]
    by_cases h : name = other <;> simp [h]
  | none =>
    have hown : o.kind.text? name = none := Kind.withText?_eq_none_iff.mp hkind
    simp only [put, hkind, find?, find?_putProperty]
    by_cases h : name = other
    · simp [← h, hown]
    · simp [h]

@[simp] theorem writing_put (o : Object Value) (name text : String) :
    (o.put name text).writing = o.writing := by
  rw [put]
  split <;> rfl

@[simp] theorem getTrap_put (o : Object Value) (name text : String) :
    (o.put name text).getTrap = o.getTrap := by
  rw [put]
  split <;> rfl

end Object

namespace Value

/-- A new error with a name and a message. -/
def ofError (name message : String) : Value :=
  .object { kind := .error name message }

/-- What is thrown when a property of a primitive is asked for. -/
def notAnObject : Value :=
  ofError "TypeError" "not an object"

/-- An error in words. -/
def errorText (name message : String) : String :=
  name ++ ": " ++ message

/-- Read a property of any value, which may throw. -/
def get (v : Value) (name : String) : Except Value Value :=
  match v with
  | .object o => o.get name
  | _ => .error notAnObject

/-- The object that a value is; a function does not count as one. -/
def asObject? : Value → Option (Object Value)
  | .object o => if o.isFunction then none else some o
  | _ => none

/-- A value as it is shown to someone who looks for a mistake. -/
def debugText : Value → String
  | .undefined => "JsValue(undefined)"
  | .null => "JsValue(null)"
  | .bool b => s!"JsValue({b})"
  | .number n => s!"JsValue({n})"
  | .string s => "JsValue(\"" ++ s ++ "\")"
  | .object o =>
    match o.kind with
    | .plain => "JsValue(Object)"
    | .error name message => "JsValue(" ++ errorText name message ++ ")"
    | .function .. => "JsValue(Function)"

/-- A thrown value for people to read: an error by its name and message, a text as it is. -/
def describe (v : Value) : String :=
  match v with
  | .string s => s
  | .object o =>
    match o.kind with
    | .error name message => errorText name message
    | _ => v.debugText
  | _ => v.debugText

end Value

end PageCompanion.Script
