/-
# Reading a command line

Arguments are read from left to right.  An option's value is attached to it (`--opt=value`,
`-fvalue`, `-f=value`) or is the next argument, unless that begins with a dash; short flags may
stand together.  After `--` every argument is a cookie string, of which there can be one.

An option without an attached value, and a cookie string, is not taken at once but put aside.
It is taken when the next option or cookie string is, or at the end, and only then is it
checked.  An argument that is no option, or a flag with a value, is refused at once, so it is
reported before what is wrong with the item put aside.
-/
import PageCompanion.Preview.Invocation
import PageCompanion.Text.Pieces

namespace PageCompanion.Preview

open Text (firstCut)

/-- Why the reading of a command line ends without an invocation. -/
inductive Stop where
  | help
  | version
  | usage (fault : UsageFault)
deriving DecidableEq, Repr

/-- An item that was taken, with its value unless it is a flag. -/
structure Given where
  item : Item
  value : Option String
deriving DecidableEq, Repr

/-- How far a command line has been read. -/
structure Progress where
  /-- The items taken so far, in order. -/
  given : List Given := []
  /-- The item put aside, with its value if that has come. -/
  aside : Option Given := none
  /-- `--` has come by. -/
  literal : Bool := false
  hasCookie : Bool := false
deriving DecidableEq, Repr

namespace Progress

def fail {α : Type} (fault : UsageFault) : Except Stop α :=
  .error (.usage fault)

/-- Take an item.  It must have its value and must not have been taken before, and a file must
have a name. -/
def accept (given : List Given) (g : Given) : Except Stop (List Given) :=
  if g.item.takesValue && g.value.isNone then fail (.valueRequired g.item)
  else if g.item = .help then .error .help
  else if g.item = .version then .error .version
  else if given.any (·.item = g.item) then fail (.repeated g.item)
  else if g.item = .file ∧ g.value = some "" then fail (.valueRequired g.item)
  else .ok (given ++ [g])

/-- Take the item that was put aside. -/
def settle (p : Progress) : Except Stop Progress :=
  match p.aside with
  | none => .ok p
  | some g =>
    match accept p.given g with
    | .error stop => .error stop
    | .ok given => .ok { p with given, aside := none }

/-- Take the item that was put aside, and then another. -/
def take (p : Progress) (g : Given) : Except Stop Progress := do
  let settled ← p.settle
  let given ← accept settled.given g
  return { settled with given }

/-- Take the item that was put aside, and put another aside. -/
def defer (p : Progress) (g : Given) : Except Stop Progress := do
  let settled ← p.settle
  return { settled with aside := some g }

/-- Read an argument that is no option: the value of the option put aside, if that waits for one
still, or else the cookie string. -/
def readWord (p : Progress) (word : String) : Except Stop Progress :=
  match p.literal, p.aside with
  | false, some ⟨item, none⟩ => .ok { p with aside := some ⟨item, some word⟩ }
  | _, _ =>
    if p.hasCookie then fail (.unexpectedArgument word)
    else { p with hasCookie := true }.defer ⟨.cookie, some word⟩

/-- Read a long option, given without its two dashes. -/
def readLong (p : Progress) (text : List Char) : Except Stop Progress :=
  let name := String.ofList (firstCut '=' text).1
  let attached := (firstCut '=' text).2.map String.ofList
  match Item.ofLong? name with
  | none => fail (.unexpectedArgument ("--" ++ name))
  | some item =>
    match item.takesValue, attached with
    | true, none => p.defer ⟨item, none⟩
    | false, some value => fail (.unexpectedValue value item)
    | _, value => p.take ⟨item, value⟩

/-- Read short options that stand together, given without their dash. -/
def readShort (p : Progress) : List Char → Except Stop Progress
  | [] => .ok p
  | c :: rest =>
    match Item.ofShort? c with
    | none => fail (.unexpectedArgument (String.ofList ['-', c]))
    | some item =>
      if item.takesValue then
        match rest with
        | [] => p.defer ⟨item, none⟩
        | '=' :: value => p.take ⟨item, some (String.ofList value)⟩
        | value => p.take ⟨item, some (String.ofList value)⟩
      else
        match p.take ⟨item, none⟩ with
        | .error stop => .error stop
        | .ok taken => taken.readShort rest

def read (p : Progress) (argument : String) : Except Stop Progress :=
  if p.literal then p.readWord argument
  else
    match argument.toList with
    | ['-', '-'] => .ok { p with literal := true }
    | '-' :: '-' :: text => p.readLong text
    | '-' :: c :: text => p.readShort (c :: text)
    | _ => p.readWord argument

def readAll (p : Progress) : List String → Except Stop Progress
  | [] => .ok p
  | argument :: rest =>
    match p.read argument with
    | .error stop => .error stop
    | .ok next => next.readAll rest

end Progress

def Invocation.add (i : Invocation) (g : Given) : Invocation :=
  let value := g.value.getD ""
  match g.item with
  | .cookie => { i with cookie := some value }
  | .file => { i with file := some value }
  | .cookieName => { i with cookieName := value }
  | .headerName => { i with headerName := value }
  | .omitMissing => { i with omitMissing := true }
  | .dump => { i with dump := true }
  | .verbose => { i with verbose := true }
  | .help | .version => i

/-- The invocation that consists of some items. -/
def Invocation.ofGiven (given : List Given) : Invocation :=
  given.foldl Invocation.add {}

/-- The items of which only one can be given, in the order in which they were. -/
def sourcesGiven (given : List Given) : List Item :=
  (given.map (·.item)).filter fun i => i = .cookie || i = .file

/-- The invocation that a command line states. -/
def Invocation.parse (arguments : List String) : Except Stop Invocation := do
  let all ← ({} : Progress).readAll arguments
  let final ← all.settle
  match sourcesGiven final.given with
  | first :: second :: _ => Progress.fail (.conflict first second)
  | _ => return Invocation.ofGiven final.given

end PageCompanion.Preview
