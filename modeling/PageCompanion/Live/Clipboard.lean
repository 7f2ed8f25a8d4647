/-
# Writing to the navigator's clipboard

The clipboard of a page may be missing, may be any other value, and its write function may do
anything.  `beginWrite` classifies all of it: either the clipboard is not there and nothing is
called, or its write function is called once, and the write fails at once or has a promise to
wait for.  `Pending.poll` looks whether a write has ended.
-/
import PageCompanion.Dom.Page
import PageCompanion.Fault

namespace PageCompanion.Live

open Dom (Page)
open Script (CallResult Fate Value)

/-- A write that was begun. -/
inductive Pending where
  /-- It has failed already. -/
  | failed (fault : Fault)
  /-- It ends when the promise of this number is settled. -/
  | awaits (promise : Nat)
deriving DecidableEq, Repr

/-- The property of a clipboard that holds its write function. -/
def writeProperty : String := "writeText"

/-- A call of a write function, with what it gives. -/
def callWrite (p : Page) (receiver : Value) (text : String) (recorded : Bool) :
    CallResult Value → Pending × Page
  | .throws thrown =>
    (.failed (.clipboardRejected (.reported thrown.describe)), p.call receiver text recorded)
  | .returns _ => (.failed (.clipboardRejected .noPromise), p.call receiver text recorded)
  | .promises fate =>
    let called := p.call receiver text recorded
    (.awaits p.promises.length, { called with promises := p.promises ++ [fate] })

/-- Begin to write a text to the clipboard of a page. -/
def beginWrite (p : Page) (text : String) : Pending × Page :=
  match p.clipboard with
  | .error _ => (.failed .clipboardUnavailable, p)
  | .ok clipboard =>
    match clipboard.get writeProperty with
    | .ok (.object { kind := .function recorded result, .. }) =>
      callWrite p clipboard text recorded result
    | _ => (.failed .clipboardUnavailable, p)

/-- How a write ended, if it has. -/
def Pending.poll (p : Page) : Pending → Option (Except Fault Unit)
  | .failed fault => some (.error fault)
  | .awaits promise =>
    match p.promises[promise]? with
    | some (.fulfilled _) => some (.ok ())
    | some (.rejected reason) => some (.error (.clipboardRejected (.reported reason.describe)))
    | _ => none

end PageCompanion.Live
