/-
# A bench for copying

Stand-in inputs and one stand-in clipboard, on which latches and copy attempts can be tried.
The clipboard either takes every write or fails each with one fault; an input can be made to
refuse its selection.  The bench keeps a ledger of what happened, in order: what was read,
selected, logged and asked of the clipboard, and which listeners were installed and dropped.
What has been written and which listeners live is read off the ledger.
-/
import PageCompanion.Copying.Attempt
import PageCompanion.Copying.Latch
import PageCompanion.Text.Units

namespace PageCompanion.Copying

/-- What happens on a bench.  Inputs are known by name and listeners by number. -/
inductive Effect where
  | read (input value : String)
  | selected (input : String) (range : UInt32 × UInt32)
  /-- An input refused to select its value. -/
  | selectionRefused (input : String) (fault : Fault)
  | logged (record : Log.Record)
  /-- The clipboard was asked to write a text that is selected on an input so far, and took it
  or did not. -/
  | asked (text : String) (selection : Option (UInt32 × UInt32)) (taken : Bool)
  | installed (input : String) (listener : Nat)
  | dropped (input : String) (listener : Nat)
deriving DecidableEq, Repr

def Effect.written? : Effect → Option String
  | .asked text _ true => some text
  | _ => none

def Effect.record? : Effect → Option Log.Record
  | .logged record => some record
  | _ => none

/-- The listeners of an input that live after an effect, given those that lived before it. -/
def Effect.living (input : String) (before : List Nat) : Effect → List Nat
  | .installed i l => if i = input then before ++ [l] else before
  | .dropped i l => if i = input then before.erase l else before
  | _ => before

structure Field where
  value : String := ""
  /-- The selected range of its text, in UTF-16 code units. -/
  selection : Option (UInt32 × UInt32) := none
  /-- What selecting its text fails with, when it does. -/
  selectFault : Option Fault := none
  latch : Latch Nat := {}

structure Bench where
  /-- The inputs by name; each exists from the start. -/
  fields : String → Field := fun _ => {}
  /-- What every write fails with, when the clipboard is not working. -/
  clipboard : Option Fault := none
  /-- The writes begun and not waited for, the newest first. -/
  pending : List (Except Fault Unit) := []
  nextListener : Nat := 0
  /-- What happened so far, in order. -/
  ledger : List Effect := []

namespace Bench

def happen (b : Bench) (e : Effect) : Bench :=
  { b with ledger := b.ledger ++ [e] }

def setField (b : Bench) (input : String) (f : Field) : Bench :=
  { b with fields := fun i => if i = input then f else b.fields i }

def writes (b : Bench) : List String :=
  b.ledger.filterMap Effect.written?

def living (b : Bench) (input : String) : List Nat :=
  b.ledger.foldl (Effect.living input) []

/-- How often a listener was installed on an input. -/
def installs (b : Bench) (input : String) : Nat :=
  b.ledger.countP fun
    | .installed i _ => i == input
    | _ => false

/-- An input of the bench and its clipboard.  The fate of a write is settled when it begins. -/
def surface (input : String) : Surface Bench (Except Fault Unit) where
  read b := ((b.fields input).value, b.happen (.read input (b.fields input).value))
  selectAll b :=
    let f := b.fields input
    match f.selectFault with
    | some fault => (.error fault, b.happen (.selectionRefused input fault))
    | none =>
      let range := (0, Text.unitLength f.value)
      (.ok (), (b.setField input { f with selection := some range }).happen
        (.selected input range))
  note record b := b.happen (.logged record)
  write text b :=
    let selection := (b.fields input).selection
    match b.clipboard with
    | none => (.ok (), b.happen (.asked text selection true))
    | some fault => (.error fault, b.happen (.asked text selection false))

/-- What became of one copy that was waited for. -/
inductive Outcome where
  | refused (fault : Fault)
  /-- The write was begun and ended so. -/
  | ended (result : Except Fault Unit)

/-- Copy the contents of an input and wait for the end. -/
def copy (b : Bench) (input : String) : Outcome × Bench :=
  let begun := attempt (surface input) b
  match begun.1 with
  | .error fault => (.refused fault, begun.2)
  | .ok result => (.ended result, begun.2)

/-- Copy the contents of an input `n` times over, waiting each time. -/
def copyTimes (b : Bench) (input : String) : Nat → List Outcome × Bench
  | 0 => ([], b)
  | n + 1 =>
    let first := b.copy input
    let later := first.2.copyTimes input n
    (first.1 :: later.1, later.2)

def install (input : String) (b : Bench) : Nat × Bench :=
  (b.nextListener,
    { b with nextListener := b.nextListener + 1 }.happen (.installed input b.nextListener))

/-- One event on a bench. -/
inductive Step where
  /-- From now on the clipboard works, or fails with a fault. -/
  | clipboard (fault : Option Fault)
  /-- The text of an input changes and its selection is lost. -/
  | value (input text : String)
  /-- From now on selecting an input's text works, or fails with a fault. -/
  | selectFault (input : String) (fault : Option Fault)
  | connect (input : String)
  | disconnect (input : String)
  | copy (input : String)
  /-- An input is copied and the write left pending. -/
  | start (input : String)
  /-- The newest pending write is waited for. -/
  | finish
  /-- An input is clicked: each of its living listeners copies it. -/
  | click (input : String)
  | look (input : String)

def Step.input? : Step → Option String
  | .clipboard _ | .finish => none
  | .value i _ | .selectFault i _ | .connect i | .disconnect i | .copy i | .start i | .click i
  | .look i => some i

inductive Reply where
  | silent
  /-- Whether a listener was installed, and how often the installer ran. -/
  | connected (did : Bool) (installs : Nat)
  | disconnected (did : Bool)
  | copied (outcome : Outcome)
  /-- The write is pending, or was not begun. -/
  | started (result : Except Fault Unit)
  /-- How the newest pending write ended, if there was one. -/
  | finished (result : Option (Except Fault Unit))
  | clicked (outcomes : List Outcome)

/-- The bench after a step, and the step's answer. -/
def step (b : Bench) : Step → Reply × Bench
  | .clipboard fault => (.silent, { b with clipboard := fault })
  | .value i text =>
    (.silent, b.setField i { b.fields i with value := text, selection := none })
  | .selectFault i fault => (.silent, b.setField i { b.fields i with selectFault := fault })
  | .connect i =>
    let done := (b.fields i).latch.connect (install i) b
    let after := done.2.2.setField i { done.2.2.fields i with latch := done.2.1 }
    (.connected done.1 (after.installs i - b.installs i), after)
  | .disconnect i =>
    let done := (b.fields i).latch.disconnect
    let opened := b.setField i { b.fields i with latch := done.2 }
    match done.1 with
    | none => (.disconnected false, opened)
    | some listener => (.disconnected true, opened.happen (.dropped i listener))
  | .copy i =>
    let done := b.copy i
    (.copied done.1, done.2)
  | .start i =>
    let begun := attempt (surface i) b
    match begun.1 with
    | .error fault => (.started (.error fault), begun.2)
    | .ok result => (.started (.ok ()), { begun.2 with pending := result :: begun.2.pending })
  | .finish =>
    match b.pending with
    | [] => (.finished none, b)
    | result :: rest => (.finished (some result), { b with pending := rest })
  | .click i =>
    let done := b.copyTimes i (b.living i).length
    (.clicked done.1, done.2)
  | .look _ => (.silent, b)

def steps (b : Bench) (l : List Step) : Bench :=
  l.foldl (fun b s => (b.step s).2) b

/-- The answers to each of a list of steps, each with the bench after it. -/
def trace (b : Bench) : List Step → List (Reply × Bench)
  | [] => []
  | s :: rest =>
    let done := b.step s
    done :: done.2.trace rest

/-- What a step logged, given the bench before and after it. -/
def logged (before after : Bench) : List Log.Record :=
  (after.ledger.drop before.ledger.length).filterMap Effect.record?

/-! ## Reading the bench after a change -/

@[simp] theorem fields_happen (b : Bench) (e : Effect) : (b.happen e).fields = b.fields := rfl

@[simp] theorem ledger_happen (b : Bench) (e : Effect) :
    (b.happen e).ledger = b.ledger ++ [e] := rfl

@[simp] theorem ledger_setField (b : Bench) (input : String) (f : Field) :
    (b.setField input f).ledger = b.ledger := rfl

theorem fields_setField (b : Bench) (input : String) (f : Field) (other : String) :
    (b.setField input f).fields other = if other = input then f else b.fields other := rfl

@[simp] theorem writes_happen (b : Bench) (e : Effect) :
    (b.happen e).writes = b.writes ++ e.written?.toList := by
  cases h : e.written? <;> simp [writes, h]

@[simp] theorem living_happen (b : Bench) (e : Effect) (input : String) :
    (b.happen e).living input = e.living input (b.living input) := by
  simp [living]

end Bench

end PageCompanion.Copying
