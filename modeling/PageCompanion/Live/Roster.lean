/-
# Rosters

A roster keeps the inputs that copy themselves on a click, each with a latch for its listener.
`Roster.scan` brings it up to date with the page: inputs that are no longer in the document are
released, and inputs of the document that match the roster's selector and are not on the roster
are attached, in tree order.  Scanning acts on the roster and on the listeners together, so that
an entry and its listener come and go as one.
-/
import PageCompanion.Copying.Latch
import PageCompanion.Fault
import PageCompanion.Live.Listener

namespace PageCompanion.Live

open Copying (Attachment Latch)
open Dom (Page Place)

/-- An input on a roster. -/
structure Entry where
  input : Nat
  /-- The holder of its click listener. -/
  latch : Latch Nat
deriving DecidableEq, Repr

/-- The inputs that copy themselves on a click. -/
structure Roster where
  /-- The selector of the inputs, as it is written. -/
  selector : String
  /-- The inputs that are attached, the oldest first. -/
  entries : List Entry := []
deriving DecidableEq, Repr

namespace Roster

def holds (r : Roster) (input : Nat) : Bool :=
  r.entries.any (·.input == input)

def size (r : Roster) : Nat :=
  r.entries.length

/-- Whether an input has its listener from this roster. -/
def stateOf (r : Roster) (input : Nat) : Attachment :=
  match r.entries.find? (·.input == input) with
  | some e => e.latch.state
  | none => .unattached

/-! ## Releasing -/

/-- The listeners without the one that an entry holds. -/
def unlatch (ls : Listeners) (e : Entry) : Listeners :=
  match e.latch.disconnect.1 with
  | some id => ls.remove id
  | none => ls

/-- Keep the entries whose inputs satisfy a condition, and remove the listeners of the others. -/
def keep (keeps : Nat → Bool) (r : Roster) (ls : Listeners) : Roster × Listeners :=
  ({ r with entries := r.entries.filter fun e => keeps e.input },
    (r.entries.filter fun e => !keeps e.input).foldl unlatch ls)

def clear (r : Roster) (ls : Listeners) : Roster × Listeners :=
  r.keep (fun _ => false) ls

/-! ## Attaching -/

/-- Add an input to the roster of a number, with a new listener at the input. -/
def attach (id : Nat) (r : Roster) (ls : Listeners) (input : Nat) : Roster × Listeners :=
  let connected := ({} : Latch Nat).connect
    (fun ls => ls.add (.node input) (.copy id input)) ls
  ({ r with entries := r.entries ++ [⟨input, connected.2.1⟩] }, connected.2.2)

/-- What is said of a match that cannot be copied. -/
def mismatchMessage (r : Roster) : String :=
  s!"'{r.selector}' matched a non-input element; skipped"

/-- Go through the elements that match: attach the inputs that are not on the roster yet, and
report the elements that are not inputs.  The answer counts the inputs attached. -/
def attachAll (id : Nat) (isInput : Nat → Bool) (r : Roster) (ls : Listeners) :
    List Nat → Nat × Roster × Listeners × List Log.Record
  | [] => (0, r, ls, [])
  | n :: rest =>
    if !isInput n then
      let later := attachAll id isInput r ls rest
      (later.1, later.2.1, later.2.2.1, Log.warning r.mismatchMessage :: later.2.2.2)
    else if r.holds n then attachAll id isInput r ls rest
    else
      let attached := attach id r ls n
      let later := attachAll id isInput attached.1 attached.2 rest
      (later.1 + 1, later.2)

/-! ## Scanning -/

/-- What is said of inputs that were released, if there were any. -/
def releaseReport (released : Nat) : List Log.Record :=
  if released = 0 then [] else [Log.debugging s!"released {released} disconnected inputs"]

/-- What is said of inputs that were attached, if there were any. -/
def attachReport (attached : Nat) : List Log.Record :=
  if attached = 0 then [] else [Log.debugging s!"copy-on-click attached to {attached} inputs"]

/-- What a scan answers, leaves behind and logs. -/
structure Scan where
  result : Except PageFault Nat
  released : Nat
  roster : Roster
  listeners : Listeners
  records : List Log.Record

/-- How many inputs a scan attached; a scan that failed attached none. -/
def Scan.attached (done : Scan) : Nat :=
  match done.result with
  | .ok n => n
  | .error _ => 0

/-- Bring the roster of a number up to date with a page. -/
def scan (id : Nat) (p : Page) (r : Roster) (ls : Listeners) : Scan :=
  -- inputs that have left the document go even if it cannot be searched
  let kept := r.keep p.isConnected ls
  let released := r.size - kept.1.size
  match p.query r.selector with
  | .error thrown =>
    ⟨.error (.badSelector r.selector thrown.describe), released, kept.1, kept.2,
      releaseReport released⟩
  | .ok found =>
    let attached := attachAll id p.isInput kept.1 kept.2 found
    ⟨.ok attached.1, released, attached.2.1, attached.2.2.1,
      releaseReport released ++ attached.2.2.2 ++ attachReport attached.1⟩

/-! ## What the operations do to the entries -/

@[simp] theorem entries_keep (keeps : Nat → Bool) (r : Roster) (ls : Listeners) :
    (r.keep keeps ls).1.entries = r.entries.filter fun e => keeps e.input := rfl

@[simp] theorem selector_keep (keeps : Nat → Bool) (r : Roster) (ls : Listeners) :
    (r.keep keeps ls).1.selector = r.selector := rfl

@[simp] theorem entries_clear (r : Roster) (ls : Listeners) : (r.clear ls).1.entries = [] := by
  simp [clear]

/-- A new entry holds the number of the listener that was added for it. -/
theorem attach_eq (id : Nat) (r : Roster) (ls : Listeners) (input : Nat) :
    attach id r ls input =
      ({ r with entries := r.entries ++ [⟨input, ⟨some ls.next⟩⟩] },
        (ls.add (.node input) (.copy id input)).2) := rfl

theorem holds_iff {r : Roster} {input : Nat} :
    r.holds input = true ↔ ∃ e ∈ r.entries, e.input = input := by
  simp [holds]

end Roster

end PageCompanion.Live
