/-
# A stamp over many requests

The life of a stamp: requests come one after another, each with headers of its own, some
headers are written by others, and the stamp is applied.  A `Run` is the stamp with the headers
of the request at hand; a step changes them and issues log records.
-/
import PageCompanion.Token.Stamp

namespace PageCompanion.Token

open Cookie (Jar)

structure Run (H : Type) where
  stamp : Stamp
  headers : H

/-- One event in the life of a stamp. -/
inductive Step (H : Type) where
  | request (headers : H)
  | put (name value : String)
  | stamp

namespace Run

variable {H : Type} [Headers H]

/-- The run after one step, and what the step logged. -/
def step (r : Run H) : Step H → Run H × List Log.Record
  | .request headers => ({ r with headers }, [])
  | .put name value =>
    let written := Headers.put r.headers name value
    ({ r with headers := written.1 }, written.2)
  | .stamp =>
    let stamped := r.stamp.apply r.headers
    (⟨stamped.1, stamped.2.1⟩, stamped.2.2)

/-- The runs after each of a list of steps, each with what its step logged. -/
def trace (r : Run H) : List (Step H) → List (Run H × List Log.Record)
  | [] => []
  | s :: rest =>
    let done := r.step s
    done :: done.1.trace rest

/-- The run after a list of steps, and all that the steps logged. -/
def steps (r : Run H) : List (Step H) → Run H × List Log.Record
  | [] => (r, [])
  | s :: rest =>
    let later := (r.step s).1.steps rest
    (later.1, (r.step s).2 ++ later.2)

end Run

end PageCompanion.Token
