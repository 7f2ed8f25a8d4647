/-
# Copying the contents of an input

An attempt to copy reads the whole value of an input, selects it as a user's select-all would,
notes how many characters it has, and asks the clipboard to write it.  It hands back the
pending write, to be waited for.  A `Surface` is what an attempt needs of the place it is made
in, as operations on that place's state; a page is one and a test bench another.
-/
import PageCompanion.Fault
import PageCompanion.Log

namespace PageCompanion.Copying

/-- An input and a clipboard, in a place with states `σ` and pending writes `ω`. -/
structure Surface (σ ω : Type) where
  read : σ → String × σ
  /-- Select the whole value of the input. -/
  selectAll : σ → Except Fault Unit × σ
  note : Log.Record → σ → σ
  /-- Ask the clipboard to write a text.  The write has begun when this is done. -/
  write : String → σ → ω × σ

/-- What is noted before a text is written; the count is of characters. -/
def copyMessage (text : String) : String :=
  s!"copying {text.length} characters"

/-- Select the contents of the input and begin to copy them.  Nothing is noted or written when
they cannot be selected. -/
def attempt {σ ω : Type} (place : Surface σ ω) (s : σ) : Except Fault ω × σ :=
  let value := place.read s
  let selection := place.selectAll value.2
  match selection.1 with
  | .error fault => (.error fault, selection.2)
  | .ok () =>
    let noted := place.note (Log.debugging (copyMessage value.1)) selection.2
    let written := place.write value.1 noted
    (.ok written.1, written.2)

end PageCompanion.Copying
