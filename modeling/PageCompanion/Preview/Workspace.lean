/-
# Workspaces

The command reads its cookie string from a file or from standard input, and what it reads there is
up to the system.  A workspace is what the system gives: for each name of a file, and for standard
input, the bytes that are read or the reason why nothing can be read.
-/
import PageCompanion.Fault
import PageCompanion.Text.Bytes

namespace PageCompanion.Preview

open Text (textOfBytes?)

/-- What the command can read. -/
structure Workspace where
  /-- What is read from the file of a name. -/
  readFile : String → Except SourceFault (List UInt8) := fun _ => .error .notFound
  /-- What is read from standard input. -/
  stdin : Except SourceFault (List UInt8) := .ok []
  /-- No file has the empty name. -/
  unnamed : ∃ cause, readFile "" = .error cause := by exact ⟨_, rfl⟩
  /-- The system gives each of its reasons in one line. -/
  oneLine : ∀ cause, (stdin = .error cause ∨ ∃ name, readFile name = .error cause) →
      '\n' ∉ cause.message.toList := by
    rintro _ (h | ⟨_, h⟩) <;> cases h <;> decide

/-- The text that some bytes are the UTF-8 form of. -/
def readText (bytes : List UInt8) : Except SourceFault String :=
  match textOfBytes? bytes with
  | some text => .ok text
  | none => .error .notText

end PageCompanion.Preview
