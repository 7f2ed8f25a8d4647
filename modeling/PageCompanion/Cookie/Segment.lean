/-
# Segments of a cookie string

A cookie string is a list of segments with `;` between them.  A segment is a name, or a name
and a value with `=` between them; white space around either part does not belong to it, and
both may hold percent escapes.  `Segment.ofText?` reads one segment and gives nothing for one
without a name; `segments` reads a whole cookie string.
-/
import PageCompanion.Text.Blank
import PageCompanion.Text.Percent
import PageCompanion.Text.Pieces

namespace PageCompanion.Cookie

open Text

/-- A cookie as one segment states it. -/
structure Segment where
  /-- The name, decoded. -/
  name : String
  /-- The value, decoded; a segment without `=` has none, which is not the empty value. -/
  value : Option String
deriving DecidableEq, Repr

/-- A name or value as it is written: without the white space around it, and decoded. -/
def readPart (cs : List Char) : String :=
  Percent.decode (String.ofList (strip cs))

/-- The cookie that the text between two separators states, if it names one. -/
def Segment.ofText? (cs : List Char) : Option Segment :=
  let name := readPart (firstCut '=' cs).1
  if name = "" then none else some ⟨name, (firstCut '=' cs).2.map readPart⟩

/-- The cookies that a cookie string states, in order and with repetitions. -/
def segments (raw : String) : List Segment :=
  (pieces ';' raw.toList).filterMap Segment.ofText?

end PageCompanion.Cookie
