/-
# Plain text

A terminal takes some characters of a text for commands.  Where a text is not written to a
terminal, these are left out: the control characters other than white space, the delete
character, and every control sequence.  A sequence begins with the escape character, and what
comes next says of which kind it is and where it ends; `Stage` is how far it has come.

White space in the middle of an escape sequence or of a control function is written, since it
acts on the spot, and from there on everything is, up to the next control character.  Only then
does the sequence go on, unless a character beyond ASCII has come by, which ends it.

What is left holds no control character (`isPlain_of_mem_plain`), and a text without any is left
as it is (`plain_of_isPlain`).
-/
import PageCompanion.Text.Bytes

namespace PageCompanion.Text

/-! ## Characters -/

/-- The white space that is written like any other character. -/
def isLayout (c : Char) : Bool :=
  c == '\t' || c == '\n' || c == '\x0c' || c == '\r'

/-- The characters that are no commands by themselves. -/
def isPlain (c : Char) : Bool :=
  (0x20 ≤ c.toNat && c.toNat != 0x7f) || isLayout c

/-- A character is between two others, or one of them. -/
def isWithin (first last c : Char) : Bool :=
  first.toNat ≤ c.toNat && c.toNat ≤ last.toNat

/-- The string terminator is a single byte, which is found inside a character too. -/
def holdsTerminator (c : Char) : Bool :=
  (bytesOfText (String.singleton c)).contains 0x9c

/-! ## Control sequences -/

/-- How far a control sequence has come. -/
inductive Stage where
  /-- No sequence has begun, or the last one has ended. -/
  | outside
  /-- The escape character has come. -/
  | escape
  /-- An escape sequence has characters from the space to the slash, and its last is to come. -/
  | designation
  /-- The parameters of a control function are read, behind `ESC [`. -/
  | function
  | device
  | deviceParameters
  /-- A device command has characters from the space to the slash. -/
  | deviceDesignation
  /-- A string is read that only the string terminator ends. -/
  | string
  /-- A system command is read, behind `ESC ]`, up to the bell. -/
  | system
deriving DecidableEq, Repr

namespace Stage

/-- The stage behind the escape character and the one after it. -/
def afterEscape (c : Char) : Stage :=
  if c = '[' then function
  else if c = ']' then system
  else if c = 'P' then device
  else if c = 'X' ∨ c = '^' ∨ c = '_' then string
  else if isWithin ' ' '/' c then designation
  else if isWithin '0' '~' c then outside
  else escape

/-- The stage behind a character of a device command. -/
def afterDevice (first : Bool) (c : Char) : Stage :=
  if isWithin ' ' '/' c then deviceDesignation
  else if isWithin '0' ';' c || (first && isWithin '<' '?' c) then deviceParameters
  else if isWithin '<' '~' c then string
  else if first then device
  else deviceParameters

/-- The stage behind one more character.  The escape character begins a new sequence at any
stage, and the cancel and substitute characters end one. -/
def next (s : Stage) (c : Char) : Stage :=
  if c = '\x1b' then escape
  else if c = '\x18' ∨ c = '\x1a' then outside
  else
    match s with
    | outside => outside
    | escape => afterEscape c
    | designation => if isWithin '0' '~' c then outside else designation
    | function => if isWithin '@' '~' c then outside else function
    | device => afterDevice true c
    | deviceParameters => afterDevice false c
    | deviceDesignation => if isWithin '0' '~' c then string else deviceDesignation
    | string => if holdsTerminator c then outside else string
    | system => if c = '\x07' then outside else system

/-- White space acts on the spot at this stage. -/
def showsLayout : Stage → Bool
  | escape | designation | function => true
  | _ => false

end Stage

/-! ## Reading -/

/-- How far a text has been read. -/
structure Reading where
  /-- How far a control sequence has come. -/
  stage : Stage := .outside
  /-- The character before is written, so that a sequence that has begun is interrupted. -/
  showing : Bool := true
deriving DecidableEq, Repr

namespace Reading

/-- The next character is written. -/
def shows (r : Reading) (c : Char) : Bool :=
  if r.showing || r.stage == .outside then isPlain c else r.stage.showsLayout && isLayout c

/-- How far the text has been read behind one more character. -/
def next (r : Reading) (c : Char) : Reading :=
  if r.shows c then ⟨if c.toNat < 0x80 then r.stage else .outside, true⟩
  else ⟨r.stage.next c, false⟩

/-- The characters that are written of the rest of a text. -/
def plain (r : Reading) : List Char → List Char
  | [] => []
  | c :: rest => if r.shows c then c :: (r.next c).plain rest else (r.next c).plain rest

theorem isPlain_of_shows {r : Reading} {c : Char} (h : r.shows c = true) : isPlain c = true := by
  rw [shows] at h
  split at h
  · exact h
  · simp [isPlain, (Bool.and_eq_true_iff.mp h).2]

/-- Nothing that is written is a command. -/
theorem isPlain_of_mem_plain {r : Reading} {cs : List Char} {c : Char} (h : c ∈ r.plain cs) :
    isPlain c = true := by
  induction cs generalizing r with
  | nil => simp [plain] at h
  | cons d rest ih =>
    rw [plain] at h
    split at h
    · rename_i hd
      rcases List.mem_cons.mp h with rfl | h
      · exact isPlain_of_shows hd
      · exact ih h
    · exact ih h

/-- A text without commands is written as it is. -/
theorem plain_of_isPlain {r : Reading} (hr : r.showing = true) {cs : List Char}
    (h : ∀ c ∈ cs, isPlain c = true) : r.plain cs = cs := by
  induction cs generalizing r with
  | nil => rfl
  | cons c rest ih =>
    have hc : r.shows c = true := by simp [shows, hr, h c]
    have hn : (r.next c).showing = true := by simp [next, hc]
    rw [plain, if_pos hc, ih hn fun d hd => h d (by simp [hd])]

end Reading

/-- A string without what a terminal would take for commands. -/
def plain (s : String) : String :=
  String.ofList (({} : Reading).plain s.toList)

end PageCompanion.Text
