/-
# Trees of files

A tree is files, directories and links at places, together with the place where the command runs.
A place is the list of the parts of its full name.  `Tree.readFile` follows a name part by part and
says why nothing can be read there, so a tree is a workspace (`Tree.workspace`).  A link is left for
the place that it stands for before the next part is looked at, so that `..` behind it leads out of
that place.
-/
import PageCompanion.Preview.Workspace
import PageCompanion.Text.Pieces

namespace PageCompanion.Preview

open Text (bytesOfText pieces)

structure Tree where
  /-- The place where the command runs. -/
  here : List String := []
  /-- The files with their bytes; of several at one place the first counts. -/
  files : List (List String × List UInt8) := []
  directories : List (List String) := []
  /-- The links, each with the place that it stands for, which is no link. -/
  links : List (List String × List String) := []

def nameParts (name : String) : List String :=
  (pieces '/' name.toList).map String.ofList

/-- A part of a name that leads nowhere else. -/
def isIdle (part : String) : Bool :=
  part == "" || part == "."

/-- The place that one more part of a name leads to, seen from where the name starts. -/
def enter (place : List String) (part : String) : List String :=
  if isIdle part then place else if part == ".." then place.dropLast else place ++ [part]

/-- The places that a name leads through, its own at the end. -/
def stations (name : String) : List (List String) :=
  (nameParts name).scanl enter []

def location (name : String) : List String :=
  (nameParts name).foldl enter []

/-- The number of bytes that a part of a name can have. -/
def maxPart : Nat := 255

/-- The number of bytes that a name cannot have. -/
def maxName : Nat := 4096

/-- What stands at a place. -/
inductive Found where
  | file (bytes : List UInt8)
  | directory
deriving DecidableEq, Repr

namespace Tree

/-! ## Making a tree -/

/-- The tree with a directory where the command runs, and with those that its name leads through. -/
def makeDirectory (t : Tree) (name : String) : Tree :=
  { t with directories := (stations name).map (t.here ++ ·) ++ t.directories }

/-- The tree with a file where the command runs, and with the directories that its name leads
through. -/
def write (t : Tree) (name : String) (bytes : List UInt8) : Tree :=
  { t with
    files := (t.here ++ location name, bytes) :: t.files
    directories := (stations name).map (t.here ++ ·) ++ t.directories }

/-! ## Reading from a tree -/

/-- The place that a place stands for. -/
def destination (t : Tree) (place : List String) : List String :=
  (t.links.lookup place).getD place

/-- What stands at a place that is no link.  The name of a file leads through its own place as well,
which is no directory for that. -/
def lookup? (t : Tree) (place : List String) : Option Found :=
  match t.files.lookup place with
  | some bytes => some (.file bytes)
  | none => if t.directories.contains place then some .directory else none

/-- Follow the parts of a name from a directory. -/
def follow (t : Tree) (place : List String) : List String → Except SourceFault Found
  | [] => .ok .directory
  | part :: rest =>
    if isIdle part then t.follow place rest
    else if part == ".." then t.follow place.dropLast rest
    else if (bytesOfText part).length > maxPart then .error .nameTooLong
    else
      -- a link is left at once, so that the parts behind it start where it leads
      let there := t.destination (place ++ [part])
      match t.lookup? there with
      | none => .error .notFound
      | some .directory => t.follow there rest
      | some (.file bytes) => if rest = [] then .ok (.file bytes) else .error .notDirectory

/-- What a name stands for. -/
def resolve (t : Tree) (name : String) : Except SourceFault Found :=
  if (bytesOfText name).length ≥ maxName then .error .nameTooLong
  else if name = "" then .error .notFound
  else
    match nameParts name with
    | "" :: rest => t.follow [] rest
    | parts => t.follow t.here parts

def readFile (t : Tree) (name : String) : Except SourceFault (List UInt8) :=
  match t.resolve name with
  | .ok (.file bytes) => .ok bytes
  | .ok .directory => .error .isDirectory
  | .error cause => .error cause

/-! ## A tree as a workspace -/

theorem follow_oneLine {t : Tree} {place parts : List String} {cause : SourceFault}
    (h : t.follow place parts = .error cause) : '\n' ∉ cause.message.toList := by
  induction parts generalizing place with
  | nil => cases h
  | cons part rest ih =>
    rw [follow] at h
    split at h
    · exact ih h
    split at h
    · exact ih h
    split at h
    · cases h
      decide
    dsimp only at h
    split at h
    · cases h
      decide
    · exact ih h
    · split at h
      · cases h
      · cases h
        decide

theorem readFile_oneLine {t : Tree} {name : String} {cause : SourceFault}
    (h : t.readFile name = .error cause) : '\n' ∉ cause.message.toList := by
  have hresolve {fault : SourceFault} (hfault : t.resolve name = .error fault) :
      '\n' ∉ fault.message.toList := by
    rw [resolve] at hfault
    split at hfault
    · cases hfault
      decide
    split at hfault
    · cases hfault
      decide
    split at hfault
    · exact follow_oneLine hfault
    · exact follow_oneLine hfault
  rw [readFile] at h
  split at h
  · cases h
  · cases h
    decide
  · cases h
    exact hresolve ‹_›

theorem readFile_empty (t : Tree) : t.readFile "" = .error .notFound := by
  simp [readFile, resolve, bytesOfText, maxName]

/-- The workspace of a tree, with these bytes on standard input. -/
def workspace (t : Tree) (stdin : List UInt8) : Workspace where
  readFile := t.readFile
  stdin := .ok stdin
  unnamed := ⟨_, t.readFile_empty⟩
  oneLine := by
    rintro cause (h | ⟨name, h⟩)
    · cases h
    · exact readFile_oneLine h

end Tree

end PageCompanion.Preview
