/-
# What the command reports

A run settles the configuration first, then reads the cookie string, and then prints the header
that a page with these cookies would send.  Everything it prints to standard output is a list of
lines, and everything to standard error a list of diagnostics, so that what is said and how it
is written stay apart.  A run that fails prints no line.
-/
import PageCompanion.Cookie.Jar
import PageCompanion.Preview.CommandLine
import PageCompanion.Preview.Workspace
import PageCompanion.Settings
import PageCompanion.Text.Quoted
import PageCompanion.Token.Stamp
import PageCompanion.Version

namespace PageCompanion.Preview

open Cookie (Jar)

/-! ## Outcomes -/

/-- Something that is written to standard error. -/
inductive Diagnostic where
  /-- A log record of a part of the program. -/
  | record (origin : String) (record : Log.Record)
  | failure (fault : Fault)
  | usage (fault : UsageFault)
deriving DecidableEq, Repr

/-- How a run ended. -/
structure Outcome where
  exit : Nat
  lines : List String
  diagnostics : List Diagnostic
deriving DecidableEq, Repr

/-- What stands behind a line break inside a message. -/
def indent : List Char := List.replicate 4 ' '

/-- A message of several lines with the later ones indented. -/
def indented (message : String) : String :=
  String.ofList (message.toList.flatMap fun c => if c = '\n' then '\n' :: indent else [c])

/-- A diagnostic as it is written.  A log record goes through as plain text. -/
def Diagnostic.text : Diagnostic → String
  | record origin r =>
    let head := "[" ++ r.level.name.toUpper ++ " " ++ origin ++ "] "
    Text.plain (head ++ indented r.message ++ "\n")
  | failure fault => s!"Error: {fault.message}\n"
  | usage fault => fault.firstLine

def Outcome.stdout (o : Outcome) : String :=
  String.join (o.lines.map (· ++ "\n"))

def Outcome.stderr (o : Outcome) : String :=
  String.join (o.diagnostics.map Diagnostic.text)

/-! ## Lines -/

/-- A cookie of the jar as it is listed. -/
def cookieLine (entry : String × Option String) : String :=
  match entry.2 with
  | some value => entry.1 ++ " = " ++ Text.quoted value
  | none => entry.1 ++ " (no value)"

/-- The header that a stamp would put on a request, or a note that it would not. -/
def headerLine (s : Token.Stamp) : String :=
  match s.value? with
  | some value => s!"{s.names.header}: {value}"
  | none => s!"{s.names.header} omitted (cookie '{s.names.cookie}' missing)"

/-- The lines for a jar: its cookies if they are asked for, and the header. -/
def render (jar : Jar) (settings : Settings) (dump : Bool) : List String :=
  (if dump then jar.toList.map cookieLine else [])
    ++ [headerLine (Token.Stamp.make jar settings.token).1]

/-! ## Runs -/

/-- Where the cookie string comes from. -/
inductive Source where
  /-- It stands on the command line. -/
  | argument (text : String)
  | file (name : String)
  | stdin
deriving DecidableEq, Repr

/-- Where an invocation takes the cookie string from. -/
def Invocation.source (i : Invocation) : Source :=
  match i.cookie, i.file with
  | some text, _ => .argument text
  | none, some name => .file name
  | none, none => .stdin

/-- The overrides that an invocation states. -/
def Invocation.overrides (i : Invocation) : List (String × String) :=
  [(Key.cookie.name, i.cookieName), (Key.header.name, i.headerName)]
    ++ (if i.omitMissing then [(Key.missing.name, Token.Policy.leaveOut.name)] else [])

/-- The settings that an invocation states. -/
def Invocation.settings (i : Invocation) : Except SettingFault Settings :=
  match Settings.ofPairs i.overrides with
  | .error fault => .error fault
  | .ok s => .ok (if i.verbose then { s with logLevel := .upTo .debug } else s)

/-- The cookie string in a source, given the bytes that stand in it.  White space at the end of a
file or of standard input does not belong to it. -/
def Source.text (source : Source) (contents : Except SourceFault (List UInt8)) :
    Except SourceFault String :=
  match source with
  | .argument text => .ok text
  | _ =>
    match contents with
    | .error fault => .error fault
    | .ok bytes => (readText bytes).map Text.trimEnd

/-- What the command itself logs. -/
def ownOrigin : String := "hx_header"

/-- What the stamp logs. -/
def stampOrigin : String := "hx_assist::csrf"

/-- The record that a file is read. -/
def readingRecords : Source → List Log.Record
  | .file name => [Log.debugging s!"reading cookies from {name}"]
  | _ => []

/-- The records of a part of the program that pass a threshold. -/
def shown (threshold : Log.Threshold) (origin : String) (records : List Log.Record) :
    List Diagnostic :=
  (records.filter fun r => threshold.admits r.level).map (.record origin)

def failed (before : List Diagnostic) (fault : Fault) : Outcome :=
  ⟨1, [], before ++ [.failure fault]⟩

/-- The outcome of a run whose settings are valid, given what its source holds. -/
def report (i : Invocation) (settings : Settings) (contents : Except SourceFault (List UInt8)) :
    Outcome :=
  let reading := shown settings.logLevel ownOrigin (readingRecords i.source)
  match i.source.text contents with
  | .error fault => failed reading (.source fault)
  | .ok raw =>
    let jar := Jar.parse raw
    let parsed := Log.debugging s!"parsed {jar.size} cookies"
    let made := (Token.Stamp.make jar settings.token).2
    -- each part of the program logs under a name of its own
    ⟨0, render jar settings i.dump,
      reading ++ shown settings.logLevel ownOrigin [parsed]
        ++ shown settings.logLevel stampOrigin [made]⟩

def Workspace.contents (w : Workspace) : Source → Except SourceFault (List UInt8)
  | .argument _ => .ok []
  | .file name => w.readFile name
  | .stdin => w.stdin

/-- The outcome of an invocation in a workspace. -/
def Invocation.run (i : Invocation) (w : Workspace) : Outcome :=
  match i.settings with
  | .error fault => failed [] (.setting fault)
  | .ok settings => report i settings (w.contents i.source)

def Stop.outcome : Stop → Outcome
  | help => ⟨0, helpText, []⟩
  | version => ⟨0, [s!"hx-header {PageCompanion.version}"], []⟩
  | usage fault => ⟨2, [], [.usage fault]⟩

/-- The outcome of a command line in a workspace. -/
def run (arguments : List String) (w : Workspace) : Outcome :=
  match Invocation.parse arguments with
  | .error stop => stop.outcome
  | .ok i => i.run w

end PageCompanion.Preview
