/-
# Sessions

A session is a page together with all that the companion keeps on it: the listeners, the
rosters, the companion itself once it is started, the copies under way, and what was logged and
announced.  Everything that can happen is a `Step`: the page changes, an event is sent, the
tasks that wait are run, or a part of the companion is called.

A click on an input begins an attempt to copy it.  Attempts are numbered; each waits until its
write has ended, and is then announced once with an event at its input.  What a session has
logged is kept with the threshold at that time, and `console` is what passed it.  How many
inputs each roster took and gave up is kept as well, scan by scan.
-/
import PageCompanion.Copying.Attempt
import PageCompanion.Live.Clipboard
import PageCompanion.Live.Roster
import PageCompanion.Live.Startup
import PageCompanion.Version

namespace PageCompanion.Live

open Cookie (Jar)
open Copying (Attachment Surface)
open Dom (Page Place Spot)
open Script (Value)

/-- An attempt to copy an input. -/
structure Attempt where
  input : Nat
  text : String
  pending : Pending
deriving DecidableEq, Repr

/-- An event at an input that tells how an attempt ended. -/
structure Announcement where
  attempt : Nat
  input : Nat
  name : String
  detail : String
  /-- The event came by the window. -/
  reachedWindow : Bool
deriving DecidableEq, Repr

/-- A record that was logged, with the threshold at that time. -/
structure Logged where
  record : Log.Record
  threshold : Log.Threshold
deriving DecidableEq, Repr

/-- How many inputs a roster took and gave up at one time. -/
structure Turnover where
  roster : Nat
  attached : Nat
  released : Nat
deriving DecidableEq, Repr

/-- What the companion keeps for as long as it runs. -/
structure Companion where
  roster : Nat
  stamper : Nat
  loader : Nat
deriving DecidableEq, Repr

/-- A page and all that the companion keeps on it. -/
structure Session where
  page : Page := {}
  /-- Which records are shown.  Starting the companion sets the level.  Before the first start there
  is none, and whoever uses parts of the companion by themselves decides what is shown of their
  records; a new session stands for one who is shown them all. -/
  threshold : Log.Threshold := .upTo .trace
  listeners : Listeners := {}
  /-- The rosters by number; one that was released has no entries. -/
  rosters : List Roster := []
  /-- The rosters that the page's scripts hold, each until it is let go. -/
  slots : List (Option Nat) := []
  /-- The listeners that the page's scripts hold, each until it is let go. -/
  handles : List (Option Nat) := []
  /-- The companion, once it is started. -/
  companion : Option Companion := none
  /-- The attempts to copy, by number. -/
  attempts : List Attempt := []
  /-- The numbers of the attempts that have not been announced, the oldest first. -/
  waiting : List Nat := []
  log : List Logged := []
  announced : List Announcement := []
  /-- What the rosters took and gave up, in order. -/
  turnovers : List Turnover := []

namespace Session

/-! ## Logging -/

def logAll (s : Session) (records : List Log.Record) : Session :=
  { s with log := s.log ++ records.map fun r => ⟨r, s.threshold⟩ }

/-- The records that were shown. -/
def console (s : Session) : List Log.Record :=
  (s.log.filter fun l => l.threshold.admits l.record.level).map (·.record)

/-- The method of the console that shows a record; the console has none for traces. -/
def consoleMethod : Log.Level → String
  | .trace => Log.Level.debug.name
  | level => level.name

/-- A record as the console shows it: the method, and the line. -/
def consoleLine (r : Log.Record) : String × String :=
  (consoleMethod r.level, s!"[hx-assist] {r.message}")

/-! ## Copying -/

/-- The name of the event after a copy that succeeded. -/
def copiedEvent : String := "copy-on-click:copied"

/-- The name of the event after a copy that failed. -/
def failedEvent : String := "copy-on-click:failed"

/-- An input of the page and the page's clipboard. -/
def surface (input : Nat) : Surface Session Pending where
  read s := ((s.page.element input).value, s)
  selectAll s := (.ok (), { s with page := s.page.selectAll input })
  note record s := s.logAll [record]
  write text s :=
    let begun := beginWrite s.page text
    (begun.1, { s with page := begun.2 })

/-- Say how an attempt ended.  An event that cannot be made is reported in its place. -/
def announce (s : Session) (number : Nat) (a : Attempt) (result : Except Fault Unit) : Session :=
  let reported :=
    match result with
    | .ok () => s
    | .error fault => s.logAll [Log.warning s!"copy failed: {fault.message}"]
  let (name, detail) :=
    match result with
    | .ok () => (copiedEvent, a.text)
    | .error fault => (failedEvent, fault.message)
  -- what went wrong is reported even if the event that tells of it cannot be made
  match s.page.eventFault with
  | some thrown => reported.logAll [Log.warning s!"could not create {name}: {thrown.describe}"]
  | none =>
    let reachedWindow := (s.page.path (.node a.input)).contains .window
    { reported with
      announced := reported.announced ++ [⟨number, a.input, name, detail, reachedWindow⟩] }

/-- Make an attempt to copy an input.  It is announced later, when its write has ended and the
tasks that wait are run. -/
def copyInput (s : Session) (input : Nat) : Session :=
  let text := (s.page.element input).value
  let begun := Copying.attempt (surface input) s
  let number := s.attempts.length
  match begun.1 with
  | .ok pending =>
    { begun.2 with
      attempts := begun.2.attempts ++ [⟨input, text, pending⟩]
      waiting := begun.2.waiting ++ [number] }
  | .error fault =>
    -- nothing was begun, so there is nothing to wait for
    let a : Attempt := ⟨input, text, .failed fault⟩
    { begun.2 with attempts := begun.2.attempts ++ [a] }.announce number a (.error fault)

/-- Look whether an attempt has ended: announce it if so, and let it wait on if not. -/
def resume (s : Session) (number : Nat) : Session :=
  match s.attempts[number]? with
  | none => s
  | some a =>
    match a.pending.poll s.page with
    | some result => s.announce number a result
    | none => { s with waiting := s.waiting ++ [number] }

/-- Look at each attempt that waits, once, the oldest first. -/
def tick (s : Session) : Session :=
  s.waiting.foldl resume { s with waiting := [] }

/-! ## Rosters -/

def roster (s : Session) (id : Nat) : Roster :=
  s.rosters[id]?.getD { selector := "" }

def openRoster (s : Session) (selector : String) : Nat × Session :=
  (s.rosters.length, { s with rosters := s.rosters ++ [{ selector }] })

/-- The session with another state of a roster and its listeners, after the roster took and gave
up some inputs. -/
def setRoster (s : Session) (id : Nat) (r : Roster) (ls : Listeners) (attached released : Nat) :
    Session :=
  { s with
    rosters := s.rosters.set id r
    listeners := ls
    turnovers := s.turnovers ++ [⟨id, attached, released⟩] }

def scan (s : Session) (id : Nat) : Except PageFault Nat × Session :=
  let done := (s.roster id).scan id s.page s.listeners
  (done.result,
    (s.setRoster id done.roster done.listeners done.attached done.released).logAll done.records)

/-- Bring a roster up to date with the page, and report a failure under a heading.  The answer is
the number of inputs that were attached. -/
def scanReporting (s : Session) (id : Nat) (heading : String) : Nat × Session :=
  let done := s.scan id
  match done.1 with
  | .ok n => (n, done.2)
  | .error fault =>
    (0, done.2.logAll [Log.warning s!"{heading}: {(Fault.page fault).message}"])

/-- The session with one more listener, and its number. -/
def listen (s : Session) (place : Place) (reaction : Reaction) : Nat × Session :=
  let added := s.listeners.add place reaction
  (added.1, { s with listeners := added.2 })

def unlisten (s : Session) (id : Nat) : Session :=
  { s with listeners := s.listeners.remove id }

/-- A roster is in use while a script holds it, the companion has it, or a listener lives that
scans it. -/
def inUse (s : Session) (id : Nat) : Bool :=
  s.slots.contains (some id)
    || (s.companion.elim false fun c => c.roster == id)
    || s.listeners.live.any fun l =>
      match l.reaction with
      | .rescan r => r == id
      | _ => false

/-- Release the inputs of a roster unless it is in use. -/
def releaseUnused (s : Session) (id : Nat) : Session :=
  if s.inUse id then s
  else
    let cleared := (s.roster id).clear s.listeners
    s.setRoster id cleared.1 cleared.2 0 (s.roster id).size

/-- Release the inputs of every roster that is not in use. -/
def sweep (s : Session) : Session :=
  (List.range s.rosters.length).foldl releaseUnused s

/-! ## Events -/

/-- Let a listener react to an event, if the listener still lives.  The answer holds the event's
detail, which a listener may write to. -/
def react (s : Session) (id : Nat) (detail : Option Value) : Session × Option Value :=
  match s.listeners.find? id with
  | none => (s, detail)
  | some l =>
    match l.reaction with
    | .stamp stamp =>
      let done := handle stamp detail
      ({ s with listeners := s.listeners.setReaction id (.stamp done.1) }.logAll done.2.2,
        done.2.1)
    | .rescan roster => ((s.scanReporting roster loadEvent).2, detail)
    | .copy _ input => (s.copyInput input, detail)

/-- Let each of a list of listeners react to an event, one after another. -/
def reactAll (s : Session) (detail : Option Value) : List Nat → Session × Option Value
  | [] => (s, detail)
  | id :: rest =>
    let done := s.react id detail
    done.1.reactAll done.2 rest

/-- Send a bubbling event to a place.  The listeners that it comes by are those that live when it
is sent. -/
def dispatch (s : Session) (kind : EventKind) (spot : Spot) (detail : Option Value) :
    Session × Option Value :=
  s.reactAll detail (s.listeners.along kind (s.page.path (s.page.place spot)))

/-! ## Starting -/

/-- What is said when the companion is ready. -/
def readyMessage (settings : Settings) (inputs : Nat) : String :=
  s!"hx-assist {version} ready: {settings.token.header} header on htmx requests, " ++
    s!"{inputs} copy-on-click inputs"

/-- Read the settings of the page.  What is wrong with them is reported at the default level, and
from then on the level they ask for counts. -/
def configure (s : Session) : Settings × Session :=
  let read := readSettings s.page
  -- an earlier start must not hide what is wrong with the settings of this one
  let reported := { s with threshold := ({} : Settings).logLevel }.logAll read.2
  (read.1, { reported with threshold := read.1.logLevel })

/-- Install the listener that stamps requests at the window. -/
def installStamper (s : Session) (settings : Settings) : Nat × Session :=
  let jar := cookiesOrNone s.page
  let made := Token.Stamp.make jar.1 settings.token
  ((s.logAll jar.2).logAll [made.2]).listen .window (.stamp made.1)

/-- Open a roster, bring it up to date, and install the listener that does so whenever the page
has loaded new content. -/
def installRoster (s : Session) (settings : Settings) : (Nat × Nat) × Session :=
  let opened := s.openRoster settings.selector
  let scanned := opened.2.scanReporting opened.1 "copy-on-click"
  let listening := scanned.2.listen .document (.rescan opened.1)
  ((opened.1, listening.1), listening.2)

def adopt (s : Session) (c : Companion) : Session :=
  let adopted := { s with companion := some c }
  match s.companion with
  | none => adopted
  -- the roster of the old companion may be held by a script still
  | some old => ((adopted.unlisten old.stamper).unlisten old.loader).sweep

/-- Start the companion.  One that was started before keeps running until the new one is
ready. -/
def start (s : Session) : Session :=
  let configured := s.configure
  let stamping := configured.2.installStamper configured.1
  let rostered := stamping.2.installRoster configured.1
  let ready := rostered.2.logAll
    [⟨.info, readyMessage configured.1 (rostered.2.roster rostered.1.1).size⟩]
  ready.adopt ⟨rostered.1.1, stamping.1, rostered.1.2⟩

/-- Let the companion look for inputs again; the answer is the number that it attached. -/
def rescan (s : Session) : Nat × Session :=
  match s.companion with
  | none => (0, s)
  | some c => s.scanReporting c.roster "copy-on-click rescan"

/-! ## Steps -/

/-- Something that happens in a session.  Handles and slots are numbered from zero in the order
in which they were given out. -/
inductive Step where
  | change (change : Page.Change)
  | click (spot : Spot)
  /-- The page has loaded new content at a place. -/
  | load (spot : Spot)
  /-- A request is about to be sent, with this detail. -/
  | request (spot : Spot) (detail : Value)
  /-- An event with the name of the one before a request, but without a detail. -/
  | plainRequest (spot : Spot)
  | tick
  | start
  | rescan
  | readPairs
  | readSettings
  | readCookies
  /-- A stamp for a cookie string is made, and a listener at a place that applies it. -/
  | stamp (spot : Spot) (raw : String) (names : Token.Names)
  | drop (handle : Nat)
  | openRoster (selector : String)
  | dropRoster (slot : Nat)
  | scan (slot : Nat)
  /-- A listener at a place is installed that brings a roster up to date. -/
  | listen (slot : Nat) (spot : Spot)
  | size (slot : Nat)
  | stateOf (slot : Nat) (spot : Spot)
  | copy (spot : Spot)
  /-- A text is written to the clipboard and the write looked at once. -/
  | write (text : String)
  | describe (value : Value)

inductive Reply where
  | silent
  /-- The detail of an event after its listeners have reacted. -/
  | detail (value : Value)
  | count (n : Nat)
  | pairs (pairs : List (String × String))
  | settings (settings : Settings)
  | cookies (result : Except PageFault Jar)
  | scanned (result : Except PageFault Nat)
  | attachment (state : Attachment)
  /-- How a write ended, if it has. -/
  | written (result : Option (Except Fault Unit))
  | text (s : String)

def slot? (s : Session) (slot : Nat) : Option Nat :=
  s.slots[slot]?.join

/-- The session with one more handle on a listener, and the number of the handle. -/
def handOut (s : Session) (listener : Nat) : Nat × Session :=
  (s.handles.length, { s with handles := s.handles ++ [some listener] })

/-- The session after a step, and the step's answer. -/
def step (s : Session) : Step → Reply × Session
  | .change c => (.silent, { s with page := s.page.change c })
  | .click spot => (.silent, (s.dispatch .click spot none).1)
  | .load spot => (.silent, (s.dispatch .load spot none).1)
  | .request spot detail =>
    let done := s.dispatch .request spot (some detail)
    (.detail (done.2.getD .null), done.1)
  | .plainRequest spot => (.silent, (s.dispatch .request spot none).1)
  | .tick => (.silent, s.tick)
  | .start => (.silent, s.start)
  | .rescan =>
    let done := s.rescan
    (.count done.1, done.2)
  | .readPairs => (.pairs (Live.readPairs s.page), s)
  | .readSettings =>
    let read := Live.readSettings s.page
    (.settings read.1, s.logAll read.2)
  | .readCookies => (.cookies (Live.readCookies s.page), s)
  | .stamp spot raw names =>
    let made := Token.Stamp.make (Jar.parse raw) names
    let added := (s.logAll [made.2]).listen (s.page.place spot) (.stamp made.1)
    let out := added.2.handOut added.1
    (.count out.1, out.2)
  | .drop handle =>
    match s.handles[handle]?.join with
    | none => (.silent, s)
    | some id =>
      -- the listener may have been the last to use a roster
      (.silent, ({ s with handles := s.handles.set handle none }.unlisten id).sweep)
  | .openRoster selector =>
    let opened := s.openRoster selector
    (.count s.slots.length, { opened.2 with slots := s.slots ++ [some opened.1] })
  | .dropRoster slot => (.silent, { s with slots := s.slots.set slot none }.sweep)
  | .scan slot =>
    match s.slot? slot with
    | none => (.silent, s)
    | some id =>
      let done := s.scan id
      (.scanned done.1, done.2)
  | .listen slot spot =>
    match s.slot? slot with
    | none => (.silent, s)
    | some id =>
      let added := s.listen (s.page.place spot) (.rescan id)
      let out := added.2.handOut added.1
      (.count out.1, out.2)
  | .size slot =>
    match s.slot? slot with
    | none => (.silent, s)
    | some id => (.count (s.roster id).size, s)
  | .stateOf slot spot =>
    match s.slot? slot, s.page.node? spot with
    | some id, some n => (.attachment ((s.roster id).stateOf n), s)
    | some _, none => (.attachment .unattached, s)
    | none, _ => (.silent, s)
  | .copy spot =>
    match s.page.node? spot with
    | none => (.silent, s)
    | some n => if s.page.isInput n then (.silent, s.copyInput n) else (.silent, s)
  | .write text =>
    let begun := beginWrite s.page text
    (.written (begun.1.poll begun.2), { s with page := begun.2 })
  | .describe value => (.text value.describe, s)

def steps (s : Session) (l : List Step) : Session :=
  l.foldl (fun s step => (s.step step).2) s

/-- The answers to each of a list of steps, each with the session after it. -/
def trace (s : Session) : List Step → List (Reply × Session)
  | [] => []
  | step :: rest =>
    let done := s.step step
    done :: done.2.trace rest

/-! ## What a part of a session does to the others -/

@[simp] theorem steps_nil (s : Session) : s.steps [] = s := rfl

@[simp] theorem steps_cons (s : Session) (step : Step) (l : List Step) :
    s.steps (step :: l) = (s.step step).2.steps l := rfl

theorem steps_append (s : Session) (a b : List Step) :
    s.steps (a ++ b) = (s.steps a).steps b := by
  simp [steps]

@[simp] theorem page_logAll (s : Session) (l : List Log.Record) : (s.logAll l).page = s.page := rfl

@[simp] theorem listeners_logAll (s : Session) (l : List Log.Record) :
    (s.logAll l).listeners = s.listeners := rfl

@[simp] theorem rosters_logAll (s : Session) (l : List Log.Record) :
    (s.logAll l).rosters = s.rosters := rfl

/-- Of what is logged, the console shows what passes the threshold at that time. -/
theorem console_logAll (s : Session) (l : List Log.Record) :
    (s.logAll l).console = s.console ++ l.filter fun r => s.threshold.admits r.level := by
  simp [console, logAll, List.filter_map, Function.comp_def]

end Session

end PageCompanion.Live
