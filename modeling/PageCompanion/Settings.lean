/-
# Settings

A page or a command line may override five settings by name.  `Key` is the settings that there
are; `Settings.set` reads one override, with white space around its key and its value left
aside.  A list of overrides is read in one of two ways: `ofPairs` stops at the first bad one,
and `override` skips the bad ones and says what was wrong with each.
-/
import PageCompanion.Fault
import PageCompanion.Log
import PageCompanion.Token.Policy

namespace PageCompanion

open Text (trim)

/-- The settings that can be overridden. -/
inductive Key where
  /-- The cookie that holds the token. -/
  | cookie
  /-- The header that carries the token. -/
  | header
  /-- What to do without a token. -/
  | missing
  /-- Which inputs copy themselves on a click. -/
  | selector
  /-- Which log records are shown. -/
  | logLevel
deriving DecidableEq, Repr

namespace Key

def name : Key → String
  | cookie => "csrf-cookie"
  | header => "csrf-header"
  | missing => "csrf-missing"
  | selector => "widget-selector"
  | logLevel => "log-level"

def all : List Key := [cookie, header, missing, selector, logLevel]

def ofName? (s : String) : Option Key :=
  all.find? fun k => k.name == s

@[simp] theorem mem_all (k : Key) : k ∈ all := by
  cases k <;> simp [all]

end Key

/-- The inputs that copy themselves on a click unless the page says otherwise. -/
def defaultSelector : String := "input[is=\"invite-link\"], input[data-copy-on-click]"

/-- What a page or a command line can set. -/
structure Settings where
  /-- Where the token comes from and where it goes. -/
  token : Token.Names := {}
  selector : String := defaultSelector
  /-- Which log records are shown. -/
  logLevel : Log.Threshold := .upTo .info
deriving DecidableEq, Repr, Inhabited

namespace Settings

/-- The settings with one of them set to a value without white space around it.  The texts must
not be empty; the faults name the key as the caller wrote it. -/
def assign (s : Settings) (written : String) (key : Key) (value : String) :
    Except SettingFault Settings :=
  match key with
  | .cookie =>
    if value = "" then .error (.empty written)
    else .ok { s with token := { s.token with cookie := value } }
  | .header =>
    if value = "" then .error (.empty written)
    else .ok { s with token := { s.token with header := value } }
  | .missing =>
    match Token.Policy.ofName? value with
    | none => .error (.noPolicy written value)
    | some policy => .ok { s with token := { s.token with missing := policy } }
  | .selector =>
    if value = "" then .error (.empty written) else .ok { s with selector := value }
  | .logLevel =>
    match Log.Threshold.ofName? value with
    | none => .error (.noLevel written value)
    | some level => .ok { s with logLevel := level }

/-- The settings after one override. -/
def set (s : Settings) (key value : String) : Except SettingFault Settings :=
  match Key.ofName? (trim key) with
  | none => .error (.unknownKey (trim key))
  | some k => s.assign key k (trim value)

/-- The settings after a list of overrides, of which every one must be valid. -/
def setAll (s : Settings) : List (String × String) → Except SettingFault Settings
  | [] => .ok s
  | (key, value) :: rest =>
    match s.set key value with
    | .error fault => .error fault
    | .ok next => next.setAll rest

/-- The default settings after a list of overrides, of which every one must be valid. -/
def ofPairs (pairs : List (String × String)) : Except SettingFault Settings :=
  setAll {} pairs

/-- The settings after the valid ones of a list of overrides, and the faults of the others. -/
def override (s : Settings) : List (String × String) → Settings × List SettingFault
  | [] => (s, [])
  | (key, value) :: rest =>
    match s.set key value with
    | .ok next => next.override rest
    | .error fault =>
      let later := s.override rest
      (later.1, fault :: later.2)

@[simp] theorem setAll_nil (s : Settings) : s.setAll [] = .ok s := rfl

@[simp] theorem override_nil (s : Settings) : s.override [] = (s, []) := rfl

theorem set_of_unknown {key : String} (h : Key.ofName? (trim key) = none) (s : Settings)
    (value : String) : s.set key value = .error (.unknownKey (trim key)) := by
  simp [set, h]

theorem set_of_known {key : String} {k : Key} (h : Key.ofName? (trim key) = some k)
    (s : Settings) (value : String) : s.set key value = s.assign key k (trim value) := by
  simp [set, h]

/-! ## Histories of settings -/

/-- One change of the settings. -/
inductive Edit where
  | set (key value : String)
  /-- A list of overrides, of which the valid ones count. -/
  | override (pairs : List (String × String))
  /-- New settings from a list of overrides, if they are all valid. -/
  | replace (pairs : List (String × String))
  | reset
deriving Repr

/-- The settings after an edit, and the faults it met. -/
def edit (s : Settings) : Edit → Settings × List SettingFault
  | .set key value =>
    match s.set key value with
    | .ok next => (next, [])
    | .error fault => (s, [fault])
  | .override pairs => s.override pairs
  | .replace pairs =>
    match ofPairs pairs with
    | .ok next => (next, [])
    | .error fault => (s, [fault])
  | .reset => ({}, [])

/-- The settings after each of a list of edits, each with the faults it met. -/
def trace (s : Settings) : List Edit → List (Settings × List SettingFault)
  | [] => []
  | e :: rest =>
    let done := s.edit e
    done :: done.1.trace rest

/-- The settings that edits lead to from the defaults. -/
inductive Reachable : Settings → Prop where
  | default : Reachable {}
  | edit {s : Settings} (e : Edit) (h : Reachable s) : Reachable (s.edit e).1

end Settings

end PageCompanion
