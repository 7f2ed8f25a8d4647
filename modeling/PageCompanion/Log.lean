/-
# Log records

Whatever the library has to say beside its answers is a log record: a message with a level.
A threshold decides which records reach their reader; `Threshold.admits` compares severities.
Operations hand back the records they issue, in order, and leave it to their caller where the
records go.
-/
namespace PageCompanion.Log

/-- How serious a record is, the most serious first. -/
inductive Level where
  | error
  | warn
  | info
  | debug
  | trace
deriving DecidableEq, Repr, Inhabited

def Level.name : Level → String
  | .error => "error"
  | .warn => "warn"
  | .info => "info"
  | .debug => "debug"
  | .trace => "trace"

/-- The place of a level in the order of severity, from 1 for the most serious. -/
def Level.rank : Level → Nat
  | .error => 1
  | .warn => 2
  | .info => 3
  | .debug => 4
  | .trace => 5

/-- Which records pass: none, or those at least as serious as a level. -/
inductive Threshold where
  | off
  | upTo (level : Level)
deriving DecidableEq, Repr, Inhabited

namespace Threshold

def name : Threshold → String
  | off => "off"
  | upTo level => level.name

def all : List Threshold :=
  [off, upTo .error, upTo .warn, upTo .info, upTo .debug, upTo .trace]

/-- The threshold with a name, whose ASCII letters may stand in either case. -/
def ofName? (s : String) : Option Threshold :=
  all.find? fun t => t.name == s.toLower

def admits : Threshold → Level → Bool
  | off, _ => false
  | upTo most, level => level.rank ≤ most.rank

@[simp] theorem mem_all (t : Threshold) : t ∈ all := by
  cases t with
  | off => simp [all]
  | upTo level => cases level <;> simp [all]

end Threshold

/-- A message with its level. -/
structure Record where
  level : Level
  message : String
deriving DecidableEq, Repr, Inhabited

/-- A record that something did not go as it should. -/
def warning (message : String) : Record := ⟨.warn, message⟩

/-- A record of use to someone who looks for a mistake. -/
def debugging (message : String) : Record := ⟨.debug, message⟩

end PageCompanion.Log
