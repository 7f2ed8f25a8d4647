/-
# Cookie jars

A jar is a snapshot of the cookies that a page can see: each name once, with a value or
without one.  Jars are extensional, so two of them are equal exactly when they answer every
question in the same way, and their entries come in ascending order of the names' code
points.  `Jar.parse` reads a cookie string; of several segments with one name the last counts.
-/
import PageCompanion.Cookie.Segment
import Std.Data.ExtTreeMap

namespace PageCompanion.Cookie

/-- A snapshot of the cookies that a page can see. -/
structure Jar where
  /-- The value of each name; the inner option is a cookie without a value. -/
  entries : Std.ExtTreeMap String (Option String)
deriving DecidableEq

namespace Jar

def empty : Jar := ⟨∅⟩

instance : Inhabited Jar := ⟨empty⟩

/-- The jar with one more cookie, in place of any other cookie of its name. -/
def insert (jar : Jar) (s : Segment) : Jar :=
  ⟨jar.entries.insert s.name s.value⟩

/-- The jar of a list of cookies; of several with one name the last counts. -/
def ofSegments (l : List Segment) : Jar :=
  l.foldl insert empty

/-- The cookies that a cookie string states.  Every text is a cookie string. -/
def parse (raw : String) : Jar :=
  ofSegments (segments raw)

/-- The value of a cookie that exists and has one. -/
def get? (jar : Jar) (name : String) : Option String :=
  jar.entries[name]?.join

/-- A cookie of this name exists, with a value or without. -/
def contains (jar : Jar) (name : String) : Bool :=
  jar.entries.contains name

def size (jar : Jar) : Nat :=
  jar.entries.size

def isEmpty (jar : Jar) : Bool :=
  jar.entries.isEmpty

/-- The cookies in ascending order of their names. -/
def toList (jar : Jar) : List (String × Option String) :=
  jar.entries.toList

/-! ## The entries of a jar, name by name -/

@[ext] theorem ext {a b : Jar} (h : ∀ n : String, a.entries[n]? = b.entries[n]?) : a = b := by
  cases a; cases b
  congr 1
  exact Std.ExtTreeMap.ext_getElem? h

@[simp] theorem getElem?_empty (n : String) : empty.entries[n]? = none := by
  simp [empty]

theorem getElem?_insert (jar : Jar) (s : Segment) (n : String) :
    (jar.insert s).entries[n]? = if s.name = n then some s.value else jar.entries[n]? := by
  simp [insert, Std.ExtTreeMap.getElem?_insert]

/-- A jar holds a name exactly when it has an entry for it. -/
theorem contains_eq_isSome (jar : Jar) (n : String) :
    jar.contains n = jar.entries[n]?.isSome := by
  simp [contains]

end Jar

end PageCompanion.Cookie
