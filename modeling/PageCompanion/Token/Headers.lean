/-
# Headers of a request

A request under way has a mapping from header names to values that can still be written to.
All that the token needs of it is `put`, which writes one entry and may issue log records.
Two mappings of the standard library are instances; the headers object of a page's request is
a third, in `PageCompanion.Script.Headers`.
-/
import PageCompanion.Log
import Std.Data.HashMap
import Std.Data.TreeMap

namespace PageCompanion.Token

/-- A mapping of header names to values in which one entry can be written. -/
class Headers (H : Type) where
  /-- Set one header and leave the others; a mapping that refuses says so in the records. -/
  put : H → String → String → H × List Log.Record

/-- Headers that are given by, and can be listed as, names with their values. -/
class HeaderTable (H : Type) extends Headers H where
  /-- The headers with these values; of several values for one name the last counts. -/
  ofList : List (String × String) → H
  get? : H → String → Option String
  /-- The names with their values in ascending order of the names. -/
  toSortedList : H → List (String × String)

instance : HeaderTable (Std.HashMap String String) where
  put m name value := (m.insert name value, [])
  ofList := Std.HashMap.ofList
  get? m name := m[name]?
  toSortedList m := m.toList.mergeSort fun a b => compare a.1 b.1 != .gt

instance : HeaderTable (Std.TreeMap String String) where
  put m name value := (m.insert name value, [])
  ofList l := Std.TreeMap.ofList l
  get? m name := m[name]?
  toSortedList m := m.toList

theorem put_hashMap (m : Std.HashMap String String) (name value : String) :
    Headers.put m name value = (m.insert name value, []) := rfl

theorem put_treeMap (m : Std.TreeMap String String) (name value : String) :
    Headers.put m name value = (m.insert name value, []) := rfl

end PageCompanion.Token
