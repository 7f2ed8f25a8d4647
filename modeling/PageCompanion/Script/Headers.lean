/-
# The headers object of a request

An object of the page's scripts is a mapping of header names to values: writing a header is
writing a property.  A write that throws is reported; a write that the object ignores is not, since
there is nothing to tell it by.  Either leaves the object as it is.
-/
import PageCompanion.Script.Value
import PageCompanion.Token.Headers

namespace PageCompanion.Script

/-- What is said of a header that could not be written. -/
def refusalMessage (name : String) (thrown : Value) : String :=
  s!"could not set header {name}: {thrown.debugText}"

instance : Token.Headers (Object Value) where
  put o name value :=
    match o.set name value with
    | .ok after => (after, [])
    | .error thrown => (o, [Log.warning (refusalMessage name thrown)])

section

variable {o : Object Value} {name : String}

theorem put_of_kept (h : o.writing name = .kept) (value : String) :
    Token.Headers.put o name value = (o.put name value, []) := by
  simp [Token.Headers.put, Object.set, h]

theorem put_of_ignored (h : o.writing name = .ignored) (value : String) :
    Token.Headers.put o name value = (o, []) := by
  simp [Token.Headers.put, Object.set, h]

theorem put_of_throws {thrown : Value} (h : o.writing name = .throws thrown) (value : String) :
    Token.Headers.put o name value = (o, [Log.warning (refusalMessage name thrown)]) := by
  simp [Token.Headers.put, Object.set, h]

end

end PageCompanion.Script
