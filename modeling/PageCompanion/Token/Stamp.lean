/-
# Stamping requests with the token

A `Stamp` is made once from a jar and puts the token of that jar on every request it is applied
to.  The jar is never read again, so a token that the server changes is picked up by the next
stamp only.  A stamp without a token says so once, at its first request, whatever its policy.
-/
import PageCompanion.Cookie.Jar
import PageCompanion.Token.Headers
import PageCompanion.Token.Policy

namespace PageCompanion.Token

open Cookie (Jar)

/-- What puts the token of a jar on requests. -/
structure Stamp where
  jar : Jar
  /-- Which cookie, which header, and what to do without a token. -/
  names : Names
  /-- The missing token has been reported. -/
  warned : Bool
deriving DecidableEq, Inhabited

namespace Stamp

def token? (s : Stamp) : Option String :=
  s.jar.get? s.names.cookie

/-- The value to send in the header, or nothing when the header is left out. -/
def value? (s : Stamp) : Option String :=
  match s.token? with
  | some token => some token
  | none =>
    match s.names.missing with
    | .sendEmpty => some sentinel
    | .leaveOut => none

/-- What is said of a new stamp. -/
def creationMessage (jar : Jar) (names : Names) : String :=
  let state := if (jar.get? names.cookie).isSome then "present" else "missing"
  s!"csrf injector: {jar.size} cookies, token cookie '{names.cookie}' {state}"

/-- A new stamp, and the record that it was made. -/
def make (jar : Jar) (names : Names) : Stamp × Log.Record :=
  (⟨jar, names, false⟩, Log.debugging (creationMessage jar names))

/-- What is said of a missing token. -/
def missingMessage (names : Names) : String :=
  let policy := names.missing.name
  s!"cookie '{names.cookie}' not found; {names.header} header policy is '{policy}'"

/-- The record of a missing token, unless the token is there or the record was issued before. -/
def report (s : Stamp) : Stamp × List Log.Record :=
  -- the policy does not matter here: a token that is missing is worth a word under either
  if s.token?.isNone && !s.warned then
    ({ s with warned := true }, [Log.warning (missingMessage s.names)])
  else (s, [])

/-- Put the token on one request. -/
def apply {H : Type} [Headers H] (s : Stamp) (headers : H) : Stamp × H × List Log.Record :=
  match s.value? with
  | none => (s.report.1, headers, s.report.2)
  | some value =>
    let written := Headers.put headers s.names.header value
    (s.report.1, written.1, s.report.2 ++ written.2)

/-! ## What a request does not change -/

@[simp] theorem report_jar (s : Stamp) : s.report.1.jar = s.jar := by
  unfold report; split <;> rfl

@[simp] theorem report_names (s : Stamp) : s.report.1.names = s.names := by
  unfold report; split <;> rfl

@[simp] theorem token?_report (s : Stamp) : s.report.1.token? = s.token? := by
  simp [token?]

@[simp] theorem value?_report (s : Stamp) : s.report.1.value? = s.value? := by
  simp [value?]

variable {H : Type} [Headers H]

theorem apply_fst (s : Stamp) (headers : H) : (s.apply headers).1 = s.report.1 := by
  unfold apply; split <;> rfl

@[simp] theorem apply_names (s : Stamp) (headers : H) :
    (s.apply headers).1.names = s.names := by
  rw [apply_fst, report_names]

@[simp] theorem value?_apply (s : Stamp) (headers : H) :
    (s.apply headers).1.value? = s.value? := by
  rw [apply_fst, value?_report]

end Stamp

end PageCompanion.Token
