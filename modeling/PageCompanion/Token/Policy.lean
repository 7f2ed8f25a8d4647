/-
# Which token goes where

A server sets a token in a cookie and expects it back in a header of every request.  `Names`
says which cookie and which header, and a `Policy` says what to do on a page that has no token:
send the header with an empty value, or leave the request as it is.
-/
import PageCompanion.Text.Blank

namespace PageCompanion.Token

/-- The cookie that holds the token unless the page says otherwise. -/
def defaultCookie : String := "_csrf"

/-- The header that carries the token unless the page says otherwise. -/
def defaultHeader : String := "X-CSRF-Token"

/-- The header value that stands for a missing token. -/
def sentinel : String := ""

/-- What to do when the token's cookie is missing or has no value. -/
inductive Policy where
  /-- Send the header with the sentinel as its value. -/
  | sendEmpty
  /-- Leave the headers of the request as they are. -/
  | leaveOut
deriving DecidableEq, Repr, Inhabited

namespace Policy

def name : Policy → String
  | sendEmpty => "empty"
  | leaveOut => "omit"

def all : List Policy := [sendEmpty, leaveOut]

/-- The policy with a name, which may have white space around it and ASCII letters in either
case. -/
def ofName? (s : String) : Option Policy :=
  all.find? fun p => p.name == (Text.trim s).toLower

@[simp] theorem mem_all (p : Policy) : p ∈ all := by
  cases p <;> simp [all]

end Policy

/-- The names of the cookie and the header, and the policy for a missing token. -/
structure Names where
  cookie : String := defaultCookie
  header : String := defaultHeader
  missing : Policy := .sendEmpty
deriving DecidableEq, Repr, Inhabited

end PageCompanion.Token
