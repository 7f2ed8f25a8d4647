/-
# Quoted text

A cookie value is listed between double quotes, on one line and without a character that
cannot be seen.  The quote and the backslash are written behind a backslash, NUL, tab, line
feed and carriage return as `\0`, `\t`, `\n`, `\r`, and any other hidden character by its code
point in hexadecimal.  Which characters are hidden is a parameter of `quote`, since reading a
quoted text back does not depend on it.
-/
import PageCompanion.Text.Hidden

namespace PageCompanion.Text

/-- The written form of one character between quotes. -/
def quoteChar (hidden : Char → Bool) (c : Char) : List Char :=
  if c = '"' then ['\\', '"']
  else if c = '\\' then ['\\', '\\']
  else if c = '\x00' then ['\\', '0']
  else if c = '\t' then ['\\', 't']
  else if c = '\n' then ['\\', 'n']
  else if c = '\r' then ['\\', 'r']
  else if hidden c then ['\\', 'u', '\x7b'] ++ Nat.toDigits 16 c.toNat ++ ['\x7d']
  else [c]

/-- A text between double quotes. -/
def quote (hidden : Char → Bool) (cs : List Char) : List Char :=
  '"' :: cs.flatMap (quoteChar hidden) ++ ['"']

/-- A string between double quotes, every hidden character by its code point. -/
def quoted (s : String) : String :=
  String.ofList (quote isHidden s.toList)

theorem quoteChar_of_shown {hidden : Char → Bool} {c : Char} (hq : c ≠ '"') (hb : c ≠ '\\')
    (h0 : c ≠ '\x00') (ht : c ≠ '\t') (hn : c ≠ '\n') (hr : c ≠ '\r') (hh : hidden c = false) :
    quoteChar hidden c = [c] := by
  simp [quoteChar, hq, hb, h0, ht, hn, hr, hh]

end PageCompanion.Text
