/-
# Percent escapes

A cookie name or value may spell any byte of its UTF-8 form as `%` and two hexadecimal
digits.  `decodeBytes` scans the bytes from the left; a `%` that starts no escape stands for
itself.  `decode` reads the bytes back as text, and keeps the text as it was written when they
are not UTF-8, so that decoding never fails and never loses anything.
-/
import PageCompanion.Text.Bytes

namespace PageCompanion.Text.Percent

/-- The byte of the character `%`. -/
def sign : UInt8 := 0x25

/-- The value of a hexadecimal digit, in either case. -/
def hexDigit? (b : UInt8) : Option UInt8 :=
  if 0x30 ≤ b ∧ b ≤ 0x39 then some (b - 0x30)
  else if 0x41 ≤ b ∧ b ≤ 0x46 then some (b - 0x37)
  else if 0x61 ≤ b ∧ b ≤ 0x66 then some (b - 0x57)
  else none

/-- The bytes that a spelled sequence of bytes stands for.  A sign with two digits behind it is
one byte; with a digit and something else, both the sign and the digit stand for themselves;
else the sign does, as every other byte does.  Fewer than three bytes hold no escape. -/
def decodeBytes : List UInt8 → List UInt8
  | [] => []
  | [a] => [a]
  | [a, b] => [a, b]
  | a :: b :: c :: rest =>
    if a = sign then
      match hexDigit? b, hexDigit? c with
      | some high, some low => (16 * high + low) :: decodeBytes rest
      -- the byte behind the digit may be a sign itself, so it is looked at again
      | some _, none => a :: b :: decodeBytes (c :: rest)
      | none, _ => a :: decodeBytes (b :: c :: rest)
    else a :: decodeBytes (b :: c :: rest)

/-- The text that a spelled text stands for; a text whose bytes would not be UTF-8 stands for
itself. -/
def decode (raw : String) : String :=
  (textOfBytes? (decodeBytes (bytesOfText raw))).getD raw

/-! ## The scan -/

@[simp] theorem decodeBytes_nil : decodeBytes [] = [] := rfl

/-- A byte other than the sign stands for itself. -/
theorem decodeBytes_cons_of_ne {a : UInt8} (rest : List UInt8) (h : a ≠ sign) :
    decodeBytes (a :: rest) = a :: decodeBytes rest := by
  match rest with
  | [] => rfl
  | [b] => rfl
  | b :: c :: rest => simp [decodeBytes, h]

/-- The sign and two digits are one byte. -/
theorem decodeBytes_escape {b c high low : UInt8} (rest : List UInt8)
    (hb : hexDigit? b = some high) (hc : hexDigit? c = some low) :
    decodeBytes (sign :: b :: c :: rest) = (16 * high + low) :: decodeBytes rest := by
  simp [decodeBytes, hb, hc]

/-- The sign is no digit. -/
theorem hexDigit?_sign : hexDigit? sign = none := by decide

end PageCompanion.Text.Percent
