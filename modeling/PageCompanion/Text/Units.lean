/-
# The length of a text in UTF-16 code units

Selection offsets in a text field count UTF-16 code units: one for a character of the basic
plane, two for any other.  `units` is that count; `unitLength` is the 32-bit number that a
field reports, which is the count as long as that fits.
-/
namespace PageCompanion.Text

/-- The code units of one character. -/
def charUnits (c : Char) : Nat :=
  if c.toNat < 0x10000 then 1 else 2

/-- The code units of a text. -/
def units (cs : List Char) : Nat :=
  cs.foldr (charUnits · + ·) 0

/-- The code units of a text as a 32-bit number. -/
def unitLength (s : String) : UInt32 :=
  UInt32.ofNat (units s.toList)

@[simp] theorem units_nil : units [] = 0 := rfl

@[simp] theorem units_cons (c : Char) (cs : List Char) :
    units (c :: cs) = charUnits c + units cs := rfl

@[simp] theorem units_append (a b : List Char) : units (a ++ b) = units a + units b := by
  induction a with
  | nil => simp
  | cons c a ih => simp [ih, Nat.add_assoc]

end PageCompanion.Text
