/-
# The lengths of a text

A text has three lengths: its characters, its code units in UTF-16, in which a page counts a
selection, and its bytes in UTF-8.  A character is one unit, or two beyond the basic plane, and it
has at least as many bytes as units, with equality for ASCII only; by induction on the text the
lengths stand in this order too.  `unitLength` is the second of them in 32 bits, and
`unitLength_counts` says that nothing is lost to these below `2 ^ 32` bytes.
-/
import PageCompanion.Proofs.Text.Encoding
import PageCompanion.Text.Units

namespace PageCompanion.Text

open String (utf8EncodeChar)

/-- The UTF-16 form of a character: its number, or, beyond the basic plane, two surrogates with ten
bits each of what the number exceeds the plane by. -/
def utf16EncodeChar (c : Char) : List UInt16 :=
  if c.toNat < 0x10000 then [UInt16.ofNat c.toNat]
  else
    let excess := c.toNat - 0x10000
    [UInt16.ofNat (0xd800 + excess / 0x400), UInt16.ofNat (0xdc00 + excess % 0x400)]

/-! ## One character -/

lemma length_utf16EncodeChar (c : Char) : (utf16EncodeChar c).length = charUnits c := by
  rw [utf16EncodeChar, charUnits]
  split_ifs <;> rfl

lemma charUnits_eq (c : Char) : charUnits c = 1 + if 0x10000 ≤ c.toNat then 1 else 0 := by
  rw [charUnits]
  split_ifs <;> omega

/-- A character of two units has four bytes, and no character has fewer bytes than units. -/
lemma charUnits_le_length (c : Char) : charUnits c ≤ (utf8EncodeChar c).length := by
  have hnat : c.val.toNat = c.toNat := rfl
  rw [charUnits, utf8EncodeChar, hnat]
  split_ifs <;> simp only [List.length_cons, List.length_nil] <;> omega

/-- Beyond ASCII a character has more bytes than units. -/
lemma charUnits_eq_length_iff {c : Char} :
    charUnits c = (utf8EncodeChar c).length ↔ c.toNat < 0x80 := by
  have hnat : c.val.toNat = c.toNat := rfl
  rw [charUnits, utf8EncodeChar, hnat]
  split_ifs <;> simp only [List.length_cons, List.length_nil, true_iff] <;> omega

/-! ## Texts -/

lemma units_eq_length_utf16 (cs : List Char) : units cs = (cs.flatMap utf16EncodeChar).length := by
  induction cs with
  | nil => rfl
  | cons c cs ih =>
    rw [units_cons, List.flatMap_cons, List.length_append, length_utf16EncodeChar, ih]

/-- Every character counts once, and those beyond the basic plane once more. -/
lemma units_eq_length_add (cs : List Char) :
    units cs = cs.length + cs.countP fun c => 0x10000 ≤ c.toNat := by
  induction cs with
  | nil => rfl
  | cons c cs ih =>
    rw [units_cons, charUnits_eq, ih, List.length_cons, List.countP_cons]
    simp only [decide_eq_true_eq]
    omega

lemma units_le_length_utf8 (cs : List Char) : units cs ≤ (cs.flatMap utf8EncodeChar).length := by
  induction cs with
  | nil => exact Nat.le_refl 0
  | cons c cs ih =>
    have hc := charUnits_le_length c
    rw [units_cons, List.flatMap_cons, List.length_append]
    omega

lemma units_eq_length_utf8_iff {cs : List Char} :
    units cs = (cs.flatMap utf8EncodeChar).length ↔ ∀ c ∈ cs, c.toNat < 0x80 := by
  induction cs with
  | nil => simp
  | cons c cs ih =>
    -- no character has fewer bytes than units, so the sums agree only where all summands do
    have hc := charUnits_le_length c
    have hcs := units_le_length_utf8 cs
    rw [List.forall_mem_cons, ← ih, ← charUnits_eq_length_iff, units_cons, List.flatMap_cons,
      List.length_append]
    omega

lemma toNat_unitLength (s : String) : (unitLength s).toNat = units s.toList % 2 ^ 32 := by
  rw [unitLength, UInt32.toNat_ofNat']

lemma units_le_utf8ByteSize (s : String) : units s.toList ≤ s.utf8ByteSize := by
  rw [utf8ByteSize_eq_length, bytesOfText_eq_flatMap]
  exact units_le_length_utf8 _

/-- Below `2 ^ 32` bytes the count fits. -/
lemma toNat_unitLength_of_lt {s : String} (h : s.utf8ByteSize < 2 ^ 32) :
    (unitLength s).toNat = units s.toList := by
  rw [toNat_unitLength, Nat.mod_eq_of_lt ((units_le_utf8ByteSize s).trans_lt h)]

/-- **The length of a text in 32 bits counts its UTF-16 code units.**  In 32 bits it is the number
of units of the text's UTF-16 form, which is the number of its characters and, once more, of those
beyond the basic plane.  With fewer than `2 ^ 32` bytes it is exactly that number; it is not below
the number of characters nor above the number of bytes, and the latter only for an ASCII text; and
the length of two texts put together is the sum of their lengths. -/
theorem unitLength_counts (s : String) :
    (unitLength s).toNat = (s.toList.flatMap utf16EncodeChar).length % 2 ^ 32 ∧
    (unitLength s).toNat = (s.length + s.toList.countP fun c => 0x10000 ≤ c.toNat) % 2 ^ 32 ∧
    (s.utf8ByteSize < 2 ^ 32 →
      (unitLength s).toNat = (s.toList.flatMap utf16EncodeChar).length ∧
      (unitLength s).toNat = (s.length + s.toList.countP fun c => 0x10000 ≤ c.toNat) ∧
      s.length ≤ (unitLength s).toNat ∧ (unitLength s).toNat ≤ s.utf8ByteSize ∧
      ((unitLength s).toNat = s.utf8ByteSize ↔ ∀ c ∈ s.toList, c.toNat < 0x80)) ∧
    ∀ t, (s ++ t).utf8ByteSize < 2 ^ 32 →
      (unitLength (s ++ t)).toNat = (unitLength s).toNat + (unitLength t).toNat := by
  have hchars := units_eq_length_add s.toList
  rw [String.length_toList] at hchars
  refine ⟨?_, ?_, ?_, ?_⟩
  · rw [toNat_unitLength, units_eq_length_utf16]
  · rw [toNat_unitLength, hchars]
  · intro hs
    have hexact := toNat_unitLength_of_lt hs
    refine ⟨?_, ?_, ?_, ?_, ?_⟩
    · rw [hexact, units_eq_length_utf16]
    · rw [hexact, hchars]
    · omega
    · rw [hexact]
      exact units_le_utf8ByteSize s
    · rw [hexact, utf8ByteSize_eq_length, bytesOfText_eq_flatMap]
      exact units_eq_length_utf8_iff
  · intro t hst
    have hsum : (s ++ t).utf8ByteSize = s.utf8ByteSize + t.utf8ByteSize :=
      String.utf8ByteSize_append
    have hs := toNat_unitLength_of_lt (s := s) (by omega)
    have ht := toNat_unitLength_of_lt (s := t) (by omega)
    rw [toNat_unitLength_of_lt hst, String.toList_append, units_append, hs, ht]

/-- `unitLength_counts` at a text with characters of one to four bytes. -/
theorem unitLength_counts_of_all_sizes :
    let s := "a\u00e9\u20ac"
    let t := "😀"
    s.utf8ByteSize < 2 ^ 32 ∧ (s ++ t).utf8ByteSize < 2 ^ 32 ∧
      (unitLength s).toNat = 3 ∧ (unitLength s).toNat ≠ s.utf8ByteSize ∧
      (unitLength (s ++ t)).toNat = (unitLength s).toNat + (unitLength t).toNat ∧
      (unitLength (s ++ t)).toNat = 5 ∧
      (s ++ t).toList.flatMap utf16EncodeChar = [0x61, 0xe9, 0x20ac, 0xd83d, 0xde00] := by
  intro s t
  have hs : s.utf8ByteSize < 2 ^ 32 := by decide
  have hst : (s ++ t).utf8ByteSize < 2 ^ 32 := by decide
  obtain ⟨-, -, hexact, hsum⟩ := unitLength_counts s
  have hwide : ¬ ∀ c ∈ s.toList, c.toNat < 0x80 := fun h =>
    absurd (h '\u20ac' (by decide)) (by decide)
  obtain ⟨hunits, -, -, -, hascii⟩ := hexact hs
  obtain ⟨-, -, hboth, -⟩ := unitLength_counts (s ++ t)
  exact ⟨hs, hst, hunits.trans (by decide), mt hascii.mp hwide, hsum t hst,
    (hboth hst).1.trans (by decide), by decide⟩

end PageCompanion.Text
