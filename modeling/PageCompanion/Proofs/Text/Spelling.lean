/-
# Spellings of a text

A text can be written in many ways: each of its characters stands for itself or is written as
the escapes of all the bytes of its UTF-8 form, with hexadecimal digits in either case.  Which
characters must be escaped is a parameter, since `=` has to be in a cookie's name but not in its
value.  `Spells` is this relation, and `decode_of_spells` says that decoding undoes every
spelling.  `escapeAll` is a spelling of every text, in which nothing stands for itself.
-/
import PageCompanion.Proofs.Text.Encoding
import PageCompanion.Proofs.Text.Trimming
import PageCompanion.Text.Percent

namespace PageCompanion.Text

open Percent (decode decodeBytes hexDigit? sign)
open String (utf8EncodeChar)

/-- A hexadecimal digit for a number below sixteen, in either case. -/
def IsHexDigit (n : ℕ) (d : Char) : Prop :=
  d = Nat.digitChar n ∨ d = (Nat.digitChar n).toUpper

/-- The escape of a byte: the sign and two hexadecimal digits. -/
def IsEscape (b : UInt8) (t : List Char) : Prop :=
  ∃ high low, IsHexDigit (b.toNat / 16) high ∧ IsHexDigit (b.toNat % 16) low ∧
    t = ['%', high, low]

/-- One character as it may be written when some characters are barred from standing for
themselves. -/
inductive SpellsChar (barred : List Char) (c : Char) : List Char → Prop
  /-- The character stands for itself. -/
  | literal (h : c ∉ barred) : SpellsChar barred c [c]
  /-- Each byte of the character is escaped. -/
  | escaped {escapes : List (List Char)} (h : List.Forall₂ IsEscape (utf8EncodeChar c) escapes) :
      SpellsChar barred c escapes.flatten

/-- A text as it may be written: each character in turn, with no blank at either end. -/
def Spells (barred : List Char) (s : String) (t : List Char) : Prop :=
  Trimmed t ∧ ∃ parts, List.Forall₂ (SpellsChar barred) s.toList parts ∧ t = parts.flatten

/-! ## Digits and escapes -/

/-- What reading a hexadecimal digit needs to know of it. -/
lemma IsHexDigit.facts {n : ℕ} (hn : n < 16) {d : Char} (h : IsHexDigit n d) :
    d.toNat < 0x80 ∧ hexDigit? (UInt8.ofNat d.toNat) = some (UInt8.ofNat n) ∧
      d ∉ ['%', ';', '='] ∧ isBlank d = false := by
  interval_cases n <;> rcases h with rfl | rfl <;> decide

lemma byte_div_lt (b : UInt8) : b.toNat / 16 < 16 := by
  have := b.toNat_lt
  omega

lemma byte_mod_lt (b : UInt8) : b.toNat % 16 < 16 := Nat.mod_lt _ (by omega)

/-- A byte is the number of its two digits. -/
lemma byte_of_digits (b : UInt8) :
    16 * UInt8.ofNat (b.toNat / 16) + UInt8.ofNat (b.toNat % 16) = b := by
  have := b.toNat_lt
  rw [← UInt8.toNat_inj]
  simp only [UInt8.toNat_add, UInt8.toNat_mul, UInt8.toNat_ofNat', UInt8.reduceToNat]
  omega

/-- The bytes of an escape are the sign and two digits. -/
lemma IsEscape.bytes {b : UInt8} {t : List Char} (h : IsEscape b t) :
    ∃ high low, t.flatMap utf8EncodeChar = [sign, high, low] ∧
      hexDigit? high = some (UInt8.ofNat (b.toNat / 16)) ∧
      hexDigit? low = some (UInt8.ofNat (b.toNat % 16)) := by
  obtain ⟨high, low, hhigh, hlow, rfl⟩ := h
  obtain ⟨hh, hdigit, -⟩ := hhigh.facts (byte_div_lt b)
  obtain ⟨hl, ldigit, -⟩ := hlow.facts (byte_mod_lt b)
  refine ⟨_, _, ?_, hdigit, ldigit⟩
  simp only [List.flatMap_cons, List.flatMap_nil, utf8EncodeChar_of_lt hh, utf8EncodeChar_of_lt hl]
  rfl

/-- Scanning the bytes of an escape gives the byte that it stands for. -/
lemma decodeBytes_of_isEscape {b : UInt8} {t : List Char} (h : IsEscape b t) (rest : List UInt8) :
    decodeBytes (t.flatMap utf8EncodeChar ++ rest) = b :: decodeBytes rest := by
  obtain ⟨high, low, hbytes, hdigit, ldigit⟩ := h.bytes
  rw [hbytes, List.cons_append, List.cons_append, List.cons_append, List.nil_append,
    Percent.decodeBytes_escape rest hdigit ldigit, byte_of_digits]

lemma decodeBytes_of_escapes {bs : List UInt8} {ts : List (List Char)}
    (h : List.Forall₂ IsEscape bs ts) (rest : List UInt8) :
    decodeBytes (ts.flatten.flatMap utf8EncodeChar ++ rest) = bs ++ decodeBytes rest := by
  induction h with
  | nil => rfl
  | cons hb _ ih =>
    rw [List.flatten_cons, List.flatMap_append, List.append_assoc, decodeBytes_of_isEscape hb, ih,
      List.cons_append]

/-! ## Characters -/

/-- Bytes that are not the sign are copied. -/
lemma decodeBytes_append_of_not_mem {bs : List UInt8} (h : sign ∉ bs) (rest : List UInt8) :
    decodeBytes (bs ++ rest) = bs ++ decodeBytes rest := by
  induction bs with
  | nil => rfl
  | cons b bs ih =>
    have hb : b ≠ sign := fun hb => h (by simp [hb])
    rw [List.cons_append, Percent.decodeBytes_cons_of_ne _ hb, ih fun hs => h (by simp [hs]),
      List.cons_append]

lemma sign_not_mem_utf8EncodeChar {c : Char} (hc : c ≠ '%') : sign ∉ utf8EncodeChar c := by
  intro h
  have hnat : c.toNat = ('%' : Char).toNat := toNat_eq_of_mem_utf8EncodeChar h (by decide)
  exact hc (Char.toNat_inj.mp hnat)

lemma decodeBytes_of_spellsChar {barred : List Char} (hsign : '%' ∈ barred) {c : Char}
    {t : List Char} (h : SpellsChar barred c t) (rest : List UInt8) :
    decodeBytes (t.flatMap utf8EncodeChar ++ rest) = utf8EncodeChar c ++ decodeBytes rest := by
  cases h with
  | literal hc =>
    -- only the sign starts an escape, and it is barred
    have hne : c ≠ '%' := fun h => hc (h ▸ hsign)
    rw [List.flatMap_singleton, decodeBytes_append_of_not_mem (sign_not_mem_utf8EncodeChar hne)]
  | escaped hes => exact decodeBytes_of_escapes hes rest

lemma decodeBytes_of_parts {barred : List Char} (hsign : '%' ∈ barred) {cs : List Char}
    {parts : List (List Char)} (h : List.Forall₂ (SpellsChar barred) cs parts) :
    decodeBytes (parts.flatten.flatMap utf8EncodeChar) = cs.flatMap utf8EncodeChar := by
  induction h with
  | nil => rfl
  | cons hc _ ih =>
    rw [List.flatten_cons, List.flatMap_append, decodeBytes_of_spellsChar hsign hc, ih,
      List.flatMap_cons]

/-- **Decoding undoes every spelling.** -/
theorem decode_of_spells {barred : List Char} (hsign : '%' ∈ barred) {s : String}
    {t : List Char} (h : Spells barred s t) : decode (String.ofList t) = s := by
  obtain ⟨-, parts, hparts, rfl⟩ := h
  rw [decode, bytesOfText_ofList, decodeBytes_of_parts hsign hparts, ← bytesOfText_eq_flatMap,
    textOfBytes?_bytesOfText, Option.getD_some]

/-! ## What a spelling does not hold -/

/-- What no piece of a text holds, the text does not hold. -/
lemma not_mem_flatten {α : Type} {R : α → List Char → Prop} {x : Char}
    (hR : ∀ a t, R a t → x ∉ t) {as : List α} {ts : List (List Char)}
    (h : List.Forall₂ R as ts) : x ∉ ts.flatten := by
  induction h with
  | nil => simp
  | cons ha _ ih =>
    rw [List.flatten_cons, List.mem_append, not_or]
    exact ⟨hR _ _ ha, ih⟩

lemma not_mem_of_isEscape {x : Char} (hx : x ∈ [';', '=']) (b : UInt8) (t : List Char)
    (h : IsEscape b t) : x ∉ t := by
  obtain ⟨high, low, hhigh, hlow, rfl⟩ := h
  obtain ⟨-, -, hh, -⟩ := hhigh.facts (byte_div_lt b)
  obtain ⟨-, -, hl, -⟩ := hlow.facts (byte_mod_lt b)
  have hsub : x ∈ ['%', ';', '='] := List.mem_cons_of_mem _ hx
  simp only [List.mem_cons, List.not_mem_nil, or_false, not_or]
  refine ⟨?_, ?_, ?_⟩
  · rintro rfl
    simp at hx
  · rintro rfl
    exact hh hsub
  · rintro rfl
    exact hl hsub

/-- A separator that is barred does not occur in a spelling. -/
lemma Spells.not_mem {barred : List Char} {s : String} {t : List Char} (h : Spells barred s t)
    {x : Char} (hx : x ∈ [';', '=']) (hbarred : x ∈ barred) : x ∉ t := by
  obtain ⟨-, parts, hparts, rfl⟩ := h
  refine not_mem_flatten (fun c part hpart => ?_) hparts
  -- a separator would stand for itself, which it may not, or be the sign or a digit
  cases hpart with
  | literal hc =>
    rw [List.mem_singleton]
    rintro rfl
    exact hc hbarred
  | escaped hes => exact not_mem_flatten (not_mem_of_isEscape hx) hes

/-! ## A spelling of every text -/

/-- A text without a barred character, and without a blank at either end, spells itself. -/
lemma spells_self {barred : List Char} {s : String} (h : ∀ c ∈ s.toList, c ∉ barred)
    (ht : Trimmed s.toList) : Spells barred s s.toList := by
  refine ⟨ht, s.toList.map fun c => [c], ?_, ?_⟩
  · rw [List.forall₂_map_right_iff, List.forall₂_same]
    exact fun c hc => .literal (h c hc)
  · rw [← List.flatMap_def, List.flatMap_singleton']

/-- The escape of a byte with lower-case digits. -/
def escapeByte (b : UInt8) : List Char :=
  ['%', Nat.digitChar (b.toNat / 16), Nat.digitChar (b.toNat % 16)]

/-- A text with every character escaped. -/
def escapeAll (s : String) : List Char :=
  (bytesOfText s).flatMap escapeByte

lemma isEscape_escapeByte (b : UInt8) : IsEscape b (escapeByte b) :=
  ⟨_, _, Or.inl rfl, Or.inl rfl, rfl⟩

lemma trimmed_escapeAll (s : String) : Trimmed (escapeAll s) := by
  rw [escapeAll]
  generalize bytesOfText s = bs
  constructor
  · -- the first character is the sign, the last is a digit
    intro c hc
    cases bs with
    | nil => simp at hc
    | cons b bs =>
      obtain rfl : '%' = c := by simpa [escapeByte] using hc
      decide
  · intro c hc
    cases bs using List.reverseRecOn with
    | nil => simp at hc
    | append_singleton bs b =>
      obtain rfl : Nat.digitChar (b.toNat % 16) = c := by
        simpa [escapeByte, List.flatMap_append] using hc
      exact (IsHexDigit.facts (byte_mod_lt b) (Or.inl rfl)).2.2.2

/-- Escaping everything is a spelling, whatever is barred. -/
lemma spells_escapeAll (barred : List Char) (s : String) : Spells barred s (escapeAll s) := by
  refine ⟨trimmed_escapeAll s, s.toList.map fun c => (utf8EncodeChar c).flatMap escapeByte, ?_, ?_⟩
  · rw [List.forall₂_map_right_iff, List.forall₂_same]
    intro c _
    have hescapes : List.Forall₂ IsEscape (utf8EncodeChar c)
        ((utf8EncodeChar c).map escapeByte) := by
      rw [List.forall₂_map_right_iff, List.forall₂_same]
      exact fun b _ => isEscape_escapeByte b
    rw [List.flatMap_def]
    exact .escaped hescapes
  · rw [escapeAll, bytesOfText_eq_flatMap, List.flatMap_assoc, List.flatMap_def]

end PageCompanion.Text
