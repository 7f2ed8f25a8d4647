/-
# What decoding gives

The scan of a name's or a value's bytes looks one to three bytes ahead and copies one or two of
them at a time.  `Reads` says what it computes by one rule: from the left, an escape is read as the
byte that it denotes, and any other byte as itself.  Every sequence of bytes has one reading, and
the scan gives it (`reads_iff`).  The sign is no digit, so escapes never overlap, and the readings
of two sequences are the reading of both together unless an escape lies across the seam
(`Reads.append`).  On texts this becomes `decode_meaning`.
-/
import PageCompanion.Proofs.Text.Spelling

namespace PageCompanion.Text

open Percent (decode decodeBytes hexDigit? sign)
open String (utf8EncodeChar)

/-- An escape stands at the head of a sequence of bytes. -/
def StartsEscape (bs : List UInt8) : Prop :=
  ∃ b t, IsEscape b t ∧ t.flatMap utf8EncodeChar <+: bs

/-- What a sequence of bytes stands for, read from the left. -/
inductive Reads : List UInt8 → List UInt8 → Prop
  | nil : Reads [] []
  /-- An escape stands for the byte that it denotes, and reading goes on behind it. -/
  | escape {b : UInt8} {t : List Char} {rest out : List UInt8} (h : IsEscape b t)
      (hrest : Reads rest out) : Reads (t.flatMap utf8EncodeChar ++ rest) (b :: out)
  /-- Any other byte stands for itself. -/
  | copy {b : UInt8} {rest out : List UInt8} (h : ¬ StartsEscape (b :: rest))
      (hrest : Reads rest out) : Reads (b :: rest) (b :: out)

/-- The bytes are those of a text. -/
def IsUtf8 (bs : List UInt8) : Prop := ∃ s, bytesOfText s = bs

lemma isUtf8_iff {bs : List UInt8} : IsUtf8 bs ↔ (textOfBytes? bs).isSome := by
  rw [Option.isSome_iff_exists]
  exact exists_congr fun _ => textOfBytes?_eq_some_iff.symm

/-- No text has the bytes of a surrogate, of a form that is too long or of a number too large. -/
example : textOfBytes? [0xed, 0xa0, 0x80] = none ∧ textOfBytes? [0xc0, 0x80] = none ∧
    textOfBytes? [0xf4, 0x90, 0x80, 0x80] = none := by decide

instance : DecidablePred IsUtf8 := fun _ => decidable_of_iff _ isUtf8_iff.symm

/-- Somewhere in a text stands an escape. -/
def HoldsEscape (cs : List Char) : Prop := ∃ b t, IsEscape b t ∧ t <:+: cs

/-- A text ends in the sign, or in the sign and one digit. -/
def BreaksOff (cs : List Char) : Prop :=
  ['%'] <:+ cs ∨ ∃ n < 16, ∃ d, IsHexDigit n d ∧ ['%', d] <:+ cs

/-! ## Escapes among bytes -/

/-- The digits that are read are the sixteen in either case. -/
lemma exists_isHexDigit {a v : UInt8} (h : hexDigit? a = some v) :
    v.toNat < 16 ∧ ∃ d, IsHexDigit v.toNat d ∧ utf8EncodeChar d = [a] := by
  obtain ⟨n, hn, rfl⟩ : ∃ n < 256, a = UInt8.ofNat n := ⟨a.toNat, a.toNat_lt, by simp⟩
  have hnat : (UInt8.ofNat n).toNat = n := by
    rw [UInt8.toNat_ofNat']
    omega
  rw [hexDigit?] at h
  simp only [UInt8.le_iff_toNat_le, hnat, UInt8.reduceToNat] at h
  split_ifs at h with hdecimal hupper hlower <;> obtain rfl := Option.some.inj h
  · obtain ⟨hmin, hmax⟩ := hdecimal
    clear h hnat
    interval_cases n <;> exact ⟨by decide, _, Or.inl rfl, by decide⟩
  · obtain ⟨hmin, hmax⟩ := hupper
    clear h hnat
    interval_cases n <;> exact ⟨by decide, _, Or.inr rfl, by decide⟩
  · obtain ⟨hmin, hmax⟩ := hlower
    clear h hnat
    interval_cases n <;> exact ⟨by decide, _, Or.inl rfl, by decide⟩

lemma startsEscape_iff {bs : List UInt8} :
    StartsEscape bs ↔ ∃ b c high low rest, hexDigit? b = some high ∧ hexDigit? c = some low ∧
      bs = sign :: b :: c :: rest := by
  constructor
  · rintro ⟨b, t, ht, rest, rfl⟩
    obtain ⟨high, low, hbytes, hhigh, hlow⟩ := ht.bytes
    exact ⟨high, low, _, _, rest, hhigh, hlow, by rw [hbytes]; rfl⟩
  · rintro ⟨b, c, high, low, rest, hb, hc, rfl⟩
    obtain ⟨hhigh, d, hd, hdbytes⟩ := exists_isHexDigit hb
    obtain ⟨hlow, e, he, hebytes⟩ := exists_isHexDigit hc
    have hvalue : (16 * high + low).toNat = 16 * high.toNat + low.toNat := by
      rw [UInt8.toNat_add, UInt8.toNat_mul]
      simp only [UInt8.reduceToNat]
      omega
    refine ⟨16 * high + low, ['%', d, e], ⟨d, e, ?_, ?_, rfl⟩, rest, ?_⟩
    · rwa [hvalue, show (16 * high.toNat + low.toNat) / 16 = high.toNat by omega]
    · rwa [hvalue, show (16 * high.toNat + low.toNat) % 16 = low.toNat by omega]
    · rw [List.flatMap_cons, List.flatMap_cons, List.flatMap_singleton, hdbytes, hebytes]
      rfl

lemma IsEscape.ne_nil {b : UInt8} {t : List Char} (h : IsEscape b t) : t ≠ [] := by
  obtain ⟨high, low, -, -, rfl⟩ := h
  simp

/-- The sign and the digits are ASCII. -/
lemma IsEscape.ascii {b : UInt8} {t : List Char} (h : IsEscape b t) : ∀ c ∈ t, c.toNat < 0x80 := by
  obtain ⟨high, low, hhigh, hlow, rfl⟩ := h
  intro c hc
  simp only [List.mem_cons, List.not_mem_nil, or_false] at hc
  rcases hc with rfl | rfl | rfl
  · decide
  · exact (hhigh.facts (byte_div_lt b)).1
  · exact (hlow.facts (byte_mod_lt b)).1

lemma IsEscape.length_bytes {b : UInt8} {t : List Char} (h : IsEscape b t) :
    (t.flatMap utf8EncodeChar).length = 3 := by
  obtain ⟨high, low, hbytes, -⟩ := h.bytes
  rw [hbytes]
  rfl

/-! ## The scan and the reading -/

/-- **Of what starts no escape one byte is copied**, also where the scan copies two at once. -/
lemma decodeBytes_cons {a : UInt8} {rest : List UInt8} (h : ¬ StartsEscape (a :: rest)) :
    decodeBytes (a :: rest) = a :: decodeBytes rest := by
  by_cases ha : a = sign
  case neg => exact Percent.decodeBytes_cons_of_ne rest ha
  subst ha
  match rest with
  | [] => rfl
  | [b] => rfl
  | b :: c :: rest =>
    cases hb : hexDigit? b with
    | none => simp [decodeBytes, hb]
    | some high =>
      cases hc : hexDigit? c with
      | none =>
        -- the sign and the digit are copied together; the digit is no sign, so alone it is as well
        have hne : b ≠ sign := by
          rintro rfl
          exact absurd hb (by simp [Percent.hexDigit?_sign])
        rw [Percent.decodeBytes_cons_of_ne _ hne]
        simp [decodeBytes, hb, hc]
      | some low => exact absurd (startsEscape_iff.mpr ⟨b, c, high, low, rest, hb, hc, rfl⟩) h

lemma reads_decodeBytes (bs : List UInt8) : Reads bs (decodeBytes bs) := by
  induction hn : bs.length using Nat.strong_induction_on generalizing bs with
  | h n ih =>
    subst hn
    by_cases h : StartsEscape bs
    · obtain ⟨b, t, ht, rest, rfl⟩ := h
      have hlength := ht.length_bytes
      rw [decodeBytes_of_isEscape ht]
      exact .escape ht (ih _ (by rw [List.length_append]; omega) rest rfl)
    · cases bs with
      | nil => exact .nil
      | cons a rest =>
        rw [decodeBytes_cons h]
        exact .copy h (ih _ (by rw [List.length_cons]; omega) rest rfl)

/-- **The scan gives the reading, and there is no other.** -/
theorem reads_iff {bs out : List UInt8} : Reads bs out ↔ decodeBytes bs = out := by
  constructor
  · intro h
    induction h with
    | nil => rfl
    | escape h _ ih => rw [decodeBytes_of_isEscape h, ih]
    | copy h _ ih => rw [decodeBytes_cons h, ih]
  · rintro rfl
    exact reads_decodeBytes bs

instance (bs out : List UInt8) : Decidable (Reads bs out) :=
  decidable_of_iff _ reads_iff.symm

lemma Reads.unique {bs out out' : List UInt8} (h : Reads bs out) (h' : Reads bs out') :
    out = out' :=
  (reads_iff.mp h).symm.trans (reads_iff.mp h')

lemma Reads.length_le {bs out : List UInt8} (h : Reads bs out) : out.length ≤ bs.length := by
  induction h with
  | nil => exact Nat.le_refl 0
  | escape h _ ih =>
    rw [List.length_append, h.length_bytes, List.length_cons]
    omega
  | copy _ _ ih =>
    rw [List.length_cons, List.length_cons]
    omega

/-- Only no bytes are read as none. -/
lemma Reads.eq_nil_iff {bs out : List UInt8} (h : Reads bs out) : out = [] ↔ bs = [] := by
  cases h with
  | nil => simp
  | escape h _ =>
    rw [List.append_eq_nil_iff, flatMap_utf8EncodeChar_eq_nil_iff]
    simp [h.ne_nil]
  | copy => simp

lemma reads_self {bs : List UInt8} (h : ∀ tail, tail <:+ bs → ¬ StartsEscape tail) :
    Reads bs bs := by
  induction bs with
  | nil => exact .nil
  | cons b bs ih =>
    exact .copy (h _ List.suffix_rfl) (ih fun tail ht => h tail (ht.trans (List.suffix_cons b bs)))

/-! ## Readings put together -/

/-- The sign, or the sign and one digit. -/
def PartOfEscape (bs : List UInt8) : Prop :=
  bs = [sign] ∨ ∃ b v, hexDigit? b = some v ∧ bs = [sign, b]

/-- Of an escape that is neither in the first of two sequences nor in the second, a part is in the
first and a digit in the second. -/
lemma StartsEscape.across {x y : List UInt8} (h : StartsEscape (x ++ y)) (hne : x ≠ [])
    (hx : ¬ StartsEscape x) : PartOfEscape x ∧ ∃ c ∈ y.head?, hexDigit? c ≠ none := by
  obtain ⟨b, c, high, low, rest, hb, hc, heq⟩ := startsEscape_iff.mp h
  match x, hne with
  | [a], _ =>
    obtain ⟨rfl, rfl⟩ : a = sign ∧ y = b :: c :: rest := by simpa using heq
    exact ⟨Or.inl rfl, b, rfl, by simp [hb]⟩
  | [a, a'], _ =>
    obtain ⟨rfl, rfl, rfl⟩ : a = sign ∧ a' = b ∧ y = c :: rest := by simpa using heq
    exact ⟨Or.inr ⟨a', high, hb, rfl⟩, c, rfl, by simp [hc]⟩
  | a :: a' :: a'' :: x, _ =>
    obtain ⟨rfl, rfl, rfl, -⟩ : a = sign ∧ a' = b ∧ a'' = c ∧ x ++ y = rest := by simpa using heq
    exact absurd (startsEscape_iff.mpr ⟨a', a'', high, low, x, hb, hc, rfl⟩) hx

/-- **Two sequences are read one after the other**, unless the first breaks off within an escape
and the second goes on with a digit. -/
lemma Reads.append {x y out out' : List UInt8} (hx : Reads x out) (hy : Reads y out')
    (h : ∀ tail, tail <:+ x → PartOfEscape tail → ∀ c ∈ y.head?, hexDigit? c = none) :
    Reads (x ++ y) (out ++ out') := by
  induction hx with
  | nil => exact hy
  | @escape b t rest out ht _ ih =>
    rw [List.append_assoc]
    exact .escape ht (ih fun tail htail => h tail (htail.trans (List.suffix_append _ _)))
  | @copy b rest out hb _ ih =>
    refine .copy (fun hstarts => ?_)
      (ih fun tail htail => h tail (htail.trans (List.suffix_cons _ _)))
    obtain ⟨hpart, c, hc, hdigit⟩ := StartsEscape.across hstarts (List.cons_ne_nil b rest) hb
    exact hdigit (h _ List.suffix_rfl hpart c hc)

/-- In front of a sign nothing is left open. -/
lemma Reads.append_sign {x y out out' : List UInt8} (hx : Reads x out)
    (hy : Reads (sign :: y) out') : Reads (x ++ sign :: y) (out ++ out') := by
  refine hx.append hy fun _ _ _ c hc => ?_
  obtain rfl : sign = c := by simpa using hc
  exact Percent.hexDigit?_sign

/-! ## Escapes in texts -/

/-- At the head of a text's bytes stands an escape when one stands at the head of the text. -/
lemma exists_isEscape_prefix {cs : List Char} (h : StartsEscape (cs.flatMap utf8EncodeChar)) :
    ∃ b t, IsEscape b t ∧ t <+: cs := by
  obtain ⟨b, t, ht, rest, hrest⟩ := h
  obtain ⟨front, cs₂, rfl, hfront, -⟩ :=
    exists_append_of_flatMap_eq ht.ne_nil ht.ascii (hrest.symm.trans (List.nil_append _).symm)
  obtain rfl := flatMap_utf8EncodeChar_eq_nil_iff.mp hfront
  exact ⟨b, t, ht, cs₂, rfl⟩

lemma holdsEscape_of_suffix {cs : List Char} {tail : List UInt8}
    (htail : tail <:+ cs.flatMap utf8EncodeChar) (h : StartsEscape tail) : HoldsEscape cs := by
  obtain ⟨b, t, ht, rest, rfl⟩ := h
  obtain ⟨before, hbefore⟩ := htail
  obtain ⟨cs₁, cs₂, rfl, -, -⟩ := exists_append_of_flatMap_eq ht.ne_nil ht.ascii hbefore.symm
  exact ⟨b, t, ht, cs₁, cs₂, by rw [List.append_assoc]⟩

/-- An escape makes the reading shorter, wherever it stands. -/
lemma length_lt_of_holdsEscape {cs : List Char} {out : List UInt8}
    (h : Reads (cs.flatMap utf8EncodeChar) out) (hcs : HoldsEscape cs) :
    out.length < (cs.flatMap utf8EncodeChar).length := by
  obtain ⟨b, t, ht, before, after, rfl⟩ := hcs
  obtain ⟨high, low, hbytes, -⟩ := ht.bytes
  have hbefore := reads_decodeBytes (before.flatMap utf8EncodeChar)
  have hafter := reads_decodeBytes (after.flatMap utf8EncodeChar)
  have hescape := Reads.escape ht hafter
  rw [hbytes] at hescape
  have hread := hbefore.append_sign hescape
  have hsplit : (before ++ t ++ after).flatMap utf8EncodeChar = before.flatMap utf8EncodeChar ++
      sign :: ([high, low] ++ after.flatMap utf8EncodeChar) := by
    rw [List.flatMap_append, List.flatMap_append, hbytes, List.append_assoc]
    rfl
  rw [hsplit] at h ⊢
  obtain rfl := h.unique hread
  have hlebefore := hbefore.length_le
  have hleafter := hafter.length_le
  simp only [List.length_append, List.length_cons, List.length_nil]
  omega

/-- An ASCII text whose bytes end the bytes of a text ends that text. -/
lemma suffix_of_flatMap_suffix {t cs : List Char} (hne : t ≠ []) (ht : ∀ c ∈ t, c.toNat < 0x80)
    (h : t.flatMap utf8EncodeChar <:+ cs.flatMap utf8EncodeChar) : t <:+ cs := by
  obtain ⟨before, hbefore⟩ := h
  have hsplit : cs.flatMap utf8EncodeChar = before ++ (t.flatMap utf8EncodeChar ++ []) := by
    rw [List.append_nil, hbefore]
  obtain ⟨cs₁, cs₂, rfl, -, hnil⟩ := exists_append_of_flatMap_eq hne ht hsplit
  obtain rfl := flatMap_utf8EncodeChar_eq_nil_iff.mp hnil
  exact ⟨cs₁, by rw [List.append_nil]⟩

lemma breaksOff_of_suffix {cs : List Char} {tail : List UInt8}
    (htail : tail <:+ cs.flatMap utf8EncodeChar) (h : PartOfEscape tail) : BreaksOff cs := by
  rcases h with rfl | ⟨b, v, hb, rfl⟩
  · have hsign : ['%'].flatMap utf8EncodeChar <:+ cs.flatMap utf8EncodeChar := htail
    exact Or.inl (suffix_of_flatMap_suffix (by simp) (by simp) hsign)
  · obtain ⟨hv, d, hd, hbytes⟩ := exists_isHexDigit hb
    refine Or.inr ⟨v.toNat, hv, d, hd, suffix_of_flatMap_suffix (by simp) ?_ ?_⟩
    · intro c hc
      simp only [List.mem_cons, List.not_mem_nil, or_false] at hc
      rcases hc with rfl | rfl
      · decide
      · exact (hd.facts hv).1
    · rwa [List.flatMap_cons, List.flatMap_singleton, hbytes]

/-! ## Decoding a text -/

lemma decode_of_reads {raw s : String} (h : Reads (bytesOfText raw) (bytesOfText s)) :
    decode raw = s := by
  rw [decode, reads_iff.mp h, textOfBytes?_bytesOfText, Option.getD_some]

lemma decode_of_not_isUtf8 {raw : String} {out : List UInt8} (h : Reads (bytesOfText raw) out)
    (hout : ¬ IsUtf8 out) : decode raw = raw := by
  rw [decode, reads_iff.mp h]
  cases hs : textOfBytes? out with
  | none => rw [Option.getD_none]
  | some s => exact absurd (isUtf8_iff.mpr (by rw [hs]; rfl)) hout

lemma reads_decode_or_eq_self (raw : String) :
    Reads (bytesOfText raw) (bytesOfText (decode raw)) ∨ decode raw = raw := by
  have h := reads_decodeBytes (bytesOfText raw)
  by_cases hutf : IsUtf8 (decodeBytes (bytesOfText raw))
  · obtain ⟨s, hs⟩ := hutf
    rw [← hs] at h
    exact Or.inl (by rwa [decode_of_reads h])
  · exact Or.inr (decode_of_not_isUtf8 h hutf)

lemma utf8ByteSize_decode_le (raw : String) : (decode raw).utf8ByteSize ≤ raw.utf8ByteSize := by
  rcases reads_decode_or_eq_self raw with h | h
  · rw [utf8ByteSize_eq_length, utf8ByteSize_eq_length]
    exact h.length_le
  · rw [h]

/-- Only the empty text is decoded as the empty text. -/
lemma decode_eq_empty_iff {raw : String} : decode raw = "" ↔ raw = "" := by
  rcases reads_decode_or_eq_self raw with h | h
  · rw [← bytesOfText_eq_nil_iff, h.eq_nil_iff, bytesOfText_eq_nil_iff]
  · rw [h]

/-- Without an escape a text stands for itself, and with one it does only when the bytes that it
stands for are no text's. -/
lemma decode_eq_self_iff {raw : String} {out : List UInt8} (h : Reads (bytesOfText raw) out) :
    decode raw = raw ↔ ¬ HoldsEscape raw.toList ∨ ¬ IsUtf8 out := by
  constructor
  · intro heq
    by_contra hnot
    obtain ⟨hholds, hutf⟩ := not_or.mp hnot
    obtain ⟨s, rfl⟩ := not_not.mp hutf
    obtain rfl : raw = s := heq.symm.trans (decode_of_reads h)
    -- the reading is shorter than what is read
    rw [bytesOfText_eq_flatMap] at h
    exact absurd (length_lt_of_holdsEscape h (not_not.mp hholds)) (Nat.lt_irrefl _)
  · rintro (hnone | hutf)
    · refine decode_of_reads (reads_self fun tail htail hstarts => hnone ?_)
      rw [bytesOfText_eq_flatMap] at htail
      exact holdsEscape_of_suffix htail hstarts
    · exact decode_of_not_isUtf8 h hutf

lemma decode_append {a b s t : String} (hcut : ¬ BreaksOff a.toList)
    (ha : Reads (bytesOfText a) (bytesOfText s)) (hb : Reads (bytesOfText b) (bytesOfText t)) :
    decode (a ++ b) = decode a ++ decode b := by
  have hread : Reads (bytesOfText (a ++ b)) (bytesOfText (s ++ t)) := by
    rw [bytesOfText_append, bytesOfText_append]
    refine ha.append hb fun tail htail hpart => ?_
    rw [bytesOfText_eq_flatMap] at htail
    exact absurd (breaksOff_of_suffix htail hpart) hcut
  rw [decode_of_reads hread, decode_of_reads ha, decode_of_reads hb]

/-- A text whose bytes hold a sign is cut by it into texts. -/
lemma exists_texts_of_sign {s : String} {x y : List UInt8} (h : bytesOfText s = x ++ sign :: y) :
    ∃ a b, s = a ++ "%" ++ b ∧ bytesOfText a = x ∧ bytesOfText b = y := by
  rw [bytesOfText_eq_flatMap] at h
  obtain ⟨cs₁, c, cs₂, hs, hc, hx, hy⟩ := exists_append_cons_of_flatMap_eq (by decide) h
  obtain rfl : c = '%' := Char.toNat_inj.mp hc
  refine ⟨String.ofList cs₁, String.ofList cs₂, ?_, ?_, ?_⟩
  · rw [← String.toList_inj, hs]
    simp
  · rw [bytesOfText_ofList, hx]
  · rw [bytesOfText_ofList, hy]

/-- A sign that starts no escape is kept, and what stands before it and behind it is decoded as if
it stood alone. -/
lemma decode_of_sign {a b : String} (hsign : ∀ e t, IsEscape e t → ¬ t <+: '%' :: b.toList)
    {out : List UInt8} (h : Reads (bytesOfText (a ++ "%" ++ b)) out) (hout : IsUtf8 out) :
    decode (a ++ "%" ++ b) = decode a ++ "%" ++ decode b := by
  have ha := reads_decodeBytes (bytesOfText a)
  have hb := reads_decodeBytes (bytesOfText b)
  have hstarts : ¬ StartsEscape (sign :: bytesOfText b) := by
    rw [bytesOfText_eq_flatMap]
    intro hstarts
    have hstarts : StartsEscape (('%' :: b.toList).flatMap utf8EncodeChar) := hstarts
    obtain ⟨e, t, ht, hprefix⟩ := exists_isEscape_prefix hstarts
    exact hsign e t ht hprefix
  have hbytes : bytesOfText (a ++ "%" ++ b) = bytesOfText a ++ sign :: bytesOfText b := by
    rw [bytesOfText_append, bytesOfText_append, List.append_assoc]
    rfl
  have hread := ha.append_sign (.copy hstarts hb)
  rw [← hbytes] at hread
  -- what is read is a text's bytes, so it is on both sides of the sign
  obtain ⟨s, rfl⟩ := hout
  obtain ⟨a', b', rfl, ha', hb'⟩ := exists_texts_of_sign (h.unique hread)
  rw [← ha'] at ha
  rw [← hb'] at hb
  rw [decode_of_reads h, decode_of_reads ha, decode_of_reads hb]

/-- **What decoding gives.**  The bytes of a text have one reading.  If it is the bytes of a text,
the text is decoded as that one, and if not, it is decoded as itself, so a text stays as it is
exactly when it holds no escape or its reading is no text's.  A sign that starts no escape is kept,
the escape being malformed or broken off.  What is decoded has no more bytes than what it is
decoded from, and only the empty text is decoded as the empty one.  Of two texts of which the first
does not end in a sign, nor in a sign and one digit, each is decoded as if it stood alone. -/
theorem decode_meaning (raw : String) :
    (∃! out, Reads (bytesOfText raw) out) ∧
    (∀ out, Reads (bytesOfText raw) out →
      (∀ s, bytesOfText s = out → decode raw = s) ∧
      (¬ IsUtf8 out → decode raw = raw) ∧
      (decode raw = raw ↔ ¬ HoldsEscape raw.toList ∨ ¬ IsUtf8 out) ∧
      (IsUtf8 out → ∀ a b, raw = a ++ "%" ++ b →
        (∀ e t, IsEscape e t → ¬ t <+: '%' :: b.toList) →
        decode raw = decode a ++ "%" ++ decode b)) ∧
    (decode raw).utf8ByteSize ≤ raw.utf8ByteSize ∧
    (decode raw = "" ↔ raw = "") ∧
    ∀ rest out out', ¬ BreaksOff raw.toList →
      Reads (bytesOfText raw) out → IsUtf8 out → Reads (bytesOfText rest) out' → IsUtf8 out' →
      decode (raw ++ rest) = decode raw ++ decode rest := by
  refine ⟨⟨_, reads_decodeBytes _, fun out h => (reads_iff.mp h).symm⟩, ?_,
    utf8ByteSize_decode_le raw, decode_eq_empty_iff, ?_⟩
  · intro out h
    refine ⟨?_, decode_of_not_isUtf8 h, decode_eq_self_iff h, ?_⟩
    · rintro s rfl
      exact decode_of_reads h
    · rintro hout a b rfl hsign
      exact decode_of_sign hsign h hout
  · rintro rest _ _ hcut h ⟨s, rfl⟩ hrest ⟨t, rfl⟩
    exact decode_append hcut h hrest

/-- `decode_meaning` at two texts with escapes behind signs that start none, of which the first ends
in a malformed escape, and at a text whose reading holds a surrogate. -/
theorem decode_meaning_of_lone_signs :
    let raw := "%%41%4%c3%A9%zz"
    let rest := "4%C2%a0%4"
    let torn := "%41%ED%A0%80"
    ¬ BreaksOff raw.toList ∧
      Reads (bytesOfText raw) (bytesOfText "%A%4é%zz") ∧
      Reads (bytesOfText rest) (bytesOfText "4\u00a0%4") ∧
      Reads (bytesOfText torn) [0x41, 0xed, 0xa0, 0x80] ∧ ¬ IsUtf8 [0x41, 0xed, 0xa0, 0x80] ∧
      decode (raw ++ rest) = decode raw ++ decode rest ∧
      decode raw = "%A%4é%zz" ∧ decode rest = "4\u00a0%4" ∧ decode torn = torn ∧
      decode raw = decode "%%41%4%c3%A9" ++ "%" ++ decode "zz" := by
  intro raw rest torn
  have hcut : ¬ BreaksOff raw.toList := by
    rintro (h | ⟨n, -, d, -, h⟩)
    · exact absurd h (by decide)
    · rw [List.suffix_iff_eq_drop] at h
      simp [raw] at h
  have hraw : Reads (bytesOfText raw) (bytesOfText "%A%4é%zz") := by decide
  have hrest : Reads (bytesOfText rest) (bytesOfText "4\u00a0%4") := by decide
  have htorn : Reads (bytesOfText torn) [0x41, 0xed, 0xa0, 0x80] := by decide
  have hutf : ¬ IsUtf8 [0x41, 0xed, 0xa0, 0x80] := by decide
  have hsign : ∀ e t, IsEscape e t → ¬ t <+: '%' :: "zz".toList := by
    rintro e t ⟨high, low, hhigh, -, rfl⟩ h
    obtain ⟨-, hdigit, -⟩ := hhigh.facts (byte_div_lt e)
    obtain ⟨rfl, -⟩ : high = 'z' ∧ low = 'z' := by simpa using h
    have hnone : hexDigit? (UInt8.ofNat 'z'.toNat) = none := by decide
    exact absurd (hnone.symm.trans hdigit) (by simp)
  obtain ⟨-, hmeaning, -, -, happend⟩ := decode_meaning raw
  obtain ⟨htext, -, -, hkept⟩ := hmeaning _ hraw
  obtain ⟨-, hmeaning', -⟩ := decode_meaning rest
  obtain ⟨-, hmeaning'', -⟩ := decode_meaning torn
  exact ⟨hcut, hraw, hrest, htorn, hutf, happend rest _ _ hcut hraw ⟨_, rfl⟩ hrest ⟨_, rfl⟩,
    htext _ rfl, (hmeaning' _ hrest).1 _ rfl, (hmeaning'' _ htorn).2.1 hutf,
    hkept ⟨_, rfl⟩ _ _ (by decide) hsign⟩

end PageCompanion.Text
