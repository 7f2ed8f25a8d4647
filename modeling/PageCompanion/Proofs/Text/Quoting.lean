/-
# Quoted texts are read back

Between quotes every character is written in a form of its own, whichever characters are hidden,
and no form is the beginning of another: `readChar` reads the first character of what stands
between quotes, so a quoted text is the quoted form of one text only (`quote_inj`).  A quote inside
always has a backslash in front of it, which the opening quote of a line's value has not; so the
value at the end of a line is told from what stands in front of it (`append_quote_inj`).
-/
import Mathlib
import PageCompanion.Text.Quoted

namespace PageCompanion.Text

/-! ## Hexadecimal digits -/

/-- The number that a hexadecimal digit in lower case stands for. -/
def digitValue (d : Char) : ℕ :=
  if d.isDigit then d.toNat - '0'.toNat else d.toNat - 'a'.toNat + 10

/-- The number that hexadecimal digits stand for, the first one weighing most. -/
def ofHexDigits (ds : List Char) : ℕ :=
  ds.foldl (fun n d => 16 * n + digitValue d) 0

lemma digitValue_digitChar : ∀ n < 16, digitValue n.digitChar = n := by decide

lemma ofHexDigits_toDigits (n : ℕ) : ofHexDigits (Nat.toDigits 16 n) = n := by
  induction n using Nat.strong_induction_on with
  | h n ih =>
    rw [Nat.toDigits_eq_if (by omega)]
    split_ifs with hn
    · simp [ofHexDigits, digitValue_digitChar n hn]
    · have hlast := digitValue_digitChar (n % 16) (Nat.mod_lt n (by omega))
      have hrest : ofHexDigits (Nat.toDigits 16 (n / 16)) = n / 16 := ih (n / 16) (by omega)
      rw [ofHexDigits] at hrest
      rw [ofHexDigits, List.foldl_append, hrest, List.foldl_cons, List.foldl_nil, hlast]
      omega

lemma exists_digitChar_of_mem {c : Char} {n : ℕ} (h : c ∈ Nat.toDigits 16 n) :
    ∃ k < 16, c = k.digitChar := by
  induction n using Nat.strong_induction_on with
  | h n ih =>
    rw [Nat.toDigits_eq_if (by omega)] at h
    split_ifs at h with hn
    · exact ⟨n, hn, List.mem_singleton.mp h⟩
    · rcases List.mem_append.mp h with h | h
      · exact ih (n / 16) (by omega) h
      · exact ⟨n % 16, Nat.mod_lt n (by omega), List.mem_singleton.mp h⟩

lemma isAlphanum_of_mem_toDigits {c : Char} {n : ℕ} (h : c ∈ Nat.toDigits 16 n) :
    c.isAlphanum = true := by
  obtain ⟨k, hk, rfl⟩ := exists_digitChar_of_mem h
  clear h
  revert k
  decide

/-- Digits are neither quotes nor braces. -/
lemma ne_of_mem_toDigits {c : Char} {n : ℕ} (h : c ∈ Nat.toDigits 16 n) : c ≠ '"' ∧ c ≠ '\x7d' := by
  have halpha := isAlphanum_of_mem_toDigits h
  constructor
  · rintro rfl
    exact absurd halpha (by decide)
  · rintro rfl
    exact absurd halpha (by decide)

/-! ## Reading -/

/-- The character that a character behind a backslash stands for. -/
def unescape : Char → Char
  | '0' => '\x00'
  | 't' => '\t'
  | 'n' => '\n'
  | 'r' => '\r'
  | c => c

/-- The first character of what stands between quotes, and what is behind it; there is none at
the closing quote. -/
def readChar : List Char → Option (Char × List Char)
  | '"' :: _ => none
  | '\\' :: 'u' :: rest =>
    some (Char.ofNat (ofHexDigits (rest.tail.takeWhile (· != '\x7d'))),
      (rest.dropWhile (· != '\x7d')).tail)
  | '\\' :: c :: rest => some (unescape c, rest)
  | c :: rest => some (c, rest)
  | [] => none

lemma readChar_quoteChar (hidden : Char → Bool) (c : Char) (rest : List Char) :
    readChar (quoteChar hidden c ++ rest) = some (c, rest) := by
  rw [quoteChar]
  split_ifs with hq hb h0 ht hn hr hh
  · subst hq; rfl
  · subst hb; rfl
  · subst h0; rfl
  · subst ht; rfl
  · subst hn; rfl
  · subst hr; rfl
  · -- the closing brace is the first behind the digits
    have hdigits : ∀ d ∈ Nat.toDigits 16 c.toNat, (d != '\x7d') = true := fun d hd => by
      simpa using (ne_of_mem_toDigits hd).2
    simp [readChar, List.takeWhile_append_of_pos hdigits, List.dropWhile_append_of_pos hdigits,
      ofHexDigits_toDigits]
  · simp [readChar, hb]

/-- What stands between quotes, up to the closing one, is the form of one text only. -/
lemma flatMap_quoteChar_inj {hidden : Char → Bool} {cs ds : List Char} {r t : List Char}
    (h : cs.flatMap (quoteChar hidden) ++ '"' :: r = ds.flatMap (quoteChar hidden) ++ '"' :: t) :
    cs = ds := by
  have hread := congrArg readChar h
  induction cs generalizing ds with
  | nil =>
    cases ds with
    | nil => rfl
    | cons d ds =>
      rw [List.flatMap_cons, List.append_assoc, readChar_quoteChar] at hread
      exact absurd hread (by simp [readChar])
  | cons c cs ih =>
    rw [List.flatMap_cons, List.append_assoc, readChar_quoteChar] at hread
    cases ds with
    | nil => exact absurd hread (by simp [readChar])
    | cons d ds =>
      rw [List.flatMap_cons, List.append_assoc, readChar_quoteChar] at hread
      obtain ⟨rfl, hrest⟩ := Prod.mk.inj (Option.some.inj hread)
      rw [ih hrest (congrArg readChar hrest)]

/-- **A quoted text is the quoted form of one text only.** -/
theorem quote_inj {hidden : Char → Bool} {cs ds : List Char} :
    quote hidden cs = quote hidden ds ↔ cs = ds := by
  refine ⟨fun h => ?_, congrArg _⟩
  exact flatMap_quoteChar_inj (List.cons.inj h).2

/-! ## Where a quoted text begins -/

lemma getLast?_quote (hidden : Char → Bool) (cs : List Char) :
    (quote hidden cs).getLast? = some '"' :=
  List.getLast?_concat

lemma newline_not_mem_quoteChar (hidden : Char → Bool) (c : Char) : '\n' ∉ quoteChar hidden c := by
  rw [quoteChar]
  split_ifs with hq hb h0 ht hn
  · simp
  · simp
  · simp
  · simp
  · simp
  · simp
  · have hdigits : '\n' ∉ Nat.toDigits 16 c.toNat := fun h =>
      absurd (isAlphanum_of_mem_toDigits h) (by decide)
    simp [hdigits]
  · simpa using Ne.symm hn

/-- A quoted text stands on one line, whatever it is. -/
lemma newline_not_mem_quote (hidden : Char → Bool) (cs : List Char) : '\n' ∉ quote hidden cs := by
  simp [quote, newline_not_mem_quoteChar]

lemma quote_not_mem_quoteChar {hidden : Char → Bool} {c : Char} (hc : c ≠ '"') :
    '"' ∉ quoteChar hidden c := by
  rw [quoteChar, if_neg hc]
  split_ifs
  · simp
  · simp
  · simp
  · simp
  · simp
  · -- the form of a hidden character has digits in it
    have hdigits : '"' ∉ Nat.toDigits 16 c.toNat := fun h => (ne_of_mem_toDigits h).1 rfl
    simp [hdigits]
  · simpa using hc.symm

/-- Of the forms of characters, only that of the quote holds one, and it is behind a backslash. -/
lemma eq_backslash_of_quoteChar {hidden : Char → Bool} {c : Char} {a b : List Char}
    (h : quoteChar hidden c = a ++ '"' :: b) : a = ['\\'] := by
  by_cases hc : c = '"'
  · subst hc
    rcases a with _ | ⟨x, _ | ⟨y, a⟩⟩
    · simp [quoteChar] at h
    · have hx : '\\' = x ∧ [] = b := by simpa [quoteChar] using h
      rw [hx.1]
    · simp [quoteChar] at h
  · have hmem : '"' ∈ quoteChar hidden c := by simp [h]
    exact absurd hmem (quote_not_mem_quoteChar hc)

/-- A quote between the quotes has a backslash in front of it. -/
lemma backslash_before_quote {hidden : Char → Bool} {cs a b : List Char}
    (h : cs.flatMap (quoteChar hidden) = a ++ '"' :: b) : ∃ a', a = a' ++ ['\\'] := by
  induction cs generalizing a with
  | nil => simp at h
  | cons c cs ih =>
    rw [List.flatMap_cons] at h
    rcases List.append_eq_append_iff.mp h with ⟨a', rfl, hrest⟩ | ⟨e, hform, hrest⟩
    · obtain ⟨a'', rfl⟩ := ih hrest
      exact ⟨quoteChar hidden c ++ a'', by simp⟩
    · cases e with
      | nil =>
        -- a form does not begin with a quote
        obtain ⟨a', ha'⟩ := ih (a := []) hrest.symm
        exact absurd ha' (by simp)
      | cons d e =>
        obtain ⟨rfl, -⟩ := List.cons.inj hrest
        exact ⟨[], by rw [eq_backslash_of_quoteChar hform, List.nil_append]⟩

/-- No quoted text ends in a space and a quoted text. -/
lemma quote_ne_append_quote {hidden : Char → Bool} {cs ds : List Char} (x : List Char) :
    quote hidden ds ≠ x ++ ' ' :: quote hidden cs := by
  intro h
  cases x with
  | nil => exact absurd h (by simp [quote])
  | cons c x =>
    have hbody : ds.flatMap (quoteChar hidden) ++ ['"']
        = (x ++ ' ' :: '"' :: cs.flatMap (quoteChar hidden)) ++ ['"'] := by
      simpa [quote] using (List.cons.inj h).2
    -- the quote that would open inside has a space in front of it and not a backslash
    obtain ⟨a', ha'⟩ := backslash_before_quote (a := x ++ [' '])
      (by simpa using List.append_cancel_right hbody)
    exact absurd (List.append_inj' ha' rfl).2 (by decide)

lemma eq_nil_of_space_quote {hidden : Char → Bool} {z cs ds : List Char}
    (h : ' ' :: quote hidden cs = z ++ ' ' :: quote hidden ds) : z = [] ∧ cs = ds := by
  cases z with
  | nil => exact ⟨rfl, quote_inj.mp (List.cons.inj h).2⟩
  | cons c z => exact absurd (List.cons.inj h).2 (quote_ne_append_quote z)

/-- **The value at the end of a line is told from what stands in front of it**, whatever that
is, if there is a space between them. -/
theorem append_quote_inj {hidden : Char → Bool} {x y cs ds : List Char} :
    x ++ ' ' :: quote hidden cs = y ++ ' ' :: quote hidden ds ↔ x = y ∧ cs = ds := by
  constructor
  · intro h
    rcases List.append_eq_append_iff.mp h with ⟨z, rfl, hz⟩ | ⟨z, rfl, hz⟩
    · obtain ⟨rfl, hcs⟩ := eq_nil_of_space_quote hz
      exact ⟨(List.append_nil x).symm, hcs⟩
    · obtain ⟨rfl, hds⟩ := eq_nil_of_space_quote hz
      exact ⟨List.append_nil y, hds.symm⟩
  · rintro ⟨rfl, rfl⟩
    rfl

end PageCompanion.Text
