/-
# The UTF-8 form of a text, character by character

The bytes of a text are the bytes of its characters in order.  Four facts about them are used
elsewhere: a byte below `0x80` is a whole character (so that scanning the bytes for an ASCII
character finds nothing else), an ASCII text whose bytes stand in those of a text stands in that
text (`exists_append_of_flatMap_eq`), a text without bytes is empty, and comparing texts by their
bytes is comparing them by their code points (`bytesOfText_lt_iff`).
-/
import Mathlib
import PageCompanion.Text.Bytes

namespace PageCompanion.Text

open String (utf8EncodeChar)

lemma bytesOfText_ofList (cs : List Char) :
    bytesOfText (String.ofList cs) = cs.flatMap utf8EncodeChar := by
  simp [bytesOfText, List.utf8Encode]

lemma bytesOfText_eq_flatMap (s : String) : bytesOfText s = s.toList.flatMap utf8EncodeChar := by
  rw [← bytesOfText_ofList, String.ofList_toList]

lemma bytesOfText_append (a b : String) :
    bytesOfText (a ++ b) = bytesOfText a ++ bytesOfText b := by
  rw [bytesOfText_eq_flatMap, String.toList_append, List.flatMap_append, ← bytesOfText_eq_flatMap,
    ← bytesOfText_eq_flatMap]

lemma utf8ByteSize_eq_length (s : String) : s.utf8ByteSize = (bytesOfText s).length := by
  simp [bytesOfText]

lemma bytesOfText_injective : Function.Injective bytesOfText := by
  intro s t h
  have hs : textOfBytes? (bytesOfText s) = some s := textOfBytes?_bytesOfText s
  rw [h, textOfBytes?_bytesOfText] at hs
  exact (Option.some.inj hs).symm

@[simp] lemma bytesOfText_eq_nil_iff {s : String} : bytesOfText s = [] ↔ s = "" := by
  constructor
  · intro h
    exact bytesOfText_injective (h.trans (by rfl))
  · rintro rfl
    rfl

lemma flatMap_utf8EncodeChar_eq_nil_iff {cs : List Char} :
    cs.flatMap utf8EncodeChar = [] ↔ cs = [] := by
  rw [← bytesOfText_ofList, bytesOfText_eq_nil_iff, String.ofList_eq_empty_iff]

/-! ## Bytes below `0x80` -/

/-- A byte below `0x80` in the form of a character is all of that form. -/
lemma toNat_eq_of_mem_utf8EncodeChar {c : Char} {b : UInt8} (h : b ∈ utf8EncodeChar c)
    (hb : b.toNat < 0x80) : c.toNat = b.toNat := by
  show c.val.toNat = b.toNat
  rw [utf8EncodeChar] at h
  generalize c.val.toNat = v at h ⊢
  split_ifs at h <;> simp only [List.mem_cons, List.not_mem_nil, or_false] at h
  · subst h
    simp only [UInt8.toNat_ofNat'] at hb ⊢
    omega
  · rcases h with rfl | rfl <;> simp only [UInt8.toNat_ofNat'] at hb <;> omega
  · rcases h with rfl | rfl | rfl <;> simp only [UInt8.toNat_ofNat'] at hb <;> omega
  · rcases h with rfl | rfl | rfl | rfl <;> simp only [UInt8.toNat_ofNat'] at hb <;> omega

/-- The form of an ASCII character is one byte. -/
lemma utf8EncodeChar_of_lt {c : Char} (h : c.toNat < 0x80) :
    utf8EncodeChar c = [UInt8.ofNat c.toNat] := by
  have hc : c.val.toNat ≤ 0x7f := Nat.le_of_lt_succ h
  rw [utf8EncodeChar, if_pos hc]
  rfl

/-- A byte below `0x80` in the form of a text is a character of it, and the bytes before and behind
it are the forms of what stands before and behind that character. -/
lemma exists_append_cons_of_flatMap_eq {b : UInt8} (hb : b.toNat < 0x80) {cs : List Char}
    {before after : List UInt8} (h : cs.flatMap utf8EncodeChar = before ++ b :: after) :
    ∃ cs₁ c cs₂, cs = cs₁ ++ c :: cs₂ ∧ c.toNat = b.toNat ∧
      cs₁.flatMap utf8EncodeChar = before ∧ cs₂.flatMap utf8EncodeChar = after := by
  induction cs generalizing before with
  | nil => exact absurd h (by simp)
  | cons c cs ih =>
    rw [List.flatMap_cons, List.append_eq_append_iff] at h
    rcases h with ⟨front, rfl, h⟩ | ⟨back, hc, h⟩
    · -- the byte is behind the first character
      obtain ⟨cs₁, d, cs₂, rfl, hd, rfl, rfl⟩ := ih h
      exact ⟨c :: cs₁, d, cs₂, rfl, hd, by rw [List.flatMap_cons], rfl⟩
    · cases back with
      | nil =>
        have hrest : cs.flatMap utf8EncodeChar = [] ++ b :: after := h.symm
        obtain ⟨cs₁, d, cs₂, rfl, hd, hcs₁, rfl⟩ := ih hrest
        refine ⟨c :: cs₁, d, cs₂, rfl, hd, ?_, rfl⟩
        rw [List.flatMap_cons, hcs₁, hc, List.append_nil, List.append_nil]
      | cons b' back =>
        -- the byte is in the form of the first character, and so it is all of that form
        obtain ⟨rfl, rfl⟩ : b = b' ∧ after = back ++ cs.flatMap utf8EncodeChar := by simpa using h
        have hnat : c.toNat = b.toNat :=
          toNat_eq_of_mem_utf8EncodeChar (by rw [hc]; simp) hb
        have hlength : (utf8EncodeChar c).length = 1 := by
          rw [utf8EncodeChar_of_lt (hnat ▸ hb), List.length_singleton]
        rw [hc, List.length_append, List.length_cons] at hlength
        obtain rfl : before = [] := List.length_eq_zero_iff.mp (by omega)
        obtain rfl : back = [] := List.length_eq_zero_iff.mp (by omega)
        exact ⟨[], c, cs, rfl, hnat, rfl, rfl⟩

/-- An ASCII text whose form stands in the form of a text stands in that text. -/
lemma exists_append_of_flatMap_eq {t : List Char} (hne : t ≠ []) (ht : ∀ c ∈ t, c.toNat < 0x80)
    {cs : List Char} {before after : List UInt8}
    (h : cs.flatMap utf8EncodeChar = before ++ (t.flatMap utf8EncodeChar ++ after)) :
    ∃ cs₁ cs₂, cs = cs₁ ++ (t ++ cs₂) ∧ cs₁.flatMap utf8EncodeChar = before ∧
      cs₂.flatMap utf8EncodeChar = after := by
  induction t generalizing cs before with
  | nil => exact absurd rfl hne
  | cons d t ih =>
    have hd : d.toNat < 0x80 := ht d List.mem_cons_self
    have hbyte : (UInt8.ofNat d.toNat).toNat = d.toNat := by
      rw [UInt8.toNat_ofNat']
      omega
    rw [List.flatMap_cons, utf8EncodeChar_of_lt hd, List.append_assoc, List.singleton_append] at h
    obtain ⟨cs₁, c, rest, rfl, hc, rfl, hrest⟩ :=
      exists_append_cons_of_flatMap_eq (by omega) h
    obtain rfl : c = d := Char.toNat_inj.mp (hc.trans hbyte)
    by_cases hnil : t = []
    · subst hnil
      exact ⟨cs₁, rest, rfl, rfl, hrest⟩
    · have hrest : rest.flatMap utf8EncodeChar = [] ++ (t.flatMap utf8EncodeChar ++ after) := hrest
      obtain ⟨between, cs₂, rfl, hbetween, rfl⟩ :=
        ih hnil (fun c hc => ht c (List.mem_cons_of_mem _ hc)) hrest
      obtain rfl := flatMap_utf8EncodeChar_eq_nil_iff.mp hbetween
      exact ⟨cs₁, cs₂, rfl, rfl, rfl⟩

/-! ## The order of texts -/

/-- Two different characters are told apart by their bytes, whatever follows. -/
lemma utf8EncodeChar_append_lt {c d : Char} (h : c < d) (r s : List UInt8) :
    utf8EncodeChar c ++ r < utf8EncodeChar d ++ s := by
  have hlt : c.val.toNat < d.val.toNat := h
  have hd : d.val.toNat < 0x110000 := by
    rcases d.valid with h | ⟨-, h⟩ <;> omega
  rw [utf8EncodeChar, utf8EncodeChar]
  generalize c.val.toNat = v at hlt ⊢
  generalize d.val.toNat = w at hlt hd ⊢
  -- by the lengths of the two forms; of two forms of one length the bytes are compared in turn
  split_ifs <;>
    simp only [List.cons_append, List.nil_append, List.cons_lt_cons_iff, UInt8.lt_iff_toNat_lt,
      ← UInt8.toNat_inj, UInt8.toNat_ofNat'] <;>
    simp (disch := omega) only [Nat.mod_eq_of_lt, Nat.add_lt_add_iff_right,
      Nat.add_right_cancel_iff] <;>
    omega

lemma flatMap_utf8EncodeChar_lt {cs ds : List Char} (h : cs < ds) :
    cs.flatMap utf8EncodeChar < ds.flatMap utf8EncodeChar := by
  induction h with
  | @nil d ds =>
    rw [List.flatMap_cons]
    cases hd : utf8EncodeChar d with
    | nil => exact absurd hd String.utf8EncodeChar_ne_nil
    | cons b bs => exact List.Lex.nil
  | rel h =>
    rw [List.flatMap_cons, List.flatMap_cons]
    exact utf8EncodeChar_append_lt h _ _
  | cons _ ih =>
    rw [List.flatMap_cons, List.flatMap_cons]
    exact List.append_left_lt ih

lemma bytesOfText_lt {s t : String} (h : s < t) : bytesOfText s < bytesOfText t := by
  rw [bytesOfText_eq_flatMap, bytesOfText_eq_flatMap]
  exact flatMap_utf8EncodeChar_lt (String.lt_iff_toList_lt.mp h)

/-- **Comparing two texts byte by byte is comparing them code point by code point.** -/
theorem bytesOfText_lt_iff {s t : String} : bytesOfText s < bytesOfText t ↔ s < t := by
  refine ⟨fun h => ?_, bytesOfText_lt⟩
  rcases lt_trichotomy s t with hst | rfl | hts
  · exact hst
  · exact absurd h (List.lt_irrefl _)
  · exact absurd h (List.lt_asymm (bytesOfText_lt hts))

end PageCompanion.Text
