/-
# Writing cookies down and reading them back

A list of cookies can be written as a cookie string in many ways: each name and each value in
any of its spellings, with any blanks around it.  `SpellsCookies` is this relation, and reading
the string gives the list as a map in which the last cookie of a name counts.  As the cookies of
a jar can be listed, every jar that was read can be written down and read back.
-/
import PageCompanion.Proofs.Cookie.Entries
import PageCompanion.Proofs.Text.Cutting
import PageCompanion.Proofs.Text.Spelling

namespace PageCompanion.Cookie

open Text
open String (utf8EncodeChar)

/-- The characters that must be escaped in the name of a cookie. -/
def barredInName : List Char := ['%', ';', '=']

/-- The characters that must be escaped in the value of a cookie. -/
def barredInValue : List Char := ['%', ';']

/-- A name or a value as it may be written, with blanks around it. -/
def SpellsPart (barred : List Char) (s : String) (t : List Char) : Prop :=
  ∃ before text after, Blank before ∧ Spells barred s text ∧ Blank after ∧
    t = before ++ text ++ after

/-- A cookie as it may be written.  A cookie without a value is its name only, which is not the
same as a cookie whose value is empty. -/
inductive SpellsCookie : String × Option String → List Char → Prop
  | bare {name : String} {t : List Char} (h : SpellsPart barredInName name t) :
      SpellsCookie (name, none) t
  | valued {name value : String} {t u : List Char} (h : SpellsPart barredInName name t)
      (h' : SpellsPart barredInValue value u) : SpellsCookie (name, some value) (t ++ '=' :: u)

/-- A list of cookies as it may be written, with `;` between the cookies. -/
def SpellsCookies (cookies : List (String × Option String)) (text : String) : Prop :=
  ∃ parts, List.Forall₂ SpellsCookie cookies parts ∧ text.toList = [';'].intercalate parts

/-! ## Reading one cookie -/

/-- Reading a name or a value as it was written gives it back. -/
lemma readPart_of_spellsPart {barred : List Char} (hsign : '%' ∈ barred) {s : String}
    {t : List Char} (h : SpellsPart barred s t) : readPart t = s := by
  obtain ⟨before, text, after, hb, htext, ha, rfl⟩ := h
  rw [readPart, strip_pad hb ha, strip_eq_self htext.1, decode_of_spells hsign htext]

/-- A barred separator does not occur in a part of a cookie, since it is no blank either. -/
lemma SpellsPart.not_mem {barred : List Char} {s : String} {t : List Char}
    (h : SpellsPart barred s t) {x : Char} (hx : x ∈ [';', '=']) (hbarred : x ∈ barred) :
    x ∉ t := by
  obtain ⟨before, text, after, hb, htext, ha, rfl⟩ := h
  have hblank : isBlank x = false := by
    rcases List.mem_cons.mp hx with rfl | hx
    · decide
    · rw [List.mem_singleton.mp hx]
      decide
  simp only [List.mem_append, not_or]
  exact ⟨⟨hb.not_mem hblank, htext.not_mem hx hbarred⟩, ha.not_mem hblank⟩

lemma SpellsCookie.semicolon_not_mem {c : String × Option String} {t : List Char}
    (h : SpellsCookie c t) : ';' ∉ t := by
  cases h with
  | bare h => exact h.not_mem (by simp) (by simp [barredInName])
  | valued h h' =>
    simp only [List.mem_append, List.mem_cons, not_or]
    exact ⟨h.not_mem (by simp) (by simp [barredInName]), by decide,
      h'.not_mem (by simp) (by simp [barredInValue])⟩

/-- Reading a cookie as it was written gives it back, unless its name is empty. -/
lemma ofText?_of_spellsCookie {c : String × Option String} {t : List Char}
    (h : SpellsCookie c t) (hname : c.1 ≠ "") : Segment.ofText? t = some ⟨c.1, c.2⟩ := by
  cases h with
  | bare h =>
    have hcut := firstCut_of_not_mem (h.not_mem (by simp) (by simp [barredInName]) : '=' ∉ t)
    have hread := readPart_of_spellsPart (by simp [barredInName]) h
    simp only [Segment.ofText?, hcut, hread, if_neg hname, Option.map_none]
  | @valued name value t u h h' =>
    have hcut := firstCut_append_sep u (h.not_mem (by simp) (by simp [barredInName]) : '=' ∉ t)
    have hread := readPart_of_spellsPart (by simp [barredInName]) h
    have hread' := readPart_of_spellsPart (by simp [barredInValue]) h'
    simp only [Segment.ofText?, hcut, hread, hread', if_neg hname, Option.map_some]

/-! ## Reading a cookie string -/

lemma filterMap_ofText?_of_spells {cookies : List (String × Option String)}
    {parts : List (List Char)} (h : List.Forall₂ SpellsCookie cookies parts)
    (hnames : ∀ c ∈ cookies, c.1 ≠ "") :
    parts.filterMap Segment.ofText? = cookies.map fun c => ⟨c.1, c.2⟩ := by
  induction h with
  | nil => rfl
  | cons hc _ ih =>
    rw [List.filterMap_cons, ofText?_of_spellsCookie hc (hnames _ (by simp)), List.map_cons,
      ih fun c hmem => hnames c (by simp [hmem])]

lemma semicolon_not_mem_of_mem {cookies : List (String × Option String)}
    {parts : List (List Char)} (h : List.Forall₂ SpellsCookie cookies parts) :
    ∀ t ∈ parts, ';' ∉ t := by
  induction h with
  | nil => simp
  | cons hc _ ih =>
    rintro t (_ | ⟨_, ht⟩)
    · exact hc.semicolon_not_mem
    · exact ih t ht

/-- Reading a cookie string that states a list of cookies gives the list back. -/
lemma segments_of_spellsCookies {cookies : List (String × Option String)} {text : String}
    (h : SpellsCookies cookies text) (hnames : ∀ c ∈ cookies, c.1 ≠ "") :
    segments text = cookies.map fun c => ⟨c.1, c.2⟩ := by
  obtain ⟨parts, hparts, htext⟩ := h
  have hjoined : text = String.ofList ([';'].intercalate parts) := by
    rw [← htext, String.ofList_toList]
  rw [hjoined, segments_intercalate (semicolon_not_mem_of_mem hparts),
    filterMap_ofText?_of_spells hparts hnames]

/-- The first cookie of a name is what a look-up finds. -/
lemma find?_map_eq_lookup (cookies : List (String × Option String)) (n : String) :
    ((cookies.map fun c => (⟨c.1, c.2⟩ : Segment)).find? (·.name == n)).map (·.value)
      = cookies.lookup n := by
  induction cookies with
  | nil => rfl
  | cons c cookies ih =>
    obtain ⟨name, value⟩ := c
    by_cases hn : name = n
    · subst hn
      simp
    · have hne : ¬ n = name := fun h => hn h.symm
      rw [List.map_cons, List.find?_cons_of_neg (by simpa using hn), ih, List.lookup_cons,
        beq_false_of_ne hne]

/-- The entry of a name is the value of the last cookie of that name that was written. -/
lemma getElem?_parse_of_spellsCookies {cookies : List (String × Option String)} {text : String}
    (h : SpellsCookies cookies text) (hnames : ∀ c ∈ cookies, c.1 ≠ "") (n : String) :
    (Jar.parse text).entries[n]? = cookies.reverse.lookup n := by
  rw [Jar.parse, segments_of_spellsCookies h hnames, Jar.getElem?_ofSegments, ← List.map_reverse,
    find?_map_eq_lookup]

/-! ## A cookie string for every list -/

/-- A cookie with every character escaped. -/
def escapeCookie (c : String × Option String) : List Char :=
  match c.2 with
  | none => escapeAll c.1
  | some value => escapeAll c.1 ++ '=' :: escapeAll value

lemma spellsPart_escapeAll (barred : List Char) (s : String) :
    SpellsPart barred s (escapeAll s) :=
  ⟨[], escapeAll s, [], blank_nil, spells_escapeAll barred s, blank_nil, by simp⟩

lemma spellsCookie_escapeCookie (c : String × Option String) :
    SpellsCookie c (escapeCookie c) := by
  obtain ⟨name, _ | value⟩ := c
  · exact .bare (spellsPart_escapeAll _ _)
  · exact .valued (spellsPart_escapeAll _ _) (spellsPart_escapeAll _ _)

lemma exists_spellsCookies (cookies : List (String × Option String)) :
    ∃ text, SpellsCookies cookies text := by
  refine ⟨String.ofList ([';'].intercalate (cookies.map escapeCookie)), cookies.map escapeCookie,
    ?_, String.toList_ofList⟩
  rw [List.forall₂_map_right_iff, List.forall₂_same]
  exact fun c _ => spellsCookie_escapeCookie c

/-! ## Writing and reading -/

/-- A jar that was read is read again from every cookie string that lists its cookies. -/
lemma parse_of_spellsCookies_toList {raw text : String}
    (h : SpellsCookies (Jar.parse raw).toList text) : Jar.parse text = Jar.parse raw := by
  -- a jar lists each name once, so its list may be read from either end
  ext1 n
  rw [getElem?_parse_of_spellsCookies h fun c hc => name_ne_empty_of_mem_parse hc,
    Jar.lookup_reverse_toList]

/-- **Reading undoes every way of writing cookies.**  A cookie string that spells a list of named
cookies is read as that list with the last cookie of each name; and the cookies of every jar
that was read can be written so, and each way of writing them is read as the same jar. -/
theorem parse_written_cookies :
    (∀ (cookies : List (String × Option String)) (text : String), (∀ c ∈ cookies, c.1 ≠ "") →
      SpellsCookies cookies text →
      ∀ n : String, (Jar.parse text).entries[n]? = cookies.reverse.lookup n) ∧
    ∀ raw : String, (∃ text, SpellsCookies (Jar.parse raw).toList text) ∧
      ∀ text, SpellsCookies (Jar.parse raw).toList text → Jar.parse text = Jar.parse raw := by
  refine ⟨fun cookies text hnames h n => getElem?_parse_of_spellsCookies h hnames n, ?_⟩
  intro raw
  exact ⟨exists_spellsCookies _, fun text h => parse_of_spellsCookies_toList h⟩

/-- A list in which an empty value takes the place of a value with a separator in it, and a
spelling of the list with blanks around the parts and escapes in both cases. -/
theorem parse_spelling_of_repeated_name :
    SpellsCookies [("a b", some "c;é"), ("flag", none), ("a b", some "")]
        " a%20b =c%3b%C3%a9;flag;a b= " ∧
      (Jar.parse " a%20b =c%3b%C3%a9;flag;a b= ").entries["a b"]? = some (some "") ∧
      (Jar.parse " a%20b =c%3b%C3%a9;flag;a b= ").entries["flag"]? = some none ∧
      ∃ text, SpellsCookies (Jar.parse "b;%61=1;a").toList text ∧
        Jar.parse text = Jar.parse "b;%61=1;a" := by
  have hspace : SpellsChar barredInName ' ' ['%', '2', '0'] :=
    .escaped (show List.Forall₂ IsEscape (utf8EncodeChar ' ') [['%', '2', '0']] from
      .cons ⟨'2', '0', Or.inl rfl, Or.inl rfl, rfl⟩ .nil)
  have hsemicolon : SpellsChar barredInValue ';' ['%', '3', 'b'] :=
    .escaped (show List.Forall₂ IsEscape (utf8EncodeChar ';') [['%', '3', 'b']] from
      .cons ⟨'3', 'b', Or.inl rfl, Or.inl rfl, rfl⟩ .nil)
  have haccent : SpellsChar barredInValue 'é' ['%', 'C', '3', '%', 'a', '9'] :=
    .escaped (show List.Forall₂ IsEscape (utf8EncodeChar 'é') [['%', 'C', '3'], ['%', 'a', '9']]
      from .cons ⟨'C', '3', Or.inr rfl, Or.inl rfl, rfl⟩
        (.cons ⟨'a', '9', Or.inl rfl, Or.inl rfl, rfl⟩ .nil))
  have hname : SpellsPart barredInName "a b" " a%20b ".toList :=
    ⟨[' '], "a%20b".toList, [' '], by simp [Blank, isBlank], ⟨by simp [Trimmed, isBlank], _,
      (.cons (.literal (by decide)) (.cons hspace (.cons (.literal (by decide)) .nil)) :
        List.Forall₂ (SpellsChar barredInName) ['a', ' ', 'b'] [['a'], ['%', '2', '0'], ['b']]),
      rfl⟩, by simp [Blank, isBlank], rfl⟩
  have hvalue : SpellsPart barredInValue "c;é" "c%3b%C3%a9".toList :=
    ⟨[], "c%3b%C3%a9".toList, [], blank_nil, ⟨by simp [Trimmed, isBlank], _,
      (.cons (.literal (by decide)) (.cons hsemicolon (.cons haccent .nil)) :
        List.Forall₂ (SpellsChar barredInValue) ['c', ';', 'é'] ["c".toList, "%3b".toList,
          "%C3%a9".toList]), rfl⟩, blank_nil, rfl⟩
  have hflag : SpellsPart barredInName "flag" "flag".toList :=
    ⟨[], "flag".toList, [], blank_nil, spells_self (by simp [barredInName])
      (by simp [Trimmed, isBlank]), blank_nil, rfl⟩
  have hplain : SpellsPart barredInName "a b" "a b".toList :=
    ⟨[], "a b".toList, [], blank_nil, spells_self (by simp [barredInName])
      (by simp [Trimmed, isBlank]), blank_nil, rfl⟩
  have hempty : SpellsPart barredInValue "" " ".toList :=
    ⟨[' '], [], [], by simp [Blank, isBlank], spells_self (by simp) trimmed_nil, blank_nil, rfl⟩
  have hspells : SpellsCookies [("a b", some "c;é"), ("flag", none), ("a b", some "")]
      " a%20b =c%3b%C3%a9;flag;a b= " :=
    ⟨_, .cons (.valued hname hvalue) (.cons (.bare hflag) (.cons (.valued hplain hempty) .nil)),
      rfl⟩
  have hread := parse_written_cookies.1 _ _ (by decide) hspells
  obtain ⟨⟨text, htext⟩, hagain⟩ := parse_written_cookies.2 "b;%61=1;a"
  exact ⟨hspells, hread "a b", hread "flag", text, htext, hagain text htext⟩

end PageCompanion.Cookie
