/-
# What an invocation prints

A run that succeeds has read valid names and a text, and its last line is about the header that
a stamp of these names and of the text's cookies would write.  `Invocation.names` is what the
names are, and `headerLine_eq_value_iff` and `headerLine_eq_note_iff` say that the line tells a
value from a note that there is none.
-/
import PageCompanion.Preview.Report
import PageCompanion.Proofs.Cookie.Padding
import PageCompanion.Proofs.Settings.Assignments

namespace PageCompanion.Preview

open Cookie (Jar)
open Text (trim trimEnd)

/-! ## The line about the header -/

/-- The line that shows the value of a header. -/
def valueLine (header value : String) : String := s!"{header}: {value}"

/-- The line that says that a header is left out. -/
def omissionNote (header cookie : String) : String :=
  s!"{header} omitted (cookie '{cookie}' missing)"

lemma valueLine_inj {header value value' : String} :
    valueLine header value = valueLine header value' ↔ value = value' := by
  simp [valueLine, toString, ← String.toList_inj, String.toList_append]

lemma valueLine_ne_omissionNote (header value cookie : String) :
    valueLine header value ≠ omissionNote header cookie := by
  simp [valueLine, omissionNote, toString, ← String.toList_inj, String.toList_append]

lemma headerLine_eq_value_iff {s : Token.Stamp} {value : String} :
    headerLine s = valueLine s.names.header value ↔ s.value? = some value := by
  cases hvalue : s.value? with
  | none =>
    have hline : headerLine s = omissionNote s.names.header s.names.cookie := by
      rw [headerLine, hvalue, omissionNote]
    rw [hline]
    simpa using (valueLine_ne_omissionNote s.names.header value s.names.cookie).symm
  | some value' =>
    have hline : headerLine s = valueLine s.names.header value' := by
      rw [headerLine, hvalue, valueLine]
    rw [hline, valueLine_inj, Option.some_inj]

lemma headerLine_eq_note_iff {s : Token.Stamp} :
    headerLine s = omissionNote s.names.header s.names.cookie ↔ s.value? = none := by
  cases hvalue : s.value? with
  | none =>
    have hline : headerLine s = omissionNote s.names.header s.names.cookie := by
      rw [headerLine, hvalue, omissionNote]
    simp [hline]
  | some value =>
    have hline : headerLine s = valueLine s.names.header value := headerLine_eq_value_iff.mpr hvalue
    rw [hline]
    simpa using valueLine_ne_omissionNote s.names.header value s.names.cookie

/-! ## Names -/

/-- The names that an invocation states. -/
def Invocation.names (i : Invocation) : Token.Names :=
  ⟨trim i.cookieName, trim i.headerName, if i.omitMissing then .leaveOut else .sendEmpty⟩

lemma ofName?_trim_cookie : Key.ofName? (trim Key.cookie.name) = some .cookie := by
  decide +kernel

lemma ofName?_trim_header : Key.ofName? (trim Key.header.name) = some .header := by
  decide +kernel

lemma ofName?_trim_missing : Key.ofName? (trim Key.missing.name) = some .missing := by
  decide +kernel

/-- The overrides of an invocation are of different settings. -/
lemma nodup_keys_overrides (i : Invocation) :
    (i.overrides.filterMap fun p => Key.ofName? (trim p.1)).Nodup := by
  rw [Invocation.overrides]
  cases i.omitMissing <;>
    simp [ofName?_trim_cookie, ofName?_trim_header, ofName?_trim_missing]

/-- Valid settings are those of valid overrides, up to the level of the log. -/
lemma exists_ofPairs_of_settings {i : Invocation} {settings : Settings}
    (h : i.settings = .ok settings) :
    ∃ s, Settings.ofPairs i.overrides = .ok s ∧ settings.token = s.token := by
  rw [Invocation.settings] at h
  cases hs : Settings.ofPairs i.overrides with
  | error fault =>
    rw [hs] at h
    exact absurd h (by simp)
  | ok s =>
    rw [hs] at h
    refine ⟨s, rfl, ?_⟩
    rw [← Except.ok.inj h]
    split_ifs <;> rfl

lemma set_leaveOut (s : Settings) :
    s.set Key.missing.name Token.Policy.leaveOut.name
      = .ok { s with token := { s.token with missing := .leaveOut } } := by
  have hpolicy : Token.Policy.ofName? (trim Token.Policy.leaveOut.name) = some .leaveOut := by
    decide +kernel
  rw [Settings.set_of_known ofName?_trim_missing, Settings.assign, hpolicy]

/-- The overrides of an invocation are valid unless a name is blank, the name of the cookie first,
and set the names and the policy. -/
lemma ofPairs_overrides (i : Invocation) :
    Settings.ofPairs i.overrides =
      if trim i.cookieName = "" then .error (.empty Key.cookie.name)
      else if trim i.headerName = "" then .error (.empty Key.header.name)
      else .ok { token := i.names } := by
  rw [Settings.ofPairs, Invocation.overrides, List.cons_append, List.cons_append, List.nil_append,
    Settings.setAll, Settings.set_of_known ofName?_trim_cookie, Settings.assign]
  by_cases hcookie : trim i.cookieName = ""
  · rw [if_pos hcookie, if_pos hcookie]
  · rw [if_neg hcookie, if_neg hcookie]
    simp only
    rw [Settings.setAll, Settings.set_of_known ofName?_trim_header, Settings.assign]
    by_cases hheader : trim i.headerName = ""
    · rw [if_pos hheader, if_pos hheader]
    · rw [if_neg hheader, if_neg hheader, Invocation.names]
      -- the policy is set only when it is asked for
      cases i.omitMissing with
      | false => rfl
      | true => simp [Settings.setAll, set_leaveOut]

/-- Valid overrides set the names that were stated. -/
lemma token_of_ofPairs {i : Invocation} {s : Settings}
    (h : Settings.ofPairs i.overrides = .ok s) : s.token = i.names := by
  rw [ofPairs_overrides] at h
  split_ifs at h
  rw [← Except.ok.inj h]

/-- Valid settings have the names that were stated. -/
lemma token_of_settings {i : Invocation} {settings : Settings} (h : i.settings = .ok settings) :
    settings.token = i.names := by
  obtain ⟨s, hs, htoken⟩ := exists_ofPairs_of_settings h
  rw [htoken, token_of_ofPairs hs]

/-- The overrides of an invocation leave the level of the log as it is. -/
lemma logLevel_of_ofPairs {i : Invocation} {s : Settings}
    (h : Settings.ofPairs i.overrides = .ok s) : s.logLevel = ({} : Settings).logLevel := by
  rw [ofPairs_overrides] at h
  split_ifs at h
  rw [← Except.ok.inj h]

/-- The level of the log follows from whether the invocation asks for records. -/
lemma logLevel_of_settings {i : Invocation} {settings : Settings}
    (h : i.settings = .ok settings) :
    settings.logLevel = .upTo (if i.verbose then .debug else .info) := by
  rw [Invocation.settings] at h
  cases hs : Settings.ofPairs i.overrides with
  | error fault =>
    rw [hs] at h
    exact absurd h (by simp)
  | ok s =>
    rw [hs] at h
    rw [← Except.ok.inj h]
    cases i.verbose with
    | true => rfl
    | false => exact logLevel_of_ofPairs hs

/-! ## A run that succeeds -/

/-- The text that an invocation reads, with or without the blanks at its end. -/
def Invocation.Reads (i : Invocation) (w : Workspace) (raw : String) : Prop :=
  i.source.text (w.contents i.source) = .ok raw ∨
    i.source.text (w.contents i.source) = .ok (trimEnd raw)

/-- The last line of a run that succeeds is about the stamp of what was stated and read. -/
lemma getLast?_lines {i : Invocation} {w : Workspace} {raw : String} (hreads : i.Reads w raw)
    (hexit : (i.run w).exit = 0) :
    ∃ settings, i.settings = .ok settings ∧
      (i.run w).lines.getLast?
        = some (headerLine (Token.Stamp.make (Jar.parse raw) settings.token).1) := by
  -- blanks at the end of the text make no difference to its cookies
  obtain ⟨text, htext, hparse⟩ : ∃ text, i.source.text (w.contents i.source) = .ok text ∧
      Jar.parse text = Jar.parse raw := by
    rcases hreads with htext | htext
    · exact ⟨raw, htext, rfl⟩
    · exact ⟨trimEnd raw, htext, Cookie.parse_trimEnd raw⟩
  rw [Invocation.run] at hexit ⊢
  cases hsettings : i.settings with
  | error fault =>
    rw [hsettings] at hexit
    exact absurd hexit (by simp [failed])
  | ok settings =>
    refine ⟨settings, rfl, ?_⟩
    simp only [report, htext, hparse, render, List.getLast?_concat]

end PageCompanion.Preview
