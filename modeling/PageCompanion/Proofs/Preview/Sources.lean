/-
# The source of the cookie string

A cookie string may stand on the command line, in a file or in standard input, and only the last
two are read without the white space at their end.  Since the parser leaves blanks at the end of
a text aside, a run prints the same whichever source a text comes from; only a run that reads a
file says so when it is asked for its records.
-/
import PageCompanion.Preview.Tree
import PageCompanion.Proofs.Preview.Options
import PageCompanion.Proofs.Preview.Reading

namespace PageCompanion.Preview

open Cookie (Jar)
open Text (Blank bytesOfText textOfBytes?_bytesOfText trimEnd)

/-! ## What is read -/

/-- Blanks at the end of a text make no difference to its cookies. -/
lemma parse_trimEnd_append (text : String) {blank : String} (h : Blank blank.toList) :
    Jar.parse (trimEnd (text ++ blank)) = Jar.parse text := by
  have htrim : trimEnd (text ++ blank) = trimEnd text := by
    rw [trimEnd, String.toList_append, Text.stripRight_append_of_blank _ h, trimEnd]
  rw [htrim, Cookie.parse_trimEnd]

/-- A source that is no argument is read without the blanks at its end. -/
lemma text_of_bytes {source : Source} (h : ∀ text, source ≠ .argument text) (text : String) :
    source.text (.ok (bytesOfText text)) = .ok (trimEnd text) := by
  cases source with
  | argument text => exact absurd rfl (h text)
  | _ =>
    simp only [Source.text, readText, textOfBytes?_bytesOfText]
    rfl

/-! ## What is printed -/

/-- The record that a file is read. -/
def readingDiagnostic (name : String) : Diagnostic :=
  .record ownOrigin (Log.debugging s!"reading cookies from {name}")

/-- The record that a file is read passes when the invocation asks for its records. -/
lemma shown_reading {i : Invocation} {settings : Settings} (h : i.settings = .ok settings)
    (name : String) :
    shown settings.logLevel ownOrigin (readingRecords (.file name))
      = if i.verbose then [readingDiagnostic name] else [] := by
  rw [logLevel_of_settings h]
  cases i.verbose <;> rfl

/-- What a run prints whose settings are valid and whose source holds a text with this jar. -/
lemma run_of_parse {i : Invocation} {w : Workspace} {settings : Settings} {raw : String} {jar : Jar}
    (hsettings : i.settings = .ok settings)
    (hraw : i.source.text (w.contents i.source) = .ok raw) (hjar : Jar.parse raw = jar) :
    i.run w = ⟨0, render jar settings i.dump,
      shown settings.logLevel ownOrigin (readingRecords i.source) ++
        (shown settings.logLevel ownOrigin [Log.debugging s!"parsed {jar.size} cookies"] ++
          shown settings.logLevel stampOrigin [(Token.Stamp.make jar settings.token).2])⟩ := by
  simp only [Invocation.run, hsettings, report, hraw, hjar, List.append_assoc]

/-! ## The same run from three sources -/

/-- An invocation prints the same whichever source a text comes from.  Blanks at the end of the
file and of standard input do not matter, and what else stands in the workspaces does not
either. -/
lemma run_of_sources {i : Invocation} (hopen : i.cookie = none ∧ i.file = none)
    {text blank name : String} (hblank : Blank blank.toList) (w₁ : Workspace)
    {w₂ w₃ : Workspace} (hfile : w₂.readFile name = .ok (bytesOfText (text ++ blank)))
    (hstdin : w₃.stdin = .ok (bytesOfText (text ++ blank))) :
    { i with cookie := some text }.run w₁ = i.run w₃ ∧
      { i with file := some name }.run w₂ =
        { i.run w₃ with
          diagnostics := (if i.settings.isOk && i.verbose then [readingDiagnostic name] else [])
            ++ (i.run w₃).diagnostics } := by
  obtain ⟨hcookie, hnone⟩ := hopen
  obtain ⟨argued, hargued⟩ : ∃ argued, argued = { i with cookie := some text } := ⟨_, rfl⟩
  obtain ⟨filed, hfiled⟩ : ∃ filed, filed = { i with file := some name } := ⟨_, rfl⟩
  rw [← hargued, ← hfiled]
  -- the settings do not depend on the source
  have harguedSettings : argued.settings = i.settings := by rw [hargued]; rfl
  have hfiledSettings : filed.settings = i.settings := by rw [hfiled]; rfl
  cases hsettings : i.settings with
  | error fault =>
    have hrun : ∀ (j : Invocation) (w : Workspace), j.settings = .error fault →
        j.run w = failed [] (.setting fault) := by
      intro j w hj
      rw [Invocation.run, hj]
    rw [hrun i w₃ hsettings, hrun argued w₁ (harguedSettings.trans hsettings),
      hrun filed w₂ (hfiledSettings.trans hsettings)]
    exact ⟨rfl, rfl⟩
  | ok settings =>
    have hpipedSource : i.source = .stdin := by rw [Invocation.source, hcookie, hnone]
    have hfiledSource : filed.source = .file name := by rw [hfiled, Invocation.source, hcookie]
    have harguedSource : argued.source = .argument text := by rw [hargued, Invocation.source]
    have hstdinText : i.source.text (w₃.contents i.source) = .ok (trimEnd (text ++ blank)) := by
      rw [hpipedSource, Workspace.contents, hstdin]
      exact text_of_bytes (by simp) _
    have hpiped := run_of_parse hsettings hstdinText (parse_trimEnd_append text hblank)
    have hfileText : filed.source.text (w₂.contents filed.source)
        = .ok (trimEnd (text ++ blank)) := by
      rw [hfiledSource, Workspace.contents, hfile]
      exact text_of_bytes (by simp) _
    have hread := run_of_parse (hfiledSettings.trans hsettings) hfileText
      (parse_trimEnd_append text hblank)
    have hgiven : argued.source.text (w₁.contents argued.source) = .ok text := by
      rw [harguedSource]
      rfl
    have hstated := run_of_parse (harguedSettings.trans hsettings) hgiven rfl
    have hdump : argued.dump = i.dump ∧ filed.dump = i.dump := by
      rw [hargued, hfiled]
      exact ⟨rfl, rfl⟩
    rw [hpiped, hread, hstated, hpipedSource, hfiledSource, harguedSource,
      shown_reading hsettings name, hdump.1, hdump.2]
    exact ⟨rfl, rfl⟩

/-- **The source of the cookie string does not matter.**  Take options in any order and any of
their spellings, a text that stands behind `--` on one command line, in the file that another
names, and in standard input of a third, in the last two with any blanks behind it.  The three
runs end in the same way and print the same, except that the one which reads the file says so
first when it is asked for its records and its settings are valid. -/
theorem source_does_not_matter {given : List Given} {options : List String}
    (hoptions : SpellsAll given options)
    (hitems : ∀ g ∈ given, g.item ≠ .file ∧ g.item ≠ .help ∧ g.item ≠ .version)
    (text blank name : String) (hblank : Blank blank.toList) (w₁ w₂ w₃ : Workspace)
    (hfile : w₂.readFile name = .ok (bytesOfText (text ++ blank)))
    (hstdin : w₃.stdin = .ok (bytesOfText (text ++ blank))) :
    let argued := run (options ++ ["--", text]) w₁
    let filed := run (options ++ ["--file=" ++ name]) w₂
    let piped := run options w₃
    let accepted := (Invocation.ofGiven given).settings.isOk
    (argued.exit = piped.exit ∧ filed.exit = piped.exit) ∧
      (argued.stdout = piped.stdout ∧ filed.stdout = piped.stdout) ∧
      argued.stderr = piped.stderr ∧
      filed.stderr = (if accepted && given.any (·.item = .verbose)
        then (readingDiagnostic name).text else "") ++ piped.stderr := by
  intro argued filed piped accepted
  have husable : ∀ g ∈ given, g.Usable := fun g hg =>
    ⟨(hitems g hg).2.1, (hitems g hg).2.2, fun h => absurd h (hitems g hg).1⟩
  have hnofile : ∀ g ∈ given, g.item ≠ .file := fun g hg => (hitems g hg).1
  have hname : name ≠ "" := by
    rintro rfl
    obtain ⟨cause, hnothing⟩ := w₂.unnamed
    rw [hnothing] at hfile
    exact absurd hfile (by simp)
  have hopen := source_ofGiven fun g hg => ⟨hoptions.item_ne_cookie hg, hnofile g hg⟩
  obtain ⟨hargument, hnamed⟩ := run_of_sources hopen hblank w₁ hfile hstdin
  have hargued : argued = piped := by
    simp only [argued, piped, run, parse_options_cookie hoptions husable hnofile text,
      parse_options hoptions husable hnofile, hargument]
  have hfiled : filed = { piped with
      diagnostics := (if accepted && given.any (·.item = .verbose) then [readingDiagnostic name]
        else []) ++ piped.diagnostics } := by
    simp only [filed, piped, run, parse_options_file hoptions husable hnofile hname,
      parse_options hoptions husable hnofile, hnamed, ← verbose_ofGiven, accepted]
  rw [hargued, hfiled]
  refine ⟨⟨rfl, rfl⟩, ⟨rfl, rfl⟩, rfl, ?_⟩
  rw [Outcome.stderr, List.map_append, String.join_append, Outcome.stderr]
  cases accepted && given.any (·.item = .verbose) <;> simp

/-- `source_does_not_matter` at a file and a standard input that end in a line break, and with the
records asked for. -/
theorem source_does_not_matter_of_line_break :
    let options := ["-v", "--cookie-name", "sid", "--omit-missing"]
    let bytes := bytesOfText ("sid=a%20b; -" ++ "\n")
    let argued := run (options ++ ["--", "sid=a%20b; -"]) {}
    let filed := run (options ++ ["--file=" ++ "jar"]) ((Tree.write {} "jar" bytes).workspace [])
    let piped := run options { stdin := .ok bytes }
    piped.stdout = "X-CSRF-Token: a b\n" ∧ argued.stdout = piped.stdout ∧
      filed.stdout = piped.stdout ∧ argued.stderr = piped.stderr ∧
      filed.stderr = "[DEBUG hx_header] reading cookies from jar\n" ++ piped.stderr := by
  intro options bytes argued filed piped
  have hoptions : SpellsAll [⟨.verbose, none⟩, ⟨.cookieName, some "sid"⟩, ⟨.omitMissing, none⟩]
      options :=
    ⟨by decide, [["-v"], ["--cookie-name", "sid"], ["--omit-missing"]],
      .cons .verbose (.cons (.separate rfl (by decide) (Or.inr (by decide)))
        (.cons (.flag rfl) .nil)), rfl⟩
  obtain ⟨-, ⟨hargued, hfiled⟩, hstderr, hreading⟩ :=
    source_does_not_matter hoptions (by decide) "sid=a%20b; -" "\n" "jar"
      (by simp [Blank, Text.isBlank]) {} ((Tree.write {} "jar" bytes).workspace [])
      { stdin := .ok bytes }
      (by decide +kernel) rfl
  refine ⟨by decide +kernel, hargued, hfiled, hstderr, hreading.trans ?_⟩
  have hrecord : (readingDiagnostic "jar").text
      = "[DEBUG hx_header] reading cookies from jar\n" := by
    decide +kernel
  rw [if_pos (by decide +kernel), hrecord]

end PageCompanion.Preview
