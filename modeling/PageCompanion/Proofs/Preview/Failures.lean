/-
# Runs that fail

A run fails for one of three reasons: a name of the invocation is blank, or its source cannot be
read, or what the source holds is no text.  `Invocation.Fails` is the first of them, in the order in
which the run meets them, and `run_eq_failed_iff` says that a run fails exactly with it.

A run that fails prints no line and ends its diagnostics with the fault, on a line of its own but
for one case.  The record that a file is read goes through as plain text, so if the name of the
file opens a control string (see `Text.Reading.isOpen`), the line break of the record is lost in it
and the fault stands behind the record.
-/
import PageCompanion.Proofs.Preview.Sources
import PageCompanion.Proofs.Text.ControlStrings

namespace PageCompanion.Preview

open Text (Reading bytesOfText textOfBytes?_eq_some_iff trim)

/-! ## What can be wrong -/

/-- What is wrong with the source of an invocation that states no cookie string. -/
inductive Invocation.SourceFails (i : Invocation) (w : Workspace) : SourceFault → Prop where
  /-- The file cannot be read. -/
  | unread {name : String} {cause : SourceFault} (hcookie : i.cookie = none)
      (hfile : i.file = some name) (hread : w.readFile name = .error cause) :
      SourceFails i w cause
  /-- The file is read, but no text has its bytes. -/
  | fileNotText {name : String} {bytes : List UInt8} (hcookie : i.cookie = none)
      (hfile : i.file = some name) (hread : w.readFile name = .ok bytes)
      (hbytes : ∀ text, bytesOfText text ≠ bytes) : SourceFails i w .notText
  /-- Standard input cannot be read. -/
  | stdinUnread {cause : SourceFault} (hcookie : i.cookie = none) (hfile : i.file = none)
      (hread : w.stdin = .error cause) : SourceFails i w cause
  /-- Standard input is read, but no text has its bytes. -/
  | stdinNotText {bytes : List UInt8} (hcookie : i.cookie = none) (hfile : i.file = none)
      (hread : w.stdin = .ok bytes) (hbytes : ∀ text, bytesOfText text ≠ bytes) :
      SourceFails i w .notText

/-- The first thing that is wrong with an invocation. -/
inductive Invocation.Fails (i : Invocation) (w : Workspace) : Fault → Prop where
  | cookieName (hcookie : trim i.cookieName = "") :
      Fails i w (.setting (.empty Key.cookie.name))
  | headerName (hcookie : trim i.cookieName ≠ "") (hheader : trim i.headerName = "") :
      Fails i w (.setting (.empty Key.header.name))
  | source {cause : SourceFault} (hcookie : trim i.cookieName ≠ "")
      (hheader : trim i.headerName ≠ "") (hsource : i.SourceFails w cause) :
      Fails i w (.source cause)

variable {i : Invocation} {w : Workspace}

/-- The settings of an invocation are valid unless a name is blank, and the name of the cookie
comes first. -/
lemma settings_eq_error_iff {fault : SettingFault} :
    i.settings = .error fault ↔
      (trim i.cookieName = "" ∧ fault = .empty Key.cookie.name) ∨
      (trim i.cookieName ≠ "" ∧ trim i.headerName = "" ∧ fault = .empty Key.header.name) := by
  rw [Invocation.settings, ofPairs_overrides]
  by_cases hcookie : trim i.cookieName = ""
  · rw [if_pos hcookie]
    simp [hcookie, eq_comm (a := fault)]
  · by_cases hheader : trim i.headerName = ""
    · rw [if_neg hcookie, if_pos hheader]
      simp [hcookie, hheader, eq_comm (a := fault)]
    · rw [if_neg hcookie, if_neg hheader]
      simp [hcookie, hheader]

lemma readText_eq_error_iff {bytes : List UInt8} {cause : SourceFault} :
    readText bytes = .error cause ↔ cause = .notText ∧ ∀ text, bytesOfText text ≠ bytes := by
  simp only [ne_eq, ← textOfBytes?_eq_some_iff]
  rw [readText]
  cases Text.textOfBytes? bytes with
  | none => simp [eq_comm (a := cause)]
  | some text => simp

/-- A source other than the command line fails when it cannot be read and when it holds no text. -/
lemma text_eq_error_iff_of_bytes {source : Source} (h : ∀ text, source ≠ .argument text)
    {contents : Except SourceFault (List UInt8)} {cause : SourceFault} :
    source.text contents = .error cause ↔ contents = .error cause ∨
      ∃ bytes, contents = .ok bytes ∧ cause = .notText ∧ ∀ text, bytesOfText text ≠ bytes := by
  have htext : source.text contents
      = contents.bind fun bytes => (readText bytes).map Text.trimEnd := by
    cases source with
    | argument text => exact absurd rfl (h text)
    | _ => cases contents <;> rfl
  rw [htext]
  cases contents with
  | error fault => simp [Except.bind]
  | ok bytes =>
    simp only [Except.bind, reduceCtorEq, false_or, Except.ok.injEq, exists_eq_left',
      ← readText_eq_error_iff]
    cases readText bytes <;> simp [Except.map]

/-- An invocation can be read from unless its source fails. -/
lemma text_eq_error_iff {cause : SourceFault} :
    i.source.text (w.contents i.source) = .error cause ↔ i.SourceFails w cause := by
  cases hcookie : i.cookie with
  | some text =>
    have hsource : i.source = .argument text := by rw [Invocation.source, hcookie]
    rw [hsource]
    refine ⟨fun h => absurd h (by simp [Source.text]), fun h => ?_⟩
    cases h <;> simp_all
  | none =>
    cases hfile : i.file with
    | some name =>
      have hsource : i.source = .file name := by rw [Invocation.source, hcookie, hfile]
      rw [hsource, text_eq_error_iff_of_bytes (by simp), Workspace.contents]
      constructor
      · rintro (hread | ⟨bytes, hread, rfl, hbytes⟩)
        · exact .unread hcookie hfile hread
        · exact .fileNotText hcookie hfile hread hbytes
      · intro h
        cases h with
        | unread _ hname hread =>
          obtain rfl := Option.some.inj (hfile.symm.trans hname)
          exact Or.inl hread
        | fileNotText _ hname hread hbytes =>
          obtain rfl := Option.some.inj (hfile.symm.trans hname)
          exact Or.inr ⟨_, hread, rfl, hbytes⟩
        | stdinUnread _ hnone _ => exact absurd (hfile.symm.trans hnone) (by simp)
        | stdinNotText _ hnone _ _ => exact absurd (hfile.symm.trans hnone) (by simp)
    | none =>
      have hsource : i.source = .stdin := by rw [Invocation.source, hcookie, hfile]
      rw [hsource, text_eq_error_iff_of_bytes (by simp), Workspace.contents]
      constructor
      · rintro (hread | ⟨bytes, hread, rfl, hbytes⟩)
        · exact .stdinUnread hcookie hfile hread
        · exact .stdinNotText hcookie hfile hread hbytes
      · intro h
        cases h with
        | unread _ hname _ => exact absurd (hfile.symm.trans hname) (by simp)
        | fileNotText _ hname _ _ => exact absurd (hfile.symm.trans hname) (by simp)
        | stdinUnread _ _ hread => exact Or.inl hread
        | stdinNotText _ _ hread hbytes => exact Or.inr ⟨_, hread, rfl, hbytes⟩

/-! ## Which runs fail -/

/-- What a run says before it takes its source. -/
def Invocation.announced (i : Invocation) : List Diagnostic :=
  match i.source with
  | .file name => if i.verbose then [readingDiagnostic name] else []
  | _ => []

/-- What a run says before it fails: settings are checked in silence. -/
def Invocation.before (i : Invocation) : Fault → List Diagnostic
  | .source _ => i.announced
  | _ => []

lemma shown_readingRecords {settings : Settings} (h : i.settings = .ok settings) :
    shown settings.logLevel ownOrigin (readingRecords i.source) = i.announced := by
  rw [Invocation.announced]
  cases i.source with
  | file name => exact shown_reading h name
  | _ => rfl

lemma exists_settings (hcookie : trim i.cookieName ≠ "") (hheader : trim i.headerName ≠ "") :
    ∃ settings, i.settings = .ok settings := by
  cases hsettings : i.settings with
  | ok settings => exact ⟨settings, rfl⟩
  | error fault =>
    rcases settings_eq_error_iff.mp hsettings with ⟨hblank, -⟩ | ⟨-, hblank, -⟩
    · exact absurd hblank hcookie
    · exact absurd hblank hheader

/-- **A run fails with the first thing that is wrong.** -/
theorem run_of_fails {fault : Fault} (h : i.Fails w fault) :
    i.run w = failed (i.before fault) fault := by
  rw [Invocation.run]
  cases h with
  | cookieName hcookie =>
    rw [settings_eq_error_iff.mpr (Or.inl ⟨hcookie, rfl⟩)]
    rfl
  | headerName hcookie hheader =>
    rw [settings_eq_error_iff.mpr (Or.inr ⟨hcookie, hheader, rfl⟩)]
    rfl
  | source hcookie hheader hsource =>
    obtain ⟨settings, hsettings⟩ := exists_settings hcookie hheader
    rw [hsettings]
    simp only [report, text_eq_error_iff.mpr hsource, shown_readingRecords hsettings]
    rfl

/-- **A run with which nothing is wrong succeeds.** -/
theorem exit_of_not_fails (h : ∀ fault, ¬ i.Fails w fault) : (i.run w).exit = 0 := by
  have hcookie : trim i.cookieName ≠ "" := fun hblank => h _ (.cookieName hblank)
  have hheader : trim i.headerName ≠ "" := fun hblank => h _ (.headerName hcookie hblank)
  obtain ⟨settings, hsettings⟩ := exists_settings hcookie hheader
  rw [Invocation.run, hsettings]
  simp only [report]
  cases htext : i.source.text (w.contents i.source) with
  | ok raw => rfl
  | error cause => exact absurd (.source hcookie hheader (text_eq_error_iff.mp htext)) (h _)

lemma exit_eq_one_iff : (i.run w).exit = 1 ↔ ∃ fault, i.Fails w fault := by
  constructor
  · intro hexit
    by_contra hnone
    rw [exit_of_not_fails (not_exists.mp hnone)] at hexit
    exact absurd hexit (by simp)
  · rintro ⟨fault, hfails⟩
    rw [run_of_fails hfails]
    rfl

lemma exit_eq_zero_iff : (i.run w).exit = 0 ↔ ¬ ∃ fault, i.Fails w fault := by
  constructor
  · rintro hexit ⟨fault, hfails⟩
    rw [run_of_fails hfails] at hexit
    exact absurd hexit (by simp [failed])
  · intro hnone
    exact exit_of_not_fails (not_exists.mp hnone)

lemma exists_fails_iff :
    (∃ fault, i.Fails w fault) ↔
      trim i.cookieName = "" ∨ trim i.headerName = "" ∨ ∃ cause, i.SourceFails w cause := by
  constructor
  · rintro ⟨fault, hfails⟩
    cases hfails with
    | cookieName hcookie => exact Or.inl hcookie
    | headerName _ hheader => exact Or.inr (Or.inl hheader)
    | source _ _ hsource => exact Or.inr (Or.inr ⟨_, hsource⟩)
  · intro hwrong
    -- in the order in which the run meets them
    by_cases hcookie : trim i.cookieName = ""
    · exact ⟨_, .cookieName hcookie⟩
    by_cases hheader : trim i.headerName = ""
    · exact ⟨_, .headerName hcookie hheader⟩
    obtain ⟨cause, hsource⟩ := (hwrong.resolve_left hcookie).resolve_left hheader
    exact ⟨_, .source hcookie hheader hsource⟩

/-! ## What does not matter -/

/-- A run that is stopped by a name, or that has its cookie string on the command line, is the same
in every workspace. -/
lemma run_eq_of_closed (h : trim i.cookieName = "" ∨ trim i.headerName = "" ∨ i.cookie.isSome)
    (w w' : Workspace) : i.run w = i.run w' := by
  by_cases hcookie : trim i.cookieName = ""
  · rw [run_of_fails (w := w) (.cookieName hcookie), run_of_fails (w := w') (.cookieName hcookie)]
  by_cases hheader : trim i.headerName = ""
  · rw [run_of_fails (w := w) (.headerName hcookie hheader),
      run_of_fails (w := w') (.headerName hcookie hheader)]
  obtain ⟨text, htext⟩ :=
    Option.isSome_iff_exists.mp ((h.resolve_left hcookie).resolve_left hheader)
  have hsource : i.source = .argument text := by rw [Invocation.source, htext]
  simp only [Invocation.run, hsource, Workspace.contents]

/-! ## How a fault is printed -/

/-- The line that reports a fault. -/
def errorLine (fault : Fault) : String := s!"Error: {fault.message}"

/-- The last line of a text whose lines all end in a line break. -/
def lastLine (text : String) : String :=
  String.ofList (text.toList.dropLast.rtakeWhile (· ≠ '\n'))

lemma stderr_failed (before : List Diagnostic) (fault : Fault) :
    (failed before fault).stderr
      = String.join (before.map Diagnostic.text) ++ errorLine fault ++ "\n" := by
  rw [failed, Outcome.stderr, List.map_append, String.join_append]
  simp [Diagnostic.text, errorLine, String.append_assoc, toString]

lemma rtakeWhile_append_of_forall {α : Type} {p : α → Bool} (as : List α) {bs : List α}
    (h : ∀ b ∈ bs, p b = true) : (as ++ bs).rtakeWhile p = as.rtakeWhile p ++ bs := by
  have hreverse : ∀ b ∈ bs.reverse, p b = true := fun b hb => h b (List.mem_reverse.mp hb)
  rw [List.rtakeWhile, List.rtakeWhile, List.reverse_append,
    List.takeWhile_append_of_pos hreverse, List.reverse_append, List.reverse_reverse]

/-- The last line behind a text is a line by itself exactly when the text ends in a line break, if
there is any text. -/
lemma lastLine_append_eq_iff {front line : String} (hline : '\n' ∉ line.toList) :
    lastLine (front ++ line ++ "\n") = line ↔ front = "" ∨ front.toList.getLast? = some '\n' := by
  have hplain : ∀ c ∈ line.toList, decide (c ≠ '\n') = true := fun c hc => by
    simpa using ne_of_mem_of_not_mem hc hline
  have hlast : lastLine (front ++ line ++ "\n")
      = String.ofList (front.toList.rtakeWhile (· ≠ '\n') ++ line.toList) := by
    rw [lastLine, String.toList_append, String.toList_append]
    show String.ofList ((front.toList ++ line.toList ++ ['\n']).dropLast.rtakeWhile _) = _
    rw [List.dropLast_concat, rtakeWhile_append_of_forall _ hplain]
  rw [hlast, ← String.toList_inj, String.toList_ofList, List.append_left_eq_self,
    List.rtakeWhile_eq_nil_iff]
  cases hfront : front.toList using List.reverseRecOn with
  | nil => simp [String.toList_eq_nil_iff.mp hfront]
  | append_singleton cs c =>
    have hne : front ≠ "" := by
      rintro rfl
      simp at hfront
    simp [hne]

/-! ## The record before the fault -/

/-- A character of a message as it is written in a record. -/
def inRecord (c : Char) : List Char := if c = '\n' then '\n' :: indent else [c]

lemma toList_indented (message : String) :
    (indented message).toList = message.toList.flatMap inRecord := by
  rw [indented, String.toList_ofList]
  rfl

/-- A text opens a control string in a record and breaks off inside it, so that what stands behind
the text falls into the string. -/
def OpensString (text : String) : Prop :=
  (({} : Reading).after (indented text).toList).isOpen = true

/-- Only a text with an escape character opens a string. -/
theorem OpensString.escape_mem {text : String} (h : OpensString text) : '\x1b' ∈ text.toList := by
  rw [OpensString, toList_indented] at h
  obtain ⟨c, hc, hescape⟩ := List.mem_flatMap.mp (Reading.escape_mem_of_isOpen h)
  rw [inRecord] at hescape
  split_ifs at hescape
  · exact absurd hescape (by simp [indent])
  · rwa [List.mem_singleton.mp hescape]

/-- What is written of a character in a record does not end in a line break. -/
lemma getLast?_plain_inRecord (r : Reading) (c : Char) :
    (r.plain (inRecord c)).getLast? ≠ some '\n' := by
  rw [inRecord]
  split_ifs with hc
  · rw [Reading.plain]
    split_ifs with hshows
    · -- behind a line break that is written, the blanks are written too
      have hnext : (r.next '\n').showing = true := by simp [Reading.next, hshows]
      have hblank : ∀ d ∈ indent, Text.isPlain d = true := fun d hd => by
        rw [List.eq_of_mem_replicate hd]
        rfl
      rw [Reading.plain_of_isPlain hnext hblank]
      simp [indent]
    · intro hlast
      have hmem := Reading.mem_of_mem_plain (List.mem_of_getLast? hlast)
      exact absurd hmem (by decide)
  · intro hlast
    have hmem := Reading.mem_of_mem_plain (List.mem_of_getLast? hlast)
    exact hc (List.mem_singleton.mp hmem).symm

/-- What is written of a message does not end in a line break. -/
lemma getLast?_plain_flatMap_inRecord (r : Reading) (cs : List Char) :
    (r.plain (cs.flatMap inRecord)).getLast? ≠ some '\n' := by
  induction cs generalizing r with
  | nil => simp [Reading.plain]
  | cons c cs ih =>
    rw [List.flatMap_cons, Reading.plain_append, List.getLast?_append]
    cases hrest : ((r.after (inRecord c)).plain (cs.flatMap inRecord)).getLast? with
    | none => exact getLast?_plain_inRecord r c
    | some last =>
      intro hlast
      exact ih _ (hrest.trans hlast)

/-- What the record of a file says before the name of the file. -/
def announcement : String := "[DEBUG hx_header] reading cookies from "

lemma toList_text_readingDiagnostic (name : String) :
    (readingDiagnostic name).text.toList
      = ({} : Reading).plain ((announcement.toList ++ name.toList).flatMap inRecord ++ ['\n']) := by
  have hhead : "[" ++ Log.Level.debug.name.toUpper ++ " " ++ ownOrigin ++ "] "
      = "[DEBUG hx_header] " := by
    decide +kernel
  have hsplit : announcement.toList.flatMap inRecord
      = "[DEBUG hx_header] ".toList ++ "reading cookies from ".toList.flatMap inRecord := by
    decide +kernel
  simp only [readingDiagnostic, Diagnostic.text, Log.debugging, hhead, Text.plain,
    String.toList_ofList, String.toList_append, toList_indented, List.flatMap_append, hsplit,
    List.append_assoc, toString]
  rfl

/-- The record of a file ends in a line break unless the name of the file opens a string. -/
lemma getLast?_text_readingDiagnostic (name : String) :
    (readingDiagnostic name).text.toList.getLast? = some '\n' ↔ ¬ OpensString name := by
  have hclosed : ({} : Reading).after (announcement.toList.flatMap inRecord) = {} := by
    decide +kernel
  rw [toList_text_readingDiagnostic,
    Reading.getLast?_plain_newline (getLast?_plain_flatMap_inRecord _ _), List.flatMap_append,
    Reading.after_append, hclosed, OpensString, toList_indented, Bool.not_eq_true]

lemma text_readingDiagnostic_ne_empty (name : String) : (readingDiagnostic name).text ≠ "" := by
  have hfront : announcement.toList.flatMap inRecord = announcement.toList := by decide +kernel
  have hplain : ({} : Reading).plain announcement.toList = announcement.toList := by
    decide +kernel
  rw [← String.toList_inj.ne, toList_text_readingDiagnostic, List.flatMap_append, hfront,
    List.append_assoc, Reading.plain_append, hplain]
  simp [announcement]

/-! ## The last line of a run that fails -/

lemma Invocation.SourceFails.oneLine {cause : SourceFault} (h : i.SourceFails w cause) :
    '\n' ∉ cause.message.toList := by
  cases h with
  | unread _ _ hread => exact w.oneLine _ (Or.inr ⟨_, hread⟩)
  | stdinUnread _ _ hread => exact w.oneLine _ (Or.inl hread)
  | fileNotText _ _ _ _ => decide +kernel
  | stdinNotText _ _ _ _ => decide +kernel

/-- The report of a fault is one line. -/
lemma newline_not_mem_errorLine {fault : Fault} (h : i.Fails w fault) :
    '\n' ∉ (errorLine fault).toList := by
  cases h with
  | cookieName _ => decide +kernel
  | headerName _ _ => decide +kernel
  | @source cause _ _ hsource =>
    have hline : errorLine (.source cause) = "Error: " ++ cause.message := rfl
    rw [hline, String.toList_append, List.mem_append, not_or]
    exact ⟨by decide +kernel, hsource.oneLine⟩

/-- The line break of the record that a file is read is lost before a fault is reported. -/
def Invocation.LosesBreak (i : Invocation) (fault : Fault) : Prop :=
  (∃ cause, fault = .source cause) ∧ i.verbose = true ∧
    ∃ name, i.file = some name ∧ OpensString name

/-- What stands before the report of a fault ends in a line break unless that is lost. -/
lemma before_ends_iff {fault : Fault} (h : i.Fails w fault) :
    let front := String.join ((i.before fault).map Diagnostic.text)
    front = "" ∨ front.toList.getLast? = some '\n' ↔ ¬ i.LosesBreak fault := by
  intro front
  cases h with
  | cookieName _ => simp [front, Invocation.before, Invocation.LosesBreak]
  | headerName _ _ => simp [front, Invocation.before, Invocation.LosesBreak]
  | @source cause _ _ hsource =>
    have hcookie : i.cookie = none := by cases hsource <;> assumption
    cases hfile : i.file with
    | none =>
      have hsource : i.source = .stdin := by rw [Invocation.source, hcookie, hfile]
      simp [front, Invocation.before, Invocation.announced, hsource, Invocation.LosesBreak, hfile]
    | some name =>
      have hsource : i.source = .file name := by rw [Invocation.source, hcookie, hfile]
      cases hverbose : i.verbose with
      | false =>
        simp [front, Invocation.before, Invocation.announced, hsource, Invocation.LosesBreak,
          hverbose]
      | true =>
        have hfront : front = (readingDiagnostic name).text := by
          simp [front, Invocation.before, Invocation.announced, hsource, hverbose]
        rw [hfront, getLast?_text_readingDiagnostic]
        simp [text_readingDiagnostic_ne_empty, Invocation.LosesBreak, hverbose, hfile]

/-- **Runs that fail.**  Whatever the options, the standard input, the files and the directories, a
run fails exactly when a name is blank or when the source is needed and cannot be read as a text;
otherwise it succeeds.  A run that fails prints nothing to standard output, and to standard error
at its end the first thing that is wrong, which is the last line there unless the line break before
it is lost.  A run that a name stops, or that has its cookie string on the command line, does not
depend on standard input, files and directories. -/
theorem failing_runs {arguments : List String} {i : Invocation}
    (hparse : Invocation.parse arguments = .ok i) (w : Workspace) :
    let o := run arguments w
    let named := trim i.cookieName = "" ∨ trim i.headerName = ""
    (o.exit = 1 ↔ named ∨ ∃ cause, i.SourceFails w cause) ∧
    (o.exit = 0 ↔ ¬ (named ∨ ∃ cause, i.SourceFails w cause)) ∧
    (o.exit = 1 → o.stdout = "" ∧ ∃ fault, i.Fails w fault ∧
      (∃ front, o.stderr = front ++ errorLine fault ++ "\n") ∧
      (lastLine o.stderr = errorLine fault ↔ ¬ i.LosesBreak fault)) ∧
    (named ∨ i.cookie.isSome → ∀ w', run arguments w' = o) := by
  intro o named
  have hrun : ∀ w', run arguments w' = i.run w' := fun w' => by rw [run, hparse]
  have hwrong : (∃ fault, i.Fails w fault) ↔ named ∨ ∃ cause, i.SourceFails w cause := by
    rw [exists_fails_iff, or_assoc]
  refine ⟨?_, ?_, fun hexit => ?_, fun hclosed w' => ?_⟩
  · rw [← hwrong, ← exit_eq_one_iff, ← hrun w]
  · rw [← hwrong, ← exit_eq_zero_iff, ← hrun w]
  · obtain ⟨fault, hfails⟩ := exit_eq_one_iff.mp ((congrArg Outcome.exit (hrun w)).symm.trans hexit)
    have hout : o = failed (i.before fault) fault := (hrun w).trans (run_of_fails hfails)
    refine ⟨by rw [hout]; rfl, fault, hfails, ?_⟩
    rw [hout, stderr_failed]
    exact ⟨⟨_, rfl⟩, (lastLine_append_eq_iff (newline_not_mem_errorLine hfails)).trans
      (before_ends_iff hfails)⟩
  · exact (hrun w').trans ((run_eq_of_closed (or_assoc.mp hclosed) w' w).trans (hrun w).symm)

/-- `failing_runs` where both names are blank and the file is not there. -/
theorem failing_runs_of_three_mistakes :
    let arguments := ["-v", "--header-name=", "--cookie-name= ", "--file=absent"]
    let o := run arguments {}
    o.exit = 1 ∧ o.stdout = "" ∧
      lastLine o.stderr = "Error: invalid configuration: csrf-cookie must not be empty" ∧
      ∀ w, run arguments w = o := by
  intro arguments o
  have hparse : Invocation.parse arguments
      = .ok { file := some "absent", cookieName := " ", headerName := "", verbose := true } := by
    decide +kernel
  obtain ⟨hfails, -, hprints, hclosed⟩ := failing_runs hparse {}
  have hblank : trim " " = "" := by decide +kernel
  have hexit : o.exit = 1 := hfails.mpr (Or.inl (Or.inl hblank))
  obtain ⟨hstdout, fault, hfault, -, hlast⟩ := hprints hexit
  cases hfault with
  | cookieName _ =>
    refine ⟨hexit, hstdout, (hlast.mpr ?_).trans (by decide +kernel),
      hclosed (Or.inl (Or.inl hblank))⟩
    simp [Invocation.LosesBreak]
  | headerName hcookie _ => exact absurd hblank hcookie
  | source hcookie _ _ => exact absurd hblank hcookie

/-- Standard input can be a directory. -/
example : run [] { stdin := .error .isDirectory }
    = ⟨1, [], [.failure (.source .isDirectory)]⟩ := by
  decide +kernel

/-- The name of a file that is not there opens a control string, and the fault stands on the line of
the record that the file is read. -/
theorem fault_behind_record :
    let arguments := ["-v", "--file=a\x1bX"]
    let i : Invocation := { file := some "a\x1bX", verbose := true }
    let o := run arguments {}
    Invocation.parse arguments = .ok i ∧ i.Fails {} (.source .notFound) ∧ o.exit = 1 ∧
      o.stderr = "[DEBUG hx_header] reading cookies from a" ++
        "Error: No such file or directory (os error 2)\n" ∧
      lastLine o.stderr ≠ errorLine (.source .notFound) := by
  intro arguments i o
  have hread : Workspace.readFile {} "a\x1bX" = .error .notFound := rfl
  exact ⟨by decide +kernel, .source (by decide +kernel) (by decide +kernel) (.unread rfl rfl hread),
    by decide +kernel⟩

end PageCompanion.Preview
