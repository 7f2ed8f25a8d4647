/-
# The flags for records and for cookies

Two flags ask a run to say more: one for the records of what it does, the other for the cookies
that it read.  A run fails or succeeds whether or not they are given, since neither has a part in
what can be wrong (`Fails.with_flags` and `Succeeds.with_flags`).  The records go to standard error
and stand in front of what is written there otherwise, which is nothing or the report of a fault
(`Records`); the cookies go to standard output and stand in front of the header (`Lists`).
-/
import PageCompanion.Proofs.Cookie.Meaning
import PageCompanion.Proofs.Preview.Failures
import PageCompanion.Proofs.Preview.Leading
import PageCompanion.Proofs.Token.Warnings

namespace PageCompanion.Preview

open Cookie (Jar counting lastNamed? nameOf valueOf)
open Text (trim)

/-! ## What is said besides -/

/-- The diagnostic is a log record. -/
def Diagnostic.isRecord : Diagnostic → Bool
  | .record _ _ => true
  | _ => false

/-- How many names the segments of a cookie string have that count. -/
def distinctNames (raw : String) : ℕ :=
  ((counting raw).map nameOf).toFinset.card

/-- What the last segment of a name states, if it has a value. -/
def valueIn? (raw name : String) : Option String :=
  (lastNamed? raw name).bind valueOf

/-- The record that so many cookies were parsed. -/
def parsedDiagnostic (n : ℕ) : Diagnostic :=
  .record ownOrigin (Log.debugging s!"parsed {n} cookies")

/-- The record of a stamp for so many cookies, by the name of the one with the token. -/
def stampDiagnostic (n : ℕ) (cookie : String) (token : Option String) : Diagnostic :=
  .record stampOrigin (Log.debugging (Token.creationLine n cookie (Token.presence token)))

namespace Invocation

/-- The records of a run that reads a text and succeeds, in order. -/
def records (i : Invocation) (raw : String) : List Diagnostic :=
  (i.file.map readingDiagnostic).toList ++ [parsedDiagnostic (distinctNames raw),
    stampDiagnostic (distinctNames raw) (trim i.cookieName) (valueIn? raw (trim i.cookieName))]

/-- Nothing is wrong with the invocation, and this is the text that it reads. -/
structure Succeeds (i : Invocation) (w : Workspace) (raw : String) : Prop where
  cookieName : trim i.cookieName ≠ ""
  headerName : trim i.headerName ≠ ""
  text_eq : i.source.text (w.contents i.source) = .ok raw

variable {i : Invocation} {w : Workspace} {raw : String} {fault : Fault}

lemma fails_or_succeeds (i : Invocation) (w : Workspace) :
    (∃ fault, i.Fails w fault) ∨ ∃ raw, i.Succeeds w raw := by
  by_cases hfails : ∃ fault, i.Fails w fault
  · exact Or.inl hfails
  · rw [exists_fails_iff, not_or, not_or] at hfails
    obtain ⟨hcookie, hheader, hsource⟩ := hfails
    cases htext : i.source.text (w.contents i.source) with
    | error cause => exact absurd ⟨cause, text_eq_error_iff.mp htext⟩ hsource
    | ok raw => exact Or.inr ⟨raw, hcookie, hheader, htext⟩

/-! ## Flags decide nothing -/

lemma SourceFails.with_flags {cause : SourceFault} (h : i.SourceFails w cause)
    (verbose dump : Bool) : { i with verbose, dump }.SourceFails w cause := by
  cases h with
  | unread hcookie hfile hread => exact .unread hcookie hfile hread
  | fileNotText hcookie hfile hread hbytes => exact .fileNotText hcookie hfile hread hbytes
  | stdinUnread hcookie hfile hread => exact .stdinUnread hcookie hfile hread
  | stdinNotText hcookie hfile hread hbytes => exact .stdinNotText hcookie hfile hread hbytes

/-- What is wrong is wrong with any flags. -/
lemma Fails.with_flags (h : i.Fails w fault) (verbose dump : Bool) :
    { i with verbose, dump }.Fails w fault := by
  cases h with
  | cookieName hcookie => exact .cookieName hcookie
  | headerName hcookie hheader => exact .headerName hcookie hheader
  | source hcookie hheader hsource =>
    exact .source hcookie hheader (hsource.with_flags verbose dump)

lemma Succeeds.with_flags (h : i.Succeeds w raw) (verbose dump : Bool) :
    { i with verbose, dump }.Succeeds w raw :=
  ⟨h.cookieName, h.headerName, h.text_eq⟩

/-! ## A run in closed form -/

lemma announced_eq (hsource : i.cookie = none ∨ i.file = none) :
    i.announced = if i.verbose then (i.file.map readingDiagnostic).toList else [] := by
  rw [announced, source]
  cases hcookie : i.cookie with
  | some text =>
    have hfile : i.file = none := hsource.resolve_left (by simp [hcookie])
    cases i.verbose <;> simp [hfile]
  | none =>
    cases i.file with
    | none => cases i.verbose <;> rfl
    | some name => cases i.verbose <;> rfl

/-- What a stamp for the cookies of a text logs. -/
lemma record_make (raw : String) (names : Token.Names) :
    .record stampOrigin (Token.Stamp.make (Jar.parse raw) names).2
      = stampDiagnostic (distinctNames raw) names.cookie (valueIn? raw names.cookie) := by
  rw [Token.make_snd, Cookie.size_parse, Cookie.get?_parse]
  rfl

/-- What a run that succeeds writes. -/
lemma Succeeds.run_eq (h : i.Succeeds w raw) (hsource : i.cookie = none ∨ i.file = none) :
    i.run w = ⟨0, (if i.dump then (Jar.parse raw).toList.map cookieLine else []) ++
      [headerLine (Token.Stamp.make (Jar.parse raw) i.names).1],
      if i.verbose then i.records raw else []⟩ := by
  obtain ⟨settings, hsettings⟩ := exists_settings h.cookieName h.headerName
  rw [run_of_parse hsettings h.text_eq rfl, shown_readingRecords hsettings,
    announced_eq hsource, render, token_of_settings hsettings, logLevel_of_settings hsettings]
  congr 1
  cases i.verbose with
  | false => rfl
  | true =>
    rw [if_pos rfl, if_pos rfl, if_pos rfl, records]
    show _ ++ [_, Diagnostic.record stampOrigin _] = _
    rw [record_make, parsedDiagnostic, distinctNames, ← Cookie.size_parse]
    rfl

lemma isRecord_of_mem_records {d : Diagnostic} (hd : d ∈ i.records raw) : d.isRecord = true := by
  rw [records, List.mem_append, Option.mem_toList, Option.map_eq_some_iff, List.mem_pair] at hd
  rcases hd with ⟨name, -, rfl⟩ | rfl | rfl
  · rfl
  · rfl
  · rfl

lemma isRecord_of_mem_before {d : Diagnostic} (hd : d ∈ i.before fault) : d.isRecord = true := by
  have hannounced : ∀ d ∈ i.announced, d.isRecord = true := by
    intro d hd
    rw [announced] at hd
    split at hd
    · split_ifs at hd
      · rw [List.mem_singleton.mp hd]
        rfl
      · exact absurd hd (by simp)
    · exact absurd hd (by simp)
  cases fault with
  | source cause => exact hannounced d hd
  | _ => exact absurd hd (by simp [before])

lemma before_of_quiet (h : i.verbose = false) : i.before fault = [] := by
  have hannounced : i.announced = [] := by
    rw [announced, h]
    split <;> rfl
  cases fault with
  | source cause => exact hannounced
  | _ => rfl

end Invocation

/-! ## What the flags add -/

/-- `o'` is what becomes of a run `o` of an invocation when it is asked for its records. -/
structure Records (i : Invocation) (w : Workspace) (o o' : Outcome) : Prop where
  exit_eq : o'.exit = o.exit
  stdout_eq : o'.stdout = o.stdout
  /-- Without the records, the same is written. -/
  diagnostics_eq : (o'.diagnostics.filter fun d => !d.isRecord) = o.diagnostics
  /-- The records stand in front. -/
  stderr_eq : o'.stderr
    = String.join ((o'.diagnostics.filter (·.isRecord)).map Diagnostic.text) ++ o.stderr
  /-- What is written without them is nothing, or the report of a fault. -/
  stderr_cases : (o.exit = 0 ∧ o.stderr = "") ∨
    o.exit = 1 ∧ ∃ fault, i.Fails w fault ∧ o.stderr = errorLine fault ++ "\n"
  /-- The records of a run that succeeds tell what was read, and how many names it has. -/
  records_eq : o'.exit = 0 → ∃ raw, i.source.text (w.contents i.source) = .ok raw ∧
    o'.diagnostics = i.records raw

/-- `o'` is what becomes of a run `o` of an invocation when it is asked for its cookies. -/
structure Lists (i : Invocation) (w : Workspace) (o o' : Outcome) : Prop where
  exit_eq : o'.exit = o.exit
  stderr_eq : o'.stderr = o.stderr
  /-- The cookies stand in front, one line a name, in ascending order of the names. -/
  stdout_of_success : o.exit = 0 → ∃ (raw : String) (names : List String),
    i.source.text (w.contents i.source) = .ok raw ∧
    names.Pairwise (fun a b : String => a.toList < b.toList) ∧
    (∀ n, n ∈ names ↔ ∃ seg ∈ counting raw, nameOf seg = n) ∧
    o'.stdout = String.join (names.map fun n => cookieLine (n, valueIn? raw n) ++ "\n") ++ o.stdout
  stdout_of_failure : o.exit ≠ 0 → o'.stdout = o.stdout

section

variable {i : Invocation} {w : Workspace}

/-- Records that stand in front of what is none can be told from it. -/
lemma records_of_front {exit : ℕ} {lines : List String} {front rest : List Diagnostic}
    (hfront : ∀ d ∈ front, d.isRecord = true) (hrest : ∀ d ∈ rest, d.isRecord = false)
    (hcases : (exit = 0 ∧ rest = []) ∨
      exit = 1 ∧ ∃ fault, i.Fails w fault ∧ rest = [.failure fault])
    (hrecords : exit = 0 → ∃ raw, i.source.text (w.contents i.source) = .ok raw ∧
      front = i.records raw) :
    Records i w ⟨exit, lines, rest⟩ ⟨exit, lines, front ++ rest⟩ where
  exit_eq := rfl
  stdout_eq := rfl
  diagnostics_eq := by
    rw [List.filter_append, List.filter_eq_nil_iff.mpr fun d hd => by simp [hfront d hd],
      List.filter_eq_self.mpr fun d hd => by simp [hrest d hd], List.nil_append]
  stderr_eq := by
    rw [List.filter_append, List.filter_eq_self.mpr hfront,
      List.filter_eq_nil_iff.mpr fun d hd => by simp [hrest d hd], List.append_nil,
      Outcome.stderr, Outcome.stderr, List.map_append, String.join_append]
  stderr_cases := by
    rcases hcases with ⟨hexit, rfl⟩ | ⟨hexit, fault, hfails, rfl⟩
    · exact Or.inl ⟨hexit, rfl⟩
    · refine Or.inr ⟨hexit, fault, hfails, ?_⟩
      simpa [failed, Outcome.stderr] using stderr_failed [] fault
  records_eq := by
    intro hexit
    obtain ⟨raw, htext, rfl⟩ := hrecords hexit
    rcases hcases with ⟨-, rfl⟩ | ⟨hone, -⟩
    · exact ⟨raw, htext, List.append_nil _⟩
    · exact absurd (hexit.symm.trans hone) (by decide)

lemma records_of_flag (hsource : i.cookie = none ∨ i.file = none) (hverbose : i.verbose = false) :
    Records i w (i.run w) ({ i with verbose := true }.run w) := by
  rcases i.fails_or_succeeds w with ⟨fault, hfails⟩ | ⟨raw, hsucceeds⟩
  · rw [run_of_fails hfails, run_of_fails (hfails.with_flags true i.dump),
      i.before_of_quiet hverbose]
    refine records_of_front (fun d hd => Invocation.isRecord_of_mem_before hd) ?_
      (Or.inr ⟨rfl, fault, hfails, rfl⟩) (fun hexit => absurd hexit (by decide))
    rintro d hd
    rw [List.mem_singleton.mp hd]
    rfl
  · rw [hsucceeds.run_eq hsource, (hsucceeds.with_flags true i.dump).run_eq hsource, hverbose]
    obtain ⟨lines, hlines⟩ : ∃ lines, lines = (if i.dump then (Jar.parse raw).toList.map cookieLine
        else []) ++ [headerLine (Token.Stamp.make (Jar.parse raw) i.names).1] := ⟨_, rfl⟩
    have hrecords : Records i w ⟨0, lines, []⟩ ⟨0, lines, i.records raw ++ []⟩ :=
      records_of_front (fun d hd => Invocation.isRecord_of_mem_records hd) (by simp)
        (Or.inl ⟨rfl, rfl⟩) fun _ => ⟨raw, hsucceeds.text_eq, rfl⟩
    rw [List.append_nil, hlines] at hrecords
    exact hrecords

/-- The cookies of a text are its names with what the last segment of each states. -/
lemma toList_parse (raw : String) : (Jar.parse raw).toList
    = ((Jar.parse raw).toList.map Prod.fst).map fun n => (n, valueIn? raw n) := by
  rw [List.map_map]
  refine (List.map_id _).symm.trans (List.map_congr_left fun entry hentry => ?_)
  obtain ⟨n, value⟩ := entry
  have hlast : (lastNamed? raw n).map valueOf = some value := by
    rw [← Cookie.getElem?_parse]
    exact Jar.mem_toList_iff.mp hentry
  obtain ⟨seg, hseg, rfl⟩ := Option.map_eq_some_iff.mp hlast
  show (n, valueOf seg) = (n, valueIn? raw n)
  rw [valueIn?, hseg, Option.bind_some]

lemma map_cookieLine_parse (raw : String) : (Jar.parse raw).toList.map cookieLine
    = ((Jar.parse raw).toList.map Prod.fst).map fun n => cookieLine (n, valueIn? raw n) := by
  conv_lhs => rw [toList_parse raw]
  rw [List.map_map]
  rfl

lemma lists_of_flag (hsource : i.cookie = none ∨ i.file = none) (hdump : i.dump = false) :
    Lists i w (i.run w) ({ i with dump := true }.run w) := by
  rcases i.fails_or_succeeds w with ⟨fault, hfails⟩ | ⟨raw, hsucceeds⟩
  · have hsame : { i with dump := true }.run w = i.run w := by
      rw [run_of_fails hfails, run_of_fails (hfails.with_flags i.verbose true)]
      cases fault <;> rfl
    have hexit : (i.run w).exit = 1 := exit_eq_one_iff.mpr ⟨fault, hfails⟩
    rw [hsame]
    refine ⟨rfl, rfl, fun hzero => ?_, fun _ => rfl⟩
    rw [hexit] at hzero
    exact absurd hzero (by decide)
  · rw [hsucceeds.run_eq hsource, (hsucceeds.with_flags i.verbose true).run_eq hsource, hdump]
    refine ⟨rfl, rfl, fun _ => ?_, fun hone => absurd rfl hone⟩
    refine ⟨raw, (Jar.parse raw).toList.map Prod.fst, hsucceeds.text_eq,
      (Jar.parse raw).pairwise_lt_toList, fun n => Cookie.mem_names_parse_iff, ?_⟩
    have hlines : ((Jar.parse raw).toList.map cookieLine).map (· ++ "\n")
        = ((Jar.parse raw).toList.map Prod.fst).map
          fun n => cookieLine (n, valueIn? raw n) ++ "\n" := by
      rw [map_cookieLine_parse, List.map_map]
      rfl
    rw [Outcome.stdout, Outcome.stdout, if_pos rfl, List.map_append, String.join_append, hlines]
    rfl

end

/-- **The flags for records and for cookies do not get in each other's way**, nor in the way of
anything else.  A run that succeeds writes its records to standard error if it is asked for them,
and nothing if it is not.  Either flag can be added to a command line that is parsed and does not
have it.  With the records a run ends as without them and prints the same to standard output; to
standard error it writes the records first.  With the cookies a run ends as without them and writes
the same to standard error; if it succeeds it prints the cookies first. -/
theorem flags_do_not_interfere {arguments : List String} {i : Invocation}
    (hparse : Invocation.parse arguments = .ok i) (w : Workspace) :
    let o := run arguments w
    (o.exit = 0 → ∃ raw, i.source.text (w.contents i.source) = .ok raw ∧
      o.diagnostics = if i.verbose then i.records raw else []) ∧
    (i.verbose = false →
      Invocation.parse ("-v" :: arguments) = .ok { i with verbose := true } ∧
      ∀ logged, Invocation.parse logged = .ok { i with verbose := true } →
        Records i w o (run logged w)) ∧
    (i.dump = false →
      Invocation.parse ("--dump" :: arguments) = .ok { i with dump := true } ∧
      ∀ listed, Invocation.parse listed = .ok { i with dump := true } →
        Lists i w o (run listed w)) := by
  intro o
  have hsource := cookie_or_file_eq_none hparse
  have hrun {arguments : List String} {i : Invocation}
      (h : Invocation.parse arguments = .ok i) : run arguments w = i.run w := by
    rw [run, h]
  have ho : o = i.run w := hrun hparse
  refine ⟨?_, ?_, ?_⟩
  · intro hexit
    rcases i.fails_or_succeeds w with hfails | ⟨raw, hsucceeds⟩
    · rw [ho, exit_eq_zero_iff] at hexit
      exact absurd hfails hexit
    · refine ⟨raw, hsucceeds.text_eq, ?_⟩
      rw [ho, hsucceeds.run_eq hsource]
  · intro hverbose
    refine ⟨parse_verbose_cons hparse hverbose, ?_⟩
    intro logged hlogged
    rw [ho, hrun hlogged]
    exact records_of_flag hsource hverbose
  · intro hdump
    refine ⟨parse_dump_cons hparse hdump, ?_⟩
    intro listed hlisted
    rw [ho, hrun hlisted]
    exact lists_of_flag hsource hdump

/-- `flags_do_not_interfere` at a file in which one name stands twice, without a value the second
time: it is counted and listed once, and its token is missing. -/
theorem flags_do_not_interfere_of_lost_value :
    let arguments := ["--cookie-name", "sid", "--file=jar"]
    let w := (Tree.write {} "jar" (Text.bytesOfText "sid=T; a=%22; sid\n")).workspace []
    let o := run arguments w
    o.stdout = "X-CSRF-Token: \n" ∧ o.stderr = "" ∧
      (run ("-v" :: arguments) w).stdout = o.stdout ∧
      (run ("-v" :: arguments) w).stderr = "[DEBUG hx_header] reading cookies from jar\n" ++
        "[DEBUG hx_header] parsed 2 cookies\n" ++
        "[DEBUG hx_assist::csrf] csrf injector: 2 cookies, token cookie 'sid' missing\n" ∧
      (run ("--dump" :: arguments) w).stdout
        = "a = \"\\\"\"\nsid (no value)\n" ++ o.stdout ∧
      (run ("--dump" :: arguments) w).stderr = o.stderr := by
  intro arguments w o
  have hparse : Invocation.parse arguments
      = .ok { file := some "jar", cookieName := "sid" } := by
    decide +kernel
  obtain ⟨-, hrecords, hlists⟩ := flags_do_not_interfere hparse w
  obtain ⟨hlogged, hlog⟩ := hrecords rfl
  obtain ⟨hlisted, hlist⟩ := hlists rfl
  refine ⟨by decide +kernel, by decide +kernel, (hlog _ hlogged).stdout_eq, by decide +kernel,
    by decide +kernel, (hlist _ hlisted).stderr_eq⟩

end PageCompanion.Preview
