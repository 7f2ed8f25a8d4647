/-
# Stamps over whole runs

Whatever happens in the life of a stamp, it keeps its jar and its names, and so what it writes
is decided when it is made (`writes_steps`).  Of each request that it is applied to it changes
one entry or none, which the look-ups of the request's table tell.
-/
import PageCompanion.Proofs.Token.Tables
import PageCompanion.Token.Run

namespace PageCompanion.Token

open Cookie (Jar)
open HeaderTable (get?)

namespace Run

variable {H : Type} [Headers H]

/-- A step leaves the jar and the names of the stamp as they are. -/
lemma stamp_step (r : Run H) (a : Step H) :
    (r.step a).1.stamp.jar = r.stamp.jar ∧ (r.step a).1.stamp.names = r.stamp.names := by
  cases a with
  | request headers => exact ⟨rfl, rfl⟩
  | put name value => exact ⟨rfl, rfl⟩
  | stamp =>
    rw [step]
    simp only [Stamp.apply_fst]
    exact ⟨r.stamp.report_jar, r.stamp.report_names⟩

/-- A run leaves the jar and the names of the stamp as they are. -/
lemma stamp_steps (r : Run H) (l : List (Step H)) :
    (r.steps l).1.stamp.jar = r.stamp.jar ∧ (r.steps l).1.stamp.names = r.stamp.names := by
  induction l generalizing r with
  | nil => exact ⟨rfl, rfl⟩
  | cons a l ih =>
    obtain ⟨hjar, hnames⟩ := r.stamp_step a
    obtain ⟨hjars, hnamess⟩ := ih (r.step a).1
    exact ⟨hjars.trans hjar, hnamess.trans hnames⟩

/-- After any run the stamp writes what it would have written at first. -/
lemma writes_steps (r : Run H) (l : List (Step H)) :
    (r.steps l).1.stamp.writes = r.stamp.writes :=
  Stamp.writes_congr (r.stamp_steps l).1 (r.stamp_steps l).2

lemma value?_steps (r : Run H) (l : List (Step H)) :
    (r.steps l).1.stamp.value? = r.stamp.value? := by
  obtain ⟨hjar, hnames⟩ := r.stamp_steps l
  simp only [Stamp.value?, Stamp.token?, hjar, hnames]

/-- The stamp does its writes to the headers of the request at hand. -/
lemma headers_stamp (r : Run H) :
    (r.step .stamp).1.headers = writeAll r.headers r.stamp.writes :=
  r.stamp.apply_headers r.headers

end Run

/-! ## The value of a new stamp -/

section Value

variable (jar : Jar) (names : Names)

lemma value?_make_of_token {token : String}
    (h : jar.entries[names.cookie]? = some (some token)) :
    (Stamp.make jar names).1.value? = some token := by
  have htoken : (Stamp.make jar names).1.token? = some token := by
    rw [Stamp.token?, Stamp.make, Jar.get?, h, Option.join_some]
  rw [Stamp.value?, htoken]

/-- Without a token the policy decides. -/
lemma value?_make_of_missing (h : ∀ token, jar.entries[names.cookie]? ≠ some (some token)) :
    (Stamp.make jar names).1.value?
      = match names.missing with
        | .sendEmpty => some sentinel
        | .leaveOut => none := by
  have htoken : (Stamp.make jar names).1.token? = none := by
    rw [Stamp.token?, Stamp.make, Jar.get?, Option.eq_none_iff_forall_ne_some]
    intro token htoken
    exact h token (Option.join_eq_some_iff.mp htoken)
  rw [Stamp.value?, htoken]
  rfl

end Value

/-- **A stamp keeps to its one header.**  After any run of a stamp on any tables, its names and
its value are those it was made with.  Stamping the request at hand does to it the writes of the
new stamp, which no step before has a part in: the other headers stay as they are, and the
stamp's header has the token of the jar; without a token it has the sentinel or, under the other
policy, what it had before.  So nothing changes exactly when there is no value or the header has
it already, and stamping again changes nothing. -/
theorem stamping_after_run {H : Type} [HeaderTable H] [LawfulTable H] (jar : Jar) (names : Names)
    (headers : H) (l : List (Step H)) :
    let fresh := (Stamp.make jar names).1
    let r := (Run.steps ⟨fresh, headers⟩ l).1
    let once := (r.step .stamp).1
    let twice := (once.step .stamp).1
    (r.stamp.names = names ∧ r.stamp.value? = fresh.value?) ∧
    once.headers = writeAll r.headers fresh.writes ∧
    (∀ n, n ≠ names.header → get? once.headers n = get? r.headers n) ∧
    (∀ token, jar.entries[names.cookie]? = some (some token) →
      get? once.headers names.header = some token) ∧
    ((∀ token, jar.entries[names.cookie]? ≠ some (some token)) →
      (names.missing = .sendEmpty → get? once.headers names.header = some "") ∧
      (names.missing = .leaveOut → get? once.headers names.header = get? r.headers names.header)) ∧
    (SameEntries once.headers r.headers ↔
      fresh.value? = none ∨ get? r.headers names.header = fresh.value?) ∧
    SameEntries twice.headers once.headers := by
  intro fresh r once twice
  have hnames : r.stamp.names = names := (Run.stamp_steps ⟨fresh, headers⟩ l).2
  have hvalue : r.stamp.value? = fresh.value? := Run.value?_steps ⟨fresh, headers⟩ l
  have honce : once.headers = writeAll r.headers fresh.writes := by
    rw [← Run.writes_steps ⟨fresh, headers⟩ l]
    exact r.headers_stamp
  have htwice : twice.headers = writeAll once.headers fresh.writes := by
    have hwrites : once.stamp.writes = fresh.writes := by
      rw [Stamp.writes_congr (r.stamp_step .stamp).1 (r.stamp_step .stamp).2]
      exact Run.writes_steps ⟨fresh, headers⟩ l
    rw [← hwrites]
    exact once.headers_stamp
  -- the header of the stamp has its value, or what it had
  have hheader : get? once.headers names.header
      = fresh.value?.or (get? r.headers names.header) := by
    rw [honce]
    exact fresh.get?_writeAll_self r.headers
  refine ⟨⟨hnames, hvalue⟩, honce, fun n hn => ?_, fun token htoken => ?_, fun hmissing => ?_, ?_,
    ?_⟩
  · rw [honce]
    exact fresh.get?_writeAll_of_ne r.headers hn
  · rw [hheader, value?_make_of_token jar names htoken, Option.some_or]
  · have hfresh := value?_make_of_missing jar names hmissing
    constructor
    · intro hpolicy
      rw [hheader, hfresh, hpolicy]
      rfl
    · intro hpolicy
      rw [hheader, hfresh, hpolicy]
      rfl
  · rw [honce]
    exact fresh.sameEntries_writeAll_iff r.headers
  · rw [htwice, honce]
    exact fresh.sameEntries_writeAll_writeAll r.headers

/-- A token that is the empty text takes the place of a stale one even where missing tokens are
left out; a cookie without a value is a missing token, after any run as at first. -/
theorem stamping_after_run_of_empty_tokens :
    let stale : List (Step (Std.HashMap String String)) :=
      [.put "X-CSRF-Token" "STALE", .put "HX-Request" "true"]
    let r := (Run.steps ⟨(Stamp.make (Jar.parse "_csrf=") { missing := .leaveOut }).1, ∅⟩ stale).1
    let again : List (Step (Std.TreeMap String String)) :=
      [.stamp, .request (Std.TreeMap.ofList [("x-csrf-token", "OTHER")])]
    let r' := (Run.steps ⟨(Stamp.make (Jar.parse "_csrf=T; _csrf") {}).1, ∅⟩ again).1
    (Jar.parse "_csrf=").entries["_csrf"]? = some (some "") ∧
      get? (r.step .stamp).1.headers "X-CSRF-Token" = some "" ∧
      get? (r.step .stamp).1.headers "HX-Request" = get? r.headers "HX-Request" ∧
      (∀ token, (Jar.parse "_csrf=T; _csrf").entries["_csrf"]? ≠ some (some token)) ∧
      get? (r'.step .stamp).1.headers "X-CSRF-Token" = some "" ∧
      get? (r'.step .stamp).1.headers "x-csrf-token" = get? r'.headers "x-csrf-token" := by
  intro stale r again r'
  have hempty : (Jar.parse "_csrf=").entries["_csrf"]? = some (some "") := by decide +kernel
  have hbare : (Jar.parse "_csrf=T; _csrf").entries["_csrf"]? = some none := by decide +kernel
  have hmissing : ∀ token, (Jar.parse "_csrf=T; _csrf").entries["_csrf"]? ≠ some (some token) := by
    intro token
    rw [hbare]
    simp
  obtain ⟨-, -, hothers, htoken, -⟩ :=
    stamping_after_run (Jar.parse "_csrf=") { missing := .leaveOut } ∅ stale
  obtain ⟨-, -, hothers', -, hpolicy, -⟩ :=
    stamping_after_run (Jar.parse "_csrf=T; _csrf") {} ∅ again
  exact ⟨hempty, htoken "" hempty, hothers "HX-Request" (by decide), hmissing,
    (hpolicy hmissing).1 rfl, hothers' "x-csrf-token" (by decide)⟩

end PageCompanion.Token
