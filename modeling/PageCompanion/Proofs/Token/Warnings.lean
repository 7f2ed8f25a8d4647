/-
# What a stamp logs

A stamp that is made is logged once, with a word on whether the token is in its jar.  After that a
stamp has one thing to say, which is that the token is missing, and says it when it is applied for
the first time: `Stamp.due` is that this is still to come.  Headers that are written may have
something to say as well, which `Run.complaints` keeps apart.  One step of a run logs the record
when it is due and the stamp is applied (`records_step`), and it is due no more then (`due_step`),
so a run logs it once or not at all (`records_steps`).
-/
import PageCompanion.Proofs.Token.Runs

namespace PageCompanion.Token

open Cookie (Jar)

/-- Headers that take whatever is written, and so have nothing to say about it. -/
def Quiet (H : Type) [Headers H] : Prop :=
  ∀ (headers : H) (name value : String), (Headers.put headers name value).2 = []

/-- Both mappings of the standard library are quiet; an object of the page's scripts is not. -/
lemma quiet_maps : Quiet (Std.HashMap String String) ∧ Quiet (Std.TreeMap String String) :=
  ⟨fun _ _ _ => rfl, fun _ _ _ => rfl⟩

/-! ## One application -/

namespace Stamp

/-- The token is missing, and this is still to be reported. -/
def due (s : Stamp) : Bool :=
  s.token?.isNone && !s.warned

lemma due_make (jar : Jar) (names : Names) :
    (make jar names).1.due = (jar.get? names.cookie).isNone := by
  simp [due, make, token?]

lemma report_snd (s : Stamp) :
    s.report.2 = if s.due then [Log.warning (missingMessage s.names)] else [] := by
  rw [report, due]
  split <;> rfl

/-- What was reported is due no more. -/
lemma due_report (s : Stamp) : s.report.1.due = false := by
  rw [due, token?_report, report]
  cases htoken : s.token? with
  | none => cases hwarned : s.warned <;> simp [hwarned]
  | some token => rfl

variable {H : Type} [Headers H]

/-- What the headers say when the stamp is put on them. -/
def complaints (s : Stamp) (headers : H) : List Log.Record :=
  match s.value? with
  | none => []
  | some value => (Headers.put headers s.names.header value).2

/-- Applying a stamp logs its report, whether or not a header is written. -/
lemma apply_records (s : Stamp) (headers : H) :
    (s.apply headers).2.2 = s.report.2 ++ s.complaints headers := by
  rw [apply, complaints]
  cases s.value? with
  | none => exact (List.append_nil _).symm
  | some value => rfl

end Stamp

/-! ## Runs -/

section Runs

variable {H : Type}

/-- The stamp is applied. -/
def Step.applies : Step H → Bool
  | .stamp => true
  | _ => false

/-- How often a run applies its stamp. -/
def applications (l : List (Step H)) : ℕ :=
  l.countP Step.applies

lemma applications_cons (a : Step H) (l : List (Step H)) :
    applications (a :: l) = applications l + if a.applies then 1 else 0 :=
  List.countP_cons

variable [Headers H]

namespace Run

/-- What the headers at hand say of a step. -/
def complaints (r : Run H) : Step H → List Log.Record
  | .request _ => []
  | .put name value => (Headers.put r.headers name value).2
  | .stamp => r.stamp.complaints r.headers

lemma complaints_of_quiet (hquiet : Quiet H) (r : Run H) (a : Step H) : r.complaints a = [] := by
  cases a with
  | request headers => rfl
  | put name value => exact hquiet _ _ _
  | stamp =>
    rw [complaints, Stamp.complaints]
    split
    · rfl
    · exact hquiet _ _ _

/-- The report of a missing token is due until the stamp is applied. -/
lemma due_step (r : Run H) (a : Step H) :
    (r.step a).1.stamp.due = (r.stamp.due && !a.applies) := by
  cases a with
  | stamp =>
    rw [step, Stamp.apply_fst, Stamp.due_report]
    simp [Step.applies]
  | _ => simp [step, Step.applies]

lemma due_steps (r : Run H) (l : List (Step H)) :
    (r.steps l).1.stamp.due = (r.stamp.due && decide (applications l = 0)) := by
  induction l generalizing r with
  | nil => simp [steps, applications]
  | cons a l ih =>
    rw [steps, ih, due_step, applications_cons]
    cases a.applies <;> simp

/-- **One step logs what is due**, and only when it applies the stamp. -/
theorem records_step (r : Run H) (a : Step H) : (r.step a).2 =
    (if r.stamp.due && a.applies then [Log.warning (Stamp.missingMessage r.stamp.names)]
      else []) ++ r.complaints a := by
  cases a with
  | request headers => simp [step, complaints, Step.applies]
  | put name value => simp [step, complaints, Step.applies]
  | stamp =>
    rw [step, Stamp.apply_records, Stamp.report_snd, Step.applies, Bool.and_true, complaints]

/-- **A whole run logs what is due once**, if it applies the stamp at all. -/
theorem records_steps (hquiet : Quiet H) (r : Run H) (l : List (Step H)) : (r.steps l).2 =
    List.replicate (if r.stamp.due then min 1 (applications l) else 0)
      (Log.warning (Stamp.missingMessage r.stamp.names)) := by
  induction l generalizing r with
  | nil => cases r.stamp.due <;> rfl
  | cons a l ih =>
    rw [steps, records_step, complaints_of_quiet hquiet, List.append_nil, ih, due_step,
      (r.stamp_step a).2, applications_cons]
    cases r.stamp.due with
    | false => simp
    | true =>
      cases a.applies with
      | false => simp
      | true => simp

end Run

end Runs

/-! ## Whole lives -/

/-- The words on a new stamp: how many cookies its jar has, and what is said of the token. -/
def creationLine (cookies : ℕ) (cookie state : String) : String :=
  s!"csrf injector: {cookies} cookies, token cookie '{cookie}' " ++ state

/-- What is said of a token. -/
def presence (token : Option String) : String :=
  if token.isSome then "present" else "missing"

lemma presence_eq_present_iff {token : Option String} :
    presence token = "present" ↔ token.isSome := by
  cases token <;> simp [presence]

lemma presence_eq_missing_iff {token : Option String} :
    presence token = "missing" ↔ token = none := by
  cases token <;> simp [presence]

/-- The record of a new stamp tells whether its jar has the token. -/
lemma make_snd (jar : Jar) (names : Names) : (Stamp.make jar names).2
    = Log.debugging (creationLine jar.size names.cookie (presence (jar.get? names.cookie))) := by
  rfl

lemma make_snd_eq_iff {jar : Jar} {names : Names} {state : String} :
    (Stamp.make jar names).2 = Log.debugging (creationLine jar.size names.cookie state) ↔
      presence (jar.get? names.cookie) = state := by
  rw [make_snd]
  constructor
  · intro h
    exact (String.append_right_inj _).mp (congrArg Log.Record.message h)
  · intro h
    rw [h]

/-- **A missing token is reported once.**  A new stamp is logged with one record, which tells how
many cookies its jar has and whether the token is present.  If it is present then no step of a run
logs anything, but for what its headers say of being written.  If it is missing, or has no value,
then the first application logs one warning, whatever the policy and whatever the headers hold, and
no other step does.  Over headers that say nothing, a run with `k` applications so logs `min 1 k`
warnings or none, as the record of the stamp tells. -/
theorem missing_token_reported_once {H : Type} [Headers H] (jar : Jar) (names : Names)
    (headers : H) :
    let made := Stamp.make jar names
    let r : Run H := ⟨made.1, headers⟩
    let warning := Log.warning (Stamp.missingMessage names)
    let present := Log.debugging (creationLine jar.size names.cookie "present")
    let missing := Log.debugging (creationLine jar.size names.cookie "missing")
    (made.2 = present ↔ (jar.get? names.cookie).isSome) ∧
    (made.2 = missing ↔ jar.get? names.cookie = none) ∧
    (∀ before a, ((r.steps before).1.step a).2 =
      (if made.2 = missing ∧ a.applies ∧ applications before = 0 then [warning] else []) ++
        (r.steps before).1.complaints a) ∧
    (Quiet H → ∀ l, (r.steps l).2 =
      List.replicate (if made.2 = missing then min 1 (applications l) else 0) warning) := by
  intro made r warning present missing
  have hpresent : made.2 = present ↔ (jar.get? names.cookie).isSome :=
    make_snd_eq_iff.trans presence_eq_present_iff
  have hmissing : made.2 = missing ↔ jar.get? names.cookie = none :=
    make_snd_eq_iff.trans presence_eq_missing_iff
  have hdue : r.stamp.due = decide (made.2 = missing) := by
    rw [Bool.eq_iff_iff, decide_eq_true_iff, hmissing, Stamp.due_make, Option.isNone_iff_eq_none]
  refine ⟨hpresent, hmissing, fun before a => ?_, fun hquiet l => ?_⟩
  · rw [Run.records_step, Run.due_steps, hdue, (r.stamp_steps before).2]
    congr 2
    simp only [Bool.and_eq_true, decide_eq_true_eq, and_assoc, eq_iff_iff]
    exact and_congr_right fun _ => and_comm
  · rw [r.records_steps hquiet, hdue]
    simp only [decide_eq_true_eq]
    rfl

/-- A cookie without a value is a missing token, which is reported at the second of these requests
under the policy that leaves the header out; an empty token is present, and nothing is reported. -/
theorem missing_token_reported_once_of_bare_cookie :
    let names : Names := { missing := .leaveOut }
    let l : List (Step (Std.HashMap String String)) :=
      [.put "X-CSRF-Token" "STALE", .request ∅, .stamp, .put "HX-Request" "true", .stamp]
    let bare := Stamp.make (Jar.parse "_csrf=T; a=1; _csrf") names
    let empty := Stamp.make (Jar.parse "_csrf=; a=1") names
    bare.2 = ⟨.debug, "csrf injector: 2 cookies, token cookie '_csrf' missing"⟩ ∧
      (Run.steps ⟨bare.1, ∅⟩ l).2
        = [⟨.warn, "cookie '_csrf' not found; X-CSRF-Token header policy is 'omit'"⟩] ∧
      empty.2 = ⟨.debug, "csrf injector: 2 cookies, token cookie '_csrf' present"⟩ ∧
      (Run.steps ⟨empty.1, ∅⟩ l).2 = [] := by
  intro names l bare empty
  have ⟨_, hmissing, _, hbare⟩ :=
    missing_token_reported_once (Jar.parse "_csrf=T; a=1; _csrf") names
      (∅ : Std.HashMap String String)
  have ⟨hpresent, _, _, hempty⟩ :=
    missing_token_reported_once (Jar.parse "_csrf=; a=1") names (∅ : Std.HashMap String String)
  refine ⟨(hmissing.mpr (by decide +kernel)).trans (by decide +kernel),
    (hbare quiet_maps.1 l).trans (by decide +kernel),
    (hpresent.mpr (by decide +kernel)).trans (by decide +kernel),
    (hempty quiet_maps.1 l).trans (by decide +kernel)⟩

end PageCompanion.Token
