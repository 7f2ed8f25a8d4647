/-
# The strict and the lenient reading of overrides

A list of overrides can be read in two ways: `setAll` stops at the first bad one, and `override`
skips the bad ones and keeps their faults.  Whether an override is bad is decided before the
settings are looked at, so both readings meet the same faults whatever the settings are.  The
strict reading is therefore the lenient one with its faults looked at (`setAll_eq`), and the
lenient one is the strict reading of the overrides that are accepted (`setAll_accepted`).
-/
import PageCompanion.Proofs.Settings.Assignments

namespace PageCompanion

namespace Assignment

/-- What is wrong with an override, if anything is. -/
def faultOf? (p : String × String) : Option SettingFault :=
  match ofOverride p.1 p.2 with
  | .ok _ => none
  | .error fault => some fault

/-- The faults of the bad ones of a list of overrides. -/
def faults (pairs : List (String × String)) : List SettingFault :=
  pairs.filterMap faultOf?

end Assignment

namespace Settings

open Assignment (faultOf? faults ofOverride run)

/-! ## Verdicts -/

/-- An override is accepted by all settings or by none. -/
lemma isOk_set (s : Settings) (p : String × String) :
    (s.set p.1 p.2).isOk = (faultOf? p).isNone := by
  rw [set_eq_map, faultOf?]
  cases ofOverride p.1 p.2 with
  | ok a => rfl
  | error fault => rfl

lemma set_of_faultOf?_none {p : String × String} (h : faultOf? p = none) (s : Settings) :
    ∃ t, s.set p.1 p.2 = .ok t := by
  rw [set_eq_map]
  rw [faultOf?] at h
  cases hp : ofOverride p.1 p.2 with
  | ok a => exact ⟨run s a, rfl⟩
  | error fault =>
    rw [hp] at h
    exact absurd h (by simp)

lemma set_of_faultOf?_some {p : String × String} {fault : SettingFault}
    (h : faultOf? p = some fault) (s : Settings) : s.set p.1 p.2 = .error fault := by
  rw [set_eq_map]
  rw [faultOf?] at h
  cases hp : ofOverride p.1 p.2 with
  | ok a =>
    rw [hp] at h
    exact absurd h (by simp)
  | error fault' =>
    rw [hp] at h
    rw [← Option.some.inj h]
    rfl

/-! ## Whole lists -/

/-- The lenient reading meets the faults of the list, whatever it starts from. -/
lemma override_snd (s : Settings) (pairs : List (String × String)) :
    (s.override pairs).2 = faults pairs := by
  induction pairs generalizing s with
  | nil => rfl
  | cons p pairs ih =>
    rw [override, faults, List.filterMap_cons]
    cases hp : faultOf? p with
    | none =>
      obtain ⟨t, ht⟩ := set_of_faultOf?_none hp s
      rw [ht]
      exact ih t
    | some fault =>
      rw [set_of_faultOf?_some hp s]
      exact congrArg (fault :: ·) (ih s)

/-- The strict reading ends with the first fault that the lenient one meets, and without a fault
where that one does. -/
lemma setAll_eq (s : Settings) (pairs : List (String × String)) :
    s.setAll pairs =
      match (s.override pairs).2.head? with
      | none => .ok (s.override pairs).1
      | some fault => .error fault := by
  induction pairs generalizing s with
  | nil => rfl
  | cons p pairs ih =>
    rw [setAll, override]
    cases hset : s.set p.1 p.2 with
    | ok t => exact ih t
    | error fault => rfl

/-- The lenient reading does what the strict one does with the overrides that are accepted. -/
lemma setAll_accepted (s : Settings) (pairs : List (String × String)) :
    s.setAll (pairs.filter fun p => (faultOf? p).isNone) = .ok (s.override pairs).1 := by
  induction pairs generalizing s with
  | nil => rfl
  | cons p pairs ih =>
    cases hp : faultOf? p with
    | none =>
      obtain ⟨t, ht⟩ := set_of_faultOf?_none hp s
      rw [List.filter_cons_of_pos (by simp [hp]), setAll, override, ht]
      exact ih t
    | some fault =>
      -- the override is left out on one side and skipped on the other
      rw [List.filter_cons_of_neg (by simp [hp]), override, set_of_faultOf?_some hp s]
      exact ih s

/-- **The two readings of a list of overrides agree.**  The strict reading succeeds exactly when
the lenient reading of the same list from the defaults meets no fault, and then with the same
settings; it fails exactly with the first fault that the lenient one meets.  From all settings the
lenient reading leads where the accepted overrides lead, one after another, and it meets the same
faults; which overrides are accepted may be judged by any settings. -/
theorem readings_agree (pairs : List (String × String)) :
    (∀ t, ofPairs pairs = .ok t ↔
      (override {} pairs).2 = [] ∧ (override {} pairs).1 = t) ∧
    (∀ fault, ofPairs pairs = .error fault ↔ (override {} pairs).2.head? = some fault) ∧
    ∀ s judge : Settings,
      s.setAll (pairs.filter fun p => (judge.set p.1 p.2).isOk) = .ok (s.override pairs).1 ∧
      (s.override pairs).2 = (judge.override pairs).2 := by
  have hstrict : ofPairs pairs = _ := setAll_eq {} pairs
  refine ⟨fun t => ?_, fun fault => ?_, fun s judge => ⟨?_, ?_⟩⟩
  · rw [hstrict]
    cases (override {} pairs).2 with
    | nil => simp
    | cons fault rest => simp
  · rw [hstrict]
    cases (override {} pairs).2 with
    | nil => simp
    | cons fault' rest => simp
  · simp only [isOk_set]
    exact setAll_accepted s pairs
  · rw [override_snd, override_snd]

end Settings

end PageCompanion
