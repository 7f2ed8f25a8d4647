/-
# Overrides as assignments

Whether an override is valid, and what it assigns, does not depend on the settings that it is
applied to.  So a list of overrides is the list of its assignments, carried out one after
another, whether the bad overrides are skipped or stop the reading.  Assignments to different
settings commute, and the order of overrides of different settings does not matter.
-/
import Mathlib
import PageCompanion.Settings

namespace PageCompanion

open Text (trim)

/-- What a valid override does: a setting gets a value. -/
inductive Assignment where
  | cookie (value : String)
  | header (value : String)
  | missing (policy : Token.Policy)
  | selector (value : String)
  | logLevel (level : Log.Threshold)
deriving DecidableEq, Repr

namespace Assignment

def key : Assignment → Key
  | cookie _ => .cookie
  | header _ => .header
  | missing _ => .missing
  | selector _ => .selector
  | logLevel _ => .logLevel

def run (s : Settings) : Assignment → Settings
  | cookie value => { s with token := { s.token with cookie := value } }
  | header value => { s with token := { s.token with header := value } }
  | missing policy => { s with token := { s.token with missing := policy } }
  | selector value => { s with selector := value }
  | logLevel level => { s with logLevel := level }

/-- The assignment of a text to a setting; a fault names the setting as it was written. -/
def ofText (written : String) (key : Key) (value : String) : Except SettingFault Assignment :=
  match key with
  | .cookie => if value = "" then .error (.empty written) else .ok (cookie value)
  | .header => if value = "" then .error (.empty written) else .ok (header value)
  | .missing =>
    match Token.Policy.ofName? value with
    | none => .error (.noPolicy written value)
    | some policy => .ok (missing policy)
  | .selector => if value = "" then .error (.empty written) else .ok (selector value)
  | .logLevel =>
    match Log.Threshold.ofName? value with
    | none => .error (.noLevel written value)
    | some level => .ok (logLevel level)

/-- The assignment that an override states. -/
def ofOverride (key value : String) : Except SettingFault Assignment :=
  match Key.ofName? (trim key) with
  | none => .error (.unknownKey (trim key))
  | some k => ofText key k (trim value)

/-- The assignments of the valid ones of a list of overrides. -/
def ofPairs (pairs : List (String × String)) : List Assignment :=
  pairs.filterMap fun p => (ofOverride p.1 p.2).toOption

lemma key_ofText {written value : String} {k : Key} {a : Assignment}
    (h : ofText written k value = .ok a) : a.key = k := by
  cases k with
  | missing =>
    rw [ofText] at h
    cases hpolicy : Token.Policy.ofName? value with
    | none =>
      rw [hpolicy] at h
      exact absurd h (by simp)
    | some policy =>
      rw [hpolicy] at h
      rw [← Except.ok.inj h, key]
  | logLevel =>
    rw [ofText] at h
    cases hlevel : Log.Threshold.ofName? value with
    | none =>
      rw [hlevel] at h
      exact absurd h (by simp)
    | some level =>
      rw [hlevel] at h
      rw [← Except.ok.inj h, key]
  | _ =>
    rw [ofText] at h
    split_ifs at h
    rw [← Except.ok.inj h, key]

/-- An override assigns to the setting that it names. -/
lemma key_ofOverride {key value : String} {a : Assignment} (h : ofOverride key value = .ok a) :
    Key.ofName? (trim key) = some a.key := by
  rw [ofOverride] at h
  cases hk : Key.ofName? (trim key) with
  | none =>
    rw [hk] at h
    exact absurd h (by simp)
  | some k =>
    rw [hk] at h
    rw [key_ofText h]

/-- Assignments to different settings commute. -/
lemma run_comm {a b : Assignment} (h : a.key ≠ b.key) (s : Settings) :
    run (run s a) b = run (run s b) a := by
  cases a <;> cases b <;> first | rfl | exact absurd rfl h

/-- The settings that are assigned to are among those that are named, in the same order. -/
lemma keys_ofPairs_sublist (pairs : List (String × String)) :
    ((ofPairs pairs).map key).Sublist (pairs.filterMap fun p => Key.ofName? (trim p.1)) := by
  induction pairs with
  | nil => exact List.Sublist.refl _
  | cons p pairs ih =>
    rw [ofPairs, List.filterMap_cons, List.filterMap_cons]
    cases hp : ofOverride p.1 p.2 with
    | error fault =>
      cases Key.ofName? (trim p.1) with
      | none => exact ih
      | some k => exact ih.cons k
    | ok a =>
      rw [key_ofOverride hp]
      exact ih.cons_cons a.key

end Assignment

namespace Settings

open Assignment (ofOverride run)

/-! ## Overrides -/

lemma assign_eq_map (s : Settings) (written : String) (k : Key) (value : String) :
    s.assign written k value = (Assignment.ofText written k value).map (run s) := by
  cases k with
  | missing =>
    rw [assign, Assignment.ofText]
    cases Token.Policy.ofName? value <;> rfl
  | logLevel =>
    rw [assign, Assignment.ofText]
    cases Log.Threshold.ofName? value <;> rfl
  | _ =>
    rw [assign, Assignment.ofText]
    split_ifs <;> rfl

/-- An override does what it assigns, and fails on all settings or on none. -/
lemma set_eq_map (s : Settings) (key value : String) :
    s.set key value = (ofOverride key value).map (run s) := by
  rw [set, ofOverride]
  cases Key.ofName? (trim key) with
  | none => rfl
  | some k => exact assign_eq_map s key k (trim value)

/-- Skipping the bad ones, a list of overrides is the list of its assignments. -/
lemma override_fst (s : Settings) (pairs : List (String × String)) :
    (s.override pairs).1 = (Assignment.ofPairs pairs).foldl run s := by
  induction pairs generalizing s with
  | nil => rfl
  | cons p pairs ih =>
    -- whether the override is valid is decided before the settings are looked at
    rw [override, set_eq_map, Assignment.ofPairs, List.filterMap_cons]
    cases ofOverride p.1 p.2 with
    | error fault => exact ih s
    | ok a => exact ih (run s a)

/-- A list of overrides that is read to its end is the list of its assignments, too. -/
lemma eq_foldl_of_setAll {s t : Settings} {pairs : List (String × String)}
    (h : s.setAll pairs = .ok t) : t = (Assignment.ofPairs pairs).foldl run s := by
  induction pairs generalizing s with
  | nil => exact (Except.ok.inj h).symm
  | cons p pairs ih =>
    rw [setAll, set_eq_map] at h
    rw [Assignment.ofPairs, List.filterMap_cons]
    cases hp : ofOverride p.1 p.2 with
    | error fault =>
      rw [hp] at h
      exact absurd h (by simp [Except.map])
    | ok a =>
      rw [hp] at h
      exact ih h

/-- **The order of overrides of different settings does not matter**, and neither does it whether
a bad one would stop the reading when there is none. -/
theorem override_perm_of_ofPairs {pairs pairs' : List (String × String)} {t : Settings}
    (h : ofPairs pairs = .ok t) (hperm : pairs'.Perm pairs)
    (hkeys : (pairs.filterMap fun p => Key.ofName? (trim p.1)).Nodup) :
    (override {} pairs').1 = t := by
  have hnodup : ((Assignment.ofPairs pairs).map Assignment.key).Nodup :=
    hkeys.sublist (Assignment.keys_ofPairs_sublist pairs)
  rw [override_fst, eq_foldl_of_setAll h]
  refine (List.Perm.foldl_eq' (hperm.filterMap _).symm (fun a ha b hb s => ?_) _).symm
  -- two assignments of the list are the same or to different settings
  by_cases hab : a = b
  · rw [hab]
  · refine Assignment.run_comm (fun hkey => hab ?_) s
    exact List.inj_on_of_nodup_map hnodup ha hb hkey

end Settings

end PageCompanion
