/-
# Well-formed settings

The three texts of settings are never empty and have no blank at either end: the defaults are so,
and an override assigns a text only after it has cut the blanks off and looked whether anything
is left.  So settings are well formed after every history of edits, whether the edits fail or
not, and so are those that an invocation states.
-/
import PageCompanion.Preview.Report
import PageCompanion.Proofs.Settings.Assignments
import PageCompanion.Proofs.Text.Variants

namespace PageCompanion

open Text (Tidy tidy_trim trim)

/-- Settings whose texts are not empty and have no blank at either end. -/
structure Settings.WellFormed (s : Settings) : Prop where
  cookie : Tidy s.token.cookie
  header : Tidy s.token.header
  selector : Tidy s.selector

namespace Assignment

/-- What an assignment of a text must have for the settings to stay well formed. -/
def IsTidy : Assignment → Prop
  | cookie value | header value | selector value => Tidy value
  | missing _ | logLevel _ => True

lemma isTidy_ofText {written value : String} {k : Key} {a : Assignment}
    (h : ofText written k (trim value) = .ok a) : a.IsTidy := by
  cases k with
  | missing =>
    rw [ofText] at h
    cases hpolicy : Token.Policy.ofName? (trim value) with
    | none =>
      rw [hpolicy] at h
      exact absurd h (by simp)
    | some policy =>
      rw [hpolicy] at h
      rw [← Except.ok.inj h, IsTidy]
      trivial
  | logLevel =>
    rw [ofText] at h
    cases hlevel : Log.Threshold.ofName? (trim value) with
    | none =>
      rw [hlevel] at h
      exact absurd h (by simp)
    | some level =>
      rw [hlevel] at h
      rw [← Except.ok.inj h, IsTidy]
      trivial
  | _ =>
    rw [ofText] at h
    split_ifs at h with hempty
    rw [← Except.ok.inj h]
    exact tidy_trim hempty

/-- A valid override assigns no text that is empty or begins or ends with a blank. -/
lemma isTidy_ofOverride {key value : String} {a : Assignment} (h : ofOverride key value = .ok a) :
    a.IsTidy := by
  rw [ofOverride] at h
  cases hk : Key.ofName? (trim key) with
  | none =>
    rw [hk] at h
    exact absurd h (by simp)
  | some k =>
    rw [hk] at h
    exact isTidy_ofText h

lemma isTidy_of_mem_ofPairs {pairs : List (String × String)} {a : Assignment}
    (h : a ∈ ofPairs pairs) : a.IsTidy := by
  obtain ⟨p, -, hp⟩ := List.mem_filterMap.mp h
  cases hover : ofOverride p.1 p.2 with
  | error fault =>
    rw [hover] at hp
    exact absurd hp (by simp [Except.toOption])
  | ok b =>
    rw [hover] at hp
    rw [← Option.some.inj hp]
    exact isTidy_ofOverride hover

end Assignment

namespace Settings.WellFormed

open Assignment (run)

lemma default : ({} : Settings).WellFormed where
  cookie := by simp [Tidy, Text.Trimmed, Text.isBlank, Token.defaultCookie]
  header := by simp [Tidy, Text.Trimmed, Text.isBlank, Token.defaultHeader]
  selector := by simp [Tidy, Text.Trimmed, Text.isBlank, defaultSelector]

/-- A tidy assignment keeps settings well formed. -/
lemma run {s : Settings} (h : s.WellFormed) {a : Assignment} (ha : a.IsTidy) :
    (Assignment.run s a).WellFormed := by
  cases a with
  | cookie value => exact ⟨ha, h.header, h.selector⟩
  | header value => exact ⟨h.cookie, ha, h.selector⟩
  | selector value => exact ⟨h.cookie, h.header, ha⟩
  | missing policy => exact ⟨h.cookie, h.header, h.selector⟩
  | logLevel level => exact ⟨h.cookie, h.header, h.selector⟩

lemma foldl {s : Settings} (h : s.WellFormed) {l : List Assignment} (hl : ∀ a ∈ l, a.IsTidy) :
    (l.foldl Assignment.run s).WellFormed := by
  induction l generalizing s with
  | nil => exact h
  | cons a l ih =>
    exact ih (h.run (hl a List.mem_cons_self)) fun b hb => hl b (List.mem_cons_of_mem a hb)

lemma set {s t : Settings} (h : s.WellFormed) {key value : String}
    (hset : s.set key value = .ok t) : t.WellFormed := by
  rw [set_eq_map] at hset
  cases hover : Assignment.ofOverride key value with
  | error fault =>
    rw [hover] at hset
    exact absurd hset (by simp [Except.map])
  | ok a =>
    rw [hover] at hset
    rw [← Except.ok.inj hset]
    exact h.run (Assignment.isTidy_ofOverride hover)

lemma override {s : Settings} (h : s.WellFormed) (pairs : List (String × String)) :
    (s.override pairs).1.WellFormed := by
  rw [override_fst]
  exact h.foldl fun _ ha => Assignment.isTidy_of_mem_ofPairs ha

lemma of_ofPairs {s : Settings} {pairs : List (String × String)} (h : ofPairs pairs = .ok s) :
    s.WellFormed := by
  rw [eq_foldl_of_setAll h]
  exact default.foldl fun _ ha => Assignment.isTidy_of_mem_ofPairs ha

/-- An edit keeps settings well formed, also one that fails. -/
lemma edit {s : Settings} (h : s.WellFormed) (e : Edit) : (s.edit e).1.WellFormed := by
  cases e with
  | set key value =>
    rw [Settings.edit]
    cases hset : s.set key value with
    | error fault => exact h
    | ok t => exact h.set hset
  | override pairs => exact h.override pairs
  | replace pairs =>
    rw [Settings.edit]
    cases hpairs : ofPairs pairs with
    | error fault => exact h
    | ok t => exact of_ofPairs hpairs
  | reset => exact default

/-- **Settings are well formed after every history of edits.** -/
theorem of_reachable {s : Settings} (h : s.Reachable) : s.WellFormed := by
  induction h with
  | default => exact default
  | edit e _ ih => exact ih.edit e

/-- The settings that an invocation states are well formed. -/
lemma of_invocation {i : Preview.Invocation} {s : Settings} (h : i.settings = .ok s) :
    s.WellFormed := by
  rw [Preview.Invocation.settings] at h
  cases hpairs : ofPairs i.overrides with
  | error fault =>
    rw [hpairs] at h
    exact absurd h (by simp)
  | ok t =>
    rw [hpairs] at h
    have ht : t.WellFormed := of_ofPairs hpairs
    rw [← Except.ok.inj h]
    -- logging what is done changes no text
    split_ifs
    · exact ⟨ht.cookie, ht.header, ht.selector⟩
    · exact ht

end Settings.WellFormed

end PageCompanion
