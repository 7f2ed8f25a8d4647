/-
# Settings and the overrides that state them

Settings are recovered from their own texts.  `Settings.StatedBy` is the lists of overrides that
state settings as they are: each of the five keys once, in any order, with any blanks around keys
and values, and with the name of a policy or a threshold in either case.  Every such list leads
from the defaults to the settings it states, so the settings that edits lead to are exactly the
well-formed ones.
-/
import PageCompanion.Proofs.Settings.WellFormed

namespace PageCompanion

open Text (IsWord Padded Recased Tidy trim)

/-! ## Names -/

lemma Key.tidy_name (k : Key) : Tidy k.name := by
  cases k <;> simp [Key.name, Tidy, Text.Trimmed, Text.isBlank]

lemma Key.ofName?_name (k : Key) : Key.ofName? k.name = some k := by
  cases k <;> decide

lemma Token.Policy.isWord_name (p : Token.Policy) : IsWord p.name := by
  cases p <;> simp [Token.Policy.name, IsWord, Char.isLower]

lemma Log.Level.isWord_name (l : Log.Level) : IsWord l.name := by
  cases l <;> simp [Log.Level.name, IsWord, Char.isLower]

lemma Log.Threshold.isWord_name (t : Log.Threshold) : IsWord t.name := by
  cases t with
  | off => simp [Log.Threshold.name, IsWord, Char.isLower]
  | upTo level => exact level.isWord_name

/-- A policy is found by its name in either case. -/
lemma Token.Policy.ofName?_of_recased {p : Token.Policy} {text : String}
    (h : Recased p.name text) : Token.Policy.ofName? text = some p := by
  have htrim : trim text = text := Text.trim_eq_self (Text.trimmed_of_recased p.isWord_name h)
  rw [Token.Policy.ofName?, htrim, Text.toLower_of_recased p.isWord_name h]
  cases p <;> decide

/-- A threshold is found by its name in either case. -/
lemma Log.Threshold.ofName?_of_recased {t : Log.Threshold} {text : String}
    (h : Recased t.name text) : Log.Threshold.ofName? text = some t := by
  rw [Log.Threshold.ofName?, Text.toLower_of_recased t.isWord_name h]
  cases t with
  | off => decide
  | upTo level => cases level <;> decide

namespace Settings

open Assignment (ofOverride run)

/-! ## Overrides that state settings -/

/-- The text of a setting. -/
def value (s : Settings) : Key → String
  | .cookie => s.token.cookie
  | .header => s.token.header
  | .missing => s.token.missing.name
  | .selector => s.selector
  | .logLevel => s.logLevel.name

/-- An override that states one of the settings as it is.  Only names may be written in either
case. -/
def States (s : Settings) (k : Key) (p : String × String) : Prop :=
  Padded k.name p.1 ∧
    match k with
    | .missing | .logLevel => ∃ text, Recased (s.value k) text ∧ Padded text p.2
    | .cookie | .header | .selector => Padded (s.value k) p.2

/-- A list of overrides that states each of the settings once, in some order. -/
def StatedBy (s : Settings) (pairs : List (String × String)) : Prop :=
  ∃ keys : List Key, keys.Perm Key.all ∧ List.Forall₂ s.States keys pairs

/-- The assignment of what a setting is already. -/
def held (s : Settings) : Key → Assignment
  | .cookie => .cookie s.token.cookie
  | .header => .header s.token.header
  | .missing => .missing s.token.missing
  | .selector => .selector s.selector
  | .logLevel => .logLevel s.logLevel

lemma key_held (s : Settings) (k : Key) : (s.held k).key = k := by
  cases k <;> rfl

/-- Settings are all that they hold. -/
lemma foldl_held (s t : Settings) : (Key.all.map s.held).foldl run t = s := rfl

/-- The order in which the settings are assigned does not matter. -/
lemma foldl_held_of_perm (s t : Settings) {keys : List Key} (h : keys.Perm Key.all) :
    (keys.map s.held).foldl run t = s := by
  rw [← foldl_held s t]
  refine List.Perm.foldl_eq' (h.map s.held) (fun a ha b hb u => ?_) t
  obtain ⟨j, -, rfl⟩ := List.mem_map.mp ha
  obtain ⟨k, -, rfl⟩ := List.mem_map.mp hb
  by_cases hjk : j = k
  · rw [hjk]
  · refine Assignment.run_comm (fun hkey => hjk ?_) u
    rw [← key_held s j, hkey, key_held]

/-- Such an override is valid, and assigns what the setting is already. -/
lemma ofOverride_of_states {s : Settings} (hs : s.WellFormed) {k : Key} {p : String × String}
    (h : s.States k p) : ofOverride p.1 p.2 = .ok (s.held k) := by
  obtain ⟨hkey, hvalue⟩ := h
  rw [ofOverride, k.tidy_name.trim_of_padded hkey, Key.ofName?_name]
  cases k with
  | cookie =>
    have htrim : trim p.2 = s.token.cookie := hs.cookie.trim_of_padded hvalue
    simp only [Assignment.ofText, htrim, if_neg hs.cookie.1, held]
  | header =>
    have htrim : trim p.2 = s.token.header := hs.header.trim_of_padded hvalue
    simp only [Assignment.ofText, htrim, if_neg hs.header.1, held]
  | missing =>
    obtain ⟨text, htext, hpad⟩ := hvalue
    have htrim : trim p.2 = text :=
      Text.trim_of_recased_padded s.token.missing.isWord_name htext hpad
    simp only [Assignment.ofText, htrim, Token.Policy.ofName?_of_recased htext, held]
  | selector =>
    have htrim : trim p.2 = s.selector := hs.selector.trim_of_padded hvalue
    simp only [Assignment.ofText, htrim, if_neg hs.selector.1, held]
  | logLevel =>
    obtain ⟨text, htext, hpad⟩ := hvalue
    have htrim : trim p.2 = text :=
      Text.trim_of_recased_padded s.logLevel.isWord_name htext hpad
    simp only [Assignment.ofText, htrim, Log.Threshold.ofName?_of_recased htext, held]

/-- A list of valid overrides is carried out. -/
lemma setAll_of_states {s : Settings} (hs : s.WellFormed) {keys : List Key}
    {pairs : List (String × String)} (h : List.Forall₂ s.States keys pairs) (t : Settings) :
    t.setAll pairs = .ok ((keys.map s.held).foldl run t) := by
  induction h generalizing t with
  | nil => rfl
  | cons hp _ ih =>
    rw [setAll, set_eq_map, ofOverride_of_states hs hp, List.map_cons, List.foldl_cons]
    exact ih _

lemma ofPairs_of_statedBy {s : Settings} (hs : s.WellFormed) {pairs : List (String × String)}
    (h : s.StatedBy pairs) : ofPairs pairs = .ok s := by
  obtain ⟨keys, hperm, hpairs⟩ := h
  rw [ofPairs, setAll_of_states hs hpairs, foldl_held_of_perm s {} hperm]

/-- Settings as they are written without blanks and in lower case. -/
def spelled (s : Settings) : List (String × String) :=
  Key.all.map fun k => (k.name, s.value k)

lemma statedBy_spelled (s : Settings) : s.StatedBy s.spelled := by
  refine ⟨Key.all, List.Perm.refl _, ?_⟩
  rw [spelled, List.forall₂_map_right_iff, List.forall₂_same]
  intro k _
  refine ⟨Padded.refl k.name, ?_⟩
  cases k with
  | missing => exact ⟨_, Recased.refl _, Padded.refl _⟩
  | logLevel => exact ⟨_, Recased.refl _, Padded.refl _⟩
  | _ => exact Padded.refl _

/-- Well-formed settings are one edit away from the defaults. -/
lemma WellFormed.reachable {s : Settings} (h : s.WellFormed) : s.Reachable := by
  have hedit : (({} : Settings).edit (.replace s.spelled)).1 = s := by
    rw [Settings.edit, ofPairs_of_statedBy h s.statedBy_spelled]
  rw [← hedit]
  exact Reachable.edit _ Reachable.default

/-- **Settings are recovered from their texts.**  After every history of edits, and in every
invocation, the three texts are not empty and have no blank at either end; such settings are what
the overrides that state them lead to from the defaults, in every order, case and padding.  So
edits lead to exactly these settings. -/
theorem settings_recovered :
    (∀ s : Settings, s.Reachable ↔ s.WellFormed) ∧
      (∀ (i : Preview.Invocation) (s : Settings), i.settings = .ok s → s.WellFormed) ∧
      ∀ s : Settings, s.WellFormed →
        (∃ pairs, s.StatedBy pairs) ∧ ∀ pairs, s.StatedBy pairs → ofPairs pairs = .ok s :=
  ⟨fun _ => ⟨WellFormed.of_reachable, WellFormed.reachable⟩,
    fun _ _ h => WellFormed.of_invocation h,
    fun s h => ⟨⟨_, s.statedBy_spelled⟩, fun _ hp => ofPairs_of_statedBy h hp⟩⟩

/-- `settings_recovered` at settings that one good and one bad override lead to, at an invocation,
and at a list of overrides in another order than that of the keys. -/
theorem settings_recovered_of_override :
    (({} : Settings).edit (.override [("csrf-cookie", "id "), ("csrf-header", " ")])).1.WellFormed ∧
      ({ token := { cookie := "id" }, logLevel := .upTo .debug } : Settings).WellFormed ∧
      ofPairs [("log-level", "Off"), ("csrf-header ", "X-T"), ("csrf-missing", " OMIT"),
          ("widget-selector", "a b"), ("csrf-cookie", "\tid")] =
        .ok ⟨⟨"id", "X-T", .leaveOut⟩, "a b", .off⟩ := by
  refine ⟨(settings_recovered.1 _).mp (.edit (.override _) .default),
    settings_recovered.2.1 { cookieName := " id", verbose := true } _ (by decide +kernel),
    (settings_recovered.2.2 _ ?_).2 _ ?_⟩
  · constructor <;> simp [Tidy, Text.Trimmed, Text.isBlank]
  · refine ⟨[.logLevel, .header, .missing, .selector, .cookie], by decide, ?_⟩
    refine .cons ⟨.refl _, "Off", ?_, .refl _⟩ (.cons ⟨⟨[], [' '], ?_⟩, .refl _⟩
      (.cons ⟨.refl _, "OMIT", ?_, [' '], [], ?_⟩ (.cons ⟨.refl _, .refl _⟩
      (.cons ⟨.refl _, ['\t'], [], ?_⟩ .nil))))
    all_goals simp [Recased, Text.Blank, Text.isBlank, Key.name, value, Token.Policy.name,
      Log.Threshold.name]

end Settings

end PageCompanion
