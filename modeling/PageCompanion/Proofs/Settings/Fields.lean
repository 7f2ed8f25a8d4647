/-
# What a list of overrides means, field by field

An override is valid when it names a setting and its value fits the setting; `Means` says which
overrides these are and what each of them assigns.  After a list of overrides, every setting has
the value of the last valid override for it, or else the value that it had before, and there is
one fault for each of the other overrides, in order (`fields_after_override`).
-/
import PageCompanion.Proofs.Settings.Readings
import PageCompanion.Proofs.Settings.Recovery

namespace PageCompanion

open Text (Recased trim)

namespace Assignment

/-- The levels by name, and the name that stands for no records at all. -/
def levels : List (String × Log.Threshold) :=
  [("off", .off), ("error", .upTo .error), ("warn", .upTo .warn), ("info", .upTo .info),
    ("debug", .upTo .debug), ("trace", .upTo .trace)]

/-- A valid override and what it assigns.  Blanks around its key and its value do not count, and
neither does the case of the ASCII letters in the name of a policy or of a level. -/
inductive Means (p : String × String) : Assignment → Prop
  | cookie (hkey : trim p.1 = "csrf-cookie") (hvalue : trim p.2 ≠ "") :
      Means p (.cookie (trim p.2))
  | header (hkey : trim p.1 = "csrf-header") (hvalue : trim p.2 ≠ "") :
      Means p (.header (trim p.2))
  | selector (hkey : trim p.1 = "widget-selector") (hvalue : trim p.2 ≠ "") :
      Means p (.selector (trim p.2))
  | sendEmpty (hkey : trim p.1 = "csrf-missing") (hvalue : Recased "empty" (trim p.2)) :
      Means p (.missing .sendEmpty)
  | leaveOut (hkey : trim p.1 = "csrf-missing") (hvalue : Recased "omit" (trim p.2)) :
      Means p (.missing .leaveOut)
  | level {name : String} {threshold : Log.Threshold} (hkey : trim p.1 = "log-level")
      (hname : (name, threshold) ∈ levels) (hvalue : Recased name (trim p.2)) :
      Means p (.logLevel threshold)

def Valid (p : String × String) : Prop := ∃ a, Means p a

/-- What is said of an override that is not valid.  A key that is no setting's is told without
the blanks around it, any other as it was written. -/
def refusal (p : String × String) : SettingFault :=
  if trim p.1 = "csrf-missing" then .noPolicy p.1 (trim p.2)
  else if trim p.1 = "log-level" then .noLevel p.1 (trim p.2)
  else if trim p.1 ∈ ["csrf-cookie", "csrf-header", "widget-selector"] then .empty p.1
  else .unknownKey (trim p.1)

/-! ## Names and what they stand for -/

lemma ofName?_key_eq_some_iff {text : String} {k : Key} :
    Key.ofName? text = some k ↔ text = k.name := by
  constructor
  · intro h
    have hfound := List.find?_some h
    exact (eq_of_beq hfound).symm
  · rintro rfl
    exact Key.ofName?_name k

lemma recased_of_ofName?_policy {text : String} {policy : Token.Policy}
    (h : Token.Policy.ofName? (trim text) = some policy) : Recased policy.name (trim text) := by
  rw [Token.Policy.ofName?, Text.trim_trim] at h
  have hfound := List.find?_some h
  rw [eq_of_beq hfound]
  exact Text.recased_toLower _

lemma recased_of_ofName?_level {text : String} {threshold : Log.Threshold}
    (h : Log.Threshold.ofName? text = some threshold) : Recased threshold.name text := by
  have hfound := List.find?_some h
  rw [eq_of_beq hfound]
  exact Text.recased_toLower text

lemma mem_levels_iff {name : String} {threshold : Log.Threshold} :
    (name, threshold) ∈ levels ↔ name = threshold.name := by
  cases threshold with
  | off => simp [levels, Log.Threshold.name]
  | upTo level => cases level <;> simp [levels, Log.Threshold.name, Log.Level.name]

/-! ## Which overrides are valid -/

variable {p : String × String} {a b : Assignment}

/-- A valid override names the setting that it assigns to. -/
lemma Means.key_eq (h : Means p a) : trim p.1 = a.key.name := by
  cases h <;> assumption

lemma ofOverride_of_key {k : Key} (h : trim p.1 = k.name) :
    ofOverride p.1 p.2 = ofText p.1 k (trim p.2) := by
  rw [ofOverride, ofName?_key_eq_some_iff.mpr h]

lemma ofOverride_of_means (h : Means p a) : ofOverride p.1 p.2 = .ok a := by
  rw [ofOverride_of_key h.key_eq]
  cases h with
  | cookie _ hvalue | header _ hvalue | selector _ hvalue => exact if_neg hvalue
  | sendEmpty _ hvalue =>
    simp only [key, ofText, Token.Policy.ofName?_of_recased (p := .sendEmpty) hvalue]
  | leaveOut _ hvalue =>
    simp only [key, ofText, Token.Policy.ofName?_of_recased (p := .leaveOut) hvalue]
  | level _ hname hvalue =>
    rw [mem_levels_iff.mp hname] at hvalue
    simp only [key, ofText, Log.Threshold.ofName?_of_recased hvalue]

/-- What is said of an override depends on the setting that it names. -/
lemma refusal_of_key {k : Key} (h : trim p.1 = k.name) :
    refusal p = match k with
      | .missing => .noPolicy p.1 (trim p.2)
      | .logLevel => .noLevel p.1 (trim p.2)
      | .cookie | .header | .selector => .empty p.1 := by
  cases k <;> simp [refusal, h, Key.name]

lemma refusal_of_no_key (h : ∀ k : Key, trim p.1 ≠ k.name) :
    refusal p = .unknownKey (trim p.1) := by
  have hne : trim p.1 ≠ "csrf-missing" ∧ trim p.1 ≠ "log-level" ∧
      trim p.1 ∉ ["csrf-cookie", "csrf-header", "widget-selector"] := by
    refine ⟨h .missing, h .logLevel, ?_⟩
    simpa using ⟨h .cookie, h .header, h .selector⟩
  rw [refusal, if_neg hne.1, if_neg hne.2.1, if_neg hne.2.2]

/-- An override is accepted for what it means, or it is refused for what is wrong with it. -/
lemma means_or_refused (p : String × String) :
    (∃ a, Means p a) ∨ ofOverride p.1 p.2 = .error (refusal p) := by
  by_cases hknown : ∃ k : Key, trim p.1 = k.name
  · obtain ⟨k, hkey⟩ := hknown
    rw [ofOverride_of_key hkey, refusal_of_key hkey]
    cases k with
    | cookie =>
      by_cases hvalue : trim p.2 = ""
      · exact Or.inr (if_pos hvalue)
      · exact Or.inl ⟨_, .cookie hkey hvalue⟩
    | header =>
      by_cases hvalue : trim p.2 = ""
      · exact Or.inr (if_pos hvalue)
      · exact Or.inl ⟨_, .header hkey hvalue⟩
    | selector =>
      by_cases hvalue : trim p.2 = ""
      · exact Or.inr (if_pos hvalue)
      · exact Or.inl ⟨_, .selector hkey hvalue⟩
    | missing =>
      cases hpolicy : Token.Policy.ofName? (trim p.2) with
      | none => exact Or.inr (by simp only [ofText, hpolicy])
      | some policy =>
        have hname := recased_of_ofName?_policy hpolicy
        cases policy with
        | sendEmpty => exact Or.inl ⟨_, .sendEmpty hkey hname⟩
        | leaveOut => exact Or.inl ⟨_, .leaveOut hkey hname⟩
    | logLevel =>
      cases hlevel : Log.Threshold.ofName? (trim p.2) with
      | none => exact Or.inr (by simp only [ofText, hlevel])
      | some threshold =>
        have hname := recased_of_ofName?_level hlevel
        exact Or.inl ⟨_, .level hkey (mem_levels_iff.mpr rfl) hname⟩
  · right
    have hne : ∀ k : Key, trim p.1 ≠ k.name := fun k hk => hknown ⟨k, hk⟩
    have hnone : Key.ofName? (trim p.1) = none := by
      rw [Option.eq_none_iff_forall_ne_some]
      exact fun k hk => hne k (ofName?_key_eq_some_iff.mp hk)
    rw [ofOverride, hnone, refusal_of_no_key hne]

lemma means_iff : Means p a ↔ ofOverride p.1 p.2 = .ok a := by
  refine ⟨ofOverride_of_means, fun h => ?_⟩
  rcases means_or_refused p with ⟨b, hb⟩ | herror
  · rw [ofOverride_of_means hb] at h
    rwa [← Except.ok.inj h]
  · exact absurd (h.symm.trans herror) (by simp)

lemma Means.unique (h : Means p a) (h' : Means p b) : a = b :=
  Except.ok.inj ((ofOverride_of_means h).symm.trans (ofOverride_of_means h'))

lemma faultOf?_of_means (h : Means p a) : faultOf? p = none := by
  rw [faultOf?, ofOverride_of_means h]

lemma faultOf?_of_not_valid (h : ¬ Valid p) : faultOf? p = some (refusal p) := by
  rw [faultOf?, (means_or_refused p).resolve_left h]

instance : DecidablePred Valid := fun p =>
  decidable_of_iff (faultOf? p = none) <| by
    constructor
    · intro h
      by_contra hp
      rw [faultOf?_of_not_valid hp] at h
      exact absurd h (by simp)
    · rintro ⟨a, ha⟩
      exact faultOf?_of_means ha

lemma faults_eq (pairs : List (String × String)) :
    faults pairs = (pairs.filter fun p => ¬ Valid p).map refusal := by
  induction pairs with
  | nil => rfl
  | cons p pairs ih =>
    rw [faults, List.filterMap_cons]
    by_cases hp : Valid p
    · obtain ⟨a, ha⟩ := hp
      rw [faultOf?_of_means ha, List.filter_cons_of_neg (by simpa using ⟨a, ha⟩)]
      exact ih
    · rw [faultOf?_of_not_valid hp, List.filter_cons_of_pos (by simpa using hp), List.map_cons]
      exact congrArg (refusal p :: ·) ih

end Assignment

namespace Settings

open Assignment (Means Valid faults_eq ofOverride refusal run)

/-! ## One setting at a time -/

/-- The last valid override for a setting makes this assignment. -/
def LastMeant (pairs : List (String × String)) (k : Key) (a : Assignment) : Prop :=
  ∃ before p after, pairs = before ++ p :: after ∧ Means p a ∧ a.key = k ∧
    ∀ q ∈ after, ∀ b, Means q b → b.key ≠ k

/-- No valid override is for this setting. -/
def Unmentioned (pairs : List (String × String)) (k : Key) : Prop :=
  ∀ p ∈ pairs, ∀ a, Means p a → a.key ≠ k

variable {s : Settings} {p q : String × String} {pairs : List (String × String)} {k : Key}
  {a : Assignment}

lemma held_run (s : Settings) (a : Assignment) (k : Key) :
    (run s a).held k = if a.key = k then a else s.held k := by
  cases a <;> cases k <;> rfl

lemma override_append (s : Settings) (before after : List (String × String)) :
    (s.override (before ++ after)).1 = ((s.override before).1.override after).1 := by
  simp only [override_fst, Assignment.ofPairs, List.filterMap_append, List.foldl_append]

lemma override_singleton_of_means (h : Means p a) (s : Settings) :
    (s.override [p]).1 = run s a := by
  rw [override_fst, Assignment.ofPairs]
  simp [Assignment.ofOverride_of_means h, Except.toOption]

lemma override_singleton_of_not_valid (h : ¬ Valid p) (s : Settings) :
    (s.override [p]).1 = s := by
  rw [override_fst, Assignment.ofPairs]
  simp [(Assignment.means_or_refused p).resolve_left h, Except.toOption]

lemma override_cons (s : Settings) (p : String × String) (pairs : List (String × String)) :
    (s.override (p :: pairs)).1 = ((s.override [p]).1.override pairs).1 :=
  override_append s [p] pairs

/-- A valid override is carried out on its setting and on no other. -/
lemma held_override_singleton (h : Means p a) (s : Settings) (k : Key) :
    (s.override [p]).1.held k = if a.key = k then a else s.held k := by
  rw [override_singleton_of_means h, held_run]

lemma held_of_unmentioned (h : Unmentioned pairs k) (s : Settings) :
    (s.override pairs).1.held k = s.held k := by
  induction pairs generalizing s with
  | nil => rfl
  | cons p pairs ih =>
    rw [override_cons, ih fun q hq => h q (List.mem_cons_of_mem p hq)]
    by_cases hp : Valid p
    · obtain ⟨a, ha⟩ := hp
      rw [held_override_singleton ha, if_neg (h p List.mem_cons_self a ha)]
    · rw [override_singleton_of_not_valid hp]

lemma held_of_lastMeant (h : LastMeant pairs k a) (s : Settings) :
    (s.override pairs).1.held k = a := by
  obtain ⟨before, p, after, rfl, hp, hkey, hafter⟩ := h
  rw [override_append, override_cons, held_of_unmentioned hafter, held_override_singleton hp,
    if_pos hkey]

/-- If any valid override is for a setting, then one of them is the last. -/
lemma lastMeant_or_unmentioned (pairs : List (String × String)) (k : Key) :
    (∃ a, LastMeant pairs k a) ∨ Unmentioned pairs k := by
  induction pairs with
  | nil => exact Or.inr (by simp [Unmentioned])
  | cons p pairs ih =>
    rcases ih with ⟨a, before, q, after, rfl, hq⟩ | hrest
    · exact Or.inl ⟨a, p :: before, q, after, rfl, hq⟩
    · by_cases hp : ∃ a, Means p a ∧ a.key = k
      · obtain ⟨a, ha, hkey⟩ := hp
        exact Or.inl ⟨a, [], p, pairs, rfl, ha, hkey, hrest⟩
      · right
        intro q hq a ha hkey
        rcases List.mem_cons.mp hq with rfl | hq
        · exact hp ⟨a, ha, hkey⟩
        · exact hrest q hq a ha hkey

lemma held_override_iff (s : Settings) (pairs : List (String × String)) (k : Key)
    (a : Assignment) :
    (s.override pairs).1.held k = a ↔
      LastMeant pairs k a ∨ Unmentioned pairs k ∧ s.held k = a := by
  constructor
  · rintro rfl
    rcases lastMeant_or_unmentioned pairs k with ⟨a, ha⟩ | hnone
    · left
      rwa [held_of_lastMeant ha]
    · exact Or.inr ⟨hnone, (held_of_unmentioned hnone s).symm⟩
  · rintro (hlast | ⟨hnone, rfl⟩)
    · exact held_of_lastMeant hlast s
    · exact held_of_unmentioned hnone s

/-- Two overrides with different keys can change places. -/
lemma override_pair_comm (h : trim p.1 ≠ trim q.1) (s : Settings) :
    (s.override [p, q]).1 = (s.override [q, p]).1 := by
  rw [override_cons s p [q], override_cons s q [p]]
  by_cases hp : Valid p
  · by_cases hq : Valid q
    · obtain ⟨a, ha⟩ := hp
      obtain ⟨b, hb⟩ := hq
      simp only [override_singleton_of_means ha, override_singleton_of_means hb]
      refine (Assignment.run_comm (fun hkey => h ?_) s).symm
      rw [ha.key_eq, hb.key_eq, hkey]
    · simp only [override_singleton_of_not_valid hq]
  · simp only [override_singleton_of_not_valid hp]

/-- **What a list of overrides means, field by field.**  Afterwards a setting holds what the last
valid override for it assigns, or else what it held before; the faults are those of the overrides
that are not valid, in order.  So an override that is not valid leaves the settings as they are, a
valid one changes no setting but its own, and two neighbours with different keys can change
places. -/
theorem fields_after_override (s : Settings) (pairs : List (String × String)) :
    (∀ k a, (s.override pairs).1.held k = a ↔
      LastMeant pairs k a ∨ Unmentioned pairs k ∧ s.held k = a) ∧
    (s.override pairs).2 = (pairs.filter fun p => ¬ Valid p).map refusal ∧
    (∀ p, ¬ Valid p → s.override [p] = (s, [refusal p])) ∧
    (∀ p a, Means p a → s.override [p] = (run s a, []) ∧ ∀ k ≠ a.key, (run s a).held k = s.held k) ∧
    ∀ before p q after, pairs = before ++ p :: q :: after → trim p.1 ≠ trim q.1 →
      (s.override (before ++ q :: p :: after)).1 = (s.override pairs).1 := by
  refine ⟨held_override_iff s pairs, ?_, fun p hp => ?_, fun p a hp => ⟨?_, fun k hk => ?_⟩, ?_⟩
  · rw [override_snd, faults_eq]
  · refine Prod.ext (override_singleton_of_not_valid hp s) ?_
    rw [override_snd, faults_eq, List.filter_singleton]
    simp [hp]
  · refine Prod.ext (override_singleton_of_means hp s) ?_
    rw [override_snd, faults_eq, List.filter_singleton]
    simp [show Valid p from ⟨a, hp⟩]
  · rw [held_run, if_neg hk.symm]
  · rintro before p q after rfl hkeys
    have hsplit (x y : String × String) : before ++ x :: y :: after
        = before ++ ([x, y] ++ after) := rfl
    rw [hsplit, hsplit, override_append, override_append, override_append, override_append,
      override_pair_comm hkeys]

/-- A bad override behind a good one does not undo it, names count in either case, and the first
two overrides can change places. -/
theorem fields_after_override_of_late_mistakes :
    let s : Settings := { selector := "input.copy" }
    let first := (" csrf-missing", "Omit")
    let second := ("log-level", "off")
    let later := [("csrf-missing", "undefined"), ("csrf-cookie", "  "), ("log-level ", " TRACE ")]
    let pairs := first :: second :: later
    LastMeant pairs .missing (.missing .leaveOut) ∧
      LastMeant pairs .logLevel (.logLevel (.upTo .trace)) ∧
      (s.override pairs).2 = [.noPolicy "csrf-missing" "undefined", .empty "csrf-cookie"] ∧
      (¬ Valid ("csrf-cookie", "  ") ∧
        s.override [("csrf-cookie", "  ")] = (s, [.empty "csrf-cookie"])) ∧
      (Means first (.missing .leaveOut) ∧ (s.override [first]).2 = []) ∧
      trim first.1 ≠ trim second.1 ∧
      (s.override (second :: first :: later)).1 = (s.override pairs).1 := by
  intro s first second later pairs
  obtain ⟨hheld, -, hbad, hgood, hswap⟩ := fields_after_override s pairs
  have hlast (k : Key) {a : Assignment} (ha : (s.override pairs).1.held k = a)
      (hne : s.held k ≠ a) : LastMeant pairs k a :=
    ((hheld k a).mp ha).resolve_right fun h => hne h.2
  have hinvalid : ¬ Valid ("csrf-cookie", "  ") := by decide +kernel
  have hmeans : Means first (.missing .leaveOut) :=
    Assignment.means_iff.mpr (by decide +kernel)
  have hkeys : trim first.1 ≠ trim second.1 := by decide +kernel
  exact ⟨hlast .missing (by decide +kernel) (by decide), hlast .logLevel (by decide +kernel)
    (by decide), by decide +kernel, ⟨hinvalid, hbad _ hinvalid⟩,
    ⟨hmeans, congrArg Prod.snd (hgood _ _ hmeans).1⟩, hkeys, hswap [] _ _ later rfl hkeys⟩

end Settings

end PageCompanion
