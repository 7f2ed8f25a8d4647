/-
# Blanks around an override

Key and value of an override are read without the blanks around them, so blanks never decide
whether an override is accepted or what it assigns.  They are not quite without effect: a fault of
a value names the setting by its key as it was written, blanks included, where the value, and a key
that is no setting's, are told without their blanks.  `SettingFault.rewritten` is the fault for
another way to write the key, and `set_eq_mapError` says that this is all that blanks change.
-/
import PageCompanion.Proofs.Settings.Fields

namespace PageCompanion

open Text (Padded trim trim_of_padded)

namespace SettingFault

/-- The same fault where its key is written in another way.  The key that is no setting's stays,
since the fault tells it without blanks. -/
def rewritten (written : String) : SettingFault → SettingFault
  | empty _ => empty written
  | noPolicy _ value => noPolicy written value
  | noLevel _ value => noLevel written value
  | fault => fault

/-- The key that a fault names as it was written. -/
def written? : SettingFault → Option String
  | empty key | noPolicy key _ | noLevel key _ => some key
  | _ => none

lemma rewritten_eq_self_iff {written : String} {fault : SettingFault} :
    fault.rewritten written = fault ↔ ∀ key ∈ fault.written?, key = written := by
  cases fault <;> simp [rewritten, written?, eq_comm]

/-- The words of a fault tell in which way its key is written. -/
lemma message_rewritten_eq_iff {written : String} {fault : SettingFault} :
    (Fault.setting (fault.rewritten written)).message = (Fault.setting fault).message ↔
      fault.rewritten written = fault := by
  refine ⟨fun h => rewritten_eq_self_iff.mpr ?_, congrArg fun f => (Fault.setting f).message⟩
  have hwords := (String.append_right_inj _).mp h
  cases fault with
  | empty key => simpa [rewritten, message, written?, toString, eq_comm] using hwords
  | noPolicy key value => simpa [rewritten, message, written?, toString, eq_comm] using hwords
  | noLevel key value => simpa [rewritten, message, written?, toString, eq_comm] using hwords
  | _ => simp [written?]

end SettingFault

namespace Settings

variable {s : Settings} {key value : String} {fault : SettingFault}

lemma assign_eq_mapError (s : Settings) (written written' : String) (k : Key) (value : String) :
    s.assign written k value
      = (s.assign written' k value).mapError (SettingFault.rewritten written) := by
  cases k with
  | missing =>
    rw [assign, assign]
    cases Token.Policy.ofName? value <;> rfl
  | logLevel =>
    rw [assign, assign]
    cases Log.Threshold.ofName? value <;> rfl
  | _ =>
    rw [assign, assign]
    split_ifs <;> rfl

/-- Blanks change nothing but the key in a fault. -/
lemma set_eq_mapError (s : Settings) (key value : String) :
    s.set key value = (s.set (trim key) (trim value)).mapError (SettingFault.rewritten key) := by
  rw [set, set, Text.trim_trim, Text.trim_trim]
  cases Key.ofName? (trim key) with
  | none => rfl
  | some k => exact assign_eq_mapError s key (trim key) k (trim value)

/-- Two ways to write an override with the same blanks left aside differ in the key in a fault. -/
lemma set_of_padded {key' value' : String} (hkey : Padded key key') (hvalue : Padded value value')
    (s : Settings) :
    s.set key' value'
      = (s.set (trim key) (trim value)).mapError (SettingFault.rewritten key') := by
  rw [set_eq_mapError s key' value', trim_of_padded hkey, trim_of_padded hvalue]

/-- What is wrong with an override is told for all settings alike. -/
lemma fault_of_set (h : s.set key value = .error fault) :
    fault = Assignment.refusal (key, value) := by
  rw [set_eq_map] at h
  rcases Assignment.means_or_refused (key, value) with ⟨a, ha⟩ | hrefused
  · rw [Assignment.ofOverride_of_means ha] at h
    exact absurd h (by simp [Except.map])
  · rw [hrefused] at h
    exact (Except.error.inj h).symm

/-- A fault of a setting names its key as it was written, and the fault of a key that is no
setting's does not. -/
lemma rewritten_of_set {written : String} (h : s.set (trim key) value = .error fault) :
    fault.rewritten written = fault ↔ written = trim key ∨ ∀ k : Key, trim key ≠ k.name := by
  have hfault := fault_of_set h
  have htrim : trim (trim key) = trim key := Text.trim_trim key
  by_cases hknown : ∃ k : Key, trim key = k.name
  · obtain ⟨k, hk⟩ := hknown
    rw [Assignment.refusal_of_key (p := (trim key, value)) (htrim.trans hk)] at hfault
    have hwritten : fault.written? = some (trim key) := by
      cases k <;> simp only [hfault, SettingFault.written?]
    rw [SettingFault.rewritten_eq_self_iff, hwritten]
    simp [hk, eq_comm]
  · rw [not_exists] at hknown
    have hnone : ∀ k : Key, trim (trim key) ≠ k.name := fun k hk => hknown k (htrim.symm.trans hk)
    rw [Assignment.refusal_of_no_key (p := (trim key, value)) hnone] at hfault
    have hwritten : fault.written? = none := by
      simp only [hfault, SettingFault.written?]
    rw [SettingFault.rewritten_eq_self_iff, hwritten]
    simp [hknown]

/-- **Blanks around an override matter to the key that a fault names, and to nothing else.**  An
override with blanks around its key and its value is accepted exactly when it is accepted without
them, and then leads to the same settings.  If it is refused, the fault is the same but for the
key, which is told as it was written.  So the faults differ, and their messages do, exactly when
there are blanks around the key of a setting. -/
theorem blanks_around_override (s : Settings) {key value key' value' : String}
    (hkey : Padded key key') (hvalue : Padded value value') :
    let trimmed := s.set (trim key) (trim value)
    let padded := s.set key' value'
    (∀ t, padded = .ok t ↔ trimmed = .ok t) ∧
    (∀ fault, padded = .error fault ↔
      ∃ fault', trimmed = .error fault' ∧ fault = fault'.rewritten key') ∧
    (padded = trimmed ↔
      (∃ t, trimmed = .ok t) ∨ key' = trim key ∨ ∀ k : Key, trim key ≠ k.name) ∧
    (∀ fault fault', padded = .error fault → trimmed = .error fault' →
      ((Fault.setting fault).message = (Fault.setting fault').message ↔
        key' = trim key ∨ ∀ k : Key, trim key ≠ k.name)) := by
  intro trimmed padded
  have hpadded : padded = trimmed.mapError (SettingFault.rewritten key') :=
    set_of_padded hkey hvalue s
  cases htrimmed : trimmed with
  | ok t =>
    rw [htrimmed] at hpadded
    rw [hpadded]
    simp [Except.mapError]
  | error fault =>
    rw [htrimmed] at hpadded
    have hsame : fault.rewritten key' = fault ↔ key' = trim key ∨ ∀ k : Key, trim key ≠ k.name :=
      rewritten_of_set htrimmed
    rw [hpadded]
    refine ⟨by simp [Except.mapError], by simp [Except.mapError, eq_comm], ?_, ?_⟩
    · rw [← hsame]
      simp [Except.mapError]
    · rintro _ _ ⟨⟩ ⟨⟩
      exact SettingFault.message_rewritten_eq_iff.trans hsame

/-- `blanks_around_override` at a level that there is not, under a key with a tab in front of it,
and at a key that is no setting's. -/
theorem blanks_around_override_of_wrong_level :
    let s : Settings := { selector := "input.copy" }
    s.set "\tlog-level" "loud " ≠ s.set "log-level" "loud" ∧
      (Fault.setting (.noLevel "\tlog-level" "loud")).message
        ≠ (Fault.setting (.noLevel "log-level" "loud")).message ∧
      s.set "\tlog-level" " Warn" = .ok { s with logLevel := .upTo .warn } ∧
      s.set " csrf-token " "x" = s.set "csrf-token" "x" := by
  intro s
  have hkey : Padded "log-level" "\tlog-level" :=
    ⟨['\t'], [], by simp [Text.Blank, Text.isBlank], by simp, by simp⟩
  have hloud : Padded "loud" "loud " :=
    ⟨[], [' '], by simp, by simp [Text.Blank, Text.isBlank], by simp⟩
  have hwarn : Padded "Warn" " Warn" :=
    ⟨[' '], [], by simp [Text.Blank, Text.isBlank], by simp, by simp⟩
  have hunknown : Padded "csrf-token" " csrf-token " :=
    ⟨[' '], [' '], by simp [Text.Blank, Text.isBlank], by simp [Text.Blank, Text.isBlank], by simp⟩
  have htrim : trim "log-level" = "log-level" ∧ trim "loud" = "loud" ∧
      trim "csrf-token" = "csrf-token" ∧ trim "x" = "x" := by
    decide +kernel
  obtain ⟨-, hfault, hsame, hwords⟩ := blanks_around_override s hkey hloud
  obtain ⟨haccepted, -⟩ := blanks_around_override s hkey hwarn
  obtain ⟨-, -, htoken, -⟩ := blanks_around_override s hunknown (Padded.refl "x")
  rw [htrim.1, htrim.2.1] at hfault hsame hwords
  rw [htrim.2.2.1, htrim.2.2.2] at htoken
  have hrefused : s.set "log-level" "loud" = .error (.noLevel "log-level" "loud") := by
    decide +kernel
  have hkeys : ¬ ("\tlog-level" = "log-level" ∨ ∀ k : Key, "log-level" ≠ k.name) := by
    simp only [not_or, not_forall, not_not]
    exact ⟨by decide, .logLevel, rfl⟩
  refine ⟨fun h => ?_, fun h => hkeys ?_, (haccepted _).mpr (by decide +kernel), htoken.mpr ?_⟩
  · rcases hsame.mp h with ⟨t, ht⟩ | hother
    · exact absurd (hrefused.symm.trans ht) (by simp)
    · exact hkeys hother
  · exact (hwords _ _ ((hfault _).mpr ⟨_, hrefused, rfl⟩) hrefused).mp h
  · exact Or.inr (Or.inr fun k => by cases k <;> decide)

/-- The key of a setting that needs a text is told with the blanks around it, so that blanks make
for another message. -/
theorem fault_names_padded_key :
    let padded := ({} : Settings).set " csrf-cookie " ""
    let trimmed := ({} : Settings).set (trim " csrf-cookie ") (trim "")
    Padded (trim " csrf-cookie ") " csrf-cookie " ∧
      padded = .error (.empty " csrf-cookie ") ∧ trimmed = .error (.empty "csrf-cookie") ∧
      (Fault.setting (.empty " csrf-cookie ")).message
        = "invalid configuration:  csrf-cookie  must not be empty" ∧
      (Fault.setting (.empty "csrf-cookie")).message
        = "invalid configuration: csrf-cookie must not be empty" ∧
      padded ≠ trimmed := by
  intro padded trimmed
  have htrim : trim " csrf-cookie " = "csrf-cookie" := by decide +kernel
  have hblank : Text.Blank [' '] := by simp [Text.Blank, Text.isBlank]
  exact ⟨⟨[' '], [' '], hblank, hblank, by rw [htrim]; rfl⟩, by decide +kernel⟩

end Settings

end PageCompanion
