/-
# What the console shows

What a session logs is kept with the threshold at that time, and only a start changes the
threshold.  A start reports what is wrong with the overrides on the page's body at the default
level, before it sets the level that they ask for: so none of these reports is lost, whatever an
earlier start has left and whatever the page asks for.  All else is logged at the level that was
set last.  `Speaks` is that the threshold stays and that the log grows by records at that
threshold; every step but a start does no more (`speaks_step`), and neither does a start after its
settings were read (`speaks_start`).
-/
import PageCompanion.Proofs.Live.Restarts
import PageCompanion.Proofs.Settings.Readings

namespace PageCompanion.Live

open Dom (Page Place Spot)
open Script (Value)
open Assignment (faultOf? faults)

/-! ## Overrides on the body -/

/-- The overrides that a list of attributes asks for, in the same order: the attributes with the
prefix, each with the rest of its name as the key. -/
inductive Overrides : List (String × String) → List (String × String) → Prop where
  | nil : Overrides [] []
  | taken (key value : String) {attributes pairs : List (String × String)}
    (h : Overrides attributes pairs) :
    Overrides (("data-hx-assist-" ++ key, value) :: attributes) ((key, value) :: pairs)
  | ignored {name : String} (value : String) {attributes pairs : List (String × String)}
    (hname : ∀ key, name ≠ "data-hx-assist-" ++ key) (h : Overrides attributes pairs) :
    Overrides ((name, value) :: attributes) pairs

lemma overrideKey?_eq_some_iff {name key : String} :
    overrideKey? name = some key ↔ name = "data-hx-assist-" ++ key := by
  rw [overrideKey?, Option.map_eq_some_iff]
  constructor
  · rintro ⟨rest, hrest, rfl⟩
    rw [List.isPrefixOf?_eq_some_iff_append_eq] at hrest
    simp [← String.toList_inj, ← hrest, overridePrefix]
  · rintro rfl
    refine ⟨key.toList, ?_, String.ofList_toList⟩
    rw [List.isPrefixOf?_eq_some_iff_append_eq, String.toList_append, overridePrefix]

/-- The overrides on the body of a page are read as they stand there. -/
lemma overrides_readPairs (p : Page) : Overrides p.bodyAttributes (readPairs p) := by
  rw [readPairs]
  induction p.bodyAttributes with
  | nil => exact .nil
  | cons a attributes ih =>
    obtain ⟨name, value⟩ := a
    rw [List.filterMap_cons]
    cases hkey : overrideKey? name with
    | none =>
      refine .ignored value (fun key hname => ?_) ih
      rw [overrideKey?_eq_some_iff.mpr hname] at hkey
      exact absurd hkey (by simp)
    | some key =>
      obtain rfl := overrideKey?_eq_some_iff.mp hkey
      exact .taken key value ih

/-- The report of an override that is skipped; all settings skip the same ones. -/
def reportOf? (p : String × String) : Option Log.Record :=
  match ({} : Settings).set p.1 p.2 with
  | .ok _ => none
  | .error fault => some (skipped fault)

/-- Each override that is skipped is reported once, in order. -/
lemma readSettings_snd (p : Page) : (readSettings p).2 = (readPairs p).filterMap reportOf? := by
  rw [readSettings, Settings.override_snd, faults, List.map_filterMap]
  refine List.filterMap_congr fun a _ => ?_
  rw [reportOf?]
  cases ha : faultOf? a with
  | none =>
    obtain ⟨t, ht⟩ := Settings.set_of_faultOf?_none ha {}
    rw [ht]
    rfl
  | some fault =>
    rw [Settings.set_of_faultOf?_some ha {}]
    rfl

namespace Session

variable {s t u : Session}

/-! ## Records at one threshold -/

/-- The threshold stays, and what is logged is logged at that threshold. -/
structure Speaks (s t : Session) : Prop where
  threshold : t.threshold = s.threshold
  log : ∃ records : List Log.Record, t.log = s.log ++ records.map fun r => ⟨r, s.threshold⟩

lemma speaks_of_eq (hlog : t.log = s.log) (hthreshold : t.threshold = s.threshold) :
    Speaks s t :=
  ⟨hthreshold, [], by simp [hlog]⟩

lemma Speaks.refl (s : Session) : Speaks s s := speaks_of_eq rfl rfl

lemma Speaks.trans (h : Speaks s t) (h' : Speaks t u) : Speaks s u := by
  obtain ⟨hthreshold, records, hlog⟩ := h
  obtain ⟨hthreshold', records', hlog'⟩ := h'
  refine ⟨hthreshold'.trans hthreshold, records ++ records', ?_⟩
  rw [hlog', hlog, hthreshold, List.map_append, List.append_assoc]

lemma speaks_foldl {α : Type} {f : Session → α → Session} (hf : ∀ v a, Speaks v (f v a))
    (l : List α) (s : Session) : Speaks s (l.foldl f s) := by
  induction l generalizing s with
  | nil => exact .refl s
  | cons a l ih => exact (hf s a).trans (ih _)

lemma speaks_logAll (s : Session) (records : List Log.Record) : Speaks s (s.logAll records) :=
  ⟨rfl, records, rfl⟩

/-- Of what is logged at a threshold, the console shows what passes it. -/
lemma console_of_log {records : List Log.Record} {threshold : Log.Threshold}
    (h : t.log = s.log ++ records.map fun r => ⟨r, threshold⟩) :
    t.console = s.console ++ records.filter fun r => threshold.admits r.level := by
  simp [console, h, List.filter_map, Function.comp_def]

/-! ### Attempts -/

lemma speaks_copyInput (s : Session) (n : ℕ) : Speaks s (s.copyInput n) := by
  rw [copyInput_eq]
  exact ⟨rfl, [_], rfl⟩

lemma speaks_announce (s : Session) (number : ℕ) (a : Attempt) (result : Except Fault Unit) :
    Speaks s (s.announce number a result) := by
  unfold announce
  cases result with
  | ok done =>
    cases s.page.eventFault with
    | none => exact speaks_of_eq rfl rfl
    | some thrown => exact speaks_logAll s _
  | error fault =>
    cases s.page.eventFault with
    | none => exact (speaks_logAll s _).trans (speaks_of_eq rfl rfl)
    | some thrown => exact (speaks_logAll s _).trans (speaks_logAll _ _)

lemma speaks_resume (s : Session) (number : ℕ) : Speaks s (s.resume number) := by
  rw [resume]
  split
  · exact .refl s
  · split
    · exact speaks_announce s number _ _
    · exact speaks_of_eq rfl rfl

lemma speaks_tick (s : Session) : Speaks s s.tick := by
  have hempty : Speaks s { s with waiting := [] } := speaks_of_eq rfl rfl
  exact hempty.trans (speaks_foldl speaks_resume s.waiting _)

/-! ### Rosters -/

lemma speaks_scan (s : Session) (id : ℕ) : Speaks s (s.scan id).2 :=
  ⟨rfl, _, rfl⟩

lemma speaks_scanReporting (s : Session) (id : ℕ) (heading : String) :
    Speaks s (s.scanReporting id heading).2 := by
  rw [scanReporting]
  cases (s.scan id).1 with
  | ok n => exact speaks_scan s id
  | error fault => exact (speaks_scan s id).trans (speaks_logAll _ _)

lemma speaks_releaseUnused (s : Session) (id : ℕ) : Speaks s (s.releaseUnused id) := by
  rw [releaseUnused]
  split_ifs
  · exact .refl s
  · exact speaks_of_eq rfl rfl

lemma speaks_unlisten (s : Session) (k : ℕ) : Speaks s (s.unlisten k) :=
  speaks_of_eq rfl rfl

lemma speaks_sweep (s : Session) : Speaks s s.sweep :=
  speaks_foldl speaks_releaseUnused _ s

/-! ### Events -/

lemma speaks_react (s : Session) (k : ℕ) (detail : Option Value) :
    Speaks s (s.react k detail).1 := by
  rw [react]
  cases s.listeners.find? k with
  | none => exact .refl s
  | some l =>
    simp only
    cases l.reaction with
    | stamp stamp => exact ⟨rfl, _, rfl⟩
    | rescan roster => exact speaks_scanReporting s roster _
    | copy owner input => exact speaks_copyInput s input

lemma speaks_reactAll (s : Session) (detail : Option Value) (ks : List ℕ) :
    Speaks s (s.reactAll detail ks).1 := by
  induction ks generalizing s detail with
  | nil => exact .refl s
  | cons k ks ih => exact (speaks_react s k detail).trans (ih _ _)

/-! ## Steps -/

/-- **A step that is no start logs at the threshold that was set**, and leaves it. -/
theorem speaks_step {a : Step} (ha : a ≠ .start) (s : Session) : Speaks s (s.step a).2 := by
  cases a with
  | start => exact absurd rfl ha
  | click spot => exact speaks_reactAll s _ _
  | load spot => exact speaks_reactAll s _ _
  | request spot detail => exact speaks_reactAll s _ _
  | plainRequest spot => exact speaks_reactAll s _ _
  | tick => exact speaks_tick s
  | rescan =>
    rw [step, rescan]
    cases s.companion with
    | none => exact .refl s
    | some c => exact speaks_scanReporting s c.roster _
  | readSettings => exact speaks_logAll s _
  | stamp spot raw names => exact ⟨rfl, [_], rfl⟩
  | drop handle =>
    rw [step]
    cases s.handles[handle]?.join with
    | none => exact .refl s
    | some k =>
      have hlet : Speaks s { s with handles := s.handles.set handle none } :=
        speaks_of_eq rfl rfl
      exact (hlet.trans (speaks_unlisten _ k)).trans (speaks_sweep _)
  | dropRoster slot =>
    have hleave : Speaks s { s with slots := s.slots.set slot none } := speaks_of_eq rfl rfl
    exact hleave.trans (speaks_sweep _)
  | scan slot =>
    rw [step]
    cases s.slot? slot with
    | none => exact .refl s
    | some id => exact speaks_scan s id
  | listen slot spot =>
    rw [step]
    cases s.slot? slot with
    | none => exact .refl s
    | some id => exact speaks_of_eq rfl rfl
  | size slot =>
    rw [step]
    cases s.slot? slot <;> exact .refl s
  | stateOf slot spot =>
    rw [step]
    cases s.slot? slot <;> cases s.page.node? spot <;> exact .refl s
  | copy spot =>
    rw [step]
    cases s.page.node? spot with
    | none => exact .refl s
    | some n =>
      simp only
      split_ifs
      · exact speaks_copyInput s n
      · exact .refl s
  | _ => exact speaks_of_eq rfl rfl

/-- So does every run without a start. -/
theorem speaks_steps {l : List Step} (hl : .start ∉ l) (s : Session) : Speaks s (s.steps l) := by
  induction l generalizing s with
  | nil => exact .refl s
  | cons a l ih =>
    have ha : a ≠ .start := fun ha => hl (by simp [ha])
    exact (speaks_step ha s).trans (ih (fun hmem => hl (List.mem_cons_of_mem a hmem)) _)

/-! ## Starts -/

lemma speaks_adopt (s : Session) (c : Companion) : Speaks s (s.adopt c) := by
  have hset : Speaks s { s with companion := some c } := speaks_of_eq rfl rfl
  rw [adopt]
  cases s.companion with
  | none => exact hset
  | some old =>
    exact ((hset.trans (speaks_unlisten _ _)).trans (speaks_unlisten _ _)).trans (speaks_sweep _)

/-- Once its settings are read, a start logs at the level that they ask for. -/
theorem speaks_start (s : Session) : Speaks s.configure.2 s.start := by
  obtain ⟨settings, hsettings⟩ : ∃ settings, settings = s.configure.1 := ⟨_, rfl⟩
  have hstamper (v : Session) : Speaks v (v.installStamper settings).2 :=
    (speaks_logAll v _).trans ((speaks_logAll _ _).trans (speaks_of_eq rfl rfl))
  have hroster (v : Session) : Speaks v (v.installRoster settings).2 := by
    have hopen : Speaks v (v.openRoster settings.selector).2 := speaks_of_eq rfl rfl
    exact hopen.trans ((speaks_scanReporting _ _ _).trans (speaks_of_eq rfl rfl))
  rw [start, ← hsettings]
  exact (hstamper _).trans ((hroster _).trans ((speaks_logAll _ _).trans (speaks_adopt _ _)))

/-- What is wrong with the settings is reported at the default level, whatever level was set. -/
lemma log_configure (s : Session) : s.configure.2.log
    = s.log ++ ((readPairs s.page).filterMap reportOf?).map fun r => ⟨r, .upTo .info⟩ := by
  rw [← readSettings_snd]
  rfl

/-- The reports pass the default level. -/
lemma filter_reports (pairs : List (String × String)) :
    ((pairs.filterMap reportOf?).filter fun r => (Log.Threshold.upTo .info).admits r.level)
      = pairs.filterMap reportOf? := by
  rw [List.filter_eq_self]
  intro r hr
  obtain ⟨a, -, ha⟩ := List.mem_filterMap.mp hr
  rw [reportOf?] at ha
  split at ha
  · exact absurd ha (by simp)
  · rw [← Option.some.inj ha]
    rfl

/-- The companion that a start leaves is made with the settings of the page. -/
lemma uses_settings (hs : s.Sound) : ∃ c stamp, s.start.companion = some c ∧
    ⟨c.stamper, .window, .stamp stamp⟩ ∈ s.start.listeners.live ∧
    stamp.names = (readSettings s.page).1.token ∧
    (s.start.roster c.roster).selector = (readSettings s.page).1.selector := by
  have hstarted := started_start hs
  obtain ⟨c, hserving⟩ := Serving.exists_of_start hs
  obtain rfl := Option.some.inj (hserving.companion_eq.symm.trans hstarted.companion_eq)
  obtain ⟨⟨k, place, reaction⟩, hl, rfl, rfl, hlike⟩ := hserving.stamper.lives
  cases reaction with
  | stamp stamp => exact ⟨_, stamp, hserving.companion_eq, hl, hlike.2, hstarted.selector_eq⟩
  | _ => exact Reaction.noConfusion hlike

end Session

/-- **Nothing silences what is wrong with the settings.**  Take any run and a start at its end.  The
companion is made with the default settings after the overrides on the page's body, of which those
that are not valid are skipped.  Each override that is skipped is shown once, in the order of the
attributes, whatever level was set before and whatever level the overrides ask for.  All that is
logged from then on, until the next start, is shown if it passes the level that they ask for, and
nothing else is; if they ask for none to be shown, then nothing but the reports is. -/
theorem startup_diagnostics_shown (p : Page) (before after : List Session.Step)
    (hafter : .start ∉ after) :
    let s := (Session.onPage p).steps before
    let t := (s.step .start).2
    let u := t.steps after
    let pairs := readPairs s.page
    let read := ({} : Settings).override pairs
    let settings := read.1
    let reports := pairs.filterMap reportOf?
    Overrides s.page.bodyAttributes pairs ∧ reports = read.2.map skipped ∧
    (∃ c stamp, t.companion = some c ∧ ⟨c.stamper, .window, .stamp stamp⟩ ∈ t.listeners.live ∧
      stamp.names = settings.token ∧ (t.roster c.roster).selector = settings.selector) ∧
    t.threshold = settings.logLevel ∧
    ∃ starting later : List Log.Record,
      t.log = s.log ++ (reports.map fun r => ⟨r, .upTo .info⟩) ++
        (starting.map fun r => ⟨r, settings.logLevel⟩) ∧
      t.console = s.console ++ reports ++
        (starting.filter fun r => settings.logLevel.admits r.level) ∧
      u.log = t.log ++ (later.map fun r => ⟨r, settings.logLevel⟩) ∧
      u.console = t.console ++ (later.filter fun r => settings.logLevel.admits r.level) ∧
      (settings.logLevel = .off → u.console = s.console ++ reports) := by
  intro s t u pairs read settings reports
  have hs : s.Sound := Session.sound_steps p before
  have hthreshold : t.threshold = settings.logLevel := Session.threshold_start hs
  obtain ⟨starting, hstarting⟩ := (Session.speaks_start s).log
  obtain ⟨later, hlater⟩ := (Session.speaks_steps hafter t).log
  rw [hthreshold] at hlater
  have hconsole : t.console = s.console ++ reports ++
      starting.filter fun r => settings.logLevel.admits r.level := by
    refine (Session.console_of_log hstarting).trans ?_
    rw [Session.console_of_log (Session.log_configure s), Session.filter_reports]
    rfl
  have hlast : u.console = t.console ++
      later.filter fun r => settings.logLevel.admits r.level := Session.console_of_log hlater
  refine ⟨overrides_readPairs s.page, (readSettings_snd s.page).symm, Session.uses_settings hs,
    hthreshold, starting, later, ?_, hconsole, hlater, hlast, fun hoff => ?_⟩
  · rw [← Session.log_configure]
    exact hstarting
  · rw [hlast, hconsole, hoff]
    simp [Log.Threshold.admits]

/-- Two bad overrides are shown by a second start, though the first one has left the console silent
and a third override, between them, asks for the same; nothing that is logged later is shown. -/
theorem startup_diagnostics_shown_of_silence :
    let silence := ("data-hx-assist-log-level", " OFF")
    let before : List Session.Step :=
      [.change (.body (some [silence])), .start, .change (.body (some
        [("data-hx-assist-csrf-header", " "), ("class", "wide"), silence,
          ("data-hx-assist-colour", "red")]))]
    let after : List Session.Step := [.rescan, .request .body .null, .readSettings]
    let t := (((Session.onPage {}).steps before).step .start).2
    let u := t.steps after
    u.console = [Log.warning "invalid configuration: csrf-header must not be empty; ignored",
      Log.warning "invalid configuration: unknown key 'colour'; ignored"] ∧
      8 < u.log.length := by
  intro silence before after t u
  obtain ⟨-, -, -, -, starting, later, -, -, -, -, hoff⟩ :=
    startup_diagnostics_shown {} before after (by simp [after])
  exact ⟨(hoff (by decide +kernel)).trans (by decide +kernel), by decide +kernel⟩

end PageCompanion.Live
