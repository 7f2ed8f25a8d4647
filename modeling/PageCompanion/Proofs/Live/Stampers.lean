/-
# Who stamps requests

The listeners before requests have little to do with the rest of a session.  A step that neither
installs nor drops one and sends no request leaves them as they are, down to what their stamps
remember, and leaves the threshold of the log as it is (`apart_step`).  So as long as no script
makes a stamp of its own, the companion's listener is the only one that stamps requests, however
often the companion was started (`unrivalled_steps`).
-/
import PageCompanion.Proofs.Live.Starting

namespace PageCompanion.Live

open Dom (Page Place Spot)
open Script (Value)

namespace Session

variable {s t u : Session}

/-- The listeners before requests are the same, and so is what the console shows. -/
structure Apart (s t : Session) : Prop where
  stampers : ∀ l : Listener, l.reaction.kind = .request →
    (l ∈ t.listeners.live ↔ l ∈ s.listeners.live)
  threshold : t.threshold = s.threshold

lemma Apart.refl (s : Session) : Apart s s := ⟨fun _ _ => Iff.rfl, rfl⟩

lemma Apart.trans (h : Apart s t) (h' : Apart t u) : Apart s u :=
  ⟨fun l hl => (h'.stampers l hl).trans (h.stampers l hl), h'.threshold.trans h.threshold⟩

lemma apart_of_eq (hlisteners : t.listeners = s.listeners)
    (hthreshold : t.threshold = s.threshold) : Apart s t :=
  ⟨fun _ _ => by rw [hlisteners], hthreshold⟩

/-- Click listeners may come and go. -/
lemma apart_of_clicksOnly (h : ClicksOnly s.listeners t.listeners)
    (hthreshold : t.threshold = s.threshold) : Apart s t := by
  refine ⟨fun l hl => ⟨fun hmem => ?_, fun hmem => h.mem_of l hmem (by simp [hl])⟩, hthreshold⟩
  rcases h.of_mem l hmem with hmem | ⟨-, hkind⟩
  · exact hmem
  · exact absurd (hl.symm.trans hkind) (by simp)

/-! ## Attempts -/

lemma apart_logAll (s : Session) (records : List Log.Record) : Apart s (s.logAll records) :=
  apart_of_eq rfl rfl

lemma apart_copyInput (s : Session) (n : ℕ) : Apart s (s.copyInput n) := by
  simp only [copyInput, Copying.attempt, surface]
  exact apart_of_eq rfl rfl

lemma apart_announce (s : Session) (number : ℕ) (a : Attempt) (result : Except Fault Unit) :
    Apart s (s.announce number a result) := by
  unfold announce
  cases result <;> cases s.page.eventFault <;> exact apart_of_eq rfl rfl

lemma apart_resume (s : Session) (number : ℕ) : Apart s (s.resume number) := by
  rw [resume]
  split
  · exact .refl s
  · split
    · exact apart_announce s number _ _
    · exact apart_of_eq rfl rfl

lemma apart_foldl_resume (numbers : List ℕ) (s : Session) :
    Apart s (numbers.foldl resume s) := by
  induction numbers generalizing s with
  | nil => exact .refl s
  | cons number numbers ih => exact (apart_resume s number).trans (ih _)

lemma apart_tick (s : Session) : Apart s s.tick := by
  have hempty : Apart s { s with waiting := [] } := apart_of_eq rfl rfl
  exact hempty.trans (apart_foldl_resume s.waiting _)

/-! ## Rosters -/

lemma apart_scan (hs : s.Sound) (id : ℕ) : Apart s (s.scan id).2 :=
  apart_of_clicksOnly (hs.matched.clicksOnly_scan rfl s.page) rfl

lemma apart_scanReporting (hs : s.Sound) (id : ℕ) (heading : String) :
    Apart s (s.scanReporting id heading).2 := by
  rw [scanReporting]
  cases (s.scan id).1 with
  | ok n => exact apart_scan hs id
  | error fault => exact (apart_scan hs id).trans (apart_logAll _ _)

lemma apart_releaseUnused (hs : s.Sound) (id : ℕ) : Apart s (s.releaseUnused id) := by
  rw [releaseUnused]
  split_ifs
  · exact .refl s
  · have hclicks : ClicksOnly s.listeners ((s.roster id).clear s.listeners).2 :=
      hs.matched.clicksOnly_keep rfl _
    exact apart_of_clicksOnly hclicks rfl

lemma apart_sweep (hs : s.Sound) : Apart s s.sweep := by
  rw [sweep]
  have hids : ∀ id ∈ List.range s.rosters.length, id < s.rosters.length :=
    fun _ hid => List.mem_range.mp hid
  generalize List.range s.rosters.length = ids at hids
  induction ids generalizing s with
  | nil => exact .refl s
  | cons id ids ih =>
    have hid := hids id List.mem_cons_self
    refine (apart_releaseUnused hs id).trans (ih (hs.releaseUnused hid) fun j hj => ?_)
    rw [length_rosters_releaseUnused]
    exact hids j (List.mem_cons_of_mem id hj)

/-- A listener of another kind may be installed. -/
lemma apart_listen (s : Session) (place : Place) {reaction : Reaction}
    (hkind : reaction.kind ≠ .request) : Apart s (s.listen place reaction).2 := by
  refine ⟨fun l hl => ?_, rfl⟩
  show l ∈ (s.listeners.add place reaction).2.live ↔ _
  rw [Listeners.mem_live_add, or_iff_left]
  rintro rfl
  exact hkind hl

/-! ## Events that are not sent before requests -/

/-- A listener of another kind may react. -/
lemma apart_react (hs : s.Sound) {k : ℕ}
    (hk : ∀ l ∈ s.listeners.live, l.id = k → l.reaction.kind ≠ .request) (detail : Option Value) :
    Apart s (s.react k detail).1 := by
  rw [react]
  cases hl : s.listeners.find? k with
  | none => exact .refl s
  | some l =>
    obtain ⟨hlive, hid⟩ := hs.matched.find?_eq_some_iff.mp hl
    have hkind := hk l hlive hid
    simp only
    cases hreaction : l.reaction with
    | stamp stamp =>
      rw [hreaction] at hkind
      exact absurd rfl hkind
    | rescan roster => exact apart_scanReporting hs roster _
    | copy owner input => exact apart_copyInput s input

lemma apart_reactAll (hs : s.Sound) {ks : List ℕ}
    (hks : ∀ k ∈ ks, ∀ l ∈ s.listeners.live, l.id = k → l.reaction.kind ≠ .request)
    (detail : Option Value) : Apart s (s.reactAll detail ks).1 := by
  induction ks generalizing s detail with
  | nil => exact .refl s
  | cons k ks ih =>
    have hfirst := apart_react hs (hks k List.mem_cons_self) detail
    refine hfirst.trans (ih (hs.of_moves (moves_react hs k detail)) (fun k' hk' l hl hid => ?_) _)
    intro hkind
    -- such a listener would have been there before
    exact hks k' (List.mem_cons_of_mem k hk') l ((hfirst.stampers l hkind).mp hl) hid hkind

lemma apart_dispatch (hs : s.Sound) {kind : EventKind} (hkind : kind ≠ .request) (spot : Spot)
    (detail : Option Value) : Apart s (s.dispatch kind spot detail).1 := by
  refine apart_reactAll hs (fun k hk l hl hid => ?_) detail
  obtain ⟨place, -, hk⟩ := List.mem_flatMap.mp hk
  obtain ⟨l', hl', ⟨-, hlkind⟩, hid'⟩ := Listeners.mem_idsAt.mp hk
  rw [hs.matched.eq_of_id_eq hl hl' (hid.trans hid'.symm), hlkind]
  exact hkind

/-! ## Steps -/

/-- The step may concern the listeners before requests. -/
def Step.Stamping : Step → Prop
  | .start | .request .. | .plainRequest _ | .stamp .. | .drop _ => True
  | _ => False

/-- **Other steps leave the listeners before requests as they are.** -/
theorem apart_step (hs : s.Sound) {a : Step} (ha : ¬ a.Stamping) : Apart s (s.step a).2 := by
  cases a with
  | change c => exact apart_of_eq rfl rfl
  | click spot => exact apart_dispatch hs (by simp) spot none
  | load spot => exact apart_dispatch hs (by simp) spot none
  | tick => exact apart_tick s
  | rescan =>
    rw [step, rescan]
    cases s.companion with
    | none => exact .refl s
    | some c => exact apart_scanReporting hs c.roster _
  | readPairs => exact .refl s
  | readSettings => exact apart_logAll s _
  | readCookies => exact .refl s
  | openRoster selector => exact apart_of_eq rfl rfl
  | dropRoster slot =>
    have hleave : Apart s { s with slots := s.slots.set slot none } := apart_of_eq rfl rfl
    exact hleave.trans (apart_sweep (hs.of_move (.leaveSlot s slot)))
  | scan slot =>
    rw [step]
    cases s.slot? slot with
    | none => exact .refl s
    | some id => exact apart_scan hs id
  | listen slot spot =>
    rw [step]
    cases s.slot? slot with
    | none => exact .refl s
    | some id =>
      have hlisten : Apart s (s.listen (s.page.place spot) (.rescan id)).2 :=
        apart_listen s _ (by simp [Reaction.kind])
      exact hlisten.trans (apart_of_eq rfl rfl)
  | size slot =>
    rw [step]
    cases s.slot? slot <;> exact .refl s
  | stateOf slot spot =>
    rw [step]
    cases s.slot? slot <;> cases s.page.node? spot <;> exact .refl s
  | copy spot =>
    rw [step]
    cases s.page.node? spot with
    | none => exact .refl s
    | some n =>
      simp only
      split_ifs
      · exact apart_copyInput s n
      · exact .refl s
  | write text => exact apart_of_eq rfl rfl
  | describe value => exact .refl s
  | start | request _ _ | plainRequest _ | stamp _ _ _ | drop _ => exact absurd trivial ha

/-- Letting a handle go removes the listener that it holds and no other that stamps. -/
lemma stampers_drop (hs : s.Sound) (handle : ℕ) {l : Listener} (hl : l.reaction.kind = .request) :
    l ∈ (s.step (.drop handle)).2.listeners.live ↔
      l ∈ s.listeners.live ∧ s.handles[handle]?.join ≠ some l.id := by
  rw [step]
  cases hk : s.handles[handle]?.join with
  | none => simp
  | some k =>
    have hsweep := apart_sweep (hs.of_move (.letGo hk))
    rw [(hsweep.stampers l hl), unlisten, Listeners.mem_live_remove]
    simp [eq_comm]

lemma threshold_drop (hs : s.Sound) (handle : ℕ) :
    (s.step (.drop handle)).2.threshold = s.threshold := by
  rw [step]
  cases hk : s.handles[handle]?.join with
  | none => rfl
  | some k => exact (apart_sweep (hs.of_move (.letGo hk))).threshold

/-! ## The companion's listener -/

/-- Only the companion's listener stamps requests. -/
def Unrivalled (s : Session) : Prop :=
  ∀ l ∈ s.listeners.live, l.reaction.kind = .request →
    ∃ c, s.companion = some c ∧ c.stamper = l.id

namespace Unrivalled

lemma onPage (p : Page) : (onPage p).Unrivalled := by
  simp [Unrivalled, Session.onPage]

lemma of_apart (h : s.Unrivalled) (hst : Apart s t) (hcompanion : t.companion = s.companion) :
    t.Unrivalled := by
  intro l hl hkind
  rw [hcompanion]
  exact h l ((hst.stampers l hkind).mp hl) hkind

/-- A listener that reacts may remember more, and is still the same. -/
lemma react (h : s.Unrivalled) (hs : s.Sound) (k : ℕ) (detail : Option Value) :
    (s.react k detail).1.Unrivalled := by
  have hcompanion := companion_of_moves (moves_react hs k detail)
  by_cases hk : ∀ l ∈ s.listeners.live, l.id = k → l.reaction.kind ≠ .request
  · exact h.of_apart (apart_react hs hk detail) hcompanion
  · obtain ⟨l₀, hlive, hid, hkind₀⟩ :
        ∃ l₀ ∈ s.listeners.live, l₀.id = k ∧ l₀.reaction.kind = .request := by
      simpa using hk
    have hfind : s.listeners.find? k = some l₀ := hs.matched.find?_eq_some_iff.mpr ⟨hlive, hid⟩
    intro l hl hkind
    rw [hcompanion]
    simp only [Session.react, hfind] at hl
    cases hreaction : l₀.reaction with
    | stamp stamp =>
      simp only [hreaction] at hl
      rcases Listeners.mem_live_setReaction.mp hl with ⟨hl, -⟩ | ⟨l', hl', hid', rfl⟩
      · exact h l hl hkind
      · rw [hs.matched.eq_of_id_eq hl' hlive (hid'.trans hid.symm)]
        exact h l₀ hlive hkind₀
    | _ =>
      rw [hreaction] at hkind₀
      exact absurd hkind₀ (by simp [Reaction.kind])

lemma reactAll (h : s.Unrivalled) (hs : s.Sound) (ks : List ℕ) (detail : Option Value) :
    (s.reactAll detail ks).1.Unrivalled := by
  induction ks generalizing s detail with
  | nil => exact h
  | cons k ks ih => exact ih (h.react hs k detail) (hs.of_moves (moves_react hs k detail)) _

end Unrivalled

lemma apart_installRoster (hs : s.Sound) (settings : Settings) :
    Apart s (s.installRoster settings).2 := by
  have hopen : Apart s (s.openRoster settings.selector).2 := apart_of_eq rfl rfl
  have hscan := apart_scanReporting (hs.openRoster settings.selector) s.rosters.length
    "copy-on-click"
  exact (hopen.trans hscan).trans (apart_listen _ _ (by simp [Reaction.kind]))

/-- The session when a start has installed its stamp and not opened its roster yet. -/
def stamping (s : Session) : Session :=
  (s.configure.2.installStamper (readSettings s.page).1).2

lemma Sound.stamping (hs : s.Sound) : s.stamping.Sound :=
  (hs.of_moves (alike_configure s).moves).of_moves (moves_installStamper _ _)

lemma page_stamping (s : Session) : s.stamping.page = s.page := rfl

lemma rosters_stamping (s : Session) : s.stamping.rosters = s.rosters := rfl

lemma threshold_stamping (s : Session) :
    s.stamping.threshold = (readSettings s.page).1.logLevel := rfl

/-- What is left of a start until the new companion is ready. -/
lemma readied_fst (s : Session) :
    s.readied.1 = (s.stamping.installRoster (readSettings s.page).1).2.logAll
      [⟨.info, readyMessage (readSettings s.page).1
        ((s.stamping.installRoster (readSettings s.page).1).2.roster
          s.stamping.rosters.length).size⟩] := rfl

/-- A companion that is ready has brought one listener that stamps. -/
lemma stamper_readied (hs : s.Sound) {l : Listener} (hl : l ∈ s.readied.1.listeners.live)
    (hkind : l.reaction.kind = .request) :
    l ∈ s.listeners.live ∨ l = ⟨s.readied.2.stamper, .window, .stamp s.freshStamp⟩ := by
  have hapart : Apart s.stamping s.readied.1 := by
    rw [readied_fst]
    exact (apart_installRoster hs.stamping _).trans (apart_logAll _ _)
  have hmem : l ∈ s.stamping.listeners.live := (hapart.stampers l hkind).mp hl
  exact Listeners.mem_live_add.mp hmem

/-- A start leaves the companion that was made ready. -/
lemma companion_start (s : Session) : s.start.companion = some s.readied.2 :=
  (companion_of_moves (moves_start s)).trans (companion_handOver _ _)

/-- The listeners that stamp after a start were there when the new companion was ready, and the
one of the old companion is not among them. -/
lemma mem_readied_of_start (hs : s.Sound) {l : Listener} (hl : l ∈ s.start.listeners.live)
    (hkind : l.reaction.kind = .request) : l ∈ s.readied.1.listeners.live ∧
      ∀ old, s.companion = some old → l.id ≠ old.stamper := by
  have hover := hs.handOver_readied
  rw [handOver] at hover
  rw [start_eq, adopt] at hl
  rw [← companion_of_moves (readied_spec hs).1]
  cases hold : s.readied.1.companion with
  | none =>
    rw [hold] at hl
    exact ⟨hl, by simp⟩
  | some old =>
    rw [hold] at hl hover
    have hswept := ((apart_sweep hover).stampers l hkind).mp hl
    obtain ⟨hl, -⟩ := Listeners.mem_live_remove.mp hswept
    obtain ⟨hl, hid⟩ := Listeners.mem_live_remove.mp hl
    exact ⟨hl, fun c hc => Option.some.inj hc ▸ hid⟩

namespace Unrivalled

/-- Taking over, the new companion removes its rival. -/
lemma start (h : s.Unrivalled) (hs : s.Sound) : s.start.Unrivalled := by
  intro l hl hkind
  obtain ⟨hready, hne⟩ := mem_readied_of_start hs hl hkind
  refine ⟨s.readied.2, companion_start s, ?_⟩
  rcases stamper_readied hs hready hkind with hlive | rfl
  · obtain ⟨c, hc, hstamper⟩ := h l hlive hkind
    exact absurd hstamper.symm (hne c hc)
  · rfl

lemma step (h : s.Unrivalled) (hs : s.Sound) {a : Step}
    (ha : ∀ spot raw names, a ≠ .stamp spot raw names) : (s.step a).2.Unrivalled := by
  cases a with
  | start => exact h.start hs
  | request spot detail => exact h.reactAll hs _ _
  | plainRequest spot => exact h.reactAll hs _ _
  | stamp spot raw names => exact absurd rfl (ha spot raw names)
  | drop handle =>
    intro l hl hkind
    rw [companion_of_moves (moves_step hs (by simp))]
    exact h l ((stampers_drop hs handle hkind).mp hl).1 hkind
  | _ =>
    exact h.of_apart (apart_step hs (by simp [Step.Stamping]))
      (companion_of_moves (moves_step hs (by simp)))

lemma steps (h : s.Unrivalled) (hs : s.Sound) {l : List Step}
    (hl : ∀ spot raw names, .stamp spot raw names ∉ l) : (s.steps l).Unrivalled := by
  induction l generalizing s with
  | nil => exact h
  | cons a l ih =>
    have ha : ∀ spot raw names, a ≠ .stamp spot raw names := by
      rintro spot raw names rfl
      exact hl spot raw names List.mem_cons_self
    exact ih (h.step hs ha) (hs.step a) fun spot raw names hmem =>
      hl spot raw names (List.mem_cons_of_mem a hmem)

end Unrivalled

/-- **In every run in which no script makes a stamp, only the companion's listener stamps.** -/
theorem unrivalled_steps (p : Page) {l : List Step}
    (hl : ∀ spot raw names, .stamp spot raw names ∉ l) : ((onPage p).steps l).Unrivalled :=
  (Unrivalled.onPage p).steps (sound_onPage p) hl

end Session

end PageCompanion.Live
