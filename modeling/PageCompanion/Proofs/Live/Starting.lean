/-
# Starting the companion

A start makes moves until the new companion is ready, then the new companion takes over, and
moves follow (`readied_spec`, `moves_start`).  So whatever holds of a page that nothing is on yet,
and is kept by moves and by taking over, holds of every run.  Soundness is such a property
(`sound_steps`), and from a start to the next the listeners of the companion last
(`Serving.steps`).
-/
import PageCompanion.Proofs.Live.Runs

namespace PageCompanion.Live

open Dom (Page Place)
open Relation (ReflTransGen)

namespace Session

variable {s t : Session}

/-- The stamp that a start makes. -/
def freshStamp (s : Session) : Token.Stamp :=
  (Token.Stamp.make (cookiesOrNone s.page).1 (readSettings s.page).1.token).1

/-- A companion whose listeners last: one at the window that stamps requests, and one at the
document that scans the companion's roster. -/
structure Serving (s : Session) (c : Companion) (stamp : Token.Stamp) : Prop where
  companion_eq : s.companion = some c
  stamper : s.Lasts c.stamper .window (.stamp stamp)
  loader : s.Lasts c.loader .document (.rescan c.roster)

/-! ## What moves leave alone -/

lemma companion_of_move (h : Move s t) : t.companion = s.companion := by
  cases h with
  | aside h => exact h.companion
  | release hid hfree =>
    rw [releaseUnused, if_neg (by simp [hfree])]
    rfl
  | _ => rfl

lemma companion_of_moves (h : Moves s t) : t.companion = s.companion := by
  induction h with
  | refl => rfl
  | tail _ hmove ih => exact (companion_of_move hmove).trans ih

lemma length_rosters_scanReporting (s : Session) (id : ℕ) (heading : String) :
    (s.scanReporting id heading).2.rosters.length = s.rosters.length := by
  have hscan : (s.scan id).2.rosters.length = s.rosters.length := List.length_set
  rw [(alike_scanReporting s id heading).rosters, hscan]

/-- A number that is not given out yet is no number of the companion's. -/
lemma Sound.next_ne (hs : s.Sound) {c : Companion} (hc : s.companion = some c) :
    s.listeners.next ≠ c.stamper ∧ s.listeners.next ≠ c.loader := by
  have hspare := hs.companion_spare c hc
  exact ⟨hspare.1.1.ne', hspare.2.1.ne'⟩

/-! ## The parts of a start -/

lemma alike_configure (s : Session) : Alike s s.configure.2 := ⟨rfl, rfl, rfl, rfl, rfl, rfl⟩

lemma moves_installStamper (s : Session) (settings : Settings) :
    Moves s (s.installStamper settings).2 := by
  have hlog : Moves s _ := ((alike_logAll s (cookiesOrNone s.page).2).trans (alike_logAll _
    [(Token.Stamp.make (cookiesOrNone s.page).1 settings.token).2])).moves
  exact hlog.tail (.listen .window (by simp [Reaction.kind]) (by simp))

lemma lasts_installStamper (hs : s.Sound) (settings : Settings) :
    (s.installStamper settings).2.Lasts (s.installStamper settings).1 .window
      (.stamp (Token.Stamp.make (cookiesOrNone s.page).1 settings.token).1) := by
  have hlogged := hs.of_alike ((alike_logAll s (cookiesOrNone s.page).2).trans (alike_logAll _
    [(Token.Stamp.make (cookiesOrNone s.page).1 settings.token).2]))
  exact Lasts.of_listen hlogged .window _

lemma moves_scan_installRoster (s : Session) (settings : Settings) :
    Moves s ((s.openRoster settings.selector).2.scanReporting s.rosters.length
      "copy-on-click").2 := by
  refine .head (.openRoster s settings.selector) (moves_scanReporting ?_ _)
  simp [openRoster]

lemma installRoster_lt (s : Session) (settings : Settings) :
    (s.installRoster settings).1.1 < (s.installRoster settings).2.rosters.length := by
  have hlength := length_rosters_scanReporting (s.openRoster settings.selector).2
    s.rosters.length "copy-on-click"
  have hlt : s.rosters.length < (s.openRoster settings.selector).2.rosters.length := by
    simp [openRoster]
  exact hlt.trans_eq hlength.symm

lemma moves_installRoster (s : Session) (settings : Settings) :
    Moves s (s.installRoster settings).2 := by
  refine (moves_scan_installRoster s settings).tail (.listen .document (by simp [Reaction.kind])
    fun r hr => ?_)
  rw [← Reaction.rescan.inj hr]
  exact installRoster_lt s settings

lemma lasts_installRoster (hs : s.Sound) (settings : Settings) :
    (s.installRoster settings).2.Lasts (s.installRoster settings).1.2 .document
      (.rescan (s.installRoster settings).1.1) :=
  Lasts.of_listen (hs.of_moves (moves_scan_installRoster s settings)) .document _

/-- The listeners that are installed are not those of the companion there is. -/
lemma installStamper_ne (hs : s.Sound) (settings : Settings) {c : Companion}
    (hc : s.companion = some c) :
    (s.installStamper settings).1 ≠ c.stamper ∧ (s.installStamper settings).1 ≠ c.loader :=
  hs.next_ne hc

lemma installRoster_ne (hs : s.Sound) (settings : Settings) {c : Companion}
    (hc : s.companion = some c) :
    (s.installRoster settings).1.2 ≠ c.stamper ∧ (s.installRoster settings).1.2 ≠ c.loader := by
  have hscanned := moves_scan_installRoster s settings
  exact (hs.of_moves hscanned).next_ne ((companion_of_moves hscanned).trans hc)

lemma moves_adopt (s : Session) (c : Companion) : Moves (s.handOver c) (s.adopt c) := by
  rw [handOver, adopt]
  cases s.companion with
  | none => exact .refl
  | some old => exact moves_sweep _

/-! ## A start -/

/-- The session when a new companion is ready, and the companion. -/
def readied (s : Session) : Session × Companion :=
  let configured := s.configure
  let stamping := configured.2.installStamper configured.1
  let rostered := stamping.2.installRoster configured.1
  (rostered.2.logAll
      [⟨.info, readyMessage configured.1 (rostered.2.roster rostered.1.1).size⟩],
    ⟨rostered.1.1, stamping.1, rostered.1.2⟩)

lemma start_eq (s : Session) : s.start = s.readied.1.adopt s.readied.2 := rfl

/-- What is ready to take over is moves away, and has new listeners. -/
lemma readied_spec (hs : s.Sound) :
    Moves s s.readied.1 ∧ s.readied.2.roster < s.readied.1.rosters.length ∧
      s.readied.1.Lasts s.readied.2.stamper .window (.stamp s.freshStamp) ∧
      s.readied.1.Lasts s.readied.2.loader .document (.rescan s.readied.2.roster) ∧
      ∀ old, s.readied.1.companion = some old →
        (s.readied.2.stamper ≠ old.stamper ∧ s.readied.2.stamper ≠ old.loader) ∧
          s.readied.2.loader ≠ old.stamper ∧ s.readied.2.loader ≠ old.loader := by
  obtain ⟨settings, hsettings⟩ : ∃ settings, settings = s.configure.1 := ⟨_, rfl⟩
  obtain ⟨configured, hconfigured⟩ : ∃ u, u = s.configure.2 := ⟨_, rfl⟩
  obtain ⟨stamping, hstamping⟩ : ∃ u, u = configured.installStamper settings := ⟨_, rfl⟩
  obtain ⟨rostered, hrostered⟩ : ∃ u, u = stamping.2.installRoster settings := ⟨_, rfl⟩
  obtain ⟨ready, hready⟩ : ∃ u, u = rostered.2.logAll
    [⟨.info, readyMessage settings (rostered.2.roster rostered.1.1).size⟩] := ⟨_, rfl⟩
  have hreadied : s.readied = (ready, ⟨rostered.1.1, stamping.1, rostered.1.2⟩) := by
    subst hready hrostered hstamping hconfigured hsettings
    rfl
  have hfresh : s.freshStamp
      = (Token.Stamp.make (cookiesOrNone configured.page).1 settings.token).1 := by
    subst hconfigured hsettings
    rfl
  -- each part is moves, and keeps the session sound
  have hm₁ : Moves s configured := hconfigured ▸ (alike_configure s).moves
  have hs₁ : configured.Sound := hs.of_moves hm₁
  have hm₂ : Moves configured stamping.2 := hstamping ▸ moves_installStamper configured settings
  have hs₂ : stamping.2.Sound := hs₁.of_moves hm₂
  have hm₃ : Moves stamping.2 rostered.2 := hrostered ▸ moves_installRoster stamping.2 settings
  have hs₃ : rostered.2.Sound := hs₂.of_moves hm₃
  have hm₄ : Moves rostered.2 ready := hready ▸ (alike_logAll rostered.2 _).moves
  have hstamper : stamping.2.Lasts stamping.1 .window (.stamp s.freshStamp) := by
    rw [hfresh, hstamping]
    exact lasts_installStamper hs₁ settings
  have hloader : rostered.2.Lasts rostered.1.2 .document (.rescan rostered.1.1) := by
    rw [hrostered]
    exact lasts_installRoster hs₂ settings
  rw [hreadied]
  refine ⟨hm₁.trans (hm₂.trans (hm₃.trans hm₄)), ?_, ?_, ?_, ?_⟩
  · rw [hready, rosters_logAll, hrostered]
    exact installRoster_lt stamping.2 settings
  · exact hstamper.of_moves hs₂ (by simp [Reaction.kind]) (hm₃.trans hm₄)
  · exact hloader.of_moves hs₃ (by simp [Reaction.kind]) hm₄
  · intro old hold
    have hc₂ : stamping.2.companion = some old := by
      rw [← hold, companion_of_moves (hm₃.trans hm₄)]
    have hc₁ : configured.companion = some old := by
      rw [← hc₂, companion_of_moves hm₂]
    refine ⟨?_, ?_⟩
    · rw [hstamping]
      exact installStamper_ne hs₁ settings hc₁
    · rw [hrostered]
      exact installRoster_ne hs₂ settings hc₂

/-- Once the new companion has taken over, the rest of a start is moves. -/
lemma moves_start (s : Session) : Moves (s.readied.1.handOver s.readied.2) s.start := by
  rw [start_eq]
  exact moves_adopt _ _

lemma Sound.of_handOver (hs : s.Sound) {c : Companion} {stamp : Token.Stamp}
    (hroster : c.roster < s.rosters.length) (hstamper : s.Lasts c.stamper .window (.stamp stamp))
    (hloader : s.Lasts c.loader .document (.rescan c.roster)) : (s.handOver c).Sound := by
  refine hs.handOver hroster (hstamper.spare hs (by simp [Reaction.kind]))
    (hloader.spare hs (by simp [Reaction.kind])) fun k hk => ⟨?_, ?_⟩
  · rintro rfl
    exact hstamper.free hk
  · rintro rfl
    exact hloader.free hk

lemma companion_handOver (s : Session) (c : Companion) : (s.handOver c).companion = some c := by
  rw [handOver]
  cases s.companion <;> rfl

/-- The session is sound when the new companion has taken over. -/
lemma Sound.handOver_readied (hs : s.Sound) : (s.readied.1.handOver s.readied.2).Sound := by
  obtain ⟨hst, hroster, hstamper, hloader, -⟩ := readied_spec hs
  exact (hs.of_moves hst).of_handOver hroster hstamper hloader

lemma Sound.start (hs : s.Sound) : s.start.Sound :=
  hs.handOver_readied.of_moves (moves_start s)

/-! ## Runs -/

/-- **A step keeps a session sound.** -/
theorem Sound.step (hs : s.Sound) (a : Step) : (s.step a).2.Sound := by
  by_cases ha : a = .start
  · subst ha
    exact hs.start
  · exact hs.of_moves (moves_step hs ha)

/-- Nothing is on the page, so there is nothing to match. -/
lemma sound_onPage (p : Page) : (onPage p).Sound where
  matched := matched_empty
  rescan_lt := by simp [onPage]
  slot_lt := by simp [onPage]
  handle_lendable := by simp [onPage]
  companion_lt := by simp [onPage]
  companion_spare := by simp [onPage]
  balanced _ := rfl

lemma Sound.steps (hs : s.Sound) (l : List Step) : (s.steps l).Sound := by
  induction l generalizing s with
  | nil => exact hs
  | cons a l ih => exact ih (hs.step a)

/-- **Every run leaves a sound session.** -/
theorem sound_steps (p : Page) (l : List Step) : ((onPage p).steps l).Sound :=
  (sound_onPage p).steps l

namespace Serving

variable {c : Companion} {stamp : Token.Stamp}

lemma of_moves (h : s.Serving c stamp) (hs : s.Sound) (hm : Moves s t) : t.Serving c stamp where
  companion_eq := (companion_of_moves hm).trans h.companion_eq
  stamper := h.stamper.of_moves hs (by simp [Reaction.kind]) hm
  loader := h.loader.of_moves hs (by simp [Reaction.kind]) hm

/-- The companion that a start leaves has the stamp that the start made. -/
lemma exists_of_start (hs : s.Sound) : ∃ c, s.start.Serving c s.freshStamp := by
  obtain ⟨-, -, hstamper, hloader, hne⟩ := readied_spec hs
  have hover : (s.readied.1.handOver s.readied.2).Serving s.readied.2 s.freshStamp := by
    refine ⟨companion_handOver _ _, hstamper.handOver (fun old hold => (hne old hold).1) _, ?_⟩
    exact hloader.handOver (fun old hold => (hne old hold).2) _
  exact ⟨s.readied.2, hover.of_moves hs.handOver_readied (moves_start s)⟩

/-- The listeners of a companion last until the next start. -/
lemma steps (h : s.Serving c stamp) (hs : s.Sound) {l : List Step} (hl : .start ∉ l) :
    (s.steps l).Serving c stamp := by
  induction l generalizing s with
  | nil => exact h
  | cons a l ih =>
    have ha : a ≠ .start := fun ha => hl (by simp [ha])
    exact ih (h.of_moves hs (moves_step hs ha)) (hs.step a) fun hmem => hl (by simp [hmem])

end Serving

end Session

end PageCompanion.Live
