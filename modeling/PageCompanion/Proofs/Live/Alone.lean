/-
# Pages that only the companion works on

As long as no script opens a roster of its own, the companion's roster is the only one with inputs
on it: the listener that scans it is the only one that scans, and a start that replaces the
companion releases the inputs of the roster before.  So no input has two click listeners, however
often the companion was started.
-/
import PageCompanion.Proofs.Live.Clicking

namespace PageCompanion.Live

open Dom (Page Place Spot)
open Script (Value)

namespace Session

variable {s t u : Session}

/-- Only the companion's roster has entries, only the companion's listener scans a roster, and it
scans that one; scripts hold no roster. -/
structure Alone (s : Session) : Prop where
  slots : ∀ id, some id ∉ s.slots
  rescans : ∀ l ∈ s.listeners.live, ∀ r, l.reaction = .rescan r →
    ∃ c, s.companion = some c ∧ c.roster = r ∧ c.loader = l.id
  entries : ∀ id, (s.roster id).entries ≠ [] → ∃ c, s.companion = some c ∧ c.roster = id

/-- What may be done on such a page: no listener comes that scans, no script gets a roster, and no
roster but the companion's takes inputs. -/
structure Tended (s t : Session) : Prop where
  slots : ∀ id, some id ∈ t.slots → some id ∈ s.slots
  companion : t.companion = s.companion
  rescans : ∀ l ∈ t.listeners.live, ∀ r, l.reaction = .rescan r → l ∈ s.listeners.live
  entries : ∀ id, (t.roster id).entries ≠ [] → (s.roster id).entries ≠ [] ∨
    ∃ c, s.companion = some c ∧ c.roster = id

lemma Tended.refl (s : Session) : Tended s s :=
  ⟨fun _ h => h, rfl, fun _ hl _ _ => hl, fun _ h => Or.inl h⟩

lemma Tended.trans (h : Tended s t) (h' : Tended t u) : Tended s u where
  slots id hid := h.slots id (h'.slots id hid)
  companion := h'.companion.trans h.companion
  rescans l hl r hr := h.rescans l (h'.rescans l hl r hr) r hr
  entries id hid := by
    rcases h'.entries id hid with hid | ⟨c, hc, hroster⟩
    · exact h.entries id hid
    · rw [h.companion] at hc
      exact Or.inr ⟨c, hc, hroster⟩

lemma Alone.of_tended (h : s.Alone) (hst : Tended s t) : t.Alone where
  slots id hid := h.slots id (hst.slots id hid)
  rescans l hl r hr := by
    rw [hst.companion]
    exact h.rescans l (hst.rescans l hl r hr) r hr
  entries id hid := by
    rw [hst.companion]
    rcases hst.entries id hid with hid | hid
    · exact h.entries id hid
    · exact hid

lemma alone_onPage (p : Page) : (onPage p).Alone :=
  ⟨by simp [onPage], by simp [onPage], fun id hid => absurd rfl hid⟩

/-! ## Moves -/

lemma tended_of_alike (h : Alike s t) : Tended s t where
  slots id hid := h.slots ▸ hid
  companion := h.companion
  rescans l hl _ _ := h.listeners ▸ hl
  entries id hid := by
    rw [roster, h.rosters] at hid
    exact Or.inl hid

/-- The listeners may change as long as none comes that scans. -/
lemma tended_of_listeners (s : Session) {ls : Listeners}
    (h : ∀ l ∈ ls.live, ∀ r, l.reaction = .rescan r → l ∈ s.listeners.live) :
    Tended s { s with listeners := ls } :=
  ⟨fun _ hid => hid, rfl, h, fun _ hid => Or.inl hid⟩

lemma tended_of_handles (s : Session) (handles : List (Option ℕ)) :
    Tended s { s with handles } :=
  ⟨fun _ hid => hid, rfl, fun _ hl _ _ => hl, fun _ hid => Or.inl hid⟩

lemma tended_unlisten (s : Session) (k : ℕ) : Tended s (s.unlisten k) :=
  tended_of_listeners s fun _ hl _ _ => (Listeners.mem_live_remove.mp hl).1

lemma tended_listen (s : Session) (place : Place) (stamp : Token.Stamp) :
    Tended s (s.listen place (.stamp stamp)).2 := by
  refine tended_of_listeners s fun l hl r hr => ?_
  rcases Listeners.mem_live_add.mp hl with hl | rfl
  · exact hl
  · exact absurd hr (by simp)

/-- Listeners that came are click listeners. -/
lemma mem_of_clicksOnly {ls ls' : Listeners} (h : ClicksOnly ls ls') {l : Listener}
    (hl : l ∈ ls'.live) {r : ℕ} (hr : l.reaction = .rescan r) : l ∈ ls.live := by
  rcases h.of_mem l hl with hl | ⟨-, hkind⟩
  · exact hl
  · rw [hr] at hkind
    exact absurd hkind (by simp [Reaction.kind])

lemma roster_scan_of_ne {id j : ℕ} (hj : j ≠ id) : (s.scan id).2.roster j = s.roster j := by
  simp only [scan, roster, rosters_logAll, setRoster, List.getElem?_set_ne (Ne.symm hj)]

lemma roster_releaseUnused_of_ne {id j : ℕ} (hj : j ≠ id) :
    (s.releaseUnused id).roster j = s.roster j := by
  rw [releaseUnused]
  split_ifs
  · rfl
  · simp only [roster, setRoster, List.getElem?_set_ne (Ne.symm hj)]

/-- What is released is released entirely. -/
lemma entries_releaseUnused_self {id : ℕ} (h : s.inUse id = false) :
    ((s.releaseUnused id).roster id).entries = [] := by
  rw [releaseUnused, if_neg (by simp [h])]
  rcases lt_or_ge id s.rosters.length with hlt | hge
  · rw [roster_setRoster hlt, Function.update_self, Roster.entries_clear]
  · exact roster_of_length_le (by simpa [setRoster] using hge)

/-- Scanning is for the companion's roster. -/
lemma tended_scan (hs : s.Sound) {c : Companion} (hc : s.companion = some c) :
    Tended s (s.scan c.roster).2 where
  slots _ hid := hid
  companion := rfl
  rescans _ hl _ hr :=
    mem_of_clicksOnly (hs.matched.clicksOnly_scan rfl s.page) hl hr
  entries id hid := by
    by_cases hroster : c.roster = id
    · exact Or.inr ⟨c, hc, hroster⟩
    · rw [roster_scan_of_ne (Ne.symm hroster)] at hid
      exact Or.inl hid

lemma tended_scanReporting (hs : s.Sound) {c : Companion} (hc : s.companion = some c)
    (heading : String) : Tended s (s.scanReporting c.roster heading).2 :=
  (tended_scan hs hc).trans (tended_of_alike (alike_scanReporting s c.roster heading))

lemma tended_releaseUnused (hs : s.Sound) (id : ℕ) : Tended s (s.releaseUnused id) := by
  cases hused : s.inUse id with
  | true =>
    rw [releaseUnused, if_pos hused]
    exact .refl s
  | false =>
    have hclicks : ClicksOnly s.listeners ((s.roster id).clear s.listeners).2 :=
      hs.matched.clicksOnly_keep rfl _
    refine ⟨fun j hj => ?_, ?_, fun l hl r hr => ?_, fun j hj => ?_⟩
    · rw [releaseUnused, if_neg (by simp [hused])] at hj
      exact hj
    · rw [releaseUnused, if_neg (by simp [hused])]
      rfl
    · rw [releaseUnused, if_neg (by simp [hused])] at hl
      exact mem_of_clicksOnly hclicks hl hr
    · by_cases hjid : j = id
      · rw [hjid, entries_releaseUnused_self hused] at hj
        exact absurd rfl hj
      · rw [roster_releaseUnused_of_ne hjid] at hj
        exact Or.inl hj

lemma tended_foldl_releaseUnused (hs : s.Sound) {ids : List ℕ}
    (hids : ∀ id ∈ ids, id < s.rosters.length) : Tended s (ids.foldl releaseUnused s) := by
  induction ids generalizing s with
  | nil => exact .refl s
  | cons id ids ih =>
    have hid := hids id List.mem_cons_self
    refine (tended_releaseUnused hs id).trans (ih (hs.releaseUnused hid) fun j hj => ?_)
    rw [length_rosters_releaseUnused]
    exact hids j (List.mem_cons_of_mem id hj)

lemma tended_sweep (hs : s.Sound) : Tended s s.sweep :=
  tended_foldl_releaseUnused hs fun _ hid => List.mem_range.mp hid

/-! ## Events -/

lemma tended_react (hs : s.Sound) (h : s.Alone) (k : ℕ) (detail : Option Value) :
    Tended s (s.react k detail).1 := by
  rw [react]
  cases hl : s.listeners.find? k with
  | none => exact .refl s
  | some l =>
    have hlive := (hs.matched.find?_eq_some_iff.mp hl).1
    simp only
    cases hreaction : l.reaction with
    | stamp stamp =>
      refine (tended_of_listeners s fun l' hl' r hr => ?_).trans
        (tended_of_alike (alike_logAll _ _))
      rcases Listeners.mem_live_setReaction.mp hl' with ⟨hl', -⟩ | ⟨l₀, -, -, rfl⟩
      · exact hl'
      · exact absurd hr (by simp)
    | rescan roster =>
      obtain ⟨c, hc, rfl, -⟩ := h.rescans l hlive roster hreaction
      exact tended_scanReporting hs hc _
    | copy owner input => exact tended_of_alike (alike_copyInput s input)

lemma tended_reactAll (hs : s.Sound) (h : s.Alone) (ks : List ℕ) (detail : Option Value) :
    Tended s (s.reactAll detail ks).1 := by
  induction ks generalizing s detail with
  | nil => exact .refl s
  | cons k ks ih =>
    have hfirst := tended_react hs h k detail
    exact hfirst.trans (ih (hs.of_moves (moves_react hs k detail)) (h.of_tended hfirst) _)

/-! ## Steps -/

lemma slot?_eq_none (h : s.Alone) (slot : ℕ) : s.slot? slot = none := by
  rw [Option.eq_none_iff_forall_ne_some]
  exact fun id hid => h.slots id (mem_of_join hid)

/-- **Without rosters of scripts every step but a start tends the companion's.** -/
theorem tended_step (hs : s.Sound) (h : s.Alone) {a : Step} (hstart : a ≠ .start)
    (hopen : ∀ selector, a ≠ .openRoster selector) : Tended s (s.step a).2 := by
  cases a with
  | change c => exact tended_of_alike ⟨rfl, rfl, rfl, rfl, rfl, rfl⟩
  | click spot => exact tended_reactAll hs h _ _
  | load spot => exact tended_reactAll hs h _ _
  | request spot detail => exact tended_reactAll hs h _ _
  | plainRequest spot => exact tended_reactAll hs h _ _
  | tick => exact tended_of_alike (alike_tick s)
  | start => exact absurd rfl hstart
  | rescan =>
    rw [step, rescan]
    cases hc : s.companion with
    | none => exact .refl s
    | some c => exact tended_scanReporting hs hc _
  | readPairs => exact .refl s
  | readSettings => exact tended_of_alike (alike_logAll s _)
  | readCookies => exact .refl s
  | stamp spot raw names =>
    have hlog := tended_of_alike (alike_logAll s
      [(Token.Stamp.make (Cookie.Jar.parse raw) names).2])
    exact (hlog.trans (tended_listen _ (s.page.place spot) _)).trans (tended_of_handles _ _)
  | drop handle =>
    rw [step]
    cases hk : s.handles[handle]?.join with
    | none => exact .refl s
    | some k =>
      have hlet : Tended s ({ s with handles := s.handles.set handle none }.unlisten k) :=
        (tended_of_handles s _).trans (tended_unlisten _ k)
      exact hlet.trans (tended_sweep (hs.of_move (.letGo hk)))
  | openRoster selector => exact absurd rfl (hopen selector)
  | dropRoster slot =>
    have hleave : Tended s { s with slots := s.slots.set slot none } :=
      ⟨fun _ hid => mem_of_mem_set_none hid, rfl, fun _ hl _ _ => hl, fun _ hid => Or.inl hid⟩
    exact hleave.trans (tended_sweep (hs.of_move (.leaveSlot s slot)))
  | scan slot =>
    rw [step, slot?_eq_none h]
    exact .refl s
  | listen slot spot =>
    rw [step, slot?_eq_none h]
    exact .refl s
  | size slot =>
    rw [step, slot?_eq_none h]
    exact .refl s
  | stateOf slot spot =>
    rw [step, slot?_eq_none h]
    exact .refl s
  | copy spot =>
    rw [step]
    cases s.page.node? spot with
    | none => exact .refl s
    | some n =>
      simp only
      split_ifs
      · exact tended_of_alike (alike_copyInput s n)
      · exact .refl s
  | write text => exact tended_of_alike ⟨rfl, rfl, rfl, rfl, rfl, rfl⟩
  | describe value => exact .refl s

/-! ## Releasing what the old companion had -/

/-- No listener scans any roster but the companion's, and scripts hold none. -/
structure Reserved (s : Session) (c : Companion) : Prop where
  slots : ∀ id, some id ∉ s.slots
  companion : s.companion = some c
  rescans : ∀ l ∈ s.listeners.live, ∀ r, l.reaction = .rescan r → c.roster = r ∧ c.loader = l.id

lemma Reserved.of_tended {c : Companion} (h : s.Reserved c) (hst : Tended s t) : t.Reserved c where
  slots id hid := h.slots id (hst.slots id hid)
  companion := hst.companion.trans h.companion
  rescans l hl r hr := h.rescans l (hst.rescans l hl r hr) r hr

/-- Any other roster is not in use. -/
lemma Reserved.inUse_eq_false {c : Companion} (h : s.Reserved c) {id : ℕ} (hid : c.roster ≠ id) :
    s.inUse id = false := by
  rw [inUse, Bool.or_eq_false_iff, Bool.or_eq_false_iff]
  refine ⟨⟨by simpa using h.slots id, ?_⟩, ?_⟩
  · rw [h.companion]
    simpa using hid
  · rw [List.any_eq_false]
    intro l hl hat
    split at hat
    · rename_i r hr
      exact hid ((h.rescans l hl r hr).1.trans (by simpa using hat))
    · exact absurd hat (by simp)

lemma Reserved.entries_foldl {c : Companion} (h : s.Reserved c) (hs : s.Sound) {ids : List ℕ}
    (hids : ∀ id ∈ ids, id < s.rosters.length) {id : ℕ} (hid : c.roster ≠ id)
    (hrelease : id ∈ ids ∨ (s.roster id).entries = []) :
    ((ids.foldl releaseUnused s).roster id).entries = [] := by
  induction ids generalizing s with
  | nil => exact hrelease.resolve_left (by simp)
  | cons j ids ih =>
    have hj := hids j List.mem_cons_self
    refine ih (h.of_tended (tended_releaseUnused hs j)) (hs.releaseUnused hj) (fun k hk => ?_) ?_
    · rw [length_rosters_releaseUnused]
      exact hids k (List.mem_cons_of_mem j hk)
    · by_cases hjid : id = j
      · rw [← hjid]
        exact Or.inr (entries_releaseUnused_self (h.inUse_eq_false hid))
      · rw [roster_releaseUnused_of_ne hjid]
        exact hrelease.imp_left fun hmem => (List.mem_cons.mp hmem).resolve_left hjid

/-- When what is not in use has been released, only the companion's roster has entries. -/
lemma Reserved.alone_sweep {c : Companion} (h : s.Reserved c) (hs : s.Sound) :
    s.sweep.Alone := by
  have hswept : s.sweep.Reserved c := h.of_tended (tended_sweep hs)
  refine ⟨hswept.slots, fun l hl r hr => ?_, fun id hid => ⟨c, hswept.companion, ?_⟩⟩
  · exact ⟨c, hswept.companion, hswept.rescans l hl r hr⟩
  · by_contra hne
    refine hid (h.entries_foldl hs (fun _ hj => List.mem_range.mp hj) hne ?_)
    rcases lt_or_ge id s.rosters.length with hlt | hge
    · exact Or.inl (List.mem_range.mpr hlt)
    · exact Or.inr (roster_of_length_le hge)

/-! ## Starting -/

/-- A companion that is about to take over has its roster and its loader beside those that there
are. -/
structure Awaiting (s : Session) (c : Companion) : Prop where
  slots : ∀ id, some id ∉ s.slots
  rescans : ∀ l ∈ s.listeners.live, ∀ r, l.reaction = .rescan r →
    (c.roster = r ∧ c.loader = l.id) ∨ ∃ old, s.companion = some old ∧ old.loader = l.id
  entries : ∀ id, (s.roster id).entries ≠ [] →
    c.roster = id ∨ ∃ old, s.companion = some old ∧ old.roster = id

lemma Awaiting.of_alike {c : Companion} (h : s.Awaiting c) (hst : Alike s t) : t.Awaiting c where
  slots id hid := h.slots id (hst.slots ▸ hid)
  rescans l hl r hr := by
    rw [hst.companion]
    exact h.rescans l (hst.listeners ▸ hl) r hr
  entries id hid := by
    rw [hst.companion]
    rw [roster, hst.rosters] at hid
    exact h.entries id hid

/-- A companion whose roster is scanned goes on awaiting. -/
lemma Awaiting.scan {c : Companion} (h : s.Awaiting c) (hs : s.Sound) :
    (s.scan c.roster).2.Awaiting c where
  slots := h.slots
  rescans l hl r hr :=
    h.rescans l (mem_of_clicksOnly (hs.matched.clicksOnly_scan rfl s.page) hl hr) r hr
  entries id hid := by
    by_cases hroster : c.roster = id
    · exact Or.inl hroster
    · rw [roster_scan_of_ne (Ne.symm hroster)] at hid
      exact h.entries id hid

/-- A new roster is opened and scanned, and a listener installed that scans it. -/
lemma Alone.awaiting_installRoster (h : s.Alone) (hs : s.Sound) (settings : Settings)
    (stamper : ℕ) : (s.installRoster settings).2.Awaiting
      ⟨(s.installRoster settings).1.1, stamper, (s.installRoster settings).1.2⟩ := by
  obtain ⟨opened, hopened⟩ : ∃ u, u = (s.openRoster settings.selector).2 := ⟨_, rfl⟩
  obtain ⟨scanned, hscanned⟩ : ∃ u, u = (opened.scanReporting s.rosters.length "copy-on-click").2 :=
    ⟨_, rfl⟩
  have hinstalled : s.installRoster settings = ((s.rosters.length, scanned.listeners.next),
      (scanned.listen .document (.rescan s.rosters.length)).2) := by
    subst hscanned hopened
    rfl
  have hsound : opened.Sound := hopened ▸ hs.openRoster _
  -- the loader is not installed yet, but has its number already
  have hopening : opened.Awaiting ⟨s.rosters.length, stamper, scanned.listeners.next⟩ := by
    rw [hopened]
    refine ⟨h.slots, fun l hl r hr => ?_, fun id hid => ?_⟩
    · obtain ⟨old, hold, -, hloader⟩ := h.rescans l hl r hr
      exact Or.inr ⟨old, hold, hloader⟩
    · rw [entries_openRoster] at hid
      exact Or.inr (h.entries id hid)
  have hscanning : scanned.Awaiting ⟨s.rosters.length, stamper, scanned.listeners.next⟩ := by
    nth_rewrite 1 [hscanned]
    exact (hopening.scan hsound).of_alike (alike_scanReporting opened _ _)
  rw [hinstalled]
  refine ⟨hscanning.slots, fun l hl r hr => ?_, hscanning.entries⟩
  rcases Listeners.mem_live_add.mp hl with hl | rfl
  · exact hscanning.rescans l hl r hr
  · exact Or.inl ⟨Reaction.rescan.inj hr, rfl⟩

lemma Alone.awaiting_readied (h : s.Alone) (hs : s.Sound) : s.readied.1.Awaiting s.readied.2 := by
  obtain ⟨settings, hsettings⟩ : ∃ settings, settings = s.configure.1 := ⟨_, rfl⟩
  obtain ⟨stamping, hstamping⟩ : ∃ u, u = s.configure.2.installStamper settings := ⟨_, rfl⟩
  have hconfigured : Tended s s.configure.2 := tended_of_alike (alike_configure s)
  have htended : Tended s stamping.2 := by
    rw [hstamping]
    have hlogs (v : Session) (a b : List Log.Record) : Tended v ((v.logAll a).logAll b) :=
      tended_of_alike ((alike_logAll v a).trans (alike_logAll _ b))
    exact (hconfigured.trans (hlogs _ _ _)).trans (tended_listen _ _ _)
  have hsound : stamping.2.Sound := by
    rw [hstamping]
    exact (hs.of_moves (alike_configure s).moves).of_moves (moves_installStamper _ _)
  have hawaiting := (h.of_tended htended).awaiting_installRoster hsound settings stamping.1
  have hreadied : s.readied = ((stamping.2.installRoster settings).2.logAll
      [⟨.info, readyMessage settings ((stamping.2.installRoster settings).2.roster
        (stamping.2.installRoster settings).1.1).size⟩],
      ⟨(stamping.2.installRoster settings).1.1, stamping.1,
        (stamping.2.installRoster settings).1.2⟩) := by
    subst hstamping hsettings
    rfl
  rw [hreadied]
  exact hawaiting.of_alike (alike_logAll _ _)

/-- Taking over, the new companion stays alone. -/
lemma Awaiting.alone_adopt {c : Companion} (h : s.Awaiting c) (hs : (s.handOver c).Sound) :
    (s.adopt c).Alone := by
  rw [adopt]
  rw [handOver] at hs
  cases hcompanion : s.companion with
  | none =>
    refine ⟨h.slots, fun l hl r hr => ⟨c, rfl, ?_⟩, fun id hid => ⟨c, rfl, ?_⟩⟩
    · refine (h.rescans l hl r hr).resolve_right ?_
      rintro ⟨old, hold, -⟩
      exact absurd (hcompanion.symm.trans hold) (by simp)
    · refine (h.entries id hid).resolve_right ?_
      rintro ⟨old, hold, -⟩
      exact absurd (hcompanion.symm.trans hold) (by simp)
  | some old =>
    rw [hcompanion] at hs
    refine Reserved.alone_sweep ⟨h.slots, rfl, fun l hl r hr => ?_⟩ hs
    -- the loader of the old companion is gone
    obtain ⟨hl, hloader⟩ := Listeners.mem_live_remove.mp hl
    obtain ⟨hl, -⟩ := Listeners.mem_live_remove.mp hl
    refine (h.rescans l hl r hr).resolve_right ?_
    rintro ⟨old', hold', hid⟩
    obtain rfl := Option.some.inj (hcompanion.symm.trans hold')
    exact hloader hid.symm

lemma Alone.start (h : s.Alone) (hs : s.Sound) : s.start.Alone := by
  rw [start_eq]
  exact (h.awaiting_readied hs).alone_adopt hs.handOver_readied

/-! ## Runs -/

lemma Alone.step (h : s.Alone) (hs : s.Sound) {a : Step}
    (hopen : ∀ selector, a ≠ .openRoster selector) : (s.step a).2.Alone := by
  by_cases ha : a = .start
  · subst ha
    exact h.start hs
  · exact h.of_tended (tended_step hs h ha hopen)

lemma Alone.steps (h : s.Alone) (hs : s.Sound) {l : List Step}
    (hopen : ∀ selector, .openRoster selector ∉ l) : (s.steps l).Alone := by
  induction l generalizing s with
  | nil => exact h
  | cons a l ih =>
    have ha : ∀ selector, a ≠ .openRoster selector := by
      rintro selector rfl
      exact hopen selector List.mem_cons_self
    exact ih (h.step hs ha) (hs.step a) fun selector hmem =>
      hopen selector (List.mem_cons_of_mem a hmem)

/-- **The companion is alone in every run in which no script opens a roster.** -/
theorem alone_steps (p : Page) {l : List Step} (hopen : ∀ selector, .openRoster selector ∉ l) :
    ((onPage p).steps l).Alone :=
  (alone_onPage p).steps (sound_onPage p) hopen

/-- The click listeners at an input are those of the companion's roster. -/
lemma Alone.copiers_eq (h : s.Alone) (hs : s.Sound) {c : Companion} (hc : s.companion = some c)
    (n : ℕ) : s.copiers n = s.clickListeners c.roster n := by
  refine List.filter_congr fun l hl => ?_
  rw [Bool.eq_iff_iff]
  simp only [Bool.and_eq_true, decide_eq_true_eq]
  refine and_congr_right fun _ => ⟨fun hkind => ?_, fun howner => ?_⟩
  · cases hreaction : l.reaction with
    | copy owner input =>
      have howner : l.reaction.owner? = some owner := by
        rw [hreaction]
        rfl
      obtain ⟨e, he, -, -⟩ := hs.matched.exists_entry hl howner
      obtain ⟨c', hc', hroster⟩ := h.entries owner (List.ne_nil_of_mem he)
      obtain rfl := Option.some.inj (hc.symm.trans hc')
      rw [Reaction.owner?, hroster]
    | _ =>
      rw [hreaction] at hkind
      exact absurd hkind (by simp [Reaction.kind])
  · obtain ⟨input, hreaction⟩ := Reaction.owner?_eq_some_iff.mp howner
    rw [hreaction]
    rfl

/-- **No input has two click listeners.** -/
theorem Alone.length_copiers_le (h : s.Alone) (hs : s.Sound) (n : ℕ) :
    (s.copiers n).length ≤ 1 := by
  cases hcopiers : s.copiers n with
  | nil => simp
  | cons l rest =>
    have hl : l ∈ s.copiers n := by
      rw [hcopiers]
      exact List.mem_cons_self
    obtain ⟨owner, hreaction⟩ := hs.reaction_of_mem_copiers hl
    have howner : l.reaction.owner? = some owner := by
      rw [hreaction]
      rfl
    obtain ⟨e, he, heq, -⟩ := hs.matched.exists_entry (List.mem_of_mem_filter hl) howner
    obtain ⟨c, hc, rfl⟩ := h.entries owner (List.ne_nil_of_mem he)
    have hinput : e.input = n := by
      rw [heq] at hreaction
      exact (Reaction.copy.inj hreaction).2
    obtain ⟨k, -, hone⟩ := hs.clickListeners_of_mem he
    rw [← hcopiers, h.copiers_eq hs hc, ← hinput, hone]
    simp

/-- A click listener at an input is the only one there. -/
lemma Alone.copiers_eq_singleton (h : s.Alone) (hs : s.Sound) {n : ℕ} {l : Listener}
    (hl : l ∈ s.copiers n) : s.copiers n = [l] := by
  have hone : (s.copiers n).length = 1 :=
    le_antisymm (h.length_copiers_le hs n) (List.length_pos_of_mem hl)
  obtain ⟨l', hl'⟩ := List.length_eq_one_iff.mp hone
  rw [hl', List.mem_singleton] at hl
  rw [hl', hl]

end Session

end PageCompanion.Live
