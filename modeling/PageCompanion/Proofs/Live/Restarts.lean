/-
# Starting again

Whatever a page is like, a start runs to its end, and the companion that it leaves takes the place
of the one before: all that listens for a companion is then the new one's, and it stays so until
the next start, as long as no script opens a roster or makes a stamp of its own.  `Started` says
what a start leaves and `Installed` how the session is served from then on.
-/
import PageCompanion.Proofs.Live.Gentle
import PageCompanion.Proofs.Live.Stampers

namespace PageCompanion.Live

open Dom (Page Place Spot)
open Script (Value)

namespace Session

variable {s t : Session}

/-! ## Rosters keep their selectors -/

lemma selector_attachAll (id : ℕ) (isInput : ℕ → Bool) (r : Roster) (ls : Listeners)
    (found : List ℕ) : (Roster.attachAll id isInput r ls found).2.1.selector = r.selector := by
  induction found generalizing r ls with
  | nil => rfl
  | cons n found ih =>
    rw [Roster.attachAll]
    split_ifs
    · exact ih r ls
    · exact ih r ls
    · exact ih _ _

lemma selector_scan (id : ℕ) (p : Page) (r : Roster) (ls : Listeners) :
    (r.scan id p ls).roster.selector = r.selector := by
  rw [Roster.scan]
  cases p.query r.selector with
  | error thrown => rfl
  | ok found => exact selector_attachAll id p.isInput _ _ found

lemma roster_scan_self {id : ℕ} (hid : id < s.rosters.length) :
    (s.scan id).2.roster id = ((s.roster id).scan id s.page s.listeners).roster := by
  simp only [scan, roster, rosters_logAll, setRoster, List.getElem?_set_self hid, Option.getD_some]

lemma selector_of_move {id : ℕ} (hid : id < s.rosters.length) (hm : Move s t) :
    id < t.rosters.length ∧ (t.roster id).selector = (s.roster id).selector := by
  cases hm with
  | aside h => rw [roster, roster, h.rosters]; exact ⟨hid, rfl⟩
  | @scan id' hid' =>
    refine ⟨by simpa [scan, setRoster] using hid, ?_⟩
    by_cases hne : id = id'
    · subst hne
      rw [roster_scan_self hid, selector_scan]
    · rw [roster_scan_of_ne hne]
  | @release id' hid' hfree =>
    refine ⟨by rwa [length_rosters_releaseUnused], ?_⟩
    by_cases hne : id = id'
    · subst hne
      rw [releaseUnused, if_neg (by simp [hfree]), roster_setRoster hid, Function.update_self]
      rfl
    · rw [roster_releaseUnused_of_ne hne]
  | openRoster selector =>
    refine ⟨by simp only [openRoster, List.length_append]; omega, ?_⟩
    simp only [roster, openRoster, List.getElem?_append_left hid]
  | _ => exact ⟨hid, rfl⟩

lemma selector_of_moves {id : ℕ} (hid : id < s.rosters.length) (hm : Moves s t) :
    (t.roster id).selector = (s.roster id).selector := by
  have h : id < t.rosters.length ∧ (t.roster id).selector = (s.roster id).selector := by
    induction hm with
    | refl => exact ⟨hid, rfl⟩
    | tail _ hmove ih =>
      obtain ⟨hlt, hselector⟩ := selector_of_move ih.1 hmove
      exact ⟨hlt, hselector.trans ih.2⟩
  exact h.2

lemma moves_steps (hs : s.Sound) {l : List Step} (hl : .start ∉ l) : Moves s (s.steps l) := by
  induction l generalizing s with
  | nil => exact .refl
  | cons a l ih =>
    have ha : a ≠ .start := fun ha => hl (by simp [ha])
    exact (moves_step hs ha).trans (ih (hs.step a) fun hmem => hl (List.mem_cons_of_mem a hmem))

/-! ## What taking over leaves -/

/-- What is not in use is released without a word, and the companion's roster is in use. -/
lemma releaseUnused_spares {c : Companion} (hc : s.companion = some c) (id : ℕ) :
    (s.releaseUnused id).companion = some c ∧
      (s.releaseUnused id).roster c.roster = s.roster c.roster ∧
      (s.releaseUnused id).log = s.log ∧ (s.releaseUnused id).threshold = s.threshold := by
  cases hused : s.inUse id with
  | true =>
    rw [releaseUnused, if_pos hused]
    exact ⟨hc, rfl, rfl, rfl⟩
  | false =>
    have hne : c.roster ≠ id := by
      rintro rfl
      simp [inUse, hc] at hused
    rw [roster_releaseUnused_of_ne hne, releaseUnused, if_neg (by simp [hused])]
    exact ⟨hc, rfl, rfl, rfl⟩

lemma sweep_spares {c : Companion} (hc : s.companion = some c) :
    s.sweep.roster c.roster = s.roster c.roster ∧ s.sweep.log = s.log ∧
      s.sweep.threshold = s.threshold := by
  rw [sweep]
  generalize List.range s.rosters.length = ids
  induction ids generalizing s with
  | nil => exact ⟨rfl, rfl, rfl⟩
  | cons id ids ih =>
    obtain ⟨hkept, hroster, hlog, hthreshold⟩ := releaseUnused_spares hc id
    obtain ⟨hrosters, hlogs, hthresholds⟩ := ih hkept
    exact ⟨hrosters.trans hroster, hlogs.trans hlog, hthresholds.trans hthreshold⟩

lemma adopt_spares (s : Session) (c : Companion) :
    (s.adopt c).roster c.roster = s.roster c.roster ∧ (s.adopt c).log = s.log ∧
      (s.adopt c).threshold = s.threshold := by
  rw [adopt]
  cases s.companion with
  | none => exact ⟨rfl, rfl, rfl⟩
  | some old => exact sweep_spares rfl

/-- The roster of a new companion is an empty one that was scanned. -/
lemma roster_installRoster (s : Session) (settings : Settings) :
    (s.installRoster settings).2.roster s.rosters.length
      = (Roster.scan s.rosters.length s.page { selector := settings.selector }
        s.listeners).roster := by
  obtain ⟨opened, hopened⟩ : ∃ u, u = (s.openRoster settings.selector).2 := ⟨_, rfl⟩
  have hlt : s.rosters.length < opened.rosters.length := by simp [hopened, openRoster]
  have hnew : opened.roster s.rosters.length = { selector := settings.selector } := by
    simp [hopened, roster, openRoster]
  have hrosters := (alike_scanReporting opened s.rosters.length "copy-on-click").rosters
  have hroster : (s.installRoster settings).2.roster s.rosters.length
      = (opened.scan s.rosters.length).2.roster s.rosters.length := by
    rw [roster, roster, ← hrosters, hopened]
    rfl
  rw [hroster, roster_scan_self hlt, hnew, hopened]
  rfl

/-! ## What a start leaves -/

/-- A start has run to its end: the last that is logged is that the new companion is ready.  Its
listeners and its roster are new, and the roster has the selector that the page asks for; if the
page throws on that selector, no input is attached. -/
structure Started (s t : Session) (c : Companion) : Prop where
  companion_eq : t.companion = some c
  ready : ∃ records, t.log = s.log ++ records ++
    [⟨⟨.info, readyMessage (readSettings s.page).1 (t.roster c.roster).size⟩,
      (readSettings s.page).1.logLevel⟩]
  threshold_eq : t.threshold = (readSettings s.page).1.logLevel
  stamper_new : s.listeners.next ≤ c.stamper
  loader_new : s.listeners.next ≤ c.loader
  roster_eq : c.roster = s.rosters.length
  selector_eq : (t.roster c.roster).selector = (readSettings s.page).1.selector
  entries_eq : ∀ thrown, s.page.query (readSettings s.page).1.selector = .error thrown →
    (t.roster c.roster).entries = []

lemma loader_installRoster (hs : s.Sound) (settings : Settings) :
    s.listeners.next ≤ (s.installRoster settings).1.2 := by
  obtain ⟨opened, hopened⟩ : ∃ u, u = (s.openRoster settings.selector).2 := ⟨_, rfl⟩
  have hsound : opened.Sound := hopened ▸ hs.openRoster _
  have hscan : ClicksOnly opened.listeners (opened.scan s.rosters.length).2.listeners :=
    hsound.matched.clicksOnly_scan rfl opened.page
  have hloader : (s.installRoster settings).1.2
      = (opened.scanReporting s.rosters.length "copy-on-click").2.listeners.next := by
    rw [hopened]
    rfl
  rw [hloader, (alike_scanReporting opened s.rosters.length "copy-on-click").listeners]
  have hnext : opened.listeners.next = s.listeners.next := by rw [hopened]; rfl
  exact hnext ▸ hscan.next_le

lemma log_installRoster (s : Session) (settings : Settings) :
    s.log <+: (s.installRoster settings).2.log :=
  (idle_scanReporting (s.openRoster settings.selector).2 s.rosters.length "copy-on-click").log

lemma log_stamping (s : Session) : s.log <+: s.stamping.log := by
  have hconfigure : s.log <+: s.configure.2.log := List.prefix_append _ _
  exact hconfigure.trans ((idle_logAll _ _).trans (idle_logAll _ _)).log

/-- Taking over, the new companion keeps the roster that the start has opened. -/
lemma roster_start (s : Session) :
    s.start.roster s.readied.2.roster
      = (s.stamping.installRoster (readSettings s.page).1).2.roster s.rosters.length := by
  have hroster : s.readied.2.roster = s.rosters.length := rfl
  rw [start_eq, (adopt_spares _ _).1, readied_fst, hroster, roster, rosters_logAll, ← roster]

lemma log_start (s : Session) :
    s.start.log = (s.stamping.installRoster (readSettings s.page).1).2.log ++
      [⟨⟨.info, readyMessage (readSettings s.page).1 (s.start.roster s.readied.2.roster).size⟩,
        (s.stamping.installRoster (readSettings s.page).1).2.threshold⟩] := by
  rw [roster_start, start_eq, (adopt_spares _ _).2.1, readied_fst, logAll, rosters_stamping]
  rfl

lemma threshold_start (hs : s.Sound) :
    s.start.threshold = (readSettings s.page).1.logLevel := by
  rw [start_eq, (adopt_spares _ _).2.2, readied_fst, (apart_logAll _ _).threshold,
    (apart_installRoster hs.stamping _).threshold, threshold_stamping]

/-- **Whatever the page is like, a start runs to its end.** -/
theorem started_start (hs : s.Sound) : Started s s.start s.readied.2 := by
  have hthreshold := (apart_installRoster hs.stamping (readSettings s.page).1).threshold
  have hscan := roster_installRoster s.stamping (readSettings s.page).1
  rw [rosters_stamping, page_stamping] at hscan
  refine ⟨companion_start s, ?_, threshold_start hs, le_refl _, ?_, rfl, ?_,
    fun thrown hthrown => ?_⟩
  · obtain ⟨records, hrecords⟩ :=
      (log_stamping s).trans (log_installRoster s.stamping (readSettings s.page).1)
    exact ⟨records, by rw [log_start, hthreshold, threshold_stamping, hrecords]⟩
  · have hle : s.listeners.next + 1 ≤ s.readied.2.loader :=
      loader_installRoster hs.stamping (readSettings s.page).1
    omega
  · rw [roster_start, hscan, selector_scan]
  · rw [roster_start, hscan, Roster.scan]
    simp only [hthrown, Roster.entries_keep, List.filter_nil]

/-! ## How a session is served -/

/-- All that listens for a companion is this one's: one listener that stamps requests at the
window, one that scans its roster at the document, and on each input one that copies it, or none.
No other roster has inputs.  So new content and calls bring its roster up to date, and a click
copies every input that it comes by once, if the input has a listener. -/
structure Installed (t : Session) (c : Companion) (stamp : Token.Stamp) : Prop where
  companion_eq : t.companion = some c
  stampers : t.listeners.live.filter (fun l => l.reaction.kind = .request)
    = [⟨c.stamper, .window, .stamp stamp⟩]
  loaders : t.listeners.live.filter (fun l => l.reaction.kind = .load)
    = [⟨c.loader, .document, .rescan c.roster⟩]
  copiers_le : ∀ n, (t.copiers n).length ≤ 1
  reaction_eq : ∀ n, ∀ l ∈ t.copiers n, l.reaction = .copy c.roster n
  roster_eq : ∀ id, (t.roster id).entries ≠ [] → id = c.roster
  load : ∀ spot, (t.step (.load spot)).2 =
    if .document ∈ t.page.path (t.page.place spot) then (t.scanReporting c.roster loadEvent).2
    else t
  rescan : t.step .rescan = (.count (t.scanReporting c.roster "copy-on-click rescan").1,
    (t.scanReporting c.roster "copy-on-click rescan").2)
  click : ∀ spot, (t.step (.click spot)).2.attempts.map Attempt.input
    = t.attempts.map Attempt.input ++
      ((t.page.path (t.page.place spot)).filterMap Place.node?).filter fun n => t.copiers n ≠ []
  nodup_path : ∀ spot, ((t.page.path (t.page.place spot)).filterMap Place.node?).Nodup

/-- An event comes by the only listener of its kind as often as by its place. -/
lemma along_of_filter_eq {kind : EventKind} {l : Listener}
    (h : s.listeners.live.filter (fun l => l.reaction.kind = kind) = [l]) (path : List Place) :
    s.listeners.along kind path = List.replicate (path.count l.place) l.id := by
  have hat (place : Place) :
      s.listeners.idsAt kind place = if l.place = place then [l.id] else [] := by
    have hfilter : s.listeners.live.filter (fun l => l.place = place && l.reaction.kind = kind)
        = [l].filter (·.place = place) := by
      rw [← h, List.filter_filter]
    rw [Listeners.idsAt, hfilter]
    by_cases hplace : l.place = place <;> simp [hplace]
  induction path with
  | nil => rfl
  | cons place path ih =>
    rw [Listeners.along, List.flatMap_cons, ← Listeners.along, ih, hat, List.count_cons]
    by_cases hplace : l.place = place
    · simp [hplace, List.replicate_succ]
    · simp [hplace, Ne.symm hplace]

/-- An event comes by the document once at most. -/
lemma count_document_path (p : Page) (target : Place) :
    (p.path target).count .document = if .document ∈ p.path target then 1 else 0 := by
  have hchain : ((target :: p.links.above target).eraseDups).count .document ≤ 1 :=
    List.nodup_iff_count_le_one.mp (nodup_eraseDups _) _
  have hcount : (p.path target).count .document ≤ 1 := by
    rw [Page.path]
    split_ifs
    · rw [List.count_append]
      exact hchain
    · exact hchain
  split_ifs with hmem
  · have hpos := List.count_pos_iff.mpr hmem
    omega
  · exact List.count_eq_zero_of_not_mem hmem

namespace Serving

variable {c : Companion} {stamp : Token.Stamp}

lemma filter_request (h : s.Serving c stamp) (hs : s.Sound) (hsole : s.Unrivalled) :
    ∃ st : Token.Stamp, st.jar = stamp.jar ∧ st.names = stamp.names ∧
      s.listeners.live.filter (fun l => l.reaction.kind = .request)
        = [⟨c.stamper, .window, .stamp st⟩] := by
  obtain ⟨⟨k, place, reaction⟩, hl, rfl, rfl, hlike⟩ := h.stamper.lives
  cases reaction with
  | stamp st =>
    refine ⟨st, hlike.1, hlike.2,
      filter_eq_singleton hs.matched.ids_nodup.of_map hl fun l' hl' => ?_⟩
    rw [decide_eq_true_iff]
    constructor
    · intro hkind
      obtain ⟨c', hc', hid⟩ := hsole l' hl' hkind
      obtain rfl := Option.some.inj (h.companion_eq.symm.trans hc')
      exact hs.matched.eq_of_id_eq hl' hl hid.symm
    · rintro rfl
      rfl
  | _ => exact Reaction.noConfusion hlike

lemma filter_load (h : s.Serving c stamp) (hs : s.Sound) (halone : s.Alone) :
    s.listeners.live.filter (fun l => l.reaction.kind = .load)
      = [⟨c.loader, .document, .rescan c.roster⟩] := by
  obtain ⟨⟨k, place, reaction⟩, hl, rfl, rfl, hlike⟩ := h.loader.lives
  cases reaction with
  | rescan roster =>
    obtain rfl : roster = c.roster := Reaction.rescan.inj hlike
    refine filter_eq_singleton hs.matched.ids_nodup.of_map hl fun l' hl' => ?_
    rw [decide_eq_true_iff]
    constructor
    · intro hkind
      cases hreaction : l'.reaction with
      | rescan roster' =>
        obtain ⟨c', hc', -, hid⟩ := halone.rescans l' hl' roster' hreaction
        obtain rfl := Option.some.inj (h.companion_eq.symm.trans hc')
        exact hs.matched.eq_of_id_eq hl' hl hid.symm
      | _ =>
        rw [hreaction] at hkind
        exact absurd hkind (by simp [Reaction.kind])
    · rintro rfl
      rfl
  | _ => exact Reaction.noConfusion hlike

end Serving

/-- The event after new content is for the one listener that scans. -/
lemma step_load_of_loaders {k id : ℕ} (hs : s.Sound)
    (h : s.listeners.live.filter (fun l => l.reaction.kind = .load) = [⟨k, .document, .rescan id⟩])
    (spot : Spot) : (s.step (.load spot)).2 =
      if .document ∈ s.page.path (s.page.place spot) then (s.scanReporting id loadEvent).2
      else s := by
  have hlive : ⟨k, .document, .rescan id⟩ ∈ s.listeners.live :=
    List.mem_of_mem_filter (h ▸ List.mem_singleton_self _)
  have hfind : s.listeners.find? k = some ⟨k, .document, .rescan id⟩ :=
    hs.matched.find?_eq_some_iff.mpr ⟨hlive, rfl⟩
  rw [step, dispatch, along_of_filter_eq h, count_document_path]
  split_ifs
  · rw [List.replicate_one, reactAll, react, hfind]
    rfl
  · rfl

/-- If no input has two listeners, a click copies each input that it comes by and that has one. -/
lemma clicked_eq (h : ∀ n, (s.copiers n).length ≤ 1) (spot : Spot) :
    s.clicked spot
      = ((s.page.path (s.page.place spot)).filterMap Place.node?).filter
        fun n => s.copiers n ≠ [] := by
  rw [clicked]
  induction (s.page.path (s.page.place spot)).filterMap Place.node? with
  | nil => rfl
  | cons n ns ih =>
    have hle := h n
    rw [List.flatMap_cons, ih, List.filter_cons]
    cases hcopiers : s.copiers n with
    | nil => simp
    | cons l rest =>
      rw [hcopiers, List.length_cons] at hle
      have hrest : rest = [] := List.length_eq_zero_iff.mp (by omega)
      simp [hrest]

lemma Serving.installed {c : Companion} {stamp : Token.Stamp} (h : s.Serving c stamp)
    (hs : s.Sound) (halone : s.Alone) (hsole : s.Unrivalled) :
    ∃ st : Token.Stamp, st.jar = stamp.jar ∧ st.names = stamp.names ∧ s.Installed c st := by
  obtain ⟨st, hjar, hnames, hstampers⟩ := h.filter_request hs hsole
  have hloaders := h.filter_load hs halone
  refine ⟨st, hjar, hnames, h.companion_eq, hstampers, hloaders, halone.length_copiers_le hs,
    fun n l hl => ?_, fun id hid => ?_, step_load_of_loaders hs hloaders, ?_, fun spot => ?_,
    fun spot => nodup_nodes_path s.page _⟩
  · obtain ⟨owner, hreaction⟩ := hs.reaction_of_mem_copiers hl
    rw [halone.copiers_eq hs h.companion_eq, clickListeners, List.mem_filter] at hl
    have howner : l.reaction.owner? = some c.roster := by simpa using (of_decide_eq_true hl.2).2
    rw [hreaction] at howner ⊢
    rw [Option.some.inj howner]
  · obtain ⟨c', hc', hroster⟩ := halone.entries id hid
    obtain rfl := Option.some.inj (h.companion_eq.symm.trans hc')
    exact hroster.symm
  · simp only [step, Session.rescan, h.companion_eq]
  · rw [← clicked_eq (halone.length_copiers_le hs)]
    have hgentle : Step.Gentle (.click spot) := trivial
    exact (gentle_step hs hgentle).2

end Session

/-- **However often the companion is started, one serves the page.**  Whatever the page is like,
each start runs to its end, whether or not the settings, the cookies and the selector can be read.
From then until the next start, whatever happens, one listener stamps requests and one scans for
inputs, and they are the new companion's; the stamp has the cookies of the page, or none if they
could not be read, and the names and the policy that the page asks for.  Every input has one click
listener or none, which is of the new companion's roster, so that a click copies each input that it
comes by once at most. -/
theorem one_companion_however_often_started (p : Page) (before after : List Session.Step)
    (hstart : .start ∉ after)
    (hstamp : ∀ spot raw names, .stamp spot raw names ∉ before ++ after)
    (hopen : ∀ selector, .openRoster selector ∉ before ++ after) :
    let s := (Session.onPage p).steps before
    let t := (s.step .start).2
    ∃ c stamp, Session.Started s t c ∧ (t.steps after).Installed c stamp ∧
      stamp.jar = (readCookies s.page).toOption.getD .empty ∧
      stamp.names = (readSettings s.page).1.token ∧
      ((t.steps after).roster c.roster).selector = (readSettings s.page).1.selector := by
  intro s t
  have hs : s.Sound := Session.sound_steps p before
  have ht : t.Sound := hs.step .start
  have hlast : t.steps after = (Session.onPage p).steps (before ++ .start :: after) := by
    rw [Session.steps_append]
    rfl
  have hsteps {a : Session.Step} (ha : a ≠ .start) (hmem : a ∉ before ++ after) :
      a ∉ before ++ .start :: after := by
    simp only [List.mem_append, List.mem_cons, not_or] at hmem ⊢
    exact ⟨hmem.1, ha, hmem.2⟩
  have halone : (t.steps after).Alone := by
    rw [hlast]
    exact Session.alone_steps p fun selector => hsteps (by simp) (hopen selector)
  have hsole : (t.steps after).Unrivalled := by
    rw [hlast]
    exact Session.unrivalled_steps p fun spot raw names => hsteps (by simp) (hstamp spot raw names)
  have hstarted : Session.Started s t s.readied.2 := Session.started_start hs
  obtain ⟨c, hserving⟩ := Session.Serving.exists_of_start hs
  obtain rfl := Option.some.inj (hserving.companion_eq.symm.trans hstarted.companion_eq)
  obtain ⟨stamp, hjar, hnames, hinstalled⟩ :=
    (hserving.steps ht hstart).installed (ht.steps after) halone hsole
  refine ⟨_, stamp, hstarted, hinstalled, hjar.trans ?_, hnames, ?_⟩
  · show (cookiesOrNone s.page).1 = _
    rw [cookiesOrNone]
    cases readCookies s.page <;> rfl
  · rw [← hstarted.selector_eq]
    exact Session.selector_of_moves (ht.companion_lt _ hstarted.companion_eq)
      (Session.moves_steps ht hstart)

/-- On a document that is no HTML document, and with a selector that cannot be read, a second start
still serves the page: requests are stamped without cookies, and calls and new content bring about
scans. -/
theorem one_companion_of_unreadable_page :
    let selector := "input["
    let before : List Session.Step :=
      [.change (.body (some [("data-hx-assist-widget-selector", selector)])), .start]
    let after : List Session.Step := [.rescan, .load .body]
    let s := (Session.onPage { isHtml := false }).steps before
    let t := (s.step .start).2
    (∃ stamp, (t.steps after).Installed ⟨1, 2, 3⟩ stamp ∧ stamp.jar = .empty) ∧
      (t.roster 1).entries = [] ∧ (t.steps after).turnovers.length = t.turnovers.length + 2 := by
  intro selector before after s t
  obtain ⟨c, stamp, hstarted, hinstalled, hjar, -⟩ :=
    one_companion_however_often_started { isHtml := false } before after (by simp [after])
      (by simp [before, after]) (by simp [before, after])
  have hc : t.companion = some ⟨1, 2, 3⟩ := by decide +kernel
  obtain rfl := Option.some.inj (hstarted.companion_eq.symm.trans hc)
  have hsettings : (readSettings s.page).1.selector = selector := by decide +kernel
  have hunread : Dom.Selector.ofText? selector = none :=
    Option.isNone_iff_eq_none.mp (by decide +kernel)
  have hquery : s.page.query selector = .error Page.selectorError := by
    rw [Page.query, hunread]
  have hhtml : s.page.isHtml = false := by decide +kernel
  have hcookies : readCookies s.page = .error .notHtml := by
    rw [readCookies, hhtml]
    rfl
  rw [hcookies] at hjar
  refine ⟨⟨stamp, hinstalled, hjar⟩, ?_, by decide +kernel⟩
  refine hstarted.entries_eq Page.selectorError ?_
  rw [hsettings]
  exact hquery

/-- A click on an input that stands below another copies both, if both have a listener. -/
theorem click_copies_nested_inputs :
    let outer := Dom.Element.make "outer" "input" [("data-copy-on-click", "")] "whole"
    let inner := Dom.Element.make "inner" "input" [("data-copy-on-click", "")] "part"
    let s := (Session.onPage {}).steps [.change (.create outer), .change (.create inner),
      .change (.append (.element "outer") .body),
      .change (.append (.element "inner") (.element "outer")), .start, .start]
    let t := (s.step (.click (.element "inner"))).2
    s.attempts = [] ∧ t.attempts.map (·.text) = ["part", "whole"] ∧
      t.page.calls.map (·.text) = ["part", "whole"] := by
  decide +kernel

end PageCompanion.Live
