/-
# Inputs that stay attached

Clicks, edits of values, changes of the clipboard, settled promises, tasks and scans leave the
tree of the page as it is.  Such steps are `Gentle`: they let an input keep its click listener, as
long as it is in the document when scans come by.  So on a page that only the companion works on, an
input that is attached is copied by every click that comes by it (`attempts_of_attached`).
-/
import PageCompanion.Proofs.Live.Alone
import PageCompanion.Proofs.Live.Outcomes

namespace PageCompanion.Live

open Dom (Page Place Spot)

/-! ## Paths -/

/-- An event comes by an element once at most. -/
lemma nodup_nodes_path (p : Page) (target : Place) :
    ((p.path target).filterMap Place.node?).Nodup := by
  have hchain : ((target :: p.links.above target).eraseDups.filterMap Place.node?).Nodup := by
    refine (nodup_eraseDups _).filterMap fun a a' n hn hn' => ?_
    cases a <;> cases a' <;> simp_all [Place.node?]
  rw [Page.path]
  split_ifs
  · have hwindow : [Place.window].filterMap Place.node? = [] := rfl
    rw [List.filterMap_append, hwindow, List.append_nil]
    exact hchain
  · exact hchain

lemma node_mem_path (p : Page) (n : ℕ) : .node n ∈ p.path (.node n) := by
  have hchain : .node n ∈ (Place.node n :: p.links.above (.node n)).eraseDups := by
    simp [List.mem_eraseDups]
  rw [Page.path]
  split_ifs
  · exact List.mem_append_left _ hchain
  · exact hchain

/-! ## Scans of a roster -/

namespace Matched

variable {entries : ℕ → List Entry} {ls : Listeners}

/-- The listener of an input that is kept stays. -/
lemma mem_keep (h : Matched entries ls) {id : ℕ} {r : Roster} (hr : r.entries = entries id)
    {keeps : ℕ → Bool} {l : Listener} (hl : l ∈ ls.live) {owner n : ℕ}
    (hcopy : l.reaction = .copy owner n) (hn : keeps n = true) : l ∈ (r.keep keeps ls).2.live := by
  rw [Roster.keep, foldl_unlatch, List.mem_filter, List.all_eq_true]
  refine ⟨hl, fun e he => ?_⟩
  rw [bne_iff_ne]
  intro hid
  -- the entry that is dropped would be the one of this listener
  obtain ⟨he, hdrop⟩ := List.mem_filter.mp he
  have hentry := h.entryFor?_of_mem (hr ▸ he) hl hid
  have hreaction := (entryFor?_eq_some_iff.mp hentry).1
  rw [hcopy] at hreaction
  rw [← (Reaction.copy.inj hreaction).2, hn] at hdrop
  exact absurd hdrop (by simp)

end Matched

/-- Attaching inputs removes no listener. -/
lemma mem_attachAll (id : ℕ) (isInput : ℕ → Bool) (r : Roster) {ls : Listeners} (found : List ℕ)
    {l : Listener} (hl : l ∈ ls.live) :
    l ∈ (Roster.attachAll id isInput r ls found).2.2.1.live := by
  induction found generalizing r ls with
  | nil => exact hl
  | cons n found ih =>
    rw [Roster.attachAll]
    split_ifs with hin hholds
    · exact ih r hl
    · exact ih r hl
    · exact ih _ (List.mem_append_left _ hl)

namespace Session

variable {s t : Session}

/-! ## Gentle steps -/

/-- The step is a click, an edit of a value, a change of the clipboard or of a promise, the tasks
that wait, or a scan. -/
def Step.Gentle : Step → Prop
  | .click _ | .tick | .load _ | .rescan | .scan _ => True
  | .change (.value ..) | .change (.clipboard _) | .change (.settle ..) => True
  | .change (.cookie _) | .change (.eventFault _) => True
  | _ => False

/-- The step may bring a roster up to date. -/
def Step.Scans : Step → Prop
  | .load _ | .rescan | .scan _ => True
  | _ => False

/-- A click that comes by an element. -/
def Step.comesBy (p : Page) (n : ℕ) : Step → Bool
  | .click spot => (p.path (p.place spot)).contains (.node n)
  | _ => false

/-- A click on an element comes by it. -/
lemma comesBy_click {p : Page} {spot : Spot} {n : ℕ} (h : p.place spot = .node n) :
    (Step.click spot).comesBy p n = true := by
  rw [Step.comesBy, h, List.contains_iff_mem]
  exact node_mem_path p n

/-- Pages with the same tree. -/
structure SameTree (p q : Page) : Prop where
  links : q.links = p.links
  names : q.names = p.names
  body : q.body? = p.body?

lemma SameTree.of_eq {p q : Page} (h : q = p) : SameTree p q := by
  rw [h]
  exact ⟨rfl, rfl, rfl⟩

lemma SameTree.isConnected_eq {p q : Page} (h : SameTree p q) (n : ℕ) :
    q.isConnected n = p.isConnected n := by
  rw [Page.isConnected, h.links, Page.isConnected]

lemma SameTree.path_eq {p q : Page} (h : SameTree p q) (spot : Spot) :
    q.path (q.place spot) = p.path (p.place spot) := by
  have hplace : q.place spot = p.place spot := by
    cases spot <;> simp only [Page.place, Page.find?, h.names, h.body]
  rw [hplace]
  simp only [Page.path, h.links]

lemma SameTree.comesBy_eq {p q : Page} (h : SameTree p q) (n : ℕ) (a : Step) :
    a.comesBy q n = a.comesBy p n := by
  cases a with
  | click spot => rw [Step.comesBy, h.path_eq, Step.comesBy]
  | _ => rfl

lemma sameTree_modifyAt (p : Page) (spot : Spot) (f : Dom.Element → Dom.Element) :
    SameTree p (p.modifyAt spot f) := by
  rw [Page.modifyAt]
  cases p.node? spot <;> exact ⟨rfl, rfl, rfl⟩

lemma sameTree_foldl_copyInput (s : Session) (ns : List ℕ) :
    SameTree s.page (ns.foldl copyInput s).page := by
  induction ns generalizing s with
  | nil => exact .of_eq rfl
  | cons n ns ih =>
    obtain ⟨hlinks, hnames, hbody⟩ := ih (s.copyInput n)
    rw [copyInput_eq] at hlinks hnames hbody
    rw [List.foldl_cons, copyInput_eq]
    exact ⟨hlinks, hnames, hbody⟩

/-- The inputs that a step copies for certain. -/
def copies (s : Session) : Step → List ℕ
  | .click spot => s.clicked spot
  | _ => []

/-- Gentle steps leave the tree as it is, and of them only clicks make attempts. -/
lemma gentle_step (hs : s.Sound) {a : Step} (ha : a.Gentle) :
    SameTree s.page (s.step a).2.page ∧
      (s.step a).2.attempts.map Attempt.input = s.attempts.map Attempt.input ++ s.copies a := by
  cases a with
  | click spot =>
    rw [hs.step_click]
    refine ⟨sameTree_foldl_copyInput s _, ?_⟩
    rw [(copied_foldl s _).attempts, List.map_append]
    congr 1
    exact List.ext_getElem (by simp [copies]) (by simp [copies])
  | tick =>
    have hresumed := resumed_tick s
    refine ⟨.of_eq hresumed.page, ?_⟩
    rw [step, hresumed.attempts]
    simp [copies]
  | change c =>
    cases c with
    | value spot text => exact ⟨sameTree_modifyAt s.page spot _, by simp [step, copies]⟩
    | clipboard _ | settle _ _ | cookie _ | eventFault _ =>
      exact ⟨⟨rfl, rfl, rfl⟩, by simp [step, copies]⟩
    | _ => exact absurd ha (by simp [Step.Gentle])
  | load spot =>
    have hidle := idle_step hs (a := .load spot) (by simp [Step.Busy])
    exact ⟨.of_eq hidle.page, by rw [hidle.attempts]; simp [copies]⟩
  | rescan =>
    have hidle := idle_step hs (a := .rescan) (by simp [Step.Busy])
    exact ⟨.of_eq hidle.page, by rw [hidle.attempts]; simp [copies]⟩
  | scan slot =>
    have hidle := idle_step hs (a := .scan slot) (by simp [Step.Busy])
    exact ⟨.of_eq hidle.page, by rw [hidle.attempts]; simp [copies]⟩
  | _ => exact absurd ha (by simp [Step.Gentle])

/-! ## Listeners that are kept -/

/-- An input in the document keeps its click listener when a roster is scanned. -/
lemma mem_copiers_scan (hs : s.Sound) {n : ℕ} (hn : s.page.isConnected n = true) (id : ℕ)
    {l : Listener} (hl : l ∈ s.copiers n) : l ∈ (s.scan id).2.copiers n := by
  obtain ⟨hlive, hat⟩ := List.mem_filter.mp hl
  obtain ⟨owner, hreaction⟩ := hs.reaction_of_mem_copiers hl
  have hkept : l ∈ ((s.roster id).keep s.page.isConnected s.listeners).2.live :=
    hs.matched.mem_keep rfl hlive hreaction hn
  refine List.mem_filter.mpr ⟨?_, hat⟩
  rw [scan, listeners_logAll, setRoster, Roster.scan]
  cases s.page.query (s.roster id).selector with
  | error thrown => exact hkept
  | ok found => exact mem_attachAll id _ _ found hkept

lemma copiers_of_alike (h : Alike s t) (n : ℕ) : t.copiers n = s.copiers n := by
  rw [copiers, h.listeners, copiers]

lemma mem_copiers_scanReporting (hs : s.Sound) {n : ℕ} (hn : s.page.isConnected n = true) (id : ℕ)
    (heading : String) {l : Listener} (hl : l ∈ s.copiers n) :
    l ∈ (s.scanReporting id heading).2.copiers n := by
  rw [copiers_of_alike (alike_scanReporting s id heading)]
  exact mem_copiers_scan hs hn id hl

lemma mem_copiers_react (hs : s.Sound) {n k : ℕ} (hn : s.page.isConnected n = true)
    (hk : s.listeners.Spare k) (detail : Option Script.Value) {l : Listener}
    (hl : l ∈ s.copiers n) : l ∈ (s.react k detail).1.copiers n := by
  rw [react]
  cases hfind : s.listeners.find? k with
  | none => exact hl
  | some l' =>
    simp only
    cases l'.reaction with
    | stamp stamp =>
      obtain ⟨hlive, hat⟩ := List.mem_filter.mp hl
      obtain ⟨owner, hreaction⟩ := hs.reaction_of_mem_copiers hl
      refine List.mem_filter.mpr ⟨Listeners.mem_live_setReaction.mpr (Or.inl ⟨hlive, ?_⟩), hat⟩
      intro hid
      exact hk.2 l hlive hid (by rw [hreaction]; rfl)
    | rescan roster => exact mem_copiers_scanReporting hs hn roster _ hl
    | copy owner input =>
      rw [copiers_of_alike (alike_copyInput s input)]
      exact hl

lemma mem_copiers_reactAll (hs : s.Sound) {n : ℕ} (hn : s.page.isConnected n = true)
    {ks : List ℕ} (hks : ∀ k ∈ ks, s.listeners.Spare k) (detail : Option Script.Value)
    {l : Listener} (hl : l ∈ s.copiers n) : l ∈ (s.reactAll detail ks).1.copiers n := by
  induction ks generalizing s detail with
  | nil => exact hl
  | cons k ks ih =>
    have hk := hks k List.mem_cons_self
    obtain ⟨hidle, hspare⟩ := idle_react hs hk detail
    refine ih (hs.of_moves (moves_react hs k detail)) ?_
      (fun k' hk' => hspare k' (hks k' (List.mem_cons_of_mem k hk'))) _
      (mem_copiers_react hs hn hk detail hl)
    rw [hidle.page]
    exact hn

/-- **A gentle step takes no click listener away**, unless it scans and the input is not in the
document. -/
theorem mem_copiers_step (hs : s.Sound) {a : Step} (ha : a.Gentle) {n : ℕ}
    (hn : s.page.isConnected n = true ∨ ¬ a.Scans) {l : Listener} (hl : l ∈ s.copiers n) :
    l ∈ (s.step a).2.copiers n := by
  cases a with
  | click spot =>
    have halike : Alike s (s.step (.click spot)).2 := by
      rw [hs.step_click]
      generalize s.clicked spot = ns
      clear hs hn hl
      induction ns generalizing s with
      | nil => exact Alike.refl s
      | cons m ns ih => exact (alike_copyInput s m).trans ih
    rw [copiers_of_alike halike]
    exact hl
  | tick =>
    rw [step, copiers_of_alike (alike_tick s)]
    exact hl
  | change c => exact hl
  | load spot =>
    exact mem_copiers_reactAll hs (hn.resolve_right (by simp [Step.Scans]))
      (fun _ hk => hs.spare_of_mem_along (by simp) hk) none hl
  | rescan =>
    rw [step, rescan]
    cases s.companion with
    | none => exact hl
    | some c =>
      exact mem_copiers_scanReporting hs (hn.resolve_right (by simp [Step.Scans])) c.roster _ hl
  | scan slot =>
    rw [step]
    cases s.slot? slot with
    | none => exact hl
    | some id => exact mem_copiers_scan hs (hn.resolve_right (by simp [Step.Scans])) id hl
  | _ => exact absurd ha (by simp [Step.Gentle])

/-! ## Gentle runs -/

/-- A click copies an input that it comes by once for every listener that the input has. -/
lemma count_clicked (s : Session) (spot : Spot) (n : ℕ) :
    (s.clicked spot).count n
      = if (Step.click spot).comesBy s.page n then (s.copiers n).length else 0 := by
  have hmem : n ∈ (s.page.path (s.page.place spot)).filterMap Place.node? ↔
      (Step.click spot).comesBy s.page n = true := by
    rw [Step.comesBy, List.contains_iff_mem, List.mem_filterMap]
    constructor
    · rintro ⟨place, hplace, hn⟩
      cases place with
      | node m => rwa [← Option.some.inj hn]
      | _ => exact absurd hn (by simp [Place.node?])
    · exact fun h => ⟨_, h, rfl⟩
  have hown : (s.clicked spot).filter (· = n)
      = if n ∈ (s.page.path (s.page.place spot)).filterMap Place.node?
        then List.replicate (s.copiers n).length n else [] :=
    filter_flatMap_of_nodup (fun _ _ hm => List.eq_of_mem_replicate hm) (nodup_nodes_path _ _) n
  have hcount : (s.clicked spot).count n = ((s.clicked spot).filter (· = n)).length :=
    List.count_eq_length_filter
  rw [hcount, hown]
  simp only [hmem]
  split_ifs with h
  · exact List.length_replicate
  · rfl

/-- **An attached input is copied by every click that comes by it.**  On a page that only the
companion works on, gentle steps leave the input its listener, and it is attempted to copy it
exactly as often as a click comes by. -/
theorem attempts_of_attached (h : s.Alone) (hs : s.Sound) {n : ℕ} (hn : s.copiers n ≠ [])
    {l : List Step} (hl : ∀ a ∈ l, a.Gentle)
    (hscan : s.page.isConnected n = true ∨ ∀ a ∈ l, ¬ a.Scans) :
    (s.steps l).copiers n = s.copiers n ∧
      ((s.steps l).attempts.map Attempt.input).count n
        = (s.attempts.map Attempt.input).count n + l.countP (·.comesBy s.page n) := by
  induction l generalizing s with
  | nil => simp
  | cons a l ih =>
    have ha : a.Gentle := hl a List.mem_cons_self
    have halone : (s.step a).2.Alone := by
      refine h.step hs ?_
      rintro selector rfl
      exact ha
    obtain ⟨htree, hattempts⟩ := gentle_step hs ha
    -- there is one listener before and after, so it is the same
    obtain ⟨k, hk⟩ := List.exists_mem_of_ne_nil _ hn
    have hone : s.copiers n = [k] := h.copiers_eq_singleton hs hk
    have hsame : (s.step a).2.copiers n = s.copiers n := by
      have hk' := mem_copiers_step hs ha (hscan.imp_right fun h => h a List.mem_cons_self) hk
      rw [hone, halone.copiers_eq_singleton (hs.step a) hk']
    have hcopies : (s.copies a).count n = if a.comesBy s.page n then 1 else 0 := by
      cases a with
      | click spot => rw [copies, count_clicked, hone, List.length_singleton]
      | _ => rfl
    obtain ⟨hlast, hcount⟩ := ih halone (hs.step a) (hsame ▸ hn)
      (fun b hb => hl b (List.mem_cons_of_mem a hb)) (by
        rw [htree.isConnected_eq]
        exact hscan.imp_right fun h b hb => h b (List.mem_cons_of_mem a hb))
    rw [steps_cons, hlast, hsame, hcount, hattempts, List.count_append, hcopies, List.countP_cons]
    refine ⟨rfl, ?_⟩
    simp only [htree.comesBy_eq]
    omega

end Session

end PageCompanion.Live
