/-
# Steps that announce nothing

An attempt has ended when its write failed at once or its promise is settled, and what has ended
has ended for good (`Ends.later`).  Nothing is announced at that time: of all steps only `tick`
announces anything (`onward_step`).  Clicks and calls of a script add attempts, which wait, and the
other steps have nothing to do with attempts at all (`idle_step`).
-/
import PageCompanion.Proofs.Live.Clicking

namespace PageCompanion.Live

open Dom (Page Place Spot)
open Script (Fate Value)

/-! ## Writes that have ended -/

/-- How a write has ended: it failed when it was begun, or its promise is settled. -/
inductive Ends (p : Page) : Pending → Except Fault Unit → Prop where
  | failed (fault : Fault) : Ends p (.failed fault) (.error fault)
  | fulfilled {promise : ℕ} {value : Value} (h : p.promises[promise]? = some (.fulfilled value)) :
    Ends p (.awaits promise) (.ok ())
  | rejected {promise : ℕ} {reason : Value} (h : p.promises[promise]? = some (.rejected reason)) :
    Ends p (.awaits promise) (.error (.clipboardRejected (.reported reason.describe)))

lemma poll_eq_some_iff {p : Page} {pending : Pending} {r : Except Fault Unit} :
    pending.poll p = some r ↔ Ends p pending r := by
  constructor
  · intro h
    cases pending with
    | failed fault =>
      rw [← Option.some.inj h]
      exact .failed fault
    | awaits promise =>
      rw [Pending.poll] at h
      split at h
      · rw [← Option.some.inj h]
        exact .fulfilled ‹_›
      · rw [← Option.some.inj h]
        exact .rejected ‹_›
      · exact absurd h (by simp)
  · rintro (_ | h | h)
    · rfl
    · rw [Pending.poll, h]
    · rw [Pending.poll, h]

lemma poll_eq_none_iff {p : Page} {pending : Pending} :
    pending.poll p = none ↔ ∀ r, ¬ Ends p pending r := by
  rw [Option.eq_none_iff_forall_ne_some]
  exact forall_congr' fun r => not_congr poll_eq_some_iff

lemma Ends.unique {p : Page} {pending : Pending} {r r' : Except Fault Unit}
    (h : Ends p pending r) (h' : Ends p pending r') : r = r' := by
  rw [← poll_eq_some_iff] at h h'
  exact Option.some.inj (h.symm.trans h')

/-- A page on which every promise that was settled is settled in the same way. -/
def Later (p q : Page) : Prop :=
  ∀ (k : ℕ) (fate : Fate Value), fate ≠ .open → p.promises[k]? = some fate →
    q.promises[k]? = some fate

lemma Later.refl (p : Page) : Later p p := fun _ _ _ h => h

lemma Later.trans {p q r : Page} (h : Later p q) (h' : Later q r) : Later p r :=
  fun k fate hfate hk => h' k fate hfate (h k fate hfate hk)

lemma later_of_promises_eq {p q : Page} (h : q.promises = p.promises) : Later p q := by
  intro k fate _ hk
  rwa [h]

lemma later_of_promises_append {p q : Page} (h : p.promises <+: q.promises) : Later p q := by
  obtain ⟨rest, hrest⟩ := h
  intro k fate _ hk
  rw [← hrest, List.getElem?_append_left (List.getElem?_eq_some_iff.mp hk).1, hk]

/-- A write that has ended has ended for good. -/
lemma Ends.later {p q : Page} {pending : Pending} {r : Except Fault Unit} (h : Ends p pending r)
    (hpq : Later p q) : Ends q pending r := by
  cases h with
  | failed fault => exact .failed fault
  | fulfilled h => exact .fulfilled (hpq _ _ (by simp) h)
  | rejected h => exact .rejected (hpq _ _ (by simp) h)

lemma promises_modifyAt (p : Page) (spot : Spot) (f : Dom.Element → Dom.Element) :
    (p.modifyAt spot f).promises = p.promises := by
  rw [Page.modifyAt]
  cases p.node? spot <;> rfl

/-- Whatever changes on a page, a promise is settled once. -/
lemma later_change (p : Page) (c : Page.Change) : Later p (p.change c) := by
  cases c with
  | settle promise fate =>
    intro k settled hsettled hk
    have hkept : Page.settleFate fate settled = settled := by
      cases settled with
      | «open» => exact absurd rfl hsettled
      | _ => rfl
    rw [Page.change, List.getElem?_modify, hk]
    by_cases hpromise : promise = k <;> simp [hpromise, hkept]
  | body attributes =>
    have hremove : p.removeBody.promises = p.promises := by
      rw [Page.removeBody]
      cases p.body? <;> rfl
    cases attributes <;> exact later_of_promises_eq hremove
  | value spot text => exact later_of_promises_eq (promises_modifyAt p spot _)
  | setAttribute spot name value => exact later_of_promises_eq (promises_modifyAt p spot _)
  | removeAttribute spot name => exact later_of_promises_eq (promises_modifyAt p spot _)
  | _ => exact later_of_promises_eq rfl

namespace Session

variable {s t u : Session}

/-! ## Steps that have nothing to do with attempts -/

/-- The page and the attempts are as they were. -/
structure Idle (s t : Session) : Prop where
  page : t.page = s.page
  attempts : t.attempts = s.attempts
  waiting : t.waiting = s.waiting
  announced : t.announced = s.announced
  log : s.log <+: t.log

lemma Idle.refl (s : Session) : Idle s s := ⟨rfl, rfl, rfl, rfl, List.prefix_refl _⟩

lemma Idle.trans (h : Idle s t) (h' : Idle t u) : Idle s u :=
  ⟨h'.page.trans h.page, h'.attempts.trans h.attempts, h'.waiting.trans h.waiting,
    h'.announced.trans h.announced, h.log.trans h'.log⟩

lemma idle_logAll (s : Session) (records : List Log.Record) : Idle s (s.logAll records) :=
  ⟨rfl, rfl, rfl, rfl, List.prefix_append _ _⟩

lemma idle_scan (s : Session) (id : ℕ) : Idle s (s.scan id).2 :=
  ⟨rfl, rfl, rfl, rfl, List.prefix_append _ _⟩

lemma idle_scanReporting (s : Session) (id : ℕ) (heading : String) :
    Idle s (s.scanReporting id heading).2 := by
  rw [scanReporting]
  cases (s.scan id).1 with
  | ok n => exact idle_scan s id
  | error fault => exact (idle_scan s id).trans (idle_logAll _ _)

lemma idle_unlisten (s : Session) (k : ℕ) : Idle s (s.unlisten k) :=
  ⟨rfl, rfl, rfl, rfl, List.prefix_refl _⟩

lemma idle_listen (s : Session) (place : Place) (reaction : Reaction) :
    Idle s (s.listen place reaction).2 :=
  ⟨rfl, rfl, rfl, rfl, List.prefix_refl _⟩

lemma idle_releaseUnused (s : Session) (id : ℕ) : Idle s (s.releaseUnused id) := by
  rw [releaseUnused]
  split_ifs
  · exact .refl s
  · exact ⟨rfl, rfl, rfl, rfl, List.prefix_refl _⟩

lemma idle_sweep (s : Session) : Idle s s.sweep := by
  rw [sweep]
  generalize List.range s.rosters.length = ids
  induction ids generalizing s with
  | nil => exact .refl s
  | cons id ids ih => exact (idle_releaseUnused s id).trans (ih _)

/-! ### Events that are no clicks -/

/-- An event that is no click comes by listeners with spare numbers. -/
lemma Sound.spare_of_mem_along (hs : s.Sound) {kind : EventKind} (hkind : kind ≠ .click)
    {path : List Place} {k : ℕ} (hk : k ∈ s.listeners.along kind path) : s.listeners.Spare k := by
  obtain ⟨place, -, hk⟩ := List.mem_flatMap.mp hk
  obtain ⟨l, hl, ⟨-, hlkind⟩, rfl⟩ := Listeners.mem_idsAt.mp hk
  refine ⟨hs.matched.id_lt l hl, fun l' hl' hid => ?_⟩
  rw [hs.matched.eq_of_id_eq hl' hl hid, hlkind]
  exact hkind

lemma spare_scanReporting (hs : s.Sound) {k : ℕ} (hk : s.listeners.Spare k) (id : ℕ)
    (heading : String) : (s.scanReporting id heading).2.listeners.Spare k := by
  have hscan : (s.scan id).2.listeners.Spare k :=
    hk.of_clicksOnly (hs.matched.clicksOnly_scan rfl s.page)
  rw [(alike_scanReporting s id heading).listeners]
  exact hscan

/-- A listener with a spare number makes no attempt, and spare numbers stay spare. -/
lemma idle_react (hs : s.Sound) {k : ℕ} (hk : s.listeners.Spare k) (detail : Option Value) :
    Idle s (s.react k detail).1 ∧
      ∀ k', s.listeners.Spare k' → (s.react k detail).1.listeners.Spare k' := by
  rw [react]
  cases hl : s.listeners.find? k with
  | none => exact ⟨.refl s, fun _ h => h⟩
  | some l =>
    obtain ⟨hlive, hid⟩ := hs.matched.find?_eq_some_iff.mp hl
    have hkind : l.reaction.kind ≠ .click := hk.2 l hlive hid
    simp only
    cases hreaction : l.reaction with
    | stamp stamp =>
      exact ⟨⟨rfl, rfl, rfl, rfl, List.prefix_append _ _⟩, fun _ h => h.setReaction k _⟩
    | rescan roster =>
      exact ⟨idle_scanReporting s roster _, fun _ h => spare_scanReporting hs h roster _⟩
    | copy owner input =>
      rw [hreaction] at hkind
      exact absurd rfl hkind

lemma idle_reactAll (hs : s.Sound) {ks : List ℕ} (hks : ∀ k ∈ ks, s.listeners.Spare k)
    (detail : Option Value) : Idle s (s.reactAll detail ks).1 := by
  induction ks generalizing s detail with
  | nil => exact .refl s
  | cons k ks ih =>
    obtain ⟨hidle, hspare⟩ := idle_react hs (hks k List.mem_cons_self) detail
    refine hidle.trans (ih (hs.of_moves (moves_react hs k detail)) (fun k' hk' => ?_) _)
    exact hspare k' (hks k' (List.mem_cons_of_mem k hk'))

lemma idle_dispatch (hs : s.Sound) {kind : EventKind} (hkind : kind ≠ .click) (spot : Spot)
    (detail : Option Value) : Idle s (s.dispatch kind spot detail).1 :=
  idle_reactAll hs (fun _ hk => hs.spare_of_mem_along hkind hk) detail

/-! ### Starting -/

lemma idle_start (s : Session) : Idle s s.start := by
  obtain ⟨settings, hsettings⟩ : ∃ settings, settings = s.configure.1 := ⟨_, rfl⟩
  have hconfigure : Idle s s.configure.2 := ⟨rfl, rfl, rfl, rfl, List.prefix_append _ _⟩
  have hstamper (v : Session) : Idle v (v.installStamper settings).2 :=
    ((idle_logAll v _).trans (idle_logAll _ _)).trans (idle_listen _ _ _)
  have hroster (v : Session) : Idle v (v.installRoster settings).2 := by
    have hopen : Idle v (v.openRoster settings.selector).2 :=
      ⟨rfl, rfl, rfl, rfl, List.prefix_refl _⟩
    exact (hopen.trans (idle_scanReporting _ _ _)).trans (idle_listen _ _ _)
  have hadopt (v : Session) (c : Companion) : Idle v (v.adopt c) := by
    have hset : Idle v { v with companion := some c } := ⟨rfl, rfl, rfl, rfl, List.prefix_refl _⟩
    rw [adopt]
    cases v.companion with
    | none => exact hset
    | some old =>
      exact ((hset.trans (idle_unlisten _ _)).trans (idle_unlisten _ _)).trans (idle_sweep _)
  rw [start, ← hsettings]
  exact (((hconfigure.trans (hstamper _)).trans (hroster _)).trans (idle_logAll _ _)).trans
    (hadopt _ _)

/-! ### All steps -/

/-- The step may change the page, make an attempt, or announce one. -/
def Step.Busy : Step → Prop
  | .change _ | .click _ | .copy _ | .write _ | .tick => True
  | _ => False

/-- **Other steps leave the page and the attempts as they are.** -/
theorem idle_step (hs : s.Sound) {a : Step} (ha : ¬ a.Busy) : Idle s (s.step a).2 := by
  cases a with
  | change c => exact absurd trivial ha
  | click spot => exact absurd trivial ha
  | load spot => exact idle_dispatch hs (by simp) spot none
  | request spot detail => exact idle_dispatch hs (by simp) spot (some detail)
  | plainRequest spot => exact idle_dispatch hs (by simp) spot none
  | tick => exact absurd trivial ha
  | start => exact idle_start s
  | rescan =>
    rw [step, rescan]
    cases s.companion with
    | none => exact .refl s
    | some c => exact idle_scanReporting s c.roster _
  | readPairs => exact .refl s
  | readSettings => exact idle_logAll s _
  | readCookies => exact .refl s
  | stamp spot raw names => exact ⟨rfl, rfl, rfl, rfl, List.prefix_append _ _⟩
  | drop handle =>
    rw [step]
    cases s.handles[handle]?.join with
    | none => exact .refl s
    | some k =>
      have hlet : Idle s ({ s with handles := s.handles.set handle none }.unlisten k) :=
        ⟨rfl, rfl, rfl, rfl, List.prefix_refl _⟩
      exact hlet.trans (idle_sweep _)
  | openRoster selector => exact ⟨rfl, rfl, rfl, rfl, List.prefix_refl _⟩
  | dropRoster slot =>
    have hleave : Idle s { s with slots := s.slots.set slot none } :=
      ⟨rfl, rfl, rfl, rfl, List.prefix_refl _⟩
    exact hleave.trans (idle_sweep _)
  | scan slot =>
    rw [step]
    cases s.slot? slot with
    | none => exact .refl s
    | some id => exact idle_scan s id
  | listen slot spot =>
    rw [step]
    cases s.slot? slot with
    | none => exact .refl s
    | some id => exact ⟨rfl, rfl, rfl, rfl, List.prefix_refl _⟩
  | size slot =>
    rw [step]
    cases s.slot? slot <;> exact .refl s
  | stateOf slot spot =>
    rw [step]
    cases s.slot? slot <;> cases s.page.node? spot <;> exact .refl s
  | copy spot => exact absurd trivial ha
  | write text => exact absurd trivial ha
  | describe value => exact .refl s

/-! ## Steps that announce nothing -/

/-- Attempts may have been added, which wait; nothing was announced. -/
structure Onward (s t : Session) : Prop where
  attempts : s.attempts <+: t.attempts
  waiting : t.waiting
    = s.waiting ++ List.range' s.attempts.length (t.attempts.length - s.attempts.length)
  announced : t.announced = s.announced
  later : Later s.page t.page
  log : s.log <+: t.log

/-- The page changed, and the attempts did not. -/
lemma onward_of_page (s : Session) {p : Page} (h : Later s.page p) :
    Onward s { s with page := p } :=
  ⟨List.prefix_refl _, by simp, rfl, h, List.prefix_refl _⟩

lemma Idle.onward (h : Idle s t) : Onward s t where
  attempts := by rw [h.attempts]
  waiting := by rw [h.waiting, h.attempts, Nat.sub_self, List.range'_zero, List.append_nil]
  announced := h.announced
  later := by
    rw [h.page]
    exact Later.refl _
  log := h.log

lemma log_copyInput (s : Session) (n : ℕ) : s.log <+: (s.copyInput n).log := by
  rw [copyInput_eq]
  exact List.prefix_append _ _

/-- Attempts that were made one after another wait. -/
lemma onward_foldl_copyInput (s : Session) (ns : List ℕ) : Onward s (ns.foldl copyInput s) := by
  obtain ⟨-, hpromises, -, hattempts, hwaiting, hannounced⟩ := copied_foldl s ns
  refine ⟨?_, ?_, hannounced, later_of_promises_append ?_, ?_⟩
  · rw [hattempts]
    exact List.prefix_append _ _
  · rw [hwaiting, hattempts]
    simp
  · rw [hpromises]
    exact List.prefix_append _ _
  · clear hpromises hattempts hwaiting hannounced
    induction ns generalizing s with
    | nil => exact List.prefix_refl _
    | cons n ns ih => exact (log_copyInput s n).trans (ih _)

/-- **Only the tasks that wait announce anything.** -/
theorem onward_step (hs : s.Sound) {a : Step} (ha : a ≠ .tick) : Onward s (s.step a).2 := by
  cases a with
  | change c => exact onward_of_page s (later_change s.page c)
  | click spot =>
    rw [hs.step_click]
    exact onward_foldl_copyInput s _
  | tick => exact absurd rfl ha
  | copy spot =>
    rw [step]
    cases s.page.node? spot with
    | none => exact (Idle.refl s).onward
    | some n =>
      simp only
      split_ifs
      · exact onward_foldl_copyInput s [n]
      · exact (Idle.refl s).onward
  | write text =>
    refine onward_of_page s (later_of_promises_append ?_)
    rw [beginWrite_eq]
    exact List.prefix_append _ _
  | _ => exact (idle_step hs (by simp [Step.Busy])).onward

end Session

end PageCompanion.Live
