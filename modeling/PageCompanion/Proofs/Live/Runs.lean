/-
# What a run does

Every step but a start is a sequence of moves (`moves_step`), whatever event or request it
handles.  So what moves keep is kept between two starts of the companion.
-/
import PageCompanion.Proofs.Live.Lasting

namespace PageCompanion.Live

open Dom (Page Place Spot)
open Relation (ReflTransGen)
open Script (Value)

namespace Session

variable {s t u : Session}

/-- The session of a page that nothing is on yet. -/
def onPage (p : Page) : Session := { page := p }

abbrev Moves : Session → Session → Prop := ReflTransGen Move

/-! ## What listeners and rosters have nothing to do with -/

lemma Alike.refl (s : Session) : Alike s s := ⟨rfl, rfl, rfl, rfl, rfl, rfl⟩

lemma Alike.trans (h : Alike s t) (h' : Alike t u) : Alike s u :=
  ⟨h'.listeners.trans h.listeners, h'.rosters.trans h.rosters, h'.slots.trans h.slots,
    h'.handles.trans h.handles, h'.companion.trans h.companion, h'.turnovers.trans h.turnovers⟩

lemma Alike.moves (h : Alike s t) : Moves s t := .single (.aside h)

lemma alike_logAll (s : Session) (records : List Log.Record) : Alike s (s.logAll records) :=
  ⟨rfl, rfl, rfl, rfl, rfl, rfl⟩

lemma alike_announce (s : Session) (number : ℕ) (a : Attempt) (result : Except Fault Unit) :
    Alike s (s.announce number a result) := by
  unfold announce
  cases result with
  | ok _ => cases s.page.eventFault <;> exact ⟨rfl, rfl, rfl, rfl, rfl, rfl⟩
  | error fault => cases s.page.eventFault <;> exact ⟨rfl, rfl, rfl, rfl, rfl, rfl⟩

/-- Copying an input concerns the page and the attempts only. -/
lemma alike_copyInput (s : Session) (input : ℕ) : Alike s (s.copyInput input) := by
  simp only [copyInput, Copying.attempt, surface]
  exact ⟨rfl, rfl, rfl, rfl, rfl, rfl⟩

lemma alike_resume (s : Session) (number : ℕ) : Alike s (s.resume number) := by
  rw [resume]
  split
  · exact Alike.refl s
  · split
    · exact alike_announce s number _ _
    · exact ⟨rfl, rfl, rfl, rfl, rfl, rfl⟩

lemma alike_foldl_resume (numbers : List ℕ) (s : Session) :
    Alike s (numbers.foldl resume s) := by
  induction numbers generalizing s with
  | nil => exact Alike.refl s
  | cons number numbers ih => exact (alike_resume s number).trans (ih _)

lemma alike_tick (s : Session) : Alike s s.tick := by
  have hempty : Alike s { s with waiting := [] } := ⟨rfl, rfl, rfl, rfl, rfl, rfl⟩
  exact hempty.trans (alike_foldl_resume s.waiting _)

/-! ## Rosters -/

/-- What was scanned may be reported afterwards. -/
lemma alike_scanReporting (s : Session) (id : ℕ) (heading : String) :
    Alike (s.scan id).2 (s.scanReporting id heading).2 := by
  rw [scanReporting]
  cases (s.scan id).1 with
  | ok n => exact Alike.refl _
  | error fault => exact alike_logAll _ _

lemma moves_scanReporting {id : ℕ} (hid : id < s.rosters.length) (heading : String) :
    Moves s (s.scanReporting id heading).2 := by
  have hscan : Moves s (s.scan id).2 := .single (.scan hid)
  exact hscan.trans (alike_scanReporting s id heading).moves

lemma length_rosters_releaseUnused (s : Session) (id : ℕ) :
    (s.releaseUnused id).rosters.length = s.rosters.length := by
  rw [releaseUnused]
  split_ifs
  · rfl
  · exact List.length_set

lemma moves_foldl_releaseUnused {ids : List ℕ} (h : ∀ id ∈ ids, id < s.rosters.length) :
    Moves s (ids.foldl releaseUnused s) := by
  induction ids generalizing s with
  | nil => exact .refl
  | cons id ids ih =>
    have hfirst : Moves s (s.releaseUnused id) := by
      cases hfree : s.inUse id with
      | true =>
        rw [releaseUnused, if_pos hfree]
      | false => exact .single (.release (h id List.mem_cons_self) hfree)
    refine hfirst.trans (ih fun id' hid' => ?_)
    rw [length_rosters_releaseUnused]
    exact h id' (List.mem_cons_of_mem id hid')

lemma moves_sweep (s : Session) : Moves s s.sweep :=
  moves_foldl_releaseUnused fun _ hid => List.mem_range.mp hid

/-! ## Events -/

/-- Whatever a listener does is a sequence of moves. -/
lemma moves_react (hs : s.Sound) (k : ℕ) (detail : Option Value) :
    Moves s (s.react k detail).1 := by
  rw [react]
  cases hl : s.listeners.find? k with
  | none => exact .refl
  | some l =>
    have hlive := (hs.matched.find?_eq_some_iff.mp hl).1
    cases hreaction : l.reaction with
    | stamp stamp =>
      simp only [hreaction]
      -- whatever the event holds, the stamp keeps its jar and its names
      have hkept : (handle stamp detail).1.jar = stamp.jar ∧
          (handle stamp detail).1.names = stamp.names := by
        cases hopen : openHeaders detail with
        | error fault =>
          rw [handle_of_error hopen]
          exact ⟨rfl, rfl⟩
        | ok d =>
          rw [handle_of_ok hopen]
          rw [Token.Stamp.apply_fst]
          exact ⟨stamp.report_jar, stamp.report_names⟩
      exact .tail (.single (.restamp hl hreaction hkept.1 hkept.2)) (.aside (alike_logAll _ _))
    | rescan roster =>
      simp only [hreaction]
      exact moves_scanReporting (hs.rescan_lt l hlive roster hreaction) loadEvent
    | copy owner input =>
      simp only [hreaction]
      exact (alike_copyInput s input).moves

lemma moves_reactAll (hs : s.Sound) (ks : List ℕ) (detail : Option Value) :
    Moves s (s.reactAll detail ks).1 := by
  induction ks generalizing s detail with
  | nil => exact .refl
  | cons k ks ih =>
    -- the next listener meets a session that is sound again
    have hfirst := moves_react hs k detail
    exact hfirst.trans (ih (hs.of_moves hfirst) _)

lemma moves_dispatch (hs : s.Sound) (kind : EventKind) (spot : Spot) (detail : Option Value) :
    Moves s (s.dispatch kind spot detail).1 :=
  moves_reactAll hs _ detail

/-! ## Steps -/

lemma moves_rescan (hs : s.Sound) : Moves s s.rescan.2 := by
  rw [rescan]
  cases hc : s.companion with
  | none => exact .refl
  | some c => exact moves_scanReporting (hs.companion_lt c hc) _

/-- **A step is a sequence of moves, unless it starts the companion.** -/
theorem moves_step (hs : s.Sound) {a : Step} (ha : a ≠ .start) : Moves s (s.step a).2 := by
  cases a with
  | change c => exact Alike.moves ⟨rfl, rfl, rfl, rfl, rfl, rfl⟩
  | click spot => exact moves_dispatch hs .click spot none
  | load spot => exact moves_dispatch hs .load spot none
  | request spot detail => exact moves_dispatch hs .request spot (some detail)
  | plainRequest spot => exact moves_dispatch hs .request spot none
  | tick => exact (alike_tick s).moves
  | start => exact absurd rfl ha
  | rescan => exact moves_rescan hs
  | readPairs => exact .refl
  | readSettings => exact (alike_logAll s _).moves
  | readCookies => exact .refl
  | stamp spot raw names =>
    have hlog : Moves s (s.logAll [(Token.Stamp.make (Cookie.Jar.parse raw) names).2]) :=
      (alike_logAll s _).moves
    exact hlog.tail (.lend _ (by simp [Reaction.kind]) (by simp))
  | drop handle =>
    rw [step]
    cases hk : s.handles[handle]?.join with
    | none => exact .refl
    | some k => exact .head (.letGo hk) (moves_sweep _)
  | openRoster selector =>
    have hopen : Move s (s.openRoster selector).2 := .openRoster s selector
    refine .tail (.single hopen) (.takeSlot ?_)
    simp [Session.openRoster]
  | dropRoster slot => exact .head (.leaveSlot s slot) (moves_sweep _)
  | scan slot =>
    rw [step]
    cases hid : s.slot? slot with
    | none => exact .refl
    | some id => exact .single (.scan (hs.slot_lt id (mem_of_join hid)))
  | listen slot spot =>
    rw [step]
    cases hid : s.slot? slot with
    | none => exact .refl
    | some id =>
      refine .single (.lend _ (by simp [Reaction.kind]) fun r hr => ?_)
      rw [← Reaction.rescan.inj hr]
      exact hs.slot_lt id (mem_of_join hid)
  | size slot =>
    rw [step]
    cases s.slot? slot <;> exact .refl
  | stateOf slot spot =>
    rw [step]
    cases s.slot? slot <;> cases s.page.node? spot <;> exact .refl
  | copy spot =>
    rw [step]
    cases s.page.node? spot with
    | none => exact .refl
    | some n =>
      simp only
      split_ifs
      · exact (alike_copyInput s n).moves
      · exact .refl
  | write text => exact Alike.moves ⟨rfl, rfl, rfl, rfl, rfl, rfl⟩
  | describe value => exact .refl

end Session

end PageCompanion.Live
