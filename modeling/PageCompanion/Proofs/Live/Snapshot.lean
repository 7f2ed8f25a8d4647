/-
# The token is a snapshot

The companion's listener is reached by nothing but the events that it meets: what it does to one
depends on the event, and on what its stamp remembers of those before.  So what it does in a whole
run is a replay of its stamp on the events that it met (`Wears.replays_arrivals`), whatever else
happens to the page in between, and two runs in which it met the same events are told apart
neither by what it left of them nor by what it logged (`stamping_is_snapshot`).
-/
import PageCompanion.Proofs.Live.Stampers

namespace PageCompanion.Live

open Dom (Page Place Spot)
open Script (Value)

/-! ## Replays of a stamp -/

section Replay

variable {ε α : Type} (act : Token.Stamp → ε → Token.Stamp × α) (met : α → ε)

/-- A stamp acts on some things, one after another, and is then another stamp.  Each answer says
what was met. -/
inductive Replays : Token.Stamp → List α → Token.Stamp → Prop
  | nil (stamp : Token.Stamp) : Replays stamp [] stamp
  | cons {stamp last : Token.Stamp} {x : α} {xs : List α} (hx : x = (act stamp (met x)).2)
      (hxs : Replays (act stamp (met x)).1 xs last) : Replays stamp (x :: xs) last

variable {act met} {stamp middle last last' : Token.Stamp} {xs ys : List α}

namespace Replays

lemma append (h : Replays act met stamp xs middle) (h' : Replays act met middle ys last) :
    Replays act met stamp (xs ++ ys) last := by
  induction h with
  | nil _ => exact h'
  | cons hx _ ih => exact .cons hx (ih h')

/-- The answers of a stamp are determined by what it meets. -/
lemma eq_of_met_eq (h : Replays act met stamp xs last) (h' : Replays act met stamp ys last')
    (hmet : xs.map met = ys.map met) : xs = ys := by
  induction h generalizing ys with
  | nil _ => exact (List.map_eq_nil_iff.mp hmet.symm).symm
  | cons hx _ ih =>
    cases h' with
    | nil _ => exact absurd hmet (by simp)
    | cons hy hys =>
      obtain ⟨hfirst, hrest⟩ := List.cons.inj hmet
      rw [← hfirst] at hy hys
      rw [hx.trans hy.symm, ih hys hrest]

end Replays

end Replay

/-- An event that a listener reacts to: as it finds the event, as it leaves it, and what it logs. -/
structure Arrival where
  found : Option Value
  left : Option Value
  logged : List Logged

/-- What the listener of a stamp does to an event. -/
def meet (threshold : Log.Threshold) (stamp : Token.Stamp) (found : Option Value) :
    Token.Stamp × Arrival :=
  let done := handle stamp found
  (done.1, ⟨found, done.2.1, done.2.2.map fun r => ⟨r, threshold⟩⟩)

/-- An event that comes by the window: how often, as it was sent, as all listeners leave it, and
what they log. -/
structure Passage where
  times : ℕ
  sent : Option Value
  left : Option Value
  logged : List Logged

/-- How often an event comes by the window, and as it was sent. -/
def Passage.coming (p : Passage) : ℕ × Option Value :=
  (p.times, p.sent)

/-- What the listener of a stamp does to an event that comes by it a number of times. -/
def meetTimes (threshold : Log.Threshold) :
    ℕ → Token.Stamp → Option Value → Token.Stamp × Option Value × List Logged
  | 0, stamp, event => (stamp, event, [])
  | n + 1, stamp, event =>
    let first := meet threshold stamp event
    let later := meetTimes threshold n first.1 first.2.left
    (later.1, later.2.1, first.2.logged ++ later.2.2)

/-- The passage of an event that meets the listener of a stamp and no other. -/
def pass (threshold : Log.Threshold) (stamp : Token.Stamp) (coming : ℕ × Option Value) :
    Token.Stamp × Passage :=
  let done := meetTimes threshold coming.1 stamp coming.2
  (done.1, ⟨coming.1, coming.2, done.2.1, done.2.2⟩)

namespace Session

variable {s t : Session}

/-! ## The events of a run -/

/-- The event before a request that a step sends, if it sends one: the spot and the detail. -/
def Step.event? : Step → Option (Spot × Option Value)
  | .request spot detail => some (spot, some detail)
  | .plainRequest spot => some (spot, none)
  | _ => none

/-- What a listener did when some listeners reacted, one after another. -/
def arrivalsAmong (s : Session) (k : ℕ) (detail : Option Value) : List ℕ → List Arrival
  | [] => []
  | id :: rest =>
    let done := s.react id detail
    let later := done.1.arrivalsAmong k done.2 rest
    if id = k then ⟨detail, done.2, done.1.log.drop s.log.length⟩ :: later else later

/-- What a listener did to the event of a step, if the step sends one before a request. -/
def arrivalsAt (s : Session) (k : ℕ) (a : Step) : List Arrival :=
  a.event?.elim [] fun e =>
    s.arrivalsAmong k e.2 (s.listeners.along .request (s.page.path (s.page.place e.1)))

/-- What a listener did in a run to the events before requests, in order. -/
def arrivals (s : Session) (k : ℕ) : List Step → List Arrival
  | [] => []
  | a :: l => s.arrivalsAt k a ++ (s.step a).2.arrivals k l

/-- What became of the event of a step, if the step sends one before a request and it comes by the
window. -/
def passagesAt (s : Session) (a : Step) : List Passage :=
  a.event?.elim [] fun e =>
    let times := (s.page.path (s.page.place e.1)).count .window
    let done := s.dispatch .request e.1 e.2
    if times = 0 then [] else [⟨times, e.2, done.2, done.1.log.drop s.log.length⟩]

/-- What became in a run of the events before requests that came by the window, in order. -/
def passages (s : Session) : List Step → List Passage
  | [] => []
  | a :: l => s.passagesAt a ++ (s.step a).2.passages l

lemma step_of_event? {a : Step} {spot : Spot} {detail : Option Value}
    (h : a.event? = some (spot, detail)) :
    (s.step a).2 = (s.dispatch .request spot detail).1 := by
  cases a with
  | request spot' detail' =>
    obtain ⟨rfl, rfl⟩ := Prod.mk.inj (Option.some.inj h)
    rfl
  | plainRequest spot' =>
    obtain ⟨rfl, rfl⟩ := Prod.mk.inj (Option.some.inj h)
    rfl
  | _ => exact absurd h (by simp [Step.event?])

lemma length_arrivalsAmong (s : Session) (k : ℕ) (detail : Option Value) (ids : List ℕ) :
    (s.arrivalsAmong k detail ids).length = ids.count k := by
  induction ids generalizing s detail with
  | nil => rfl
  | cons id ids ih =>
    by_cases hid : id = k
    · simp [arrivalsAmong, hid, ih]
    · simp [arrivalsAmong, hid, ih]

/-! ## The listener of a stamp -/

/-- The listener of a number lives at the window and has this stamp, down to what the stamp
remembers, and no script holds it. -/
structure Wears (s : Session) (k : ℕ) (stamp : Token.Stamp) : Prop where
  sound : s.Sound
  lives : ⟨k, .window, .stamp stamp⟩ ∈ s.listeners.live
  free : some k ∉ s.handles

namespace Wears

variable {k : ℕ} {stamp stamp' : Token.Stamp}

lemma find?_eq (h : s.Wears k stamp) :
    s.listeners.find? k = some ⟨k, .window, .stamp stamp⟩ :=
  h.sound.matched.find?_eq_some_iff.mpr ⟨h.lives, rfl⟩

lemma of_moves (h : s.Wears k stamp) (hm : Moves s t)
    (hlives : ⟨k, .window, .stamp stamp'⟩ ∈ t.listeners.live) : t.Wears k stamp' := by
  have hlasts : s.Lasts k .window (.stamp stamp) :=
    ⟨⟨_, h.lives, rfl, rfl, Reaction.Like.refl _⟩, h.free⟩
  exact ⟨h.sound.of_moves hm, hlives,
    (hlasts.of_moves h.sound (by simp [Reaction.kind]) hm).free⟩

lemma of_apart (h : s.Wears k stamp) (hm : Moves s t) (hst : Apart s t) : t.Wears k stamp :=
  h.of_moves hm ((hst.stampers _ rfl).mpr h.lives)

/-- An event meets the listener as often as it comes by the window. -/
lemma count_along (h : s.Wears k stamp) (path : List Place) :
    (s.listeners.along .request path).count k = path.count .window := by
  have hnodup (place : Place) : (s.listeners.idsAt .request place).Nodup :=
    h.sound.matched.ids_nodup.sublist (List.filter_sublist.map _)
  have hmem (place : Place) : k ∈ s.listeners.idsAt .request place ↔ place = .window := by
    rw [Listeners.mem_idsAt]
    constructor
    · rintro ⟨l, hl, ⟨hplace, -⟩, hid⟩
      rw [h.sound.matched.eq_of_id_eq hl h.lives hid] at hplace
      exact hplace.symm
    · rintro rfl
      exact ⟨_, h.lives, ⟨rfl, rfl⟩, rfl⟩
  induction path with
  | nil => rfl
  | cons place path ih =>
    rw [Listeners.along, List.flatMap_cons, ← Listeners.along, List.count_append, ih,
      List.count_cons, add_comm]
    congr 1
    by_cases hplace : place = .window
    · rw [List.count_eq_one_of_mem (hnodup place) ((hmem place).mpr hplace)]
      simp [hplace]
    · rw [List.count_eq_zero_of_not_mem (mt (hmem place).mp hplace)]
      simp [hplace]

lemma length_arrivalsAt (h : s.Wears k stamp) (a : Step) :
    (s.arrivalsAt k a).length
      = a.event?.elim 0 fun e => (s.page.path (s.page.place e.1)).count .window := by
  cases hevent : a.event? with
  | none => rw [arrivalsAt, hevent]; rfl
  | some e =>
    rw [arrivalsAt, hevent, Option.elim_some, length_arrivalsAmong, h.count_along]
    rfl

/-! ### Reacting -/

/-- Another listener that reacts has no part in it. -/
lemma react_of_ne (h : s.Wears k stamp) {id : ℕ} (hne : id ≠ k) (detail : Option Value) :
    (s.react id detail).1.Wears k stamp ∧ (s.react id detail).1.threshold = s.threshold := by
  have hm := moves_react h.sound id detail
  cases hfind : s.listeners.find? id with
  | none =>
    rw [react, hfind]
    exact ⟨h, rfl⟩
  | some l =>
    obtain ⟨hlive, hid⟩ := h.sound.matched.find?_eq_some_iff.mp hfind
    by_cases hkind : l.reaction.kind = .request
    · -- a stamp of a script
      cases hreaction : l.reaction with
      | stamp other =>
        simp only [react, hfind, hreaction] at hm ⊢
        refine ⟨h.of_moves hm (Listeners.mem_live_setReaction.mpr (Or.inl ⟨h.lives, ?_⟩)), rfl⟩
        exact hne.symm
      | _ =>
        rw [hreaction] at hkind
        exact absurd hkind (by simp [Reaction.kind])
    · have hst : Apart s (s.react id detail).1 := by
        refine apart_react h.sound (fun l' hl' hid' => ?_) detail
        rwa [h.sound.matched.eq_of_id_eq hl' hlive (hid'.trans hid.symm)]
      exact ⟨h.of_apart hm hst, hst.threshold⟩

/-- The listener itself does to an event what its stamp does. -/
lemma react_self (h : s.Wears k stamp) (detail : Option Value) :
    let met := meet s.threshold stamp detail
    (s.react k detail).1.Wears k met.1 ∧ (s.react k detail).2 = met.2.left ∧
      (s.react k detail).1.log = s.log ++ met.2.logged ∧
      (s.react k detail).1.threshold = s.threshold := by
  have hreact : s.react k detail
      = ({ s with listeners := s.listeners.setReaction k (.stamp (handle stamp detail).1) }.logAll
        (handle stamp detail).2.2, (handle stamp detail).2.1) := by
    rw [react, h.find?_eq]
  have hm := moves_react h.sound k detail
  rw [hreact] at hm ⊢
  refine ⟨h.of_moves hm ?_, rfl, rfl, rfl⟩
  exact Listeners.mem_live_setReaction.mpr (Or.inr ⟨_, h.lives, rfl, rfl⟩)

lemma replays_arrivalsAmong (h : s.Wears k stamp) (detail : Option Value) (ids : List ℕ) :
    ∃ last, Replays (meet s.threshold) Arrival.found stamp (s.arrivalsAmong k detail ids) last ∧
      (s.reactAll detail ids).1.Wears k last ∧
      (s.reactAll detail ids).1.threshold = s.threshold := by
  induction ids generalizing s stamp detail with
  | nil => exact ⟨stamp, .nil stamp, h, rfl⟩
  | cons id ids ih =>
    by_cases hid : id = k
    · subst hid
      obtain ⟨hwears, hleft, hlog, hthreshold⟩ := h.react_self detail
      obtain ⟨last, hlater, hlast, hsame⟩ := ih hwears (s.react id detail).2
      rw [hthreshold] at hlater hsame
      refine ⟨last, ?_, hlast, hsame⟩
      rw [arrivalsAmong, if_pos rfl]
      refine .cons ?_ hlater
      rw [hlog, hleft, List.drop_left]
      rfl
    · obtain ⟨hwears, hthreshold⟩ := h.react_of_ne hid detail
      obtain ⟨last, hlater, hlast, hsame⟩ := ih hwears (s.react id detail).2
      rw [hthreshold] at hlater hsame
      refine ⟨last, ?_, hlast, hsame⟩
      rw [arrivalsAmong, if_neg hid]
      exact hlater

/-- The listener may be the only one that reacts, and more than once. -/
lemma reactAll_replicate (h : s.Wears k stamp) (n : ℕ) (detail : Option Value) :
    let met := meetTimes s.threshold n stamp detail
    let done := s.reactAll detail (List.replicate n k)
    done.1.Wears k met.1 ∧ done.2 = met.2.1 ∧ done.1.log = s.log ++ met.2.2 ∧
      done.1.threshold = s.threshold := by
  induction n generalizing s stamp detail with
  | zero => exact ⟨h, rfl, (List.append_nil _).symm, rfl⟩
  | succ n ih =>
    obtain ⟨hwears, hleft, hlog, hthreshold⟩ := h.react_self detail
    obtain ⟨hlast, hend, hlogs, hsame⟩ := ih hwears (s.react k detail).2
    rw [hthreshold, hleft] at hlast hend hlogs hsame
    rw [hlog, List.append_assoc] at hlogs
    rw [List.replicate_succ, reactAll, hleft]
    exact ⟨hlast, hend, hlogs, hsame⟩

/-! ### Steps -/

/-- A step that sends no event before a request has no part in it. -/
lemma step_of_silent (h : s.Wears k stamp) {a : Step} (hstart : a ≠ .start)
    (hevent : a.event? = none) :
    (s.step a).2.Wears k stamp ∧ (s.step a).2.threshold = s.threshold := by
  have hm := moves_step h.sound hstart
  by_cases ha : a.Stamping
  · cases a with
    | start => exact absurd rfl hstart
    | request spot detail => exact absurd hevent (by simp [Step.event?])
    | plainRequest spot => exact absurd hevent (by simp [Step.event?])
    | stamp spot raw names =>
      exact ⟨h.of_moves hm (List.mem_append_left _ h.lives), rfl⟩
    | drop handle =>
      refine ⟨h.of_moves hm ((stampers_drop h.sound handle rfl).mpr ⟨h.lives, fun hk => ?_⟩),
        threshold_drop h.sound handle⟩
      exact h.free (mem_of_join hk)
    | _ => exact ha.elim
  · have hst := apart_step h.sound ha
    exact ⟨h.of_apart hm hst, hst.threshold⟩

lemma replays_arrivalsAt (h : s.Wears k stamp) {a : Step} (hstart : a ≠ .start) :
    ∃ last, Replays (meet s.threshold) Arrival.found stamp (s.arrivalsAt k a) last ∧
      (s.step a).2.Wears k last ∧ (s.step a).2.threshold = s.threshold := by
  cases hevent : a.event? with
  | none =>
    rw [arrivalsAt, hevent]
    exact ⟨stamp, .nil stamp, h.step_of_silent hstart hevent⟩
  | some e =>
    rw [arrivalsAt, hevent, step_of_event? hevent]
    exact h.replays_arrivalsAmong e.2 _

/-- **What the listener did in a run is a replay of its stamp** on the events that it met. -/
theorem replays_arrivals (h : s.Wears k stamp) {l : List Step} (hl : .start ∉ l) :
    ∃ last, Replays (meet s.threshold) Arrival.found stamp (s.arrivals k l) last ∧
      (s.steps l).Wears k last := by
  induction l generalizing s stamp with
  | nil => exact ⟨stamp, .nil stamp, h⟩
  | cons a l ih =>
    have hstart : a ≠ .start := fun ha => hl (by simp [ha])
    obtain ⟨middle, hfirst, hwears, hthreshold⟩ := h.replays_arrivalsAt hstart
    obtain ⟨last, hlater, hlast⟩ := ih hwears fun hmem => hl (List.mem_cons_of_mem a hmem)
    rw [hthreshold] at hlater
    exact ⟨last, hfirst.append hlater, hlast⟩

/-! ### Without stamps of scripts -/

/-- If no other listener stamps, an event meets the listener and no other. -/
lemma along_of_unrivalled (h : s.Wears k stamp) (hs : s.Unrivalled) (path : List Place) :
    s.listeners.along .request path = List.replicate (path.count .window) k := by
  have honly : ∀ k' ∈ s.listeners.along .request path, k' = k := by
    intro k' hk'
    obtain ⟨place, -, hk'⟩ := List.mem_flatMap.mp hk'
    obtain ⟨l, hl, ⟨-, hkind⟩, rfl⟩ := Listeners.mem_idsAt.mp hk'
    obtain ⟨c, hc, hid⟩ := hs l hl hkind
    obtain ⟨c', hc', hid'⟩ := hs _ h.lives rfl
    obtain rfl := Option.some.inj (hc.symm.trans hc')
    exact hid.symm.trans hid'
  have hlength : (s.listeners.along .request path).length = path.count .window := by
    rw [← h.count_along path]
    exact (List.count_eq_length.mpr fun k' hk' => (honly k' hk').symm).symm
  exact List.eq_replicate_iff.mpr ⟨hlength, honly⟩

lemma replays_passagesAt (h : s.Wears k stamp) (hs : s.Unrivalled) {a : Step}
    (hstart : a ≠ .start) :
    ∃ last, Replays (pass s.threshold) Passage.coming stamp (s.passagesAt a) last ∧
      (s.step a).2.Wears k last ∧ (s.step a).2.threshold = s.threshold := by
  cases hevent : a.event? with
  | none =>
    rw [passagesAt, hevent]
    exact ⟨stamp, .nil stamp, h.step_of_silent hstart hevent⟩
  | some e =>
    obtain ⟨hlast, hleft, hlog, hthreshold⟩ :=
      h.reactAll_replicate ((s.page.path (s.page.place e.1)).count .window) e.2
    rw [← h.along_of_unrivalled hs, ← dispatch] at hlast hleft hlog hthreshold
    rw [passagesAt, hevent, step_of_event? hevent]
    refine ⟨_, ?_, hlast, hthreshold⟩
    simp only [Option.elim_some]
    split_ifs with htimes
    · -- an event that does not come by the window meets no stamp
      rw [htimes]
      exact .nil stamp
    · refine .cons ?_ (.nil _)
      rw [hleft, hlog, List.drop_left]
      rfl

/-- If no other listener stamps, what became of the events is a replay of the stamp on them. -/
theorem replays_passages (h : s.Wears k stamp) (hs : s.Unrivalled) {l : List Step}
    (hl : .start ∉ l) (hstamp : ∀ spot raw names, .stamp spot raw names ∉ l) :
    ∃ last, Replays (pass s.threshold) Passage.coming stamp (s.passages l) last := by
  induction l generalizing s stamp with
  | nil => exact ⟨stamp, .nil stamp⟩
  | cons a l ih =>
    have hstart : a ≠ .start := fun ha => hl (by simp [ha])
    have ha : ∀ spot raw names, a ≠ .stamp spot raw names := by
      rintro spot raw names rfl
      exact hstamp spot raw names List.mem_cons_self
    obtain ⟨middle, hfirst, hwears, hthreshold⟩ := h.replays_passagesAt hs hstart
    obtain ⟨last, hlater⟩ := ih hwears (hs.step h.sound ha)
      (fun hmem => hl (List.mem_cons_of_mem a hmem))
      fun spot raw names hmem => hstamp spot raw names (List.mem_cons_of_mem a hmem)
    rw [hthreshold] at hlater
    exact ⟨last, hfirst.append hlater⟩

end Wears

/-- The companion that a start leaves has a listener at the window. -/
lemma exists_wears_of_start (hs : s.Sound) :
    ∃ c stamp, s.start.companion = some c ∧ s.start.Wears c.stamper stamp := by
  obtain ⟨c, hserving⟩ := Serving.exists_of_start hs
  obtain ⟨⟨k, place, reaction⟩, hl, rfl, rfl, hlike⟩ := hserving.stamper.lives
  cases reaction with
  | stamp stamp =>
    exact ⟨c, stamp, hserving.companion_eq, hs.start, hl, hserving.stamper.free⟩
  | _ => exact Reaction.noConfusion hlike

end Session

/-- **The token is a snapshot.**  Take two runs that agree until the companion is started, and in
which it is not started again.  The companion's listener meets an event before a request as often
as the event comes by the window.  If the events are the same as the listener finds them, then they
are the same as it leaves them, and it logs the same.  If no script makes a stamp of its own and
the events that come by the window are the same as they are sent, then they are the same in the
end, and the same is logged when they are sent.  The runs may differ in everything else. -/
theorem stamping_is_snapshot (p : Page) (before l l' : List Session.Step)
    (hl : .start ∉ l) (hl' : .start ∉ l') :
    let s := (Session.onPage p).steps (before ++ [.start])
    (∃ c, s.companion = some c ∧
      (∀ a, ((s.steps l).arrivalsAt c.stamper a).length = a.event?.elim 0 fun e =>
        ((s.steps l).page.path ((s.steps l).page.place e.1)).count .window) ∧
      ((s.arrivals c.stamper l).map Arrival.found = (s.arrivals c.stamper l').map Arrival.found →
        s.arrivals c.stamper l = s.arrivals c.stamper l')) ∧
    ((∀ spot raw names, .stamp spot raw names ∉ before ++ l ++ l') →
      (s.passages l).map Passage.coming = (s.passages l').map Passage.coming →
        s.passages l = s.passages l') := by
  intro s
  have hs : ((Session.onPage p).steps before).Sound := Session.sound_steps p before
  have hstart : s = ((Session.onPage p).steps before).start := Session.steps_append _ _ _
  obtain ⟨c, stamp, hc, hwears⟩ := Session.exists_wears_of_start hs
  rw [← hstart] at hc hwears
  obtain ⟨last, hreplay, hlast⟩ := hwears.replays_arrivals hl
  obtain ⟨last', hreplay', -⟩ := hwears.replays_arrivals hl'
  refine ⟨⟨c, hc, hlast.length_arrivalsAt, fun hfound => ?_⟩, fun hstamp hcoming => ?_⟩
  · exact hreplay.eq_of_met_eq hreplay' hfound
  · simp only [List.mem_append, not_or] at hstamp
    have hsole : s.Unrivalled := by
      refine Session.unrivalled_steps p fun spot raw names hmem => ?_
      rcases List.mem_append.mp hmem with hmem | hmem
      · exact (hstamp spot raw names).1.1 hmem
      · exact absurd hmem (by simp)
    obtain ⟨_, hpass⟩ :=
      hwears.replays_passages hsole hl fun spot raw names => (hstamp spot raw names).1.2
    obtain ⟨_, hpass'⟩ :=
      hwears.replays_passages hsole hl' fun spot raw names => (hstamp spot raw names).2
    exact hpass.eq_of_met_eq hpass' hcoming

/-- Cookies and settings that change after the start, and a body that goes, do not show in what
becomes of a request. -/
theorem stamping_is_snapshot_of_rotated_token :
    let sent : Value := .object { properties := [("headers", .object {})] }
    let s := (Session.onPage { cookie := .ok "_csrf=T" }).steps ([] ++ [.start])
    let l : List Session.Step := [.request .body sent]
    let l' : List Session.Step := [.change (.cookie (.ok "_csrf=U")),
      .change (.body (some [("data-hx-assist-csrf-header", "X-Other")])), .rescan,
      .request .document sent]
    s.passages l = s.passages l' ∧ (s.passages l').map (fun e => (openHeaders e.left).toOption.bind
      fun h => (h.2.find? "X-CSRF-Token").map Value.describe) = [some "T"] := by
  intro sent s l l'
  -- only the last step of either run sends an event
  let t := s.steps (l'.take 3)
  have htimes : (s.page.path (s.page.place .body)).count .window = 1 := by decide +kernel
  have htimes' : (t.page.path (t.page.place .document)).count .window = 1 := by decide +kernel
  have hcoming : (s.passages l).map Passage.coming = [(1, some sent)] := by
    show (s.passagesAt (.request .body sent) ++ []).map Passage.coming = _
    simp [Session.passagesAt, Session.Step.event?, htimes, Passage.coming]
  have hcoming' : (s.passages l').map Passage.coming = [(1, some sent)] := by
    show ([] ++ ([] ++ ([] ++ (t.passagesAt (.request .document sent) ++ [])))).map
      Passage.coming = _
    simp [Session.passagesAt, Session.Step.event?, htimes', Passage.coming]
  obtain ⟨-, hpassages⟩ := stamping_is_snapshot { cookie := .ok "_csrf=T" } [] l l' (by simp [l])
    (by simp [l'])
  exact ⟨hpassages (by simp [l, l']) (hcoming.trans hcoming'.symm), by decide +kernel⟩

end PageCompanion.Live
