/-
# Sound sessions

Of a session's parts only some decide who listens to what: the listeners and the rosters, and
what is held of them by scripts and by the companion.  `Move` is the list of all that is done
to these parts between two starts of the companion, and `Session.handOver` is what a start does
with the companion.

A session is `Sound` when its entries match its listeners, when nothing refers to a roster that
was never opened or holds a click listener of a roster, and when the books of its rosters
balance.  Moves keep a session sound.
-/
import PageCompanion.Live.Session
import PageCompanion.Proofs.Live.Matching

namespace PageCompanion.Live

open Dom (Page Place)

/-- The number was given to a listener, and not to a click listener that lives. -/
def Listeners.Spare (ls : Listeners) (k : ℕ) : Prop :=
  k < ls.next ∧ ∀ l ∈ ls.live, l.id = k → l.reaction.kind ≠ .click

namespace Session

/-- The inputs that a roster attached in all. -/
def attachedBy (s : Session) (id : ℕ) : ℕ :=
  ((s.turnovers.filter (·.roster == id)).map (·.attached)).sum

/-- The inputs that a roster released in all. -/
def releasedBy (s : Session) (id : ℕ) : ℕ :=
  ((s.turnovers.filter (·.roster == id)).map (·.released)).sum

/-- A listener that a script may hold and let go. -/
def Lendable (s : Session) (k : ℕ) : Prop :=
  s.listeners.Spare k ∧ ∀ c, s.companion = some c → k ≠ c.stamper ∧ k ≠ c.loader

structure Sound (s : Session) : Prop where
  matched : Matched (fun id => (s.roster id).entries) s.listeners
  rescan_lt : ∀ l ∈ s.listeners.live, ∀ r, l.reaction = .rescan r → r < s.rosters.length
  slot_lt : ∀ id, some id ∈ s.slots → id < s.rosters.length
  handle_lendable : ∀ k, some k ∈ s.handles → s.Lendable k
  companion_lt : ∀ c, s.companion = some c → c.roster < s.rosters.length
  companion_spare : ∀ c, s.companion = some c →
    s.listeners.Spare c.stamper ∧ s.listeners.Spare c.loader
  balanced : ∀ id, (s.roster id).size + s.releasedBy id = s.attachedBy id

/-- Two sessions whose listeners and rosters are the same and held by the same. -/
structure Alike (s t : Session) : Prop where
  listeners : t.listeners = s.listeners
  rosters : t.rosters = s.rosters
  slots : t.slots = s.slots
  handles : t.handles = s.handles
  companion : t.companion = s.companion
  turnovers : t.turnovers = s.turnovers

/-- What is done to the listeners and rosters of a session between two starts. -/
inductive Move : Session → Session → Prop
  /-- Something that listeners and rosters have nothing to do with. -/
  | aside {s t : Session} (h : Alike s t) : Move s t
  /-- A listener stamped a request. -/
  | restamp {s : Session} {k : ℕ} {l : Listener} {old new : Token.Stamp}
      (hl : s.listeners.find? k = some l) (hold : l.reaction = .stamp old)
      (hjar : new.jar = old.jar) (hnames : new.names = old.names) :
      Move s { s with listeners := s.listeners.setReaction k (.stamp new) }
  | scan {s : Session} {id : ℕ} (hid : id < s.rosters.length) : Move s (s.scan id).2
  | release {s : Session} {id : ℕ} (hid : id < s.rosters.length) (hfree : s.inUse id = false) :
      Move s (s.releaseUnused id)
  | openRoster (s : Session) (selector : String) : Move s (s.openRoster selector).2
  | listen {s : Session} (place : Place) {reaction : Reaction} (hkind : reaction.kind ≠ .click)
      (hroster : ∀ r, reaction = .rescan r → r < s.rosters.length) :
      Move s (s.listen place reaction).2
  /-- A listener is installed for a script, which may let it go. -/
  | lend {s : Session} (place : Place) {reaction : Reaction} (hkind : reaction.kind ≠ .click)
      (hroster : ∀ r, reaction = .rescan r → r < s.rosters.length) :
      Move s ((s.listen place reaction).2.handOut s.listeners.next).2
  | letGo {s : Session} {handle k : ℕ} (hk : s.handles[handle]?.join = some k) :
      Move s ({ s with handles := s.handles.set handle none }.unlisten k)
  | takeSlot {s : Session} {id : ℕ} (hid : id < s.rosters.length) :
      Move s { s with slots := s.slots ++ [some id] }
  | leaveSlot (s : Session) (slot : ℕ) : Move s { s with slots := s.slots.set slot none }

/-- The session with another companion, and without the listeners of the one it had. -/
def handOver (s : Session) (c : Companion) : Session :=
  let adopted := { s with companion := some c }
  match s.companion with
  | none => adopted
  | some old => (adopted.unlisten old.stamper).unlisten old.loader

end Session

/-! ## Numbers that stay spare -/

namespace Listeners.Spare

variable {ls : Listeners} {k : ℕ}

lemma of_clicksOnly (h : ls.Spare k) {ls' : Listeners} (hls : ClicksOnly ls ls') :
    ls'.Spare k := by
  refine ⟨h.1.trans_le hls.next_le, fun l hl hid => ?_⟩
  rcases hls.of_mem l hl with hl | ⟨hlt, -⟩
  · exact h.2 l hl hid
  · have hk := h.1
    omega

lemma add (h : ls.Spare k) (place : Place) (reaction : Reaction) :
    (ls.add place reaction).2.Spare k := by
  refine ⟨h.1.trans (Nat.lt_succ_self _), fun l hl hid => ?_⟩
  rcases Listeners.mem_live_add.mp hl with hl | rfl
  · exact h.2 l hl hid
  · exact absurd hid h.1.ne'

lemma remove (h : ls.Spare k) (id : ℕ) : (ls.remove id).Spare k :=
  ⟨h.1, fun l hl => h.2 l (Listeners.mem_live_remove.mp hl).1⟩

lemma setReaction (h : ls.Spare k) (id : ℕ) (new : Token.Stamp) :
    (ls.setReaction id (.stamp new)).Spare k := by
  refine ⟨h.1, fun l hl hid => ?_⟩
  rcases Listeners.mem_live_setReaction.mp hl with ⟨hl, -⟩ | ⟨l₀, -, -, rfl⟩
  · exact h.2 l hl hid
  · simp [Reaction.kind]

/-- The number of a listener that is no click listener is spare. -/
lemma of_add {place : Place} {reaction : Reaction} {entries : ℕ → List Entry}
    (h : Matched entries ls) (hkind : reaction.kind ≠ .click) :
    (ls.add place reaction).2.Spare ls.next := by
  refine ⟨Nat.lt_succ_self _, fun l hl hid => ?_⟩
  rcases Listeners.mem_live_add.mp hl with hl | rfl
  · exact absurd hid (h.id_lt l hl).ne
  · exact hkind

end Listeners.Spare

namespace Session

/-! ## What is held -/

lemma mem_of_join {l : List (Option ℕ)} {i k : ℕ} (h : l[i]?.join = some k) : some k ∈ l :=
  List.mem_of_getElem? (Option.join_eq_some_iff.mp h)

/-- What was lent is still there when a handle is emptied. -/
lemma mem_of_mem_set_none {l : List (Option ℕ)} {i k : ℕ} (h : some k ∈ l.set i none) :
    some k ∈ l := by
  rcases List.mem_or_eq_of_mem_set h with h | h
  · exact h
  · exact absurd h (by simp)

/-! ## The roster of a number -/

lemma roster_of_length_le {s : Session} {id : ℕ} (h : s.rosters.length ≤ id) :
    (s.roster id).entries = [] := by
  rw [roster, List.getElem?_eq_none h]
  rfl

lemma roster_setRoster {s : Session} {id : ℕ} (hid : id < s.rosters.length) (r : Roster)
    (ls : Listeners) (attached released : ℕ) :
    (s.setRoster id r ls attached released).roster = Function.update s.roster id r := by
  funext j
  by_cases hj : j = id
  · subst hj
    simp [roster, setRoster, hid]
  · simp [roster, setRoster, Function.update_of_ne hj, List.getElem?_set_ne (Ne.symm hj)]

/-- A new roster has no entries, as had the number before. -/
lemma entries_openRoster (s : Session) (selector : String) (id : ℕ) :
    ((s.openRoster selector).2.roster id).entries = (s.roster id).entries := by
  rcases lt_trichotomy id s.rosters.length with hlt | rfl | hlt
  · simp [roster, openRoster, List.getElem?_append_left hlt]
  · simp [roster, openRoster]
  · rw [roster_of_length_le hlt.le, roster_of_length_le]
    simpa [openRoster] using hlt

/-! ## The books of a roster -/

lemma attachedBy_setRoster (s : Session) (id : ℕ) (r : Roster) (ls : Listeners)
    (attached released j : ℕ) :
    (s.setRoster id r ls attached released).attachedBy j
      = s.attachedBy j + if j = id then attached else 0 := by
  by_cases hj : j = id
  · simp [attachedBy, setRoster, hj]
  · simp [attachedBy, setRoster, hj, Ne.symm hj]

lemma releasedBy_setRoster (s : Session) (id : ℕ) (r : Roster) (ls : Listeners)
    (attached released j : ℕ) :
    (s.setRoster id r ls attached released).releasedBy j
      = s.releasedBy j + if j = id then released else 0 := by
  by_cases hj : j = id
  · simp [releasedBy, setRoster, hj]
  · simp [releasedBy, setRoster, hj, Ne.symm hj]

namespace Sound

variable {s t : Session}

/-! ## Keeping a session sound -/

lemma of_alike (hs : s.Sound) (h : Alike s t) : t.Sound := by
  obtain ⟨hl, hr, hsl, hh, hc, ht⟩ := h
  have hroster : t.roster = s.roster := by
    funext id
    rw [roster, roster, hr]
  constructor
  · rw [hroster, hl]
    exact hs.matched
  · rw [hl, hr]
    exact hs.rescan_lt
  · rw [hsl, hr]
    exact hs.slot_lt
  · simp only [Lendable, hh, hl, hc]
    exact hs.handle_lendable
  · rw [hc, hr]
    exact hs.companion_lt
  · rw [hc, hl]
    exact hs.companion_spare
  · simp only [releasedBy, attachedBy, ht, hroster]
    exact hs.balanced

/-- The listeners may change in a way that keeps the match, spares what is spare and adds no
listener that scans a roster never opened. -/
lemma of_listeners (hs : s.Sound) {ls : Listeners}
    (hmatched : Matched (fun id => (s.roster id).entries) ls)
    (hspare : ∀ k, s.listeners.Spare k → ls.Spare k)
    (hrescan : ∀ l ∈ ls.live, ∀ r, l.reaction = .rescan r → r < s.rosters.length) :
    Sound { s with listeners := ls } where
  matched := hmatched
  rescan_lt := hrescan
  slot_lt := hs.slot_lt
  handle_lendable k hk := ⟨hspare k (hs.handle_lendable k hk).1, (hs.handle_lendable k hk).2⟩
  companion_lt := hs.companion_lt
  companion_spare c hc := (hs.companion_spare c hc).imp (hspare _) (hspare _)
  balanced := hs.balanced

/-- A roster may take and give up inputs together with their listeners. -/
lemma setRoster (hs : s.Sound) {id : ℕ} (hid : id < s.rosters.length) {r : Roster}
    {ls : Listeners} {attached released : ℕ}
    (hmatched : Matched (Function.update (fun j => (s.roster j).entries) id r.entries) ls)
    (hclicks : ClicksOnly s.listeners ls)
    (hsize : r.size + released = (s.roster id).size + attached) :
    (s.setRoster id r ls attached released).Sound := by
  have hlength : (s.setRoster id r ls attached released).rosters.length = s.rosters.length :=
    List.length_set
  refine ⟨?_, ?_, ?_, ?_, ?_, ?_, ?_⟩
  · refine Matched.congr hmatched fun j => ?_
    rw [roster_setRoster hid]
    by_cases hj : j = id
    · subst hj
      rw [Function.update_self, Function.update_self]
    · rw [Function.update_of_ne hj, Function.update_of_ne hj]
  · intro l hl r' hr'
    rw [hlength]
    rcases hclicks.of_mem l hl with hl | ⟨-, hkind⟩
    · exact hs.rescan_lt l hl r' hr'
    · rw [hr'] at hkind
      exact absurd hkind (by simp [Reaction.kind])
  · rw [hlength]
    exact hs.slot_lt
  · intro k hk
    have hlend := hs.handle_lendable k hk
    exact ⟨hlend.1.of_clicksOnly hclicks, hlend.2⟩
  · rw [hlength]
    exact hs.companion_lt
  · intro c hc
    have hspare := hs.companion_spare c hc
    exact ⟨hspare.1.of_clicksOnly hclicks, hspare.2.of_clicksOnly hclicks⟩
  · intro j
    -- the books of the other rosters stay as they are
    rw [attachedBy_setRoster, releasedBy_setRoster, roster_setRoster hid, ← hs.balanced j]
    by_cases hj : j = id
    · subst hj
      rw [Function.update_self, if_pos rfl, if_pos rfl]
      omega
    · rw [Function.update_of_ne hj, if_neg hj, if_neg hj]
      omega

/-! ## Moves -/

lemma scan (hs : s.Sound) {id : ℕ} (hid : id < s.rosters.length) : (s.scan id).2.Sound := by
  have hset := hs.setRoster hid (hs.matched.scan rfl s.page) (hs.matched.clicksOnly_scan rfl s.page)
    (size_scan id s.page (s.roster id) s.listeners)
  exact hset.of_alike ⟨rfl, rfl, rfl, rfl, rfl, rfl⟩

lemma releaseUnused (hs : s.Sound) {id : ℕ} (hid : id < s.rosters.length) :
    (s.releaseUnused id).Sound := by
  rw [Session.releaseUnused]
  split_ifs with hused
  · exact hs
  · refine hs.setRoster hid ?_ (hs.matched.clicksOnly_keep rfl _) ?_
    · rw [Roster.entries_clear]
      exact hs.matched.clear rfl
    · simp [Roster.size]

lemma restamp (hs : s.Sound) {k : ℕ} {l : Listener} {old : Token.Stamp}
    (hl : s.listeners.find? k = some l) (hold : l.reaction = .stamp old) (new : Token.Stamp) :
    Sound { s with listeners := s.listeners.setReaction k (.stamp new) } := by
  refine hs.of_listeners (hs.matched.setReaction hl hold new)
    (fun _ hspare => hspare.setReaction k new) fun l' hl' r hr => ?_
  rcases Listeners.mem_live_setReaction.mp hl' with ⟨hl', -⟩ | ⟨l₀, -, -, rfl⟩
  · exact hs.rescan_lt l' hl' r hr
  · exact absurd hr (by simp)

lemma listen (hs : s.Sound) (place : Place) {reaction : Reaction}
    (hkind : reaction.kind ≠ .click)
    (hroster : ∀ r, reaction = .rescan r → r < s.rosters.length) :
    (s.listen place reaction).2.Sound := by
  refine hs.of_listeners (hs.matched.add_of_kind_ne hkind place)
    (fun _ hspare => hspare.add place reaction) fun l hl r hr => ?_
  rcases Listeners.mem_live_add.mp hl with hl | rfl
  · exact hs.rescan_lt l hl r hr
  · exact hroster r hr

lemma unlisten (hs : s.Sound) {k : ℕ} (hk : s.listeners.Spare k) : (s.unlisten k).Sound :=
  hs.of_listeners (hs.matched.remove hk.2) (fun _ hspare => hspare.remove k)
    fun l hl => hs.rescan_lt l (Listeners.mem_live_remove.mp hl).1

lemma openRoster (hs : s.Sound) (selector : String) : (s.openRoster selector).2.Sound := by
  have hlt : s.rosters.length < (s.openRoster selector).2.rosters.length := by
    simp [Session.openRoster]
  refine ⟨hs.matched.congr (entries_openRoster s selector), ?_, ?_, hs.handle_lendable, ?_,
    hs.companion_spare, ?_⟩
  · exact fun l hl r hr => (hs.rescan_lt l hl r hr).trans hlt
  · exact fun id hid => (hs.slot_lt id hid).trans hlt
  · exact fun c hc => (hs.companion_lt c hc).trans hlt
  · intro id
    have hsize : ((s.openRoster selector).2.roster id).size = (s.roster id).size := by
      rw [Roster.size, entries_openRoster, Roster.size]
    rw [hsize]
    exact hs.balanced id

/-- The scripts may hold other listeners and rosters. -/
lemma of_holdings (hs : s.Sound) {slots handles : List (Option ℕ)}
    (hslots : ∀ id, some id ∈ slots → id < s.rosters.length)
    (hhandles : ∀ k, some k ∈ handles → s.Lendable k) :
    Sound { s with slots, handles } :=
  ⟨hs.matched, hs.rescan_lt, hslots, hhandles, hs.companion_lt, hs.companion_spare, hs.balanced⟩

/-- **A move keeps a session sound.** -/
theorem of_move (hs : s.Sound) (h : Move s t) : t.Sound := by
  cases h with
  | aside h => exact hs.of_alike h
  | restamp hl hold _ _ => exact hs.restamp hl hold _
  | scan hid => exact hs.scan hid
  | release hid _ => exact hs.releaseUnused hid
  | openRoster selector => exact hs.openRoster selector
  | listen place hkind hroster => exact hs.listen place hkind hroster
  | lend place hkind hroster =>
    have hlistening := hs.listen place hkind hroster
    refine hlistening.of_holdings hlistening.slot_lt fun k hk => ?_
    rcases List.mem_append.mp hk with hk | hk
    · exact hlistening.handle_lendable k hk
    · -- the number is new, so the companion's listeners have others
      obtain rfl := Option.some.inj (List.mem_singleton.mp hk)
      refine ⟨Listeners.Spare.of_add hs.matched hkind, fun c hc => ?_⟩
      have hspare := hs.companion_spare c hc
      exact ⟨hspare.1.1.ne', hspare.2.1.ne'⟩
  | @letGo handle k hk =>
    have hheld : Sound { s with handles := s.handles.set handle none } :=
      hs.of_holdings hs.slot_lt fun k' hk' => hs.handle_lendable k' (mem_of_mem_set_none hk')
    exact hheld.unlisten (hs.handle_lendable k (mem_of_join hk)).1
  | @takeSlot id hid =>
    refine hs.of_holdings (fun id' hid' => ?_) hs.handle_lendable
    rcases List.mem_append.mp hid' with hid' | hid'
    · exact hs.slot_lt id' hid'
    · rw [Option.some.inj (List.mem_singleton.mp hid')]
      exact hid
  | leaveSlot slot =>
    exact hs.of_holdings (fun id hid => hs.slot_lt id (mem_of_mem_set_none hid))
      hs.handle_lendable

lemma of_moves (hs : s.Sound) (h : Relation.ReflTransGen Move s t) : t.Sound := by
  induction h with
  | refl => exact hs
  | tail _ hmove ih => exact ih.of_move hmove

/-- A companion may take over when its roster is open and its listeners are its own. -/
lemma handOver (hs : s.Sound) {c : Companion} (hroster : c.roster < s.rosters.length)
    (hstamper : s.listeners.Spare c.stamper) (hloader : s.listeners.Spare c.loader)
    (hown : ∀ k, some k ∈ s.handles → k ≠ c.stamper ∧ k ≠ c.loader) :
    (s.handOver c).Sound := by
  have hadopted : Sound { s with companion := some c } := by
    refine ⟨hs.matched, hs.rescan_lt, hs.slot_lt, fun k hk => ⟨(hs.handle_lendable k hk).1, ?_⟩,
      ?_, ?_, hs.balanced⟩
    · rintro c' hc'
      obtain rfl := Option.some.inj hc'
      exact hown k hk
    · rintro c' hc'
      obtain rfl := Option.some.inj hc'
      exact hroster
    · rintro c' hc'
      obtain rfl := Option.some.inj hc'
      exact ⟨hstamper, hloader⟩
  rw [Session.handOver]
  cases hold : s.companion with
  | none => exact hadopted
  | some old =>
    obtain ⟨hs', hl'⟩ := hs.companion_spare old hold
    exact (hadopted.unlisten hs').unlisten (hl'.remove _)

end Sound

end Session

end PageCompanion.Live
