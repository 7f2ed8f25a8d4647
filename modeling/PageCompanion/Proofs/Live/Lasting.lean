/-
# Listeners that last

A listener that is no click listener of a roster, and that no script holds, can only go when the
companion is replaced.  `Session.Lasts` says that such a listener lives, and `Lasts.of_move` that
a move lets it live on.  What it does stays the same too, except that a stamp remembers whether
it has warned of a missing token.
-/
import PageCompanion.Proofs.Live.Soundness

namespace PageCompanion.Live

open Dom (Place)

/-- Two reactions are alike when they do the same, up to what a stamp remembers. -/
def Reaction.Like : Reaction → Reaction → Prop
  | .stamp a, .stamp b => a.jar = b.jar ∧ a.names = b.names
  | a, b => a = b

lemma Reaction.Like.refl (r : Reaction) : r.Like r := by
  cases r with
  | stamp a => exact ⟨rfl, rfl⟩
  | _ => exact rfl

lemma Reaction.Like.kind_eq {r r' : Reaction} (h : r.Like r') : r.kind = r'.kind := by
  cases r <;> cases r' <;> first | rfl | exact Reaction.noConfusion h

namespace Session

/-- The listener of a number lives, stands at a place and reacts in a way, and no script holds
it. -/
structure Lasts (s : Session) (k : ℕ) (place : Place) (r : Reaction) : Prop where
  lives : ∃ l ∈ s.listeners.live, l.id = k ∧ l.place = place ∧ l.reaction.Like r
  free : some k ∉ s.handles

namespace Lasts

variable {s t : Session} {k : ℕ} {place : Place} {r : Reaction}

lemma lt_next (h : s.Lasts k place r) (hs : s.Sound) : k < s.listeners.next := by
  obtain ⟨l, hl, rfl, -, -⟩ := h.lives
  exact hs.matched.id_lt l hl

/-- The number of a listener that lasts is no number of a click listener. -/
lemma spare (h : s.Lasts k place r) (hs : s.Sound) (hkind : r.kind ≠ .click) :
    s.listeners.Spare k := by
  refine ⟨h.lt_next hs, fun l' hl' hid => ?_⟩
  obtain ⟨l, hl, rfl, -, hlike⟩ := h.lives
  rw [hs.matched.eq_of_id_eq hl' hl hid, hlike.kind_eq]
  exact hkind

/-- A listener lasts while listeners of other kinds of numbers come and go. -/
lemma of_mem (h : s.Lasts k place r)
    (hlive : ∀ l ∈ s.listeners.live, l.id = k → l.reaction.Like r → l ∈ t.listeners.live)
    (hfree : some k ∉ t.handles) : t.Lasts k place r := by
  obtain ⟨l, hl, hid, hplace, hlike⟩ := h.lives
  exact ⟨⟨l, hlive l hl hid hlike, hid, hplace, hlike⟩, hfree⟩

lemma of_clicksOnly (h : s.Lasts k place r) (hkind : r.kind ≠ .click)
    (hclicks : ClicksOnly s.listeners t.listeners) (hhandles : t.handles = s.handles) :
    t.Lasts k place r := by
  refine h.of_mem (fun l hl _ hlike => hclicks.mem_of l hl ?_) (hhandles ▸ h.free)
  rw [hlike.kind_eq]
  exact hkind

lemma unlisten (h : s.Lasts k place r) {k' : ℕ} (hne : k ≠ k') :
    (s.unlisten k').Lasts k place r := by
  refine h.of_mem (fun l hl hid _ => ?_) h.free
  rw [Session.unlisten, Listeners.mem_live_remove, hid]
  exact ⟨hl, hne⟩

lemma restamp (h : s.Lasts k place r) (hs : s.Sound) {k' : ℕ} {l' : Listener}
    {old new : Token.Stamp} (hl' : s.listeners.find? k' = some l') (hold : l'.reaction = .stamp old)
    (hjar : new.jar = old.jar) (hnames : new.names = old.names) :
    Lasts { s with listeners := s.listeners.setReaction k' (.stamp new) } k place r := by
  obtain ⟨hlive', hid'⟩ := hs.matched.find?_eq_some_iff.mp hl'
  obtain ⟨l, hl, hid, hplace, hlike⟩ := h.lives
  by_cases hk : l.id = k'
  · -- the stamp that changed is this listener's
    obtain rfl := hs.matched.eq_of_id_eq hl hlive' (hk.trans hid'.symm)
    refine ⟨⟨_, Listeners.mem_live_setReaction.mpr (Or.inr ⟨l, hl, hk, rfl⟩), hid, hplace, ?_⟩,
      h.free⟩
    rw [hold] at hlike
    cases r with
    | stamp a => exact ⟨hjar.trans hlike.1, hnames.trans hlike.2⟩
    | _ => exact Reaction.noConfusion hlike
  · exact ⟨⟨l, Listeners.mem_live_setReaction.mpr (Or.inl ⟨hl, hk⟩), hid, hplace, hlike⟩, h.free⟩

lemma listen (h : s.Lasts k place r) (place' : Place) (reaction : Reaction) :
    (s.listen place' reaction).2.Lasts k place r :=
  h.of_mem (fun _ hl _ _ => List.mem_append_left _ hl) h.free

/-- A listener that was just installed lasts until a script holds it. -/
lemma of_listen (hs : s.Sound) (place : Place) (reaction : Reaction) :
    (s.listen place reaction).2.Lasts s.listeners.next place reaction := by
  refine ⟨⟨_, Listeners.mem_live_add.mpr (Or.inr rfl), rfl, rfl, Reaction.Like.refl reaction⟩,
    fun hmem => ?_⟩
  have hlt := (hs.handle_lendable _ hmem).1.1
  omega

/-- A listener that lasts lasts through every move. -/
lemma of_move (h : s.Lasts k place r) (hs : s.Sound) (hkind : r.kind ≠ .click) (hm : Move s t) :
    t.Lasts k place r := by
  cases hm with
  | aside halike =>
    exact h.of_mem (fun l hl _ _ => halike.listeners ▸ hl) (halike.handles ▸ h.free)
  | restamp hl hold hjar hnames => exact h.restamp hs hl hold hjar hnames
  | scan hid => exact h.of_clicksOnly hkind (hs.matched.clicksOnly_scan rfl s.page) rfl
  | @release id hid hfree =>
    have hclicks : ClicksOnly s.listeners ((s.roster id).clear s.listeners).2 :=
      hs.matched.clicksOnly_keep rfl _
    rw [releaseUnused, if_neg (by simp [hfree])]
    exact h.of_clicksOnly hkind hclicks rfl
  | openRoster selector => exact h.of_mem (fun _ hl _ _ => hl) h.free
  | listen place' _ _ => exact h.listen place' _
  | lend place' _ _ =>
    refine (h.listen place' _).of_mem (fun _ hl _ _ => hl) fun hmem => ?_
    rcases List.mem_append.mp hmem with hmem | hmem
    · exact h.free hmem
    · -- the script gets the number of the new listener
      have hk := h.lt_next hs
      rw [Option.some.inj (List.mem_singleton.mp hmem)] at hk
      exact absurd hk (lt_irrefl _)
  | @letGo handle k' hk' =>
    have hlet : Lasts { s with handles := s.handles.set handle none } k place r :=
      h.of_mem (fun _ hl _ _ => hl) fun hk => h.free (mem_of_mem_set_none hk)
    refine hlet.unlisten ?_
    rintro rfl
    exact h.free (mem_of_join hk')
  | takeSlot hid => exact h.of_mem (fun _ hl _ _ => hl) h.free
  | leaveSlot slot => exact h.of_mem (fun _ hl _ _ => hl) h.free

lemma of_moves (h : s.Lasts k place r) (hs : s.Sound) (hkind : r.kind ≠ .click)
    (hm : Relation.ReflTransGen Move s t) : t.Lasts k place r := by
  induction hm with
  | refl => exact h
  | tail hms hmove ih => exact ih.of_move (hs.of_moves hms) hkind hmove

/-- A listener that the old companion did not have lasts when a new one takes over. -/
lemma handOver (h : s.Lasts k place r)
    (hold : ∀ old, s.companion = some old → k ≠ old.stamper ∧ k ≠ old.loader) (c : Companion) :
    (s.handOver c).Lasts k place r := by
  have hadopted : Lasts { s with companion := some c } k place r :=
    h.of_mem (fun _ hl _ _ => hl) h.free
  rw [Session.handOver]
  cases hcompanion : s.companion with
  | none => exact hadopted
  | some old =>
    obtain ⟨hstamper, hloader⟩ := hold old hcompanion
    exact (hadopted.unlisten hstamper).unlisten hloader

end Lasts

end Session

end PageCompanion.Live
