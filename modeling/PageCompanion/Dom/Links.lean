/-
# Where things stand on a page

The window, the document and the elements of a page are its places, and a place can stand below
another.  `Links` holds who stands below whom: at most one link for each place that stands below
something, in the order in which they were made, so that the children of a place are in the order
in which they came.  A place takes all that is below it along when it is put elsewhere.

Nothing keeps a place from being put below one of its own descendants.  Such a circle has no top,
and going up in it is cut off when there are no more links to go through.

The main statement is `mem_below_iff`: what is below a place is what has that place above it.
-/
namespace PageCompanion.Dom

/-- Where an event can be sent to and a listener can stand. -/
inductive Place where
  | window
  | document
  | node (n : Nat)
deriving DecidableEq, Repr

/-- The number of the element at a place. -/
def Place.node? : Place → Option Nat
  | node n => some n
  | _ => none

structure Link where
  child : Place
  parent : Place
deriving DecidableEq, Repr

/-- Who stands below whom. -/
structure Links where
  /-- The links, the oldest first. -/
  all : List Link
  /-- A place stands below one other at most. -/
  nodup : (all.map (·.child)).Nodup
deriving DecidableEq, Repr

namespace Links

def parent? (l : Links) (p : Place) : Option Place :=
  (l.all.find? (·.child = p)).map (·.parent)

/-- The places that stand below a place, the oldest first. -/
def children (l : Links) (p : Place) : List Place :=
  (l.all.filter (·.parent = p)).map (·.child)

/-- The links after a place has left the one that it stood below. -/
def cut (l : Links) (p : Place) : Links where
  all := l.all.filter (·.child ≠ p)
  nodup := l.nodup.sublist (List.filter_sublist.map _)

/-- The links after a place was put below another, behind its last child. -/
def put (l : Links) (child parent : Place) : Links where
  all := (l.cut child).all ++ [⟨child, parent⟩]
  nodup := by
    rw [List.map_append, List.nodup_append]
    refine ⟨(l.cut child).nodup, by simp, ?_⟩
    intro a ha b hb
    obtain ⟨k, hk, rfl⟩ := List.mem_map.mp ha
    have hne : k.child ≠ child := by simpa using (List.mem_filter.mp hk).2
    simpa [List.mem_singleton.mp hb] using hne

/-- The places above a place, from its parent upwards, as far as a number of links leads. -/
def climb (l : Links) : Nat → Place → List Place
  | 0, _ => []
  | k + 1, p => (l.parent? p).elim [] fun q => q :: l.climb k q

/-- The places above a place, from its parent upwards. -/
def above (l : Links) (p : Place) : List Place :=
  l.climb l.all.length p

/-- The places below a place in tree order, as far down as a number of links leads: a parent
before its children, and these from the oldest to the newest. -/
def descend (l : Links) : Nat → Place → List Place
  | 0, _ => []
  | k + 1, p => (l.children p).flatMap fun c => c :: l.descend k c

/-- The places below a place in tree order. -/
def below (l : Links) (p : Place) : List Place :=
  l.descend l.all.length p

/-! ## One link -/

theorem parent?_eq_some_iff {l : Links} {c p : Place} :
    l.parent? c = some p ↔ ⟨c, p⟩ ∈ l.all := by
  have h := l.nodup
  rw [parent?]
  generalize l.all = all at h ⊢
  induction all with
  | nil => simp
  | cons k rest ih =>
    rw [List.map_cons, List.nodup_cons] at h
    obtain ⟨hk, hrest⟩ := h
    by_cases hc : k.child = c
    · have hnot : (⟨c, p⟩ : Link) ∉ rest := fun hm =>
        hk (List.mem_map.mpr ⟨_, hm, hc.symm⟩)
      rw [List.find?_cons_of_pos (by simpa using hc)]
      cases k
      simp_all [eq_comm]
    · rw [List.find?_cons_of_neg (by simpa using hc)]
      refine (ih hrest).trans ?_
      have hne : (⟨c, p⟩ : Link) ≠ k := fun he => hc (by simp [← he])
      simp [hne]

theorem mem_children_iff {l : Links} {c p : Place} :
    c ∈ l.children p ↔ l.parent? c = some p := by
  rw [parent?_eq_some_iff, children]
  constructor
  · intro h
    obtain ⟨k, hk, rfl⟩ := List.mem_map.mp h
    obtain ⟨hk, hp⟩ := List.mem_filter.mp hk
    cases k
    simp_all
  · intro h
    exact List.mem_map.mpr ⟨_, List.mem_filter.mpr ⟨h, by simp⟩, rfl⟩

@[simp] theorem parent?_put_self (l : Links) (child parent : Place) :
    (l.put child parent).parent? child = some parent := by
  simp [parent?_eq_some_iff, put]

theorem parent?_put_of_ne {l : Links} {child parent p : Place} (h : p ≠ child) :
    (l.put child parent).parent? p = l.parent? p := by
  ext q
  simp [parent?_eq_some_iff, put, cut, h]

@[simp] theorem parent?_cut_self (l : Links) (p : Place) : (l.cut p).parent? p = none := by
  rw [Option.eq_none_iff_forall_ne_some]
  intro q h
  simp [parent?_eq_some_iff, cut] at h

theorem parent?_cut_of_ne {l : Links} {p q : Place} (h : q ≠ p) :
    (l.cut p).parent? q = l.parent? q := by
  ext r
  simp [parent?_eq_some_iff, cut, h]

/-! ## Many links -/

/-- A number of links leads from a place up to another. -/
def Leads (l : Links) : Nat → Place → Place → Prop
  | 0, c, p => c = p
  | k + 1, c, p => ∃ q, l.parent? c = some q ∧ l.Leads k q p

/-- The last of a number of links can be looked at first. -/
theorem leads_succ_iff {l : Links} {k : Nat} {c p : Place} :
    l.Leads (k + 1) c p ↔ ∃ q, l.Leads k c q ∧ l.parent? q = some p := by
  induction k generalizing c with
  | zero => simp [Leads]
  | succ k ih =>
    constructor
    · rintro ⟨q, hq, h⟩
      obtain ⟨r, hr, hp⟩ := ih.mp h
      exact ⟨r, ⟨q, hq, hr⟩, hp⟩
    · rintro ⟨r, ⟨q, hq, hr⟩, hp⟩
      exact ⟨q, hq, ih.mpr ⟨r, hr, hp⟩⟩

theorem mem_climb_iff {l : Links} {k : Nat} {c p : Place} :
    p ∈ l.climb k c ↔ ∃ j < k, l.Leads (j + 1) c p := by
  induction k generalizing c with
  | zero => simp [climb]
  | succ k ih =>
    constructor
    · intro h
      cases hc : l.parent? c with
      | none => simp [climb, hc] at h
      | some q =>
        rw [climb, hc, Option.elim_some, List.mem_cons] at h
        rcases h with rfl | h
        · exact ⟨0, by omega, p, hc, rfl⟩
        · obtain ⟨j, hj, hl⟩ := ih.mp h
          exact ⟨j + 1, by omega, q, hc, hl⟩
    · rintro ⟨j, hj, q, hc, hl⟩
      rw [climb, hc, Option.elim_some, List.mem_cons]
      cases j with
      | zero => exact Or.inl hl.symm
      | succ j => exact Or.inr (ih.mpr ⟨j, by omega, hl⟩)

theorem mem_descend_iff {l : Links} {k : Nat} {c p : Place} :
    c ∈ l.descend k p ↔ ∃ j < k, l.Leads (j + 1) c p := by
  induction k generalizing p with
  | zero => simp [descend]
  | succ k ih =>
    rw [descend, List.mem_flatMap]
    constructor
    · rintro ⟨q, hq, h⟩
      have hp := mem_children_iff.mp hq
      rcases List.mem_cons.mp h with rfl | h
      · exact ⟨0, by omega, p, hp, rfl⟩
      · obtain ⟨j, hj, hl⟩ := ih.mp h
        exact ⟨j + 1, by omega, leads_succ_iff.mpr ⟨q, hl, hp⟩⟩
    · rintro ⟨j, hj, hl⟩
      obtain ⟨q, hq, hp⟩ := leads_succ_iff.mp hl
      refine ⟨q, mem_children_iff.mpr hp, ?_⟩
      cases j with
      | zero => simp [show c = q from hq]
      | succ j => exact List.mem_cons_of_mem _ (ih.mpr ⟨j, by omega, hq⟩)

/-- What is below a place is what has that place above it. -/
theorem mem_below_iff {l : Links} {c p : Place} : c ∈ l.below p ↔ p ∈ l.above c := by
  rw [below, above, mem_descend_iff, mem_climb_iff]

end Links

end PageCompanion.Dom
