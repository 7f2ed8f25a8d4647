/-
# Entries and their listeners

An entry of a roster holds the number of a click listener, and a click listener acts on behalf
of a roster.  `Matched` says that the two belong together: the entries of every roster are read
off the live listeners in order, one for each click listener of the roster, no input is there
twice, and each click listener stands at the input that it copies.

Listeners are added, removed and changed, and rosters attach inputs and release them.  Each of
these keeps the match, as `Matched.add`, `Matched.filter`, `Matched.setReaction` and
`Matched.scan` say.
-/
import Mathlib
import PageCompanion.Live.Roster

namespace PageCompanion.Live

open Copying (Attachment)
open Dom (Page Place)

/-- The entry that a listener stands for, if it is a click listener of the roster. -/
def entryFor? (id : ℕ) (l : Listener) : Option Entry :=
  match l.reaction with
  | .copy owner input => if owner = id then some ⟨input, ⟨some l.id⟩⟩ else none
  | _ => none

/-- The entries of the rosters, by the rosters' numbers, match the listeners. -/
structure Matched (entries : ℕ → List Entry) (ls : Listeners) : Prop where
  ids_nodup : (ls.live.map (·.id)).Nodup
  id_lt : ∀ l ∈ ls.live, l.id < ls.next
  placed : ∀ l ∈ ls.live, ∀ owner input, l.reaction = .copy owner input → l.place = .node input
  entries_eq : ∀ id, entries id = ls.live.filterMap (entryFor? id)
  inputs_nodup : ∀ id, ((entries id).map (·.input)).Nodup

lemma entryFor?_eq_some_iff {id : ℕ} {l : Listener} {e : Entry} :
    entryFor? id l = some e ↔ l.reaction = .copy id e.input ∧ e.latch = ⟨some l.id⟩ := by
  obtain ⟨input, latch⟩ := e
  rw [entryFor?]
  cases l.reaction with
  | copy owner i =>
    by_cases howner : owner = id
    · simp [howner, eq_comm]
    · simp [howner]
  | _ => simp

lemma entryFor?_of_kind_ne {l : Listener} (h : l.reaction.kind ≠ .click) (id : ℕ) :
    entryFor? id l = none := by
  rw [Option.eq_none_iff_forall_ne_some]
  intro e he
  rw [(entryFor?_eq_some_iff.mp he).1] at h
  exact h rfl

namespace Matched

variable {entries : ℕ → List Entry} {ls : Listeners}

/-- Two live listeners of one number are the same. -/
lemma eq_of_id_eq (h : Matched entries ls) {l l' : Listener} (hl : l ∈ ls.live)
    (hl' : l' ∈ ls.live) (hid : l.id = l'.id) : l = l' :=
  List.inj_on_of_nodup_map h.ids_nodup hl hl' hid

lemma find?_eq_some_iff (h : Matched entries ls) {k : ℕ} {l : Listener} :
    ls.find? k = some l ↔ l ∈ ls.live ∧ l.id = k := by
  constructor
  · intro hfind
    exact ⟨List.mem_of_find?_eq_some hfind, by simpa using List.find?_some hfind⟩
  · rintro ⟨hl, rfl⟩
    cases hfind : ls.find? l.id with
    | none => exact absurd (List.find?_eq_none.mp hfind l hl) (by simp)
    | some l' =>
      have hid : l'.id = l.id := by simpa using List.find?_some hfind
      rw [h.eq_of_id_eq (List.mem_of_find?_eq_some hfind) hl hid]

/-- An entry is the one of the live listener whose number it holds. -/
lemma entryFor?_of_mem (h : Matched entries ls) {id : ℕ} {e : Entry} (he : e ∈ entries id)
    {l : Listener} (hl : l ∈ ls.live) (hid : e.latch.listener = some l.id) :
    entryFor? id l = some e := by
  rw [h.entries_eq] at he
  obtain ⟨l', hl', he'⟩ := List.mem_filterMap.mp he
  have hlatch := (entryFor?_eq_some_iff.mp he').2
  have heq : l'.id = l.id := by
    rw [hlatch] at hid
    exact Option.some.inj hid
  rwa [h.eq_of_id_eq hl' hl heq] at he'

lemma congr {entries' : ℕ → List Entry} (h : Matched entries ls)
    (heq : ∀ id, entries' id = entries id) : Matched entries' ls := by
  rwa [funext heq]

end Matched

/-- The match of a page that nothing is on yet. -/
lemma matched_empty : Matched (fun _ => []) {} :=
  ⟨List.nodup_nil, by simp, by simp, fun _ => rfl, fun _ => List.nodup_nil⟩

/-! ## Lists -/

lemma nodup_eraseDups {α : Type} [DecidableEq α] (l : List α) : l.eraseDups.Nodup := by
  induction hn : l.length using Nat.strong_induction_on generalizing l with
  | _ n ih =>
    cases l with
    | nil => simp
    | cons a l =>
      rw [List.eraseDups_cons, List.nodup_cons]
      constructor
      · simp [List.mem_eraseDups]
      · have hle := List.length_filter_le (fun b => !b == a) l
        rw [List.length_cons] at hn
        exact ih _ (by omega) _ rfl


lemma filter_filterMap_of_agree {α β : Type} {f : α → Option β} {p : α → Bool} {q : β → Bool}
    {l : List α} (h : ∀ a ∈ l, ∀ b, f a = some b → q b = p a) :
    (l.filterMap f).filter q = (l.filter p).filterMap f := by
  rw [List.filter_filterMap, List.filterMap_filter]
  refine List.filterMap_congr fun a ha => ?_
  cases hf : f a with
  | none => simp
  | some b => simp [Option.filter, h a ha b hf]

/-! ## Listeners -/

namespace Matched

variable {entries : ℕ → List Entry} {ls : Listeners}

/-- Listeners may go as long as their entries go with them. -/
lemma filter (h : Matched entries ls) {spares : Listener → Bool} (keeps : ℕ → Entry → Bool)
    (hkeeps : ∀ l ∈ ls.live, ∀ id e, entryFor? id l = some e → keeps id e = spares l) :
    Matched (fun id => (entries id).filter (keeps id))
      { ls with live := ls.live.filter spares } where
  ids_nodup := h.ids_nodup.sublist (List.filter_sublist.map _)
  id_lt l hl := h.id_lt l (List.mem_of_mem_filter hl)
  placed l hl := h.placed l (List.mem_of_mem_filter hl)
  entries_eq id := by
    rw [h.entries_eq]
    exact filter_filterMap_of_agree fun l hl e he => hkeeps l hl id e he
  inputs_nodup id := (h.inputs_nodup id).sublist (List.filter_sublist.map _)

/-- A listener that is no click listener may go. -/
lemma remove (h : Matched entries ls) {k : ℕ}
    (hk : ∀ l ∈ ls.live, l.id = k → l.reaction.kind ≠ .click) : Matched entries (ls.remove k) := by
  refine (h.filter (fun _ _ => true) fun l hl id e he => ?_).congr fun id => ?_
  · symm
    rw [bne_iff_ne]
    intro hid
    rw [entryFor?_of_kind_ne (hk l hl hid)] at he
    exact absurd he (by simp)
  · simp

/-- A listener may come as long as its entry comes with it. -/
lemma add (h : Matched entries ls) {place : Place} {reaction : Reaction}
    {entries' : ℕ → List Entry}
    (hplace : ∀ owner input, reaction = .copy owner input → place = .node input)
    (hentries : ∀ id,
      entries' id = entries id ++ (entryFor? id ⟨ls.next, place, reaction⟩).toList)
    (hinputs : ∀ id, ((entries' id).map (·.input)).Nodup) :
    Matched entries' (ls.add place reaction).2 where
  ids_nodup := by
    -- the new number is above all that were given out
    rw [Listeners.live_add, List.map_append, List.nodup_append]
    refine ⟨h.ids_nodup, List.nodup_singleton _, ?_⟩
    rintro k hk k' hk' rfl
    obtain ⟨l, hl, rfl⟩ := List.mem_map.mp hk
    have hlt := h.id_lt l hl
    have heq : l.id = ls.next := by simpa using hk'
    omega
  id_lt l hl := by
    rw [Listeners.next_add]
    rcases Listeners.mem_live_add.mp hl with hl | rfl
    · have hlt := h.id_lt l hl
      omega
    · exact Nat.lt_succ_self _
  placed l hl := by
    rcases Listeners.mem_live_add.mp hl with hl | rfl
    · exact h.placed l hl
    · exact hplace
  entries_eq id := by
    rw [hentries, h.entries_eq, Listeners.live_add, List.filterMap_append]
    cases hentry : entryFor? id ⟨ls.next, place, reaction⟩ <;> simp [hentry]
  inputs_nodup := hinputs

/-- A listener that is no click listener may come. -/
lemma add_of_kind_ne (h : Matched entries ls) {reaction : Reaction}
    (hkind : reaction.kind ≠ .click) (place : Place) :
    Matched entries (ls.add place reaction).2 := by
  refine h.add ?_ (fun id => ?_) h.inputs_nodup
  · rintro owner input rfl
    exact absurd rfl hkind
  · have hnone : entryFor? id ⟨ls.next, place, reaction⟩ = none := entryFor?_of_kind_ne hkind id
    rw [hnone, Option.toList_none, List.append_nil]

/-- A listener that stamps requests may have its stamp changed. -/
lemma setReaction (h : Matched entries ls) {k : ℕ} {l : Listener} {old : Token.Stamp}
    (hl : ls.find? k = some l) (hold : l.reaction = .stamp old) (new : Token.Stamp) :
    Matched entries (ls.setReaction k (.stamp new)) := by
  obtain ⟨hlive, hid⟩ := h.find?_eq_some_iff.mp hl
  have hids : (ls.setReaction k (.stamp new)).live.map (·.id) = ls.live.map (·.id) := by
    rw [Listeners.setReaction, List.map_map]
    refine List.map_congr_left fun l' _ => ?_
    by_cases hk : l'.id = k <;> simp [hk]
  refine ⟨hids ▸ h.ids_nodup, fun l' hl' => ?_, fun l' hl' owner input hreaction => ?_,
    fun id => ?_, h.inputs_nodup⟩
  · rcases Listeners.mem_live_setReaction.mp hl' with ⟨hl', -⟩ | ⟨l₀, hl₀, -, rfl⟩
    · exact h.id_lt l' hl'
    · exact h.id_lt l₀ hl₀
  · rcases Listeners.mem_live_setReaction.mp hl' with ⟨hl', -⟩ | ⟨l₀, -, -, rfl⟩
    · exact h.placed l' hl' owner input hreaction
    · exact absurd hreaction (by simp)
  · rw [h.entries_eq, Listeners.setReaction, List.filterMap_map]
    refine List.filterMap_congr fun l' hl' => ?_
    by_cases hk : l'.id = k
    · -- the listener that changes stood for no entry before and stands for none afterwards
      obtain rfl := h.eq_of_id_eq hl' hlive (hk.trans hid.symm)
      simp [entryFor?, hk, hold]
    · simp [hk]

end Matched

/-! ## Releasing -/

lemma unlatch_eq (ls : Listeners) (e : Entry) :
    Roster.unlatch ls e
      = { ls with live := ls.live.filter fun l => e.latch.listener != some l.id } := by
  obtain ⟨input, ⟨_ | k⟩⟩ := e
  · have hall : ls.live.filter (fun l => none != some l.id) = ls.live := by simp
    rw [hall]
    rfl
  · have hsame : ∀ l : Listener, (l.id != k) = (some k != some l.id) := by
      intro l
      rw [bne_comm]
      rfl
    simp only [Roster.unlatch, Copying.Latch.disconnect, Listeners.remove, hsame]

/-- The listeners of a list of entries are gone when the entries have been gone through. -/
lemma foldl_unlatch (es : List Entry) (ls : Listeners) :
    es.foldl Roster.unlatch ls
      = { ls with live := ls.live.filter fun l => es.all (·.latch.listener != some l.id) } := by
  induction es generalizing ls with
  | nil => simp
  | cons e es ih =>
    rw [List.foldl_cons, ih, unlatch_eq]
    simp only [List.filter_filter, List.all_cons, Bool.and_comm]

namespace Matched

variable {entries : ℕ → List Entry} {ls : Listeners}

/-- A roster that keeps some of its entries removes the listeners of the others, and no listener
of another roster. -/
lemma keep (h : Matched entries ls) {id : ℕ} {r : Roster} (hr : r.entries = entries id)
    (keeps : ℕ → Bool) :
    Matched (Function.update entries id (r.keep keeps ls).1.entries) (r.keep keeps ls).2 := by
  have hlisteners : (r.keep keeps ls).2 = { ls with live := ls.live.filter fun l =>
      (r.entries.filter fun e => !keeps e.input).all (·.latch.listener != some l.id) } :=
    foldl_unlatch _ ls
  rw [hlisteners]
  refine (h.filter (fun j e => j != id || keeps e.input) ?_).congr ?_
  · intro l hl j e he
    rw [Bool.eq_iff_iff, List.all_eq_true]
    simp only [bne_iff_ne, Bool.or_eq_true, List.mem_filter, Bool.not_eq_true', and_imp]
    constructor
    · -- a listener of a dropped entry is one of this roster, and its entry is the dropped one
      intro hkeep e' he' hdrop hid
      have hentry := h.entryFor?_of_mem (hr ▸ he') hl hid
      have hreaction := (entryFor?_eq_some_iff.mp he).1
      rw [(entryFor?_eq_some_iff.mp hentry).1] at hreaction
      obtain ⟨hj, hinput⟩ := Reaction.copy.inj hreaction
      rcases hkeep with hne | hkeep
      · exact hne hj.symm
      · rw [← hinput, hdrop] at hkeep
        exact absurd hkeep (by simp)
    · -- the entry of a listener that is left was not among the dropped
      intro hspare
      by_cases hj : j = id
      · right
        by_contra hdrop
        subst hj
        have hmem : e ∈ r.entries := by
          rw [hr, h.entries_eq]
          exact List.mem_filterMap.mpr ⟨l, hl, he⟩
        refine hspare e hmem (by simpa using hdrop) ?_
        rw [(entryFor?_eq_some_iff.mp he).2]
      · exact Or.inl hj
  · intro j
    by_cases hj : j = id
    · subst hj
      simp [hr]
    · have hall : ∀ e ∈ entries j, (j != id || keeps e.input) = true := by simp [hj]
      rw [Function.update_of_ne hj, List.filter_eq_self.mpr hall]

/-- A roster that releases every input leaves no listener of its own. -/
lemma clear (h : Matched entries ls) {id : ℕ} {r : Roster} (hr : r.entries = entries id) :
    Matched (Function.update entries id []) (r.clear ls).2 := by
  have hkeep := h.keep hr fun _ => false
  rwa [show (r.keep (fun _ => false) ls).1.entries = [] from r.entries_clear ls] at hkeep

end Matched

/-! ## Attaching -/

namespace Matched

variable {entries : ℕ → List Entry} {ls : Listeners}

/-- An input that is not on a roster can be put on it. -/
lemma attach (h : Matched entries ls) {id : ℕ} {r : Roster} (hr : r.entries = entries id)
    {input : ℕ} (hinput : r.holds input = false) :
    Matched (Function.update entries id (Roster.attach id r ls input).1.entries)
      (Roster.attach id r ls input).2 := by
  rw [Roster.attach_eq]
  refine h.add ?_ (fun j => ?_) (fun j => ?_)
  · rintro owner i hcopy
    rw [(Reaction.copy.inj hcopy).2]
  · by_cases hj : j = id
    · subst hj
      simp [entryFor?, hr]
    · simp [Function.update_of_ne hj, entryFor?, Ne.symm hj]
  · by_cases hj : j = id
    · subst hj
      rw [Function.update_self, hr, List.map_append, List.nodup_append]
      refine ⟨h.inputs_nodup j, List.nodup_singleton _, ?_⟩
      rintro i hi i' hi' rfl
      obtain ⟨e, he, rfl⟩ := List.mem_map.mp hi
      have hholds : r.holds input = true :=
        Roster.holds_iff.mpr ⟨e, hr ▸ he, by simpa using hi'⟩
      rw [hinput] at hholds
      exact absurd hholds (by simp)
    · rw [Function.update_of_ne hj]
      exact h.inputs_nodup j

/-- Going through the elements that match a selector keeps the match. -/
lemma attachAll {id : ℕ} (isInput : ℕ → Bool) (found : List ℕ) {r : Roster} {ls : Listeners}
    (h : Matched (Function.update entries id r.entries) ls) :
    Matched (Function.update entries id (Roster.attachAll id isInput r ls found).2.1.entries)
      (Roster.attachAll id isInput r ls found).2.2.1 := by
  induction found generalizing r ls with
  | nil => exact h
  | cons n found ih =>
    rw [Roster.attachAll]
    by_cases hin : isInput n = true
    · rw [if_neg (by simp [hin])]
      by_cases hholds : r.holds n = true
      · rw [if_pos hholds]
        exact ih h
      · rw [if_neg hholds]
        -- the roster of the induction is the updated one
        have hattach := h.attach (Function.update_self id r.entries entries).symm
          (by simpa using hholds : r.holds n = false)
        rw [Function.update_idem] at hattach
        exact ih hattach
    · rw [if_pos (by simpa using hin)]
      exact ih h

/-! ## Scanning -/

/-- Bringing a roster up to date keeps the match, whether the page can be searched or not. -/
lemma scan (h : Matched entries ls) {id : ℕ} {r : Roster} (hr : r.entries = entries id)
    (p : Page) :
    Matched (Function.update entries id (r.scan id p ls).roster.entries)
      (r.scan id p ls).listeners := by
  have hkept := h.keep hr p.isConnected
  rw [Roster.scan]
  cases p.query r.selector with
  | error thrown => exact hkept
  | ok found => exact hkept.attachAll p.isInput found

end Matched

/-! ## What rosters do to the listeners of others -/

/-- Only click listeners came and went. -/
structure ClicksOnly (ls ls' : Listeners) : Prop where
  next_le : ls.next ≤ ls'.next
  of_mem : ∀ l ∈ ls'.live, l ∈ ls.live ∨ ls.next ≤ l.id ∧ l.reaction.kind = .click
  mem_of : ∀ l ∈ ls.live, l.reaction.kind ≠ .click → l ∈ ls'.live

lemma ClicksOnly.refl (ls : Listeners) : ClicksOnly ls ls :=
  ⟨le_rfl, fun _ hl => Or.inl hl, fun _ hl _ => hl⟩

lemma ClicksOnly.trans {a b c : Listeners} (h : ClicksOnly a b) (h' : ClicksOnly b c) :
    ClicksOnly a c := by
  refine ⟨h.next_le.trans h'.next_le, fun l hl => ?_, fun l hl hkind => ?_⟩
  · rcases h'.of_mem l hl with hl | ⟨hlt, hkind⟩
    · exact h.of_mem l hl
    · exact Or.inr ⟨h.next_le.trans hlt, hkind⟩
  · exact h'.mem_of l (h.mem_of l hl hkind) hkind

lemma clicksOnly_add (ls : Listeners) (place : Place) (owner input : ℕ) :
    ClicksOnly ls (ls.add place (.copy owner input)).2 := by
  refine ⟨Nat.le_succ _, fun l hl => ?_, fun l hl _ => List.mem_append_left _ hl⟩
  rcases Listeners.mem_live_add.mp hl with hl | rfl
  · exact Or.inl hl
  · exact Or.inr ⟨le_rfl, rfl⟩

lemma clicksOnly_attachAll (id : ℕ) (isInput : ℕ → Bool) (r : Roster) (ls : Listeners)
    (found : List ℕ) : ClicksOnly ls (Roster.attachAll id isInput r ls found).2.2.1 := by
  induction found generalizing r ls with
  | nil => exact ClicksOnly.refl ls
  | cons n found ih =>
    rw [Roster.attachAll]
    split_ifs with hin hholds
    · exact ih r ls
    · exact ih r ls
    · exact (clicksOnly_add ls (.node n) id n).trans (ih _ _)

namespace Matched

variable {entries : ℕ → List Entry} {ls : Listeners}

lemma clicksOnly_keep (h : Matched entries ls) {id : ℕ} {r : Roster} (hr : r.entries = entries id)
    (keeps : ℕ → Bool) : ClicksOnly ls (r.keep keeps ls).2 := by
  rw [Roster.keep, foldl_unlatch]
  refine ⟨le_rfl, fun l hl => Or.inl (List.mem_of_mem_filter hl), fun l hl hkind => ?_⟩
  rw [List.mem_filter, List.all_eq_true]
  refine ⟨hl, fun e he => ?_⟩
  rw [bne_iff_ne]
  intro hid
  -- an entry holds the number of a click listener only
  have hentry := h.entryFor?_of_mem (hr ▸ List.mem_of_mem_filter he) hl hid
  rw [entryFor?_of_kind_ne hkind] at hentry
  exact absurd hentry (by simp)

lemma clicksOnly_scan (h : Matched entries ls) {id : ℕ} {r : Roster} (hr : r.entries = entries id)
    (p : Page) : ClicksOnly ls (r.scan id p ls).listeners := by
  have hkept := h.clicksOnly_keep hr p.isConnected
  rw [Roster.scan]
  cases p.query r.selector with
  | error thrown => exact hkept
  | ok found => exact hkept.trans (clicksOnly_attachAll _ _ _ _ _)

end Matched

/-! ## Counting the inputs of a roster -/

lemma size_attachAll (id : ℕ) (isInput : ℕ → Bool) (r : Roster) (ls : Listeners)
    (found : List ℕ) :
    (Roster.attachAll id isInput r ls found).2.1.size
      = r.size + (Roster.attachAll id isInput r ls found).1 := by
  induction found generalizing r ls with
  | nil => rfl
  | cons n found ih =>
    rw [Roster.attachAll]
    split_ifs with hin hholds
    · exact ih r ls
    · exact ih r ls
    · have hsize : (Roster.attach id r ls n).1.size = r.size + 1 := by
        simp [Roster.attach_eq, Roster.size]
      simp only [ih, hsize]
      omega

/-- What is not kept is released. -/
lemma size_sub_size_keep (keeps : ℕ → Bool) (r : Roster) (ls : Listeners) :
    r.size - (r.keep keeps ls).1.size = (r.entries.filter fun e => !keeps e.input).length := by
  have hsum := r.entries.length_eq_length_filter_add fun e => keeps e.input
  simp only [Roster.size, Roster.entries_keep]
  omega

/-- A scan reports by how many the inputs of the roster have become more and fewer. -/
lemma size_scan (id : ℕ) (p : Page) (r : Roster) (ls : Listeners) :
    (r.scan id p ls).roster.size + (r.scan id p ls).released
      = r.size + (r.scan id p ls).attached := by
  have hle : (r.keep p.isConnected ls).1.size ≤ r.size := List.length_filter_le _ _
  rw [Roster.scan, Roster.Scan.attached]
  cases p.query r.selector with
  | error thrown =>
    simp only
    omega
  | ok found =>
    simp only [size_attachAll]
    omega

end PageCompanion.Live
