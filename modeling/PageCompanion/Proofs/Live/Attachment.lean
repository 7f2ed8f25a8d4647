/-
# Inputs and their click listeners

In every run, and for every roster of it, an input is attached exactly when it has a click
listener of the roster, which then is the only one: none is doubled and none is left behind.
The inputs on a roster are as many as it attached in all without those that it released.
-/
import PageCompanion.Proofs.Live.Starting

namespace PageCompanion.Live

open Copying (Attachment)
open Dom (Page Place)

/-- The roster that a click listener acts for. -/
def Reaction.owner? : Reaction → Option ℕ
  | .copy owner _ => some owner
  | _ => none

/-- The live click listeners of a roster at an input. -/
def Session.clickListeners (s : Session) (id n : ℕ) : List Listener :=
  s.listeners.live.filter fun l => l.place = .node n ∧ l.reaction.owner? = some id

lemma Reaction.owner?_eq_some_iff {r : Reaction} {id : ℕ} :
    r.owner? = some id ↔ ∃ input, r = .copy id input := by
  cases r <;> simp [Reaction.owner?]

/-- Of a list without repeats, a condition that one element satisfies leaves that element. -/
lemma filter_eq_singleton {α : Type} [DecidableEq α] {l : List α} (hl : l.Nodup) {a : α}
    (ha : a ∈ l) {p : α → Bool} (hp : ∀ b ∈ l, p b = true ↔ b = a) : l.filter p = [a] := by
  have hcongr : l.filter p = l.filter (· = a) := by
    refine List.filter_congr fun b hb => ?_
    rw [Bool.eq_iff_iff, hp b hb, decide_eq_true_iff]
  rw [hcongr, List.filter_eq, List.count_eq_one_of_mem hl ha, List.replicate_one]

namespace Matched

variable {entries : ℕ → List Entry} {ls : Listeners}

/-- A live click listener stands at the input of an entry that holds its number. -/
lemma exists_entry (h : Matched entries ls) {id : ℕ} {l : Listener} (hl : l ∈ ls.live)
    (howner : l.reaction.owner? = some id) :
    ∃ e ∈ entries id, l = ⟨l.id, .node e.input, .copy id e.input⟩ ∧ e.latch = ⟨some l.id⟩ := by
  obtain ⟨input, hreaction⟩ := Reaction.owner?_eq_some_iff.mp howner
  refine ⟨⟨input, ⟨some l.id⟩⟩, ?_, ?_, rfl⟩
  · rw [h.entries_eq]
    exact List.mem_filterMap.mpr ⟨l, hl, entryFor?_eq_some_iff.mpr ⟨hreaction, rfl⟩⟩
  · have hplace := h.placed l hl id input hreaction
    obtain ⟨k, place, reaction⟩ := l
    simp only at hplace hreaction
    rw [hplace, hreaction]

/-- An entry holds the number of a live click listener at its input. -/
lemma exists_listener (h : Matched entries ls) {id : ℕ} {e : Entry} (he : e ∈ entries id) :
    ∃ k, e.latch = ⟨some k⟩ ∧ ⟨k, .node e.input, .copy id e.input⟩ ∈ ls.live := by
  rw [h.entries_eq] at he
  obtain ⟨l, hl, hentry⟩ := List.mem_filterMap.mp he
  obtain ⟨hreaction, hlatch⟩ := entryFor?_eq_some_iff.mp hentry
  refine ⟨l.id, hlatch, ?_⟩
  rwa [← h.placed l hl id e.input hreaction, ← hreaction]

/-- Entries of one input are the same. -/
lemma entry_unique (h : Matched entries ls) {id : ℕ} {e e' : Entry} (he : e ∈ entries id)
    (he' : e' ∈ entries id) (hinput : e.input = e'.input) : e = e' :=
  List.inj_on_of_nodup_map (h.inputs_nodup id) he he' hinput

/-- The latch of every entry holds a listener, so an input on a roster is active. -/
lemma stateOf_eq_active_iff (h : Matched entries ls) {id : ℕ} {r : Roster}
    (hr : r.entries = entries id) {n : ℕ} : r.stateOf n = .active ↔ r.holds n = true := by
  rw [Roster.stateOf]
  cases hfind : r.entries.find? (·.input == n) with
  | none =>
    have hnone : r.holds n = false := by
      rw [Roster.holds, List.any_eq_false]
      simpa using List.find?_eq_none.mp hfind
    simp [hnone]
  | some e =>
    have he : e ∈ r.entries := List.mem_of_find?_eq_some hfind
    have hinput : e.input = n := by simpa using List.find?_some hfind
    obtain ⟨k, hlatch, -⟩ := h.exists_listener (hr ▸ he)
    simp [hlatch, Roster.holds_iff.mpr ⟨e, he, hinput⟩]

end Matched

namespace Session.Sound

variable {s : Session}

/-- The input of an entry has one click listener of the roster, whose number the entry holds. -/
lemma clickListeners_of_mem (hs : s.Sound) {id : ℕ} {e : Entry} (he : e ∈ (s.roster id).entries) :
    ∃ k, e.latch = ⟨some k⟩ ∧
      s.clickListeners id e.input = [⟨k, .node e.input, .copy id e.input⟩] := by
  obtain ⟨k, hlatch, hlive⟩ := hs.matched.exists_listener he
  refine ⟨k, hlatch, filter_eq_singleton hs.matched.ids_nodup.of_map hlive fun l hl => ?_⟩
  rw [decide_eq_true_iff]
  constructor
  · -- another listener there would have an entry of the same input
    rintro ⟨hplace, howner⟩
    obtain ⟨e', he', heq, hlatch'⟩ := hs.matched.exists_entry hl howner
    have hinput : e'.input = e.input := by
      rw [heq] at hplace
      exact Place.node.inj hplace
    obtain rfl := hs.matched.entry_unique he' he hinput
    have hid : l.id = k := by
      rw [hlatch] at hlatch'
      simpa using hlatch'.symm
    rw [heq, hid]
  · rintro rfl
    exact ⟨rfl, rfl⟩

lemma clickListeners_of_holds_eq_false (hs : s.Sound) {id n : ℕ}
    (hn : (s.roster id).holds n = false) : s.clickListeners id n = [] := by
  rw [clickListeners, List.filter_eq_nil_iff]
  intro l hl hat
  rw [decide_eq_true_iff] at hat
  obtain ⟨e, he, heq, -⟩ := hs.matched.exists_entry hl hat.2
  have hinput : e.input = n := by
    have hplace := hat.1
    rw [heq] at hplace
    exact Place.node.inj hplace
  rw [Roster.holds_iff.mpr ⟨e, he, hinput⟩] at hn
  exact absurd hn (by simp)

lemma stateOf_eq_active_iff (hs : s.Sound) {id n : ℕ} :
    (s.roster id).stateOf n = .active ↔ (s.roster id).holds n = true :=
  hs.matched.stateOf_eq_active_iff rfl

/-- The size of a roster is the number of inputs that are attached. -/
lemma size_eq_ncard (hs : s.Sound) (id : ℕ) :
    (s.roster id).size = {n | (s.roster id).stateOf n = .active}.ncard := by
  have hset : {n | (s.roster id).stateOf n = .active}
      = ((s.roster id).entries.map (·.input)).toFinset := by
    ext n
    simp [hs.stateOf_eq_active_iff, Roster.holds_iff]
  rw [hset, Set.ncard_coe_finset, List.toFinset_card_of_nodup (hs.matched.inputs_nodup id),
    List.length_map, Roster.size]

end Session.Sound

/-- A scan enters into the books what it answers, and how many inputs of the roster were no longer
in the document. -/
theorem Session.turnovers_scan (s : Session) (id : ℕ) :
    (s.scan id).2.turnovers = s.turnovers ++ [⟨id, (s.scan id).1.toOption.getD 0,
      ((s.roster id).entries.filter fun e => !s.page.isConnected e.input).length⟩] := by
  rw [← size_sub_size_keep s.page.isConnected (s.roster id) s.listeners]
  simp only [Session.scan, Session.logAll, Session.setRoster, Roster.Scan.attached, Roster.scan]
  cases s.page.query (s.roster id).selector <;> rfl

/-- **Entries and click listeners come and go as one.**  After any run on any page, and for any
number of a roster: no input is on the roster twice; each entry is active and holds the number
of the one click listener of the roster at its input; an input that is not on the roster has
none, and none of the roster stands anywhere else; the inputs on the roster are those that are
active; and they are as many as scans attached without those that were released. -/
theorem attachment_invariant (p : Page) (l : List Session.Step) (id : ℕ) :
    let s := (Session.onPage p).steps l
    let r := s.roster id
    (r.entries.map (·.input)).Nodup ∧
    (∀ e ∈ r.entries, e.latch.state = .active ∧ ∃ k, e.latch.listener = some k ∧
      s.clickListeners id e.input = [⟨k, .node e.input, .copy id e.input⟩]) ∧
    (∀ n, r.holds n = false → s.clickListeners id n = []) ∧
    (∀ k ∈ s.listeners.live, k.reaction.owner? = some id → ∃ e ∈ r.entries,
      k = ⟨k.id, .node e.input, .copy id e.input⟩ ∧ e.latch.listener = some k.id) ∧
    (∀ n, r.stateOf n = .active ↔ r.holds n = true) ∧
    r.size = {n | r.stateOf n = .active}.ncard ∧
    r.size + s.releasedBy id = s.attachedBy id := by
  intro s r
  have hs : s.Sound := Session.sound_steps p l
  refine ⟨hs.matched.inputs_nodup id, fun e he => ?_,
    fun n hn => hs.clickListeners_of_holds_eq_false hn, fun k hk howner => ?_,
    fun n => hs.stateOf_eq_active_iff, hs.size_eq_ncard id, hs.balanced id⟩
  · obtain ⟨k, hlatch, hlisteners⟩ := hs.clickListeners_of_mem he
    refine ⟨?_, k, ?_, hlisteners⟩
    · rw [hlatch, Copying.Latch.state_some]
    · rw [hlatch]
  · obtain ⟨e, he, heq, hlatch⟩ := hs.matched.exists_entry hk howner
    exact ⟨e, he, heq, by rw [hlatch]⟩

/-- An input that was taken out and put back between two scans keeps its listener; one that a scan
missed in between has a new one. -/
example :
    let made : List Session.Step := [.change (.create (.make "a" "input" [] "")),
      .change (.append (.element "a") .body), .openRoster "input", .scan 0,
      .change (.remove (.element "a"))]
    let back : Session.Step := .change (.append (.element "a") .body)
    (((Session.onPage {}).steps (made ++ [back, .scan 0])).roster 0).entries
        = [⟨1, ⟨some 0⟩⟩] ∧
      (((Session.onPage {}).steps (made ++ [.scan 0, back, .scan 0])).roster 0).entries
        = [⟨1, ⟨some 1⟩⟩] := by
  decide +kernel

end PageCompanion.Live
