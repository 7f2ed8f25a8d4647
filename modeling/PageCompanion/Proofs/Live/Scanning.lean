/-
# What a scan does

A scan of a roster first lets the entries go whose inputs are not in the document, and then, unless
the selector cannot be read, goes through the elements that match.  Both loops work on one list of
entries: an input is skipped when it was on the roster before, and also when the same scan has put
it there.  As no element is found twice, what the second loop adds are the matching inputs that the
first one left off the roster, in the order of the document (`attachAll_eq`).

The effect is stated for any roster, any listeners and any page, so that it does not matter how
these came to be what they are when the scan comes by.  Only that an entry has a listener which
lives, and no other has, is a fact on runs.
-/
import PageCompanion.Proofs.Live.Attachment

namespace PageCompanion.Live

open Dom (Page Place Selector)

namespace Roster

/-- The entries whose inputs are in the document. -/
def connected (r : Roster) (q : Page) : List Entry :=
  r.entries.filter fun e => q.isConnected e.input

/-- The entries whose inputs are not in the document. -/
def disconnected (r : Roster) (q : Page) : List Entry :=
  r.entries.filter fun e => !q.isConnected e.input

/-- The listeners that live when those of the disconnected entries are gone. -/
def spared (r : Roster) (q : Page) (ls : Listeners) : List Listener :=
  ls.live.filter fun l => (r.disconnected q).all (·.latch.listener != some l.id)

/-- The inputs of the document that match a selector and are not on the roster, in the order of the
document. -/
def newcomers (r : Roster) (q : Page) (sel : Selector) : List ℕ :=
  q.inDocument.filter fun n =>
    sel.holds (q.element n) && q.isInput n && !(r.connected q).any (·.input == n)

/-- New entries for a list of inputs, whose listeners are numbered from a number on. -/
def entriesFrom (next : ℕ) (inputs : List ℕ) : List Entry :=
  inputs.mapIdx fun i n => ⟨n, ⟨some (next + i)⟩⟩

/-- New click listeners at a list of inputs, numbered from a number on. -/
def listenersFrom (id next : ℕ) (inputs : List ℕ) : List Listener :=
  inputs.mapIdx fun i n => ⟨next + i, .node n, .copy id n⟩

/-! ## Going through the matches -/

lemma entriesFrom_cons (next n : ℕ) (inputs : List ℕ) :
    entriesFrom next (n :: inputs) = ⟨n, ⟨some next⟩⟩ :: entriesFrom (next + 1) inputs := by
  simp [entriesFrom, List.mapIdx_cons, Nat.add_assoc, Nat.add_comm 1]

lemma listenersFrom_cons (id next n : ℕ) (inputs : List ℕ) :
    listenersFrom id next (n :: inputs)
      = ⟨next, .node n, .copy id n⟩ :: listenersFrom id (next + 1) inputs := by
  simp [listenersFrom, List.mapIdx_cons, Nat.add_assoc, Nat.add_comm 1]

lemma map_input_entriesFrom (next : ℕ) (inputs : List ℕ) :
    (entriesFrom next inputs).map (·.input) = inputs := by
  induction inputs generalizing next with
  | nil => rfl
  | cons n inputs ih => rw [entriesFrom_cons, List.map_cons, ih]

lemma le_of_mem_listenersFrom {id next : ℕ} {inputs : List ℕ} {l : Listener}
    (h : l ∈ listenersFrom id next inputs) : next ≤ l.id := by
  obtain ⟨i, hi, rfl⟩ := List.mem_mapIdx.mp h
  exact Nat.le_add_right next i

/-- Going through elements of which none is found twice puts those on the roster that are inputs
and were not on it before. -/
lemma attachAll_eq (id : ℕ) (isInput : ℕ → Bool) (r : Roster) (ls : Listeners) {found : List ℕ}
    (hfound : found.Nodup) :
    attachAll id isInput r ls found =
      let new := found.filter fun n => isInput n && !r.holds n
      (new.length, { r with entries := r.entries ++ entriesFrom ls.next new },
        ⟨ls.next + new.length, ls.live ++ listenersFrom id ls.next new⟩,
        (found.filter fun n => !isInput n).map fun _ => Log.warning r.mismatchMessage) := by
  induction found generalizing r ls with
  | nil =>
    simp [attachAll, entriesFrom, listenersFrom]
  | cons n found ih =>
    obtain ⟨hn, hrest⟩ := List.nodup_cons.mp hfound
    rw [attachAll]
    cases hin : isInput n with
    | false =>
      simp [ih r ls hrest, hin]
    | true =>
      cases hholds : r.holds n with
      | true =>
        simp [ih r ls hrest, hin, hholds]
      | false =>
        -- what is found later is not the input that was just put on the roster
        have hlater : (found.filter fun m => isInput m && !(attach id r ls n).1.holds m)
            = found.filter fun m => isInput m && !r.holds m := by
          refine List.filter_congr fun m hm => ?_
          have hne : (n == m) = false := beq_false_of_ne fun h => hn (h ▸ hm)
          simp [attach_eq, holds, hne]
        simp only [ih _ _ hrest, hlater]
        simp [hin, hholds, attach_eq, mismatchMessage, entriesFrom_cons, listenersFrom_cons,
          Nat.add_assoc, Nat.add_comm 1]

/-! ## The two loops together -/

lemma keep_isConnected (r : Roster) (q : Page) (ls : Listeners) :
    r.keep q.isConnected ls
      = ({ r with entries := r.connected q }, { ls with live := r.spared q ls }) := by
  rw [keep, foldl_unlatch]
  rfl

lemma size_sub_size_connected (r : Roster) (q : Page) :
    r.size - size { r with entries := r.connected q } = (r.disconnected q).length :=
  size_sub_size_keep q.isConnected r {}

/-- The elements that are found and are no inputs are reported. -/
def mismatches (r : Roster) (q : Page) (sel : Selector) : List Log.Record :=
  ((q.select sel).filter fun n => !q.isInput n).map fun _ => Log.warning r.mismatchMessage

/-- Nothing is attached under a selector that cannot be read. -/
lemma scan_of_rejected {r : Roster} (h : Selector.ofText? r.selector = none) (id : ℕ) (q : Page)
    (ls : Listeners) :
    r.scan id q ls =
      ⟨.error (.badSelector r.selector Page.selectorError.describe), (r.disconnected q).length,
        { r with entries := r.connected q }, { ls with live := r.spared q ls },
        releaseReport (r.disconnected q).length⟩ := by
  have hquery : q.query r.selector = .error Page.selectorError := by
    rw [Page.query, h]
  rw [scan]
  simp only [hquery, keep_isConnected, size_sub_size_connected]

/-- The newcomers are what is attached under a selector that can be read. -/
lemma scan_of_accepted {r : Roster} {sel : Selector} (h : Selector.ofText? r.selector = some sel)
    (id : ℕ) (q : Page) (ls : Listeners) :
    r.scan id q ls =
      let new := r.newcomers q sel
      ⟨.ok new.length, (r.disconnected q).length,
        { r with entries := r.connected q ++ entriesFrom ls.next new },
        ⟨ls.next + new.length, r.spared q ls ++ listenersFrom id ls.next new⟩,
        releaseReport (r.disconnected q).length ++ r.mismatches q sel
          ++ attachReport new.length⟩ := by
  have hquery : q.query r.selector = .ok (q.select sel) := by
    rw [Page.query, h]
  have hnodup : (q.select sel).Nodup := (nodup_eraseDups _).filter _
  have hnew : (q.select sel).filter
      (fun n => q.isInput n && !holds { r with entries := r.connected q } n)
        = r.newcomers q sel := by
    rw [Page.select, List.filter_filter, newcomers]
    refine List.filter_congr fun n _ => ?_
    rw [holds, Bool.and_comm, Bool.and_assoc]
  rw [scan]
  simp only [hquery, keep_isConnected, size_sub_size_connected, attachAll_eq _ _ _ _ hnodup, hnew]
  rfl

/-! ## Whether the selector can be read or not -/

lemma released_scan (r : Roster) (id : ℕ) (q : Page) (ls : Listeners) :
    (r.scan id q ls).released = (r.disconnected q).length := by
  cases h : Selector.ofText? r.selector with
  | none => rw [scan_of_rejected h]
  | some sel => rw [scan_of_accepted h]

/-- An entry whose input is in the document stays as it is. -/
lemma mem_entries_scan {r : Roster} {q : Page} {e : Entry} (he : e ∈ r.connected q) (id : ℕ)
    (ls : Listeners) : e ∈ (r.scan id q ls).roster.entries := by
  cases h : Selector.ofText? r.selector with
  | none =>
    rw [scan_of_rejected h]
    exact he
  | some sel =>
    rw [scan_of_accepted h]
    exact List.mem_append_left _ he

/-- A listener that lives after the scan was spared or has a new number. -/
lemma of_mem_listeners_scan {r : Roster} {id : ℕ} {q : Page} {ls : Listeners} {l : Listener}
    (hl : l ∈ (r.scan id q ls).listeners.live) : l ∈ r.spared q ls ∨ ls.next ≤ l.id := by
  cases h : Selector.ofText? r.selector with
  | none =>
    rw [scan_of_rejected h] at hl
    exact Or.inl hl
  | some sel =>
    rw [scan_of_accepted h] at hl
    rcases List.mem_append.mp hl with hl | hl
    · exact Or.inl hl
    · exact Or.inr (le_of_mem_listenersFrom hl)

/-! ## What is on the roster afterwards -/

/-- After the scan a matching input of the document is on the roster, whether it was before or
not. -/
lemma mem_inputs_of_matches {r : Roster} {q : Page} {sel : Selector} {n : ℕ}
    (hn : n ∈ q.inDocument) (hsel : sel.holds (q.element n) = true) (hin : q.isInput n = true)
    (next : ℕ) :
    holds { r with entries := r.connected q ++ entriesFrom next (r.newcomers q sel) } n := by
  rw [holds, List.any_append, Bool.or_eq_true]
  cases hold : (r.connected q).any (·.input == n) with
  | true => exact Or.inl rfl
  | false =>
    right
    have hnew : n ∈ r.newcomers q sel :=
      List.mem_filter.mpr ⟨hn, by rw [hsel, hin, hold]; rfl⟩
    rw [← map_input_entriesFrom next (r.newcomers q sel)] at hnew
    obtain ⟨e, he, hinput⟩ := List.mem_map.mp hnew
    exact List.any_eq_true.mpr ⟨e, he, by simpa using hinput⟩

/-- After the scan the inputs on the roster are in the document. -/
lemma isConnected_of_mem {r : Roster} {q : Page} {sel : Selector} {next : ℕ} {e : Entry}
    (he : e ∈ r.connected q ++ entriesFrom next (r.newcomers q sel)) :
    q.isConnected e.input = true := by
  rcases List.mem_append.mp he with he | he
  · exact (List.mem_filter.mp he).2
  · have hnew : e.input ∈ r.newcomers q sel := by
      rw [← map_input_entriesFrom next (r.newcomers q sel)]
      exact List.mem_map_of_mem he
    exact Page.mem_inDocument.mp (List.mem_filter.mp hnew).1

/-- A scan finds nothing to do for a roster whose inputs are in the document and among which every
matching one is. -/
lemma scan_of_settled {r : Roster} {q : Page} {sel : Selector}
    (h : Selector.ofText? r.selector = some sel)
    (hconnected : ∀ e ∈ r.entries, q.isConnected e.input = true)
    (hheld : ∀ n ∈ q.inDocument, sel.holds (q.element n) = true → q.isInput n = true →
      r.holds n = true) (id : ℕ) (ls : Listeners) :
    r.scan id q ls = ⟨.ok 0, 0, r, ls, r.mismatches q sel⟩ := by
  have hkept : r.connected q = r.entries := List.filter_eq_self.mpr hconnected
  have hgone : r.disconnected q = [] := by
    rw [disconnected, List.filter_eq_nil_iff]
    intro e he
    simp [hconnected e he]
  have hspared : r.spared q ls = ls.live := by
    rw [spared, hgone]
    exact List.filter_eq_self.mpr fun _ _ => rfl
  have hnew : r.newcomers q sel = [] := by
    rw [newcomers, List.filter_eq_nil_iff]
    intro n hn hall
    rw [hkept] at hall
    have hold := hheld n hn
    simp only [Bool.and_eq_true, Bool.not_eq_true'] at hall
    rw [holds, hall.2] at hold
    exact absurd (hold hall.1.1 hall.1.2) (by simp)
  rw [scan_of_accepted h]
  simp [hnew, hkept, hgone, hspared, entriesFrom, listenersFrom, releaseReport, attachReport]

end Roster

namespace Session.Sound

variable {s : Session}

/-! ## Rosters of a run -/

lemma stateOf_scan_eq_active_iff (hs : s.Sound) (id : ℕ) (q : Page) {n : ℕ} :
    ((s.roster id).scan id q s.listeners).roster.stateOf n = .active
      ↔ ((s.roster id).scan id q s.listeners).roster.holds n = true := by
  have hmatched := hs.matched.scan (rfl : (s.roster id).entries = _) q
  have hown : ((s.roster id).scan id q s.listeners).roster.entries
      = Function.update (fun j => (s.roster j).entries) id
        ((s.roster id).scan id q s.listeners).roster.entries id := by
    rw [Function.update_self]
  exact hmatched.stateOf_eq_active_iff hown

/-- An active input that is in the document stays active. -/
lemma active_of_active (hs : s.Sound) {id : ℕ} {q : Page} {n : ℕ}
    (hn : (s.roster id).stateOf n = .active) (hconnected : q.isConnected n = true) :
    ((s.roster id).scan id q s.listeners).roster.stateOf n = .active := by
  obtain ⟨e, he, rfl⟩ := Roster.holds_iff.mp (hs.stateOf_eq_active_iff.mp hn)
  have hkept : e ∈ (s.roster id).connected q := List.mem_filter.mpr ⟨he, hconnected⟩
  rw [hs.stateOf_scan_eq_active_iff, Roster.holds_iff]
  exact ⟨e, Roster.mem_entries_scan hkept id s.listeners, rfl⟩

/-- A kept entry has the listener that it had, and this still lives. -/
lemma listener_of_connected (hs : s.Sound) {id : ℕ} {q : Page} {e : Entry}
    (he : e ∈ (s.roster id).connected q) :
    ∃ k, e.latch.listener = some k ∧
      (⟨k, .node e.input, .copy id e.input⟩ : Listener) ∈ s.listeners.live ∧
      (⟨k, .node e.input, .copy id e.input⟩ : Listener)
        ∈ ((s.roster id).scan id q s.listeners).listeners.live := by
  obtain ⟨k, hlatch, hlive⟩ := hs.matched.exists_listener (List.mem_of_mem_filter he)
  have hmatched := hs.matched.scan (rfl : (s.roster id).entries = _) q
  have hkept : e ∈ Function.update (fun j => (s.roster j).entries) id
      ((s.roster id).scan id q s.listeners).roster.entries id := by
    rw [Function.update_self]
    exact Roster.mem_entries_scan he id s.listeners
  obtain ⟨k', hlatch', hlive'⟩ := hmatched.exists_listener hkept
  -- the entry is the same before and afterwards, and so is the number that it holds
  have hk : k = k' := by simpa [hlatch] using hlatch'
  subst hk
  exact ⟨k, by rw [hlatch], hlive, hlive'⟩

/-- The listener of a released entry is gone. -/
lemma ne_of_disconnected (hs : s.Sound) {id : ℕ} {q : Page} {e : Entry}
    (he : e ∈ (s.roster id).disconnected q) {l : Listener}
    (hl : l ∈ ((s.roster id).scan id q s.listeners).listeners.live) :
    e.latch.listener ≠ some l.id := by
  intro hid
  rcases Roster.of_mem_listeners_scan hl with hspared | hnew
  · have hne := List.all_eq_true.mp (List.mem_filter.mp hspared).2 e he
    rw [hid] at hne
    exact absurd hne (by simp)
  · -- a new number is above that of every listener there was
    obtain ⟨k, hlatch, hlive⟩ := hs.matched.exists_listener (List.mem_of_mem_filter he)
    have hlt : k < s.listeners.next := hs.matched.id_lt _ hlive
    rw [hlatch] at hid
    have hk : k = l.id := Option.some.inj hid
    omega

end Session.Sound

/-- A session scans its rosters for the page that it is on. -/
lemma Session.scan_spec (s : Session) (id : ℕ) :
    let done := (s.roster id).scan id s.page s.listeners
    (s.scan id).1 = done.result ∧ (s.scan id).2.listeners = done.listeners ∧
      (id < s.rosters.length → (s.scan id).2.roster id = done.roster) := by
  refine ⟨rfl, rfl, fun hlt => ?_⟩
  simp only [scan, roster, rosters_logAll, setRoster, List.getElem?_set_self hlt,
    Option.getD_some]

/-- **The exact effect of a scan.**  Take any roster, any listeners and any page.  The scan releases
the entries whose inputs are not in the document, with their listeners, and keeps the others, in
order and as they are.  A selector that cannot be read is answered with a fault, and nothing else
happens.  Otherwise the roster has one new entry behind the kept ones for each input of the
document that matches and is not on it, in the order of the document, with a new listener at that
input, and the answer says how many these are.  Then every input on the roster is in the document,
every matching input is on the roster, and a second scan of the page answers zero and leaves roster
and listeners as they are.

On a roster of a run, after any scan, the active inputs are those that are on it; an active input
that is in the document stays active, matching or not, with the listener that it had, and the
listener of a released entry is gone.  What a session does when one of its rosters is scanned is
this, for the page that it is on. -/
theorem scan_effect (id : ℕ) (q : Page) :
    (∀ (r : Roster) (ls : Listeners),
      let done := r.scan id q ls
      let again := done.roster.scan id q done.listeners
      done.released = (r.disconnected q).length ∧
      match Selector.ofText? r.selector with
      | none =>
        done.result = .error (.badSelector r.selector Page.selectorError.describe) ∧
        done.roster = { r with entries := r.connected q } ∧
        done.listeners = { ls with live := r.spared q ls }
      | some sel =>
        let new := r.newcomers q sel
        done.result = .ok new.length ∧
        done.roster = { r with entries := r.connected q ++ Roster.entriesFrom ls.next new } ∧
        done.listeners =
          ⟨ls.next + new.length, r.spared q ls ++ Roster.listenersFrom id ls.next new⟩ ∧
        (∀ e ∈ done.roster.entries, q.isConnected e.input = true) ∧
        (∀ n ∈ q.inDocument, sel.holds (q.element n) = true → q.isInput n = true →
          done.roster.holds n = true) ∧
        again.result = .ok 0 ∧ again.released = 0 ∧ again.roster = done.roster ∧
          again.listeners = done.listeners) ∧
    ∀ (p : Page) (l : List Session.Step),
      let s := (Session.onPage p).steps l
      let r := s.roster id
      let done := r.scan id q s.listeners
      (∀ n, done.roster.stateOf n = .active ↔ done.roster.holds n = true) ∧
      (∀ n, r.stateOf n = .active → q.isConnected n = true → done.roster.stateOf n = .active) ∧
      (∀ e ∈ r.connected q, ∃ k, e.latch.listener = some k ∧
        (⟨k, .node e.input, .copy id e.input⟩ : Listener) ∈ s.listeners.live ∧
        (⟨k, .node e.input, .copy id e.input⟩ : Listener) ∈ done.listeners.live) ∧
      (∀ e ∈ r.disconnected q, ∀ k ∈ done.listeners.live, e.latch.listener ≠ some k.id) ∧
      (s.page = q → (s.scan id).1 = done.result ∧ (s.scan id).2.listeners = done.listeners ∧
        (id < s.rosters.length → (s.scan id).2.roster id = done.roster)) := by
  constructor
  · intro r ls done again
    refine ⟨r.released_scan id q ls, ?_⟩
    cases hsel : Selector.ofText? r.selector with
    | none =>
      have hdone : done = _ := Roster.scan_of_rejected hsel id q ls
      simp only [hdone, and_self]
    | some sel =>
      have hdone : done = _ := Roster.scan_of_accepted hsel id q ls
      have hconnected : ∀ e ∈ done.roster.entries, q.isConnected e.input = true := by
        rw [hdone]
        exact fun e he => Roster.isConnected_of_mem he
      have hheld : ∀ n ∈ q.inDocument, sel.holds (q.element n) = true → q.isInput n = true →
          done.roster.holds n = true := by
        rw [hdone]
        exact fun n hn hmatches hin => Roster.mem_inputs_of_matches hn hmatches hin _
      have hselector : done.roster.selector = r.selector := by rw [hdone]
      -- nothing is left to do for a second scan
      have hagain : again = _ :=
        Roster.scan_of_settled (hselector ▸ hsel) hconnected hheld id done.listeners
      exact ⟨by rw [hdone], by rw [hdone], by rw [hdone], hconnected, hheld,
        by rw [hagain], by rw [hagain], by rw [hagain], by rw [hagain]⟩
  · intro p l s r done
    have hs : s.Sound := Session.sound_steps p l
    refine ⟨fun n => hs.stateOf_scan_eq_active_iff id q, fun n hn hc => hs.active_of_active hn hc,
      fun e he => hs.listener_of_connected he, fun e he k hk => hs.ne_of_disconnected he hk, ?_⟩
    intro hpage
    subst hpage
    exact s.scan_spec id

/-- `scan_effect` at a page from which one attached input was taken while another stays, and to
which an element that is no input and a new input were added; all of them match. -/
theorem scan_effect_of_exchanged_inputs :
    let made (label tag : String) : List Session.Step :=
      [.change (.create (.make label tag [] "")), .change (.append (.element label) .body)]
    let before := made "left" "input" ++ made "stays" "input" ++ [.openRoster "*", .scan 0]
    let later := [.change (.remove (.element "left"))] ++ made "other" "div" ++ made "new" "input"
    let s := (Session.onPage {}).steps before
    let q := (s.steps later).page
    let done := (s.roster 0).scan 0 q s.listeners
    let again := done.roster.scan 0 q done.listeners
    (done.released = 1 ∧ done.result = .ok 1 ∧
        done.roster = ⟨"*", [⟨2, ⟨some 1⟩⟩, ⟨4, ⟨some 2⟩⟩]⟩) ∧
      (again.result = .ok 0 ∧ again.listeners = done.listeners) ∧
      (s.roster 0).stateOf 2 = .active ∧ q.isConnected 2 = true ∧
      done.roster.stateOf 2 = .active := by
  intro made before later s q done again
  have hselector : Selector.ofText? (s.roster 0).selector = some ⟨[⟨none, []⟩]⟩ := by
    decide +kernel
  have hbefore : (s.roster 0).stateOf 2 = .active ∧ q.isConnected 2 = true := by
    decide +kernel
  have hnew : (s.roster 0).newcomers q ⟨[⟨none, []⟩]⟩ = [4] := by decide +kernel
  have hroster : s.roster 0 = ⟨"*", [⟨1, ⟨some 0⟩⟩, ⟨2, ⟨some 1⟩⟩]⟩ ∧ s.listeners.next = 2 ∧
      (s.roster 0).connected q = [⟨2, ⟨some 1⟩⟩] ∧ ((s.roster 0).disconnected q).length = 1 := by
    decide +kernel
  obtain ⟨hexact, hruns⟩ := scan_effect 0 q
  obtain ⟨hreleased, heffect⟩ := hexact (s.roster 0) s.listeners
  obtain ⟨-, hactive, -⟩ := hruns {} before
  simp only [hselector] at heffect
  obtain ⟨hresult, hafter, -, -, -, hagain, -, -, hlisteners⟩ := heffect
  refine ⟨⟨hreleased.trans hroster.2.2.2, hresult.trans ?_, hafter.trans ?_⟩,
    ⟨hagain, hlisteners⟩, hbefore.1, hbefore.2, hactive 2 hbefore.1 hbefore.2⟩
  · rw [hnew]
    rfl
  · rw [hnew, hroster.2.2.1, hroster.2.1, hroster.1]
    rfl

end PageCompanion.Live
