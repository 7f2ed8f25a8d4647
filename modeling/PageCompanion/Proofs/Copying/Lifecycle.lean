/-
# The life of a listener

On a bench the listeners of an input come and go by turns: one is installed, the same one is
dropped, then a new one is installed.  `Taken` says which turns a latch can have taken by the time
it holds a listener or none, and every run keeps to it (`Kept.steps`).  So an input has one living
listener when its latch is active and none otherwise, no listener is installed or dropped twice,
and the calls that have an effect alternate, the first of them a connect.
-/
import PageCompanion.Proofs.Copying.Attempts

namespace PageCompanion.Copying

/-- What befalls a listener of an input. -/
inductive Turn where
  | installed (listener : ℕ)
  | dropped (listener : ℕ)
deriving DecidableEq, Repr

namespace Turn

def listener : Turn → ℕ
  | installed k | dropped k => k

def isInstalled : Turn → Bool
  | installed _ => true
  | dropped _ => false

/-- The listeners that live after a turn. -/
def living (before : List ℕ) : Turn → List ℕ
  | installed k => before ++ [k]
  | dropped k => before.erase k

end Turn

/-- The turn of an input that an effect is, if it is one. -/
def Effect.turn? (i : String) : Effect → Option Turn
  | .installed j k => if j = i then some (.installed k) else none
  | .dropped j k => if j = i then some (.dropped k) else none
  | _ => none

/-- The effect that a turn of an input is. -/
def Turn.effect (i : String) : Turn → Effect
  | .installed k => .installed i k
  | .dropped k => .dropped i k

lemma Effect.turn?_eq_some_iff {i : String} {e : Effect} {t : Turn} :
    e.turn? i = some t ↔ e = t.effect i := by
  constructor
  · intro h
    cases e with
    | installed j k =>
      rw [turn?] at h
      split_ifs at h with hj
      rw [← Option.some.inj h, hj, Turn.effect]
    | dropped j k =>
      rw [turn?] at h
      split_ifs at h with hj
      rw [← Option.some.inj h, hj, Turn.effect]
    | _ => exact absurd h (by simp [turn?])
  · rintro rfl
    cases t <;> exact if_pos rfl

/-- The turns that a latch has taken, given the listener that it holds now.  A listener that is
installed is newer than all before, and the one that is dropped is the one that was held. -/
inductive Taken : Option ℕ → List Turn → Prop
  | nil : Taken none []
  | install {turns : List Turn} {k : ℕ} (h : Taken none turns)
      (hnew : ∀ t ∈ turns, t.listener < k) : Taken (some k) (turns ++ [.installed k])
  | drop {turns : List Turn} {k : ℕ} (h : Taken (some k) turns) : Taken none (turns ++ [.dropped k])

namespace Taken

variable {held : Option ℕ} {turns : List Turn}

lemma living (h : Taken held turns) : turns.foldl Turn.living [] = held.toList := by
  induction h with
  | nil => rfl
  | install _ _ ih => simp [ih, Turn.living]
  | drop _ ih => simp [ih, Turn.living]

/-- There is one installation more than there are drops exactly while a listener is held. -/
lemma count (h : Taken held turns) :
    turns.countP Turn.isInstalled
      = turns.countP (!·.isInstalled) + if held.isSome then 1 else 0 := by
  induction h with
  | nil => rfl
  | install _ _ ih => simp [ih, Turn.isInstalled]
  | drop _ ih => simp [ih, Turn.isInstalled]

/-- A listener that is held was installed and has not been dropped. -/
lemma mem_of_held {k : ℕ} (h : Taken (some k) turns) :
    .installed k ∈ turns ∧ .dropped k ∉ turns := by
  cases h with
  | install _ hnew =>
    refine ⟨by simp, fun hmem => ?_⟩
    rcases List.mem_append.mp hmem with hmem | hmem
    · exact (lt_irrefl _) (hnew _ hmem)
    · exact absurd hmem (by simp)

lemma nodup (h : Taken held turns) : turns.Nodup := by
  induction h with
  | nil => exact List.nodup_nil
  | @install turns k _ hnew ih =>
    refine List.nodup_append.mpr ⟨ih, List.nodup_singleton _, ?_⟩
    rintro t ht t' ht' rfl
    obtain rfl := List.mem_singleton.mp ht'
    exact lt_irrefl _ (hnew _ ht)
  | @drop turns k h ih =>
    refine List.nodup_append.mpr ⟨ih, List.nodup_singleton _, ?_⟩
    rintro t ht t' ht' rfl
    obtain rfl := List.mem_singleton.mp ht'
    exact h.mem_of_held.2 ht

lemma length_mod (h : Taken held turns) :
    turns.length % 2 = if held.isSome then 1 else 0 := by
  induction h with
  | nil => rfl
  | install _ _ ih =>
    simp only [Option.isSome_none, Bool.false_eq_true, if_false] at ih
    simp only [List.length_append, List.length_singleton, Option.isSome_some, if_true]
    omega
  | drop _ ih =>
    simp only [Option.isSome_some, if_true] at ih
    simp only [List.length_append, List.length_singleton, Option.isSome_none, Bool.false_eq_true,
      if_false]
    omega

/-- The turns alternate, and the first of them is an installation. -/
lemma alternates (h : Taken held turns) {j : ℕ} {t : Turn} (ht : turns[j]? = some t) :
    t.isInstalled = true ↔ j % 2 = 0 := by
  induction h with
  | nil => exact absurd ht (by simp)
  | install h _ ih =>
    have hlength := h.length_mod
    rw [List.getElem?_append] at ht
    split_ifs at ht with hj
    · exact ih ht
    · obtain ⟨hlt, rfl⟩ := List.getElem?_eq_some_iff.mp ht
      simp only [Option.isSome_none, Bool.false_eq_true, if_false] at hlength
      simp only [List.length_singleton] at hlt
      simp only [List.getElem_singleton, Turn.isInstalled, true_iff]
      omega
  | drop h ih =>
    have hlength := h.length_mod
    rw [List.getElem?_append] at ht
    split_ifs at ht with hj
    · exact ih ht
    · obtain ⟨hlt, rfl⟩ := List.getElem?_eq_some_iff.mp ht
      simp only [Option.isSome_some, if_true] at hlength
      simp only [List.length_singleton] at hlt
      simp only [List.getElem_singleton, Turn.isInstalled, Bool.false_eq_true, false_iff]
      omega

end Taken

namespace Bench

/-- What befell the listeners of an input, in order. -/
def turns (b : Bench) (i : String) : List Turn :=
  b.ledger.filterMap (Effect.turn? i)

/-- How often a listener was dropped from an input. -/
def drops (b : Bench) (i : String) : ℕ :=
  b.ledger.countP fun
    | .dropped j _ => j == i
    | _ => false

lemma installs_eq (b : Bench) (i : String) :
    b.installs i = (b.turns i).countP Turn.isInstalled := by
  rw [installs, turns, List.countP_filterMap]
  refine List.countP_congr fun e _ => ?_
  cases e with
  | installed j k => by_cases h : j = i <;> simp [Effect.turn?, h, Turn.isInstalled]
  | dropped j k => by_cases h : j = i <;> simp [Effect.turn?, h, Turn.isInstalled]
  | _ => simp [Effect.turn?]

lemma drops_eq (b : Bench) (i : String) :
    b.drops i = (b.turns i).countP (!·.isInstalled) := by
  rw [drops, turns, List.countP_filterMap]
  refine List.countP_congr fun e _ => ?_
  cases e with
  | installed j k => by_cases h : j = i <;> simp [Effect.turn?, h, Turn.isInstalled]
  | dropped j k => by_cases h : j = i <;> simp [Effect.turn?, h, Turn.isInstalled]
  | _ => simp [Effect.turn?]

lemma living_eq (b : Bench) (i : String) : b.living i = (b.turns i).foldl Turn.living [] := by
  rw [living, turns, List.foldl_filterMap]
  congr 1
  funext before e
  cases e with
  | installed j k => by_cases h : j = i <;> simp [Effect.turn?, Effect.living, h, Turn.living]
  | dropped j k => by_cases h : j = i <;> simp [Effect.turn?, Effect.living, h, Turn.living]
  | _ => rfl

lemma mem_turns_iff {b : Bench} {i : String} {t : Turn} :
    t ∈ b.turns i ↔ t.effect i ∈ b.ledger := by
  simp only [turns, List.mem_filterMap, Effect.turn?_eq_some_iff, exists_eq_right]

/-! ## Turns of a step -/

/-- The turns of an input that a step adds. -/
def turnsOf (b : Bench) (i : String) (a : Step) : List Turn :=
  (b.effects a).filterMap (Effect.turn? i)

lemma turns_step (b : Bench) (a : Step) (i : String) :
    (b.step a).2.turns i = b.turns i ++ b.turnsOf i a := by
  rw [turns, ledger_step, List.filterMap_append, ← turns, ← turnsOf]

lemma filterMap_turn?_effects (m : Moment) (i : String) :
    m.effects.filterMap (Effect.turn? i) = [] := by
  obtain ⟨input, value, _ | fault, clipboard⟩ := m <;> rfl

/-- Only connecting and disconnecting an input can be a turn of it. -/
lemma turnsOf_eq_nil (b : Bench) {a : Step} {i : String} (hconnect : a ≠ .connect i)
    (hdisconnect : a ≠ .disconnect i) : b.turnsOf i a = [] := by
  rw [turnsOf]
  cases a with
  | connect j =>
    have hne : j ≠ i := fun h => hconnect (by rw [h])
    rw [effects]
    cases (b.fields j).latch.listener <;> simp [Effect.turn?, hne]
  | disconnect j =>
    have hne : j ≠ i := fun h => hdisconnect (by rw [h])
    rw [effects]
    cases (b.fields j).latch.listener <;> simp [Effect.turn?, hne]
  | copy j | start j => exact filterMap_turn?_effects _ i
  | click j =>
    rw [effects, List.filterMap_flatten, List.map_replicate, filterMap_turn?_effects]
    simp
  | clipboard _ | value _ _ | selectFault _ _ | finish | look _ => rfl

lemma latch_step (b : Bench) {a : Step} {i : String} (hconnect : a ≠ .connect i)
    (hdisconnect : a ≠ .disconnect i) :
    ((b.step a).2.fields i).latch = (b.fields i).latch := by
  by_cases hi : a.input? = some i
  · cases a with
    | value j text =>
      obtain rfl : j = i := Option.some.inj hi
      simp [step, fields_setField]
    | selectFault j fault =>
      obtain rfl : j = i := Option.some.inj hi
      simp [step, fields_setField]
    | connect j =>
      obtain rfl : j = i := Option.some.inj hi
      exact absurd rfl hconnect
    | disconnect j =>
      obtain rfl : j = i := Option.some.inj hi
      exact absurd rfl hdisconnect
    | copy j => rw [step_copy, latch_attempted]
    | start j => rw [step_start]; exact b.latch_attempted j i
    | click j =>
      rw [step_click]
      exact iterate_attempted (fun b => (b.fields i).latch) (fun b => b.latch_attempted j i) _ b
    | look j => rfl
    | clipboard _ | finish => exact absurd hi (by simp [Step.input?])
  · rw [b.fields_step_of_ne hi]

lemma nextListener_step_of_ne (b : Bench) {a : Step} (h : ∀ i, a ≠ .connect i) :
    (b.step a).2.nextListener = b.nextListener := by
  cases a with
  | connect i => exact absurd rfl (h i)
  | disconnect i =>
    cases hlatch : (b.fields i).latch.listener with
    | none => rw [step_disconnect_of_none hlatch]
    | some k => rw [step_disconnect_of_some hlatch]; rfl
  | finish => rw [step_finish]
  | copy j => rw [step_copy, nextListener_attempted]
  | start j => rw [step_start]; exact b.nextListener_attempted j
  | click j =>
    rw [step_click]
    exact iterate_attempted nextListener (fun b => b.nextListener_attempted j) _ b
  | clipboard _ | value _ _ | selectFault _ _ | look _ => rfl

/-! ## Runs -/

/-- The turns of every input are those that its latch can have taken, and the listeners that are
yet to be installed are newer than all that were. -/
structure Kept (b : Bench) : Prop where
  taken : ∀ i, Taken (b.fields i).latch.listener (b.turns i)
  lt_next : ∀ i, ∀ t ∈ b.turns i, t.listener < b.nextListener

lemma kept_empty : ({} : Bench).Kept :=
  ⟨fun _ => .nil, by simp [turns]⟩

namespace Kept

variable {b : Bench}

lemma connect (h : b.Kept) {i : String} (hnone : (b.fields i).latch.listener = none) :
    (b.step (.connect i)).2.Kept := by
  have hstep := congrArg Prod.snd (step_connect_of_none hnone)
  have hturns : b.turnsOf i (.connect i) = [.installed b.nextListener] := by
    simp [turnsOf, effects, hnone, Effect.turn?]
  have hothers : ∀ j, j ≠ i → b.turnsOf j (.connect i) = [] := fun j hj =>
    b.turnsOf_eq_nil (by simpa using hj.symm) (by simp)
  constructor
  · intro j
    rw [turns_step]
    by_cases hj : j = i
    · subst hj
      have htaken := h.taken j
      rw [hnone] at htaken
      rw [hturns, hstep, show (_ : Bench).fields j = _ from if_pos rfl]
      exact htaken.install (h.lt_next j)
    · rw [hothers j hj, List.append_nil,
        b.fields_step_of_ne (by simpa [Step.input?] using Ne.symm hj)]
      exact h.taken j
  · intro j t ht
    rw [turns_step] at ht
    rw [hstep]
    show t.listener < b.nextListener + 1
    rcases List.mem_append.mp ht with ht | ht
    · have hlt := h.lt_next j t ht
      omega
    · by_cases hj : j = i
      · subst hj
        rw [hturns] at ht
        obtain rfl := List.mem_singleton.mp ht
        exact Nat.lt_succ_self _
      · rw [hothers j hj] at ht
        exact absurd ht (by simp)

lemma disconnect (h : b.Kept) {i : String} {k : ℕ}
    (hsome : (b.fields i).latch.listener = some k) : (b.step (.disconnect i)).2.Kept := by
  have hstep := congrArg Prod.snd (step_disconnect_of_some hsome)
  have hturns : b.turnsOf i (.disconnect i) = [.dropped k] := by
    simp [turnsOf, effects, hsome, Effect.turn?]
  have hothers : ∀ j, j ≠ i → b.turnsOf j (.disconnect i) = [] := fun j hj =>
    b.turnsOf_eq_nil (by simp) (by simpa using hj.symm)
  have htaken := h.taken i
  rw [hsome] at htaken
  constructor
  · intro j
    rw [turns_step]
    by_cases hj : j = i
    · subst hj
      rw [hturns, hstep, show (_ : Bench).fields j = _ from if_pos rfl]
      exact htaken.drop
    · rw [hothers j hj, List.append_nil,
        b.fields_step_of_ne (by simpa [Step.input?] using Ne.symm hj)]
      exact h.taken j
  · intro j t ht
    rw [turns_step] at ht
    rw [b.nextListener_step_of_ne (by simp)]
    rcases List.mem_append.mp ht with ht | ht
    · exact h.lt_next j t ht
    · by_cases hj : j = i
      · subst hj
        rw [hturns] at ht
        obtain rfl := List.mem_singleton.mp ht
        -- what is dropped was installed before
        exact h.lt_next j (.installed k) htaken.mem_of_held.1
      · rw [hothers j hj] at ht
        exact absurd ht (by simp)

/-- **A step keeps the turns in order.** -/
theorem step (h : b.Kept) (a : Step) : (b.step a).2.Kept := by
  by_cases hconnect : ∃ i, a = .connect i
  · obtain ⟨i, rfl⟩ := hconnect
    cases hlatch : (b.fields i).latch.listener with
    | none => exact h.connect hlatch
    | some k => rwa [step_connect_of_some hlatch]
  by_cases hdisconnect : ∃ i, a = .disconnect i
  · obtain ⟨i, rfl⟩ := hdisconnect
    cases hlatch : (b.fields i).latch.listener with
    | none => rwa [step_disconnect_of_none hlatch]
    | some k => exact h.disconnect hlatch
  -- any other step is no turn of any input
  have hc : ∀ i, a ≠ .connect i := fun i hi => hconnect ⟨i, hi⟩
  have hd : ∀ i, a ≠ .disconnect i := fun i hi => hdisconnect ⟨i, hi⟩
  have hturns : ∀ i, (b.step a).2.turns i = b.turns i := by
    intro i
    rw [turns_step, b.turnsOf_eq_nil (hc i) (hd i), List.append_nil]
  constructor
  · intro i
    rw [hturns, b.latch_step (hc i) (hd i)]
    exact h.taken i
  · intro i
    rw [hturns, b.nextListener_step_of_ne hc]
    exact h.lt_next i

lemma steps (h : b.Kept) (l : List Step) : (b.steps l).Kept := by
  induction l generalizing b with
  | nil => exact h
  | cons a l ih => exact ih (h.step a)

end Kept

/-! ## Calls that have an effect -/

/-- The call on the latch of an input that a step is, if it was answered with true: true for a
connect and false for a disconnect. -/
def heededCall? (i : String) : Step → Reply → Option Bool
  | .connect j, .connected true _ => if j = i then some true else none
  | .disconnect j, .disconnected true => if j = i then some false else none
  | _, _ => none

/-- The calls on the latch of an input that were answered with true, in order. -/
def heeded (b : Bench) (i : String) (l : List Step) : List Bool :=
  (l.zip (b.trace l)).filterMap fun e => heededCall? i e.1 e.2.1

lemma heeded_cons (b : Bench) (i : String) (a : Step) (l : List Step) :
    b.heeded i (a :: l) = (heededCall? i a (b.step a).1).toList ++ (b.step a).2.heeded i l := by
  rw [heeded, trace, List.zip_cons_cons, List.filterMap_cons, heeded]
  cases heededCall? i a (b.step a).1 <;> rfl

/-- A call is answered with true exactly when it is a turn. -/
lemma map_turnsOf (b : Bench) (i : String) (a : Step) :
    (b.turnsOf i a).map Turn.isInstalled = (heededCall? i a (b.step a).1).toList := by
  cases a with
  | connect j =>
    rw [turnsOf, effects]
    cases hlatch : (b.fields j).latch.listener with
    | none =>
      rw [step_connect_of_none hlatch]
      by_cases hj : j = i <;> simp [heededCall?, Effect.turn?, hj, Turn.isInstalled]
    | some k =>
      rw [step_connect_of_some hlatch]
      rfl
  | disconnect j =>
    rw [turnsOf, effects]
    cases hlatch : (b.fields j).latch.listener with
    | none =>
      rw [step_disconnect_of_none hlatch]
      rfl
    | some k =>
      rw [step_disconnect_of_some hlatch]
      by_cases hj : j = i <;> simp [heededCall?, Effect.turn?, hj, Turn.isInstalled]
  | _ =>
    rw [b.turnsOf_eq_nil (by simp) (by simp)]
    rfl

lemma map_turns_steps (b : Bench) (i : String) (l : List Step) :
    ((b.steps l).turns i).map Turn.isInstalled
      = (b.turns i).map Turn.isInstalled ++ b.heeded i l := by
  induction l generalizing b with
  | nil => simp [steps, heeded, trace]
  | cons a l ih =>
    rw [steps, List.foldl_cons, ← steps, ih, turns_step, List.map_append, map_turnsOf, heeded_cons,
      List.append_assoc]

/-- **A listener is there exactly while its latch is active.**  After any run on a bench, an input
has one installation more than drops when its latch is active and as many otherwise, and its one
living listener, if there is one, is the one that the latch holds; none was installed or dropped
twice.  Connecting is answered with true exactly when the latch is open, and then installs one new
listener; otherwise nothing happens at all.  Disconnecting is answered with true exactly when the
latch is active, and then drops the listener that was held, which had not been dropped before.  So
of the calls that are answered with true the first is a connect, and then they alternate.  No other
step has a part in this, and no step on one input touches another. -/
theorem listener_lifecycle (l : List Step) (i : String) :
    let b := ({} : Bench).steps l
    let latch := (b.fields i).latch
    (b.installs i = b.drops i + (if latch.state = .active then 1 else 0) ∧
      b.living i = latch.listener.toList ∧ (b.turns i).Nodup) ∧
    ((b.step (.connect i)).1 = .connected (latch.state = .unattached)
        (if latch.state = .unattached then 1 else 0) ∧
      (latch.state = .active → (b.step (.connect i)).2 = b) ∧
      (latch.state = .unattached → ∃ k, (∀ j, .installed j k ∉ b.ledger) ∧
        (b.step (.connect i)).2.ledger = b.ledger ++ [.installed i k] ∧
        ((b.step (.connect i)).2.fields i) = { b.fields i with latch := ⟨some k⟩ })) ∧
    ((b.step (.disconnect i)).1 = .disconnected (latch.state = .active) ∧
      (latch.state = .unattached → (b.step (.disconnect i)).2 = b) ∧
      (∀ k, latch.listener = some k → .installed i k ∈ b.ledger ∧ .dropped i k ∉ b.ledger ∧
        (b.step (.disconnect i)).2.ledger = b.ledger ++ [.dropped i k] ∧
        ((b.step (.disconnect i)).2.fields i) = { b.fields i with latch := ⟨none⟩ })) ∧
    (∀ n did, (({} : Bench).heeded i l)[n]? = some did → (did = true ↔ n % 2 = 0)) ∧
    (∀ a, a ≠ .connect i → a ≠ .disconnect i → ((b.step a).2.fields i).latch = latch ∧
      (b.step a).2.turns i = b.turns i) ∧
    (∀ a, a.input? ≠ some i → (b.step a).2.fields i = b.fields i ∧
      (b.step a).2.turns i = b.turns i ∧ (b.step a).2.living i = b.living i) := by
  intro b latch
  have hkept : b.Kept := kept_empty.steps l
  have htaken : Taken latch.listener (b.turns i) := hkept.taken i
  have hstate : latch.state = .active ↔ latch.listener.isSome = true := Latch.state_eq_active_iff
  refine ⟨⟨?_, ?_, htaken.nodup⟩, ?_, ?_, fun n did hdid => ?_, fun a hc hd => ⟨?_, ?_⟩,
    fun a ha => ?_⟩
  · simp only [installs_eq, drops_eq, htaken.count, hstate]
  · rw [living_eq, htaken.living]
  · cases hlatch : latch.listener with
    | some k =>
      have hactive : latch.state = .active := by rw [hstate, hlatch]; rfl
      rw [step_connect_of_some hlatch]
      simp [hactive]
    | none =>
      have hopen : latch.state = .unattached := by
        rw [Latch.state, hlatch]
      rw [step_connect_of_none hlatch]
      refine ⟨by simp [hopen], by simp [hopen], fun _ => ⟨b.nextListener, fun j hj => ?_, rfl, ?_⟩⟩
      · -- the number of the new listener was not given out before
        exact lt_irrefl _ (hkept.lt_next j (.installed b.nextListener) (mem_turns_iff.mpr hj))
      · exact if_pos rfl
  · cases hlatch : latch.listener with
    | none =>
      have hopen : latch.state = .unattached := by
        rw [Latch.state, hlatch]
      rw [step_disconnect_of_none hlatch]
      simp [hopen]
    | some k =>
      have hactive : latch.state = .active := by rw [hstate, hlatch]; rfl
      rw [hlatch] at htaken
      rw [step_disconnect_of_some hlatch]
      refine ⟨by simp [hactive], by simp [hactive], fun k' hk' => ?_⟩
      obtain rfl := Option.some.inj hk'
      obtain ⟨hinstalled, hdropped⟩ := htaken.mem_of_held
      exact ⟨mem_turns_iff.mp hinstalled, fun h => hdropped (mem_turns_iff.mpr h), rfl,
        if_pos rfl⟩
  · -- the calls with an effect are the turns, which alternate
    have hmap : (b.turns i).map Turn.isInstalled = ({} : Bench).heeded i l := map_turns_steps {} i l
    rw [← hmap, List.getElem?_map, Option.map_eq_some_iff] at hdid
    obtain ⟨t, ht, rfl⟩ := hdid
    exact htaken.alternates ht
  · exact b.latch_step hc hd
  · rw [turns_step, b.turnsOf_eq_nil hc hd, List.append_nil]
  · have hturns : (b.step a).2.turns i = b.turns i := by
      rw [turns_step, b.turnsOf_eq_nil, List.append_nil]
      · rintro rfl
        exact ha rfl
      · rintro rfl
        exact ha rfl
    refine ⟨b.fields_step_of_ne ha, hturns, ?_⟩
    rw [living_eq, hturns, ← living_eq]

-- Calls that are refused, and those on another input, do not count.
example :
    ({} : Bench).heeded "a" [.connect "a", .connect "a", .connect "b", .click "a",
      .disconnect "a", .disconnect "a", .connect "a"] = [true, false, true] := by
  decide +kernel

end Bench

end PageCompanion.Copying
