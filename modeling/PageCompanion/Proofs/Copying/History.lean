/-
# What a run has written

Which texts a run on a bench writes can be told from its steps, without the bench: an input has the
value that was set last, refuses its selection if that is what was set last, and has a listener if
the last call on its latch was a connect; the clipboard is as it was set last.  `attempts` reads
off the steps the attempts that they make, each with its moment, and `pendingAfter` those of them
that are still waited for.  The bench has done what these attempts do, in this order, and nothing
else (`ledger_of_steps`).
-/
import PageCompanion.Proofs.Copying.Lifecycle

namespace PageCompanion.Copying

/-- What happens in copying, and not to a listener. -/
def Effect.isCopying : Effect → Bool
  | .installed .. | .dropped .. => false
  | _ => true

namespace Bench

/-! ## What was set last -/

/-- What the last of the steps that set something has set, or what there was at first. -/
def latest {α : Type} (sets : Step → Option α) (first : α) (l : List Step) : α :=
  (l.filterMap sets).getLast?.getD first

lemma latest_concat {α : Type} (sets : Step → Option α) (first : α) (l : List Step) (a : Step) :
    latest sets first (l ++ [a]) = (sets a).getD (latest sets first l) := by
  rw [latest, List.filterMap_append, List.getLast?_append]
  cases hset : sets a <;> simp [hset, latest]

/-- How the clipboard is after some steps. -/
def clipboardAfter : List Step → Option Fault :=
  latest (fun | .clipboard fault => some fault | _ => none) none

def valueAfter (i : String) : List Step → String :=
  latest (fun | .value j text => if j = i then some text else none | _ => none) ""

def selectFaultAfter (i : String) : List Step → Option Fault :=
  latest (fun | .selectFault j fault => if j = i then some fault else none | _ => none) none

/-- Whether an input has a listener after some steps. -/
def attachedAfter (i : String) : List Step → Bool :=
  latest (fun
    | .connect j => if j = i then some true else none
    | .disconnect j => if j = i then some false else none
    | _ => none) false

/-- The moment of an attempt to copy an input after some steps. -/
def momentAfter (l : List Step) (i : String) : Moment :=
  ⟨i, valueAfter i l, selectFaultAfter i l, clipboardAfter l⟩

/-- The attempts that a step makes after others: one for a copy that is asked for, and one for a
click on an input that has a listener. -/
def attemptsOf (l : List Step) : Step → List Moment
  | .copy i | .start i => [momentAfter l i]
  | .click i => if attachedAfter i l then [momentAfter l i] else []
  | _ => []

/-- The attempts that a list of steps makes, in order. -/
def attempts (l : List Step) : List Moment :=
  l.zipIdx.flatMap fun s => attemptsOf (l.take s.2) s.1

/-- The attempts whose writes are pending after one more step, the newest first. -/
def pendingOf (l : List Step) (before : List Moment) : Step → List Moment
  | .start i => if selectFaultAfter i l = none then momentAfter l i :: before else before
  | .finish => before.tail
  | _ => before

/-- The attempts that are started and whose writes are not waited for yet, the newest first. -/
def pendingAfter (l : List Step) : List Moment :=
  l.zipIdx.foldl (fun before s => pendingOf (l.take s.2) before s.1) []

/-- What was before a step is not changed by it. -/
lemma take_concat {l : List Step} {s : Step × ℕ} (hs : s ∈ l.zipIdx) (a : Step) :
    (l ++ [a]).take s.2 = l.take s.2 := by
  have hlt := (List.mem_zipIdx hs).2.1
  exact List.take_append_of_le_length (by omega)

lemma attempts_concat (l : List Step) (a : Step) :
    attempts (l ++ [a]) = attempts l ++ attemptsOf l a := by
  have hearlier : l.zipIdx.flatMap (fun s => attemptsOf ((l ++ [a]).take s.2) s.1) = attempts l :=
    List.flatMap_congr fun s hs => by rw [take_concat hs]
  rw [attempts, List.zipIdx_append, List.flatMap_append, hearlier]
  simp

lemma pendingAfter_concat (l : List Step) (a : Step) :
    pendingAfter (l ++ [a]) = pendingOf l (pendingAfter l) a := by
  have hearlier : l.zipIdx.foldl (fun before s => pendingOf ((l ++ [a]).take s.2) before s.1) []
      = pendingAfter l :=
    List.foldl_ext _ _ _ fun before s hs => by rw [take_concat hs]
  rw [pendingAfter, List.zipIdx_append, List.foldl_append, hearlier]
  simp

/-! ## The bench is as it was set last -/

lemma steps_concat (b : Bench) (l : List Step) (a : Step) :
    b.steps (l ++ [a]) = ((b.steps l).step a).2 := by
  simp [steps]

/-- Only setting it changes how the clipboard is. -/
lemma clipboard_step (b : Bench) {a : Step} (h : ∀ fault, a ≠ .clipboard fault) :
    (b.step a).2.clipboard = b.clipboard := by
  cases a with
  | clipboard fault => exact absurd rfl (h fault)
  | connect i =>
    cases hlatch : (b.fields i).latch.listener with
    | none => rw [step_connect_of_none hlatch]; rfl
    | some k => rw [step_connect_of_some hlatch]
  | disconnect i =>
    cases hlatch : (b.fields i).latch.listener with
    | none => rw [step_disconnect_of_none hlatch]
    | some k => rw [step_disconnect_of_some hlatch]; rfl
  | finish => rw [step_finish]
  | copy i => rw [step_copy, clipboard_attempted]
  | start i => rw [step_start]; exact b.clipboard_attempted i
  | click i =>
    rw [step_click]
    exact iterate_attempted clipboard (fun b => b.clipboard_attempted i) _ b
  | value _ _ | selectFault _ _ | look _ => rfl

/-- Of an input, only setting them changes the value and the fault of its selection. -/
lemma field_step (b : Bench) {a : Step} {i : String} (hvalue : ∀ text, a ≠ .value i text)
    (hfault : ∀ fault, a ≠ .selectFault i fault) :
    ((b.step a).2.fields i).value = (b.fields i).value ∧
      ((b.step a).2.fields i).selectFault = (b.fields i).selectFault := by
  by_cases hi : a.input? = some i
  · cases a with
    | value j text =>
      obtain rfl : j = i := Option.some.inj hi
      exact absurd rfl (hvalue text)
    | selectFault j fault =>
      obtain rfl : j = i := Option.some.inj hi
      exact absurd rfl (hfault fault)
    | connect j =>
      obtain rfl : j = i := Option.some.inj hi
      cases hlatch : (b.fields j).latch.listener with
      | none => rw [step_connect_of_none hlatch]; simp [fields_setField]
      | some k => rw [step_connect_of_some hlatch]; exact ⟨rfl, rfl⟩
    | disconnect j =>
      obtain rfl : j = i := Option.some.inj hi
      cases hlatch : (b.fields j).latch.listener with
      | none => rw [step_disconnect_of_none hlatch]; exact ⟨rfl, rfl⟩
      | some k => rw [step_disconnect_of_some hlatch]; simp [fields_setField]
    | copy j =>
      rw [step_copy]
      exact ⟨b.value_attempted j i, b.selectFault_attempted j i⟩
    | start j =>
      rw [step_start]
      exact ⟨b.value_attempted j i, b.selectFault_attempted j i⟩
    | click j =>
      rw [step_click]
      exact ⟨iterate_attempted (fun b => (b.fields i).value) (fun b => b.value_attempted j i) _ b,
        iterate_attempted (fun b => (b.fields i).selectFault)
          (fun b => b.selectFault_attempted j i) _ b⟩
    | look j => exact ⟨rfl, rfl⟩
    | clipboard _ | finish => exact absurd hi (by simp [Step.input?])
  · rw [b.fields_step_of_ne hi]
    exact ⟨rfl, rfl⟩

/-- A write is pending from its start until it is waited for. -/
lemma pending_step (b : Bench) (a : Step) :
    (b.step a).2.pending = match a with
      | .start i =>
        if (b.moment i).selectFault = none then (b.moment i).fate :: b.pending else b.pending
      | .finish => b.pending.tail
      | _ => b.pending := by
  cases a with
  | connect i =>
    cases hlatch : (b.fields i).latch.listener with
    | none => rw [step_connect_of_none hlatch]; rfl
    | some k => rw [step_connect_of_some hlatch]
  | disconnect i =>
    cases hlatch : (b.fields i).latch.listener with
    | none => rw [step_disconnect_of_none hlatch]
    | some k => rw [step_disconnect_of_some hlatch]; rfl
  | copy i => rw [step_copy]; exact b.pending_attempted i
  | start i => rw [step_start]
  | finish => rw [step_finish]
  | click i =>
    rw [step_click]
    exact iterate_attempted pending (fun b => b.pending_attempted i) _ b
  | clipboard _ | value _ _ | selectFault _ _ | look _ => rfl

/-! ## After a run -/

lemma clipboard_steps (l : List Step) :
    (({} : Bench).steps l).clipboard = clipboardAfter l := by
  induction l using List.reverseRecOn with
  | nil => rfl
  | append_singleton l a ih =>
    rw [steps_concat, clipboardAfter, latest_concat, ← clipboardAfter, ← ih]
    cases a with
    | clipboard fault => rfl
    | _ => exact clipboard_step _ (by simp)

lemma value_steps (l : List Step) (i : String) :
    ((({} : Bench).steps l).fields i).value = valueAfter i l := by
  induction l using List.reverseRecOn with
  | nil => rfl
  | append_singleton l a ih =>
    rw [steps_concat, valueAfter, latest_concat, ← valueAfter, ← ih]
    cases a with
    | value j text =>
      rcases eq_or_ne j i with rfl | h
      · simp [step, fields_setField]
      · simp [step, fields_setField, h, h.symm]
    | selectFault j fault => by_cases h : i = j <;> simp [step, fields_setField, h]
    | _ => exact (field_step _ (by simp) (by simp)).1

lemma selectFault_steps (l : List Step) (i : String) :
    ((({} : Bench).steps l).fields i).selectFault = selectFaultAfter i l := by
  induction l using List.reverseRecOn with
  | nil => rfl
  | append_singleton l a ih =>
    rw [steps_concat, selectFaultAfter, latest_concat, ← selectFaultAfter, ← ih]
    cases a with
    | selectFault j fault =>
      rcases eq_or_ne j i with rfl | h
      · simp [step, fields_setField]
      · simp [step, fields_setField, h, h.symm]
    | value j text => by_cases h : i = j <;> simp [step, fields_setField, h]
    | _ => exact (field_step _ (by simp) (by simp)).2

/-- What an attempt depends on is as it was set last. -/
lemma moment_steps (l : List Step) (i : String) :
    (({} : Bench).steps l).moment i = momentAfter l i := by
  rw [moment, value_steps, selectFault_steps, clipboard_steps, momentAfter]

/-- A latch holds a listener when the last call on it was a connect. -/
lemma isSome_listener_steps (l : List Step) (i : String) :
    ((({} : Bench).steps l).fields i).latch.listener.isSome = attachedAfter i l := by
  induction l using List.reverseRecOn with
  | nil => rfl
  | append_singleton l a ih =>
    rw [steps_concat, attachedAfter, latest_concat, ← attachedAfter, ← ih]
    cases a with
    | connect j =>
      by_cases h : j = i
      · subst h
        cases hlatch : ((({} : Bench).steps l).fields j).latch.listener with
        | none => rw [step_connect_of_none hlatch]; simp [fields_setField]
        | some k => rw [step_connect_of_some hlatch]; simp [hlatch]
      · rw [fields_step_of_ne _ (by simpa [Step.input?] using h)]
        simp [h]
    | disconnect j =>
      by_cases h : j = i
      · subst h
        cases hlatch : ((({} : Bench).steps l).fields j).latch.listener with
        | none => rw [step_disconnect_of_none hlatch]; simp [hlatch]
        | some k => rw [step_disconnect_of_some hlatch]; simp [fields_setField]
      · rw [fields_step_of_ne _ (by simpa [Step.input?] using h)]
        simp [h]
    | _ => rw [latch_step _ (by simp) (by simp)]; rfl

/-- An input has one living listener or none. -/
lemma length_living_steps (l : List Step) (i : String) :
    ((({} : Bench).steps l).living i).length = if attachedAfter i l then 1 else 0 := by
  rw [living_eq, ((kept_empty.steps l).taken i).living, ← isSome_listener_steps]
  cases ((({} : Bench).steps l).fields i).latch.listener <;> rfl

/-! ## The ledger -/

lemma filter_isCopying_effects (m : Moment) : m.effects.filter Effect.isCopying = m.effects := by
  obtain ⟨input, value, _ | fault, clipboard⟩ := m <;> rfl

/-- What happens in copying at a step is what the attempts of that step do. -/
lemma filter_isCopying_effects_steps (l : List Step) (a : Step) :
    ((({} : Bench).steps l).effects a).filter Effect.isCopying
      = (attemptsOf l a).flatMap Moment.effects := by
  cases a with
  | connect i =>
    rw [effects]
    cases ((({} : Bench).steps l).fields i).latch.listener <;> rfl
  | disconnect i =>
    rw [effects]
    cases ((({} : Bench).steps l).fields i).latch.listener <;> rfl
  | copy i | start i =>
    simp [effects, attemptsOf, moment_steps, filter_isCopying_effects]
  | click i =>
    rw [effects, length_living_steps, moment_steps, attemptsOf]
    cases attachedAfter i l <;> simp [filter_isCopying_effects]
  | clipboard _ | value _ _ | selectFault _ _ | finish | look _ => rfl

/-- **The ledger of copying.**  Apart from what befalls listeners, a run does what its attempts
do, in order. -/
lemma filter_isCopying_ledger (l : List Step) :
    (({} : Bench).steps l).ledger.filter Effect.isCopying
      = (attempts l).flatMap Moment.effects := by
  induction l using List.reverseRecOn with
  | nil => rfl
  | append_singleton l a ih =>
    rw [steps_concat, ledger_step, List.filter_append, ih, filter_isCopying_effects_steps,
      attempts_concat, List.flatMap_append]

/-- What is written is written in copying. -/
lemma filterMap_written?_filter (es : List Effect) :
    (es.filter Effect.isCopying).filterMap Effect.written? = es.filterMap Effect.written? := by
  rw [List.filterMap_filter]
  refine List.filterMap_congr fun e _ => ?_
  cases e <;> rfl

lemma writes_steps (l : List Step) :
    (({} : Bench).steps l).writes = (attempts l).filterMap Moment.written? := by
  rw [writes, ← filterMap_written?_filter, filter_isCopying_ledger, List.filterMap_flatMap,
    List.filterMap_eq_flatMap_toList]
  exact List.flatMap_congr fun m _ => m.filterMap_written?_effects

/-- The pending writes end as they would have when they were begun. -/
lemma pending_steps (l : List Step) :
    (({} : Bench).steps l).pending = (pendingAfter l).map Moment.fate := by
  induction l using List.reverseRecOn with
  | nil => rfl
  | append_singleton l a ih =>
    rw [steps_concat, pending_step, pendingAfter_concat, ih]
    cases a with
    | start i =>
      simp only [moment_steps, momentAfter, pendingOf]
      split_ifs <;> rfl
    | finish => exact List.map_tail.symm
    | _ => rfl

/-- **The ledger of copying.**  After any run, an attempt reads the value that was set last and
selects the input before anything else.  If the selection fails, the attempt hands back that fault
and does nothing more; otherwise it logs once, with the number of characters, and asks the clipboard
once to write the value, which is selected then from end to end.  So the run did, apart from what
befell listeners, what its attempts do, one after the other: one for each copy that was asked for,
and one for the listener of an input, if it had one, for each click.  It wrote the values at the
moments of those attempts that could select their input and found the clipboard working.  A write
ends as it was bound to end when it was begun; waiting for it does nothing else. -/
theorem ledger_of_steps (l : List Step) :
    let b := ({} : Bench).steps l
    (∀ i fault, selectFaultAfter i l = some fault →
      (attempt (surface i) b).1 = .error fault ∧
      (attempt (surface i) b).2.ledger = b.ledger ++
        [.read i (valueAfter i l), .selectionRefused i fault]) ∧
    (∀ i, selectFaultAfter i l = none →
      let v := valueAfter i l
      let range := some (0, Text.unitLength v)
      (attempt (surface i) b).1 = .ok ((clipboardAfter l).elim (.ok ()) .error) ∧
      (attempt (surface i) b).2.ledger = b.ledger ++
        [.read i v, .selected i (0, Text.unitLength v),
          .logged (Log.debugging s!"copying {v.length} characters"),
          .asked v range (clipboardAfter l).isNone] ∧
      ((attempt (surface i) b).2.fields i).selection = range) ∧
    b.ledger.filter Effect.isCopying = (attempts l).flatMap Moment.effects ∧
    b.writes = ((attempts l).filter fun m => m.selectFault = none ∧ m.clipboard = none).map
      Moment.value ∧
    (∀ i, (b.living i).length = if attachedAfter i l then 1 else 0) ∧
    (∀ i, (b.step (.copy i)).1 = .copied (momentAfter l i).outcome) ∧
    (∀ i, (b.step (.start i)).1 = .started ((selectFaultAfter i l).elim (.ok ()) .error)) ∧
    (∀ i, (b.step (.click i)).1 = .clicked
      (if attachedAfter i l then [(momentAfter l i).outcome] else [])) ∧
    (b.step .finish).1 = .finished ((pendingAfter l).head?.map Moment.fate) ∧
    (b.step .finish).2 = { b with pending := (pendingAfter l).tail.map Moment.fate } := by
  intro b
  have hmoment : ∀ i, b.moment i = momentAfter l i := moment_steps l
  refine ⟨fun i fault hfault => ?_, fun i hfault => ?_, filter_isCopying_ledger l, ?_,
    length_living_steps l, fun i => ?_, fun i => ?_, fun i => ?_, ?_, ?_⟩
  · rw [attempt_eq, ledger_attempted, hmoment, Moment.result, momentAfter, hfault]
    exact ⟨rfl, rfl⟩
  · have hselect : (b.fields i).selectFault = none := (selectFault_steps l i).trans hfault
    rw [attempt_eq, ledger_attempted, hmoment, Moment.result, momentAfter, hfault]
    refine ⟨rfl, rfl, ?_⟩
    rw [attempted, select, if_pos hselect, ← value_steps]
    simp [fields_setField, b]
  · rw [writes_steps, ← List.filterMap_eq_map, List.filterMap_filter]
    refine List.filterMap_congr fun m _ => ?_
    simp [Moment.written?]
  · rw [step_copy, hmoment]
  · rw [step_start, hmoment, momentAfter]
  · rw [step_click, hmoment, length_living_steps]
    cases attachedAfter i l <;> rfl
  · rw [step_finish, pending_steps, List.head?_map]
  · rw [step_finish, pending_steps, List.map_tail]

-- A click without a listener and a write that fails are both missing; a write that is pending is
-- there from its start, with the value of that moment.
example :
    (({} : Bench).steps [.value "a" "x", .click "a", .connect "a", .click "a",
      .clipboard (some .clipboardUnavailable), .click "a", .clipboard none, .start "a",
      .value "a" "y", .finish, .copy "a"]).writes = ["x", "x", "y"] := by
  decide +kernel

end Bench

end PageCompanion.Copying
