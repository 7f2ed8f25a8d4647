/-
# Attempts on a bench

What an attempt to copy does is decided by four things at that moment: the input, its value,
whether it can be selected, and whether the clipboard works.  A `Moment` holds these four.  Its
`effects` are what the attempt enters in the ledger, in order: the value is read once and the input
selected before anything else; an input that refuses ends the attempt, and otherwise the attempt
logs once and asks the clipboard once.

The steps of a bench are given in closed form (`step_click` and its like), and `ledger_step` says
what each of them enters in the ledger: attempts, the installation or the dropping of one listener,
or nothing.
-/
import Mathlib
import PageCompanion.Copying.Bench

namespace PageCompanion.Copying

/-- All that an attempt to copy depends on. -/
structure Moment where
  input : String
  value : String
  /-- What selecting the input fails with, when it does. -/
  selectFault : Option Fault
  /-- What every write fails with, when the clipboard is not working. -/
  clipboard : Option Fault

namespace Moment

/-- How the write of an attempt ends, once it is begun. -/
def fate (m : Moment) : Except Fault Unit :=
  m.clipboard.elim (.ok ()) .error

/-- What an attempt hands back: the fate of its write, or the fault of the selection. -/
def result (m : Moment) : Except Fault (Except Fault Unit) :=
  m.selectFault.elim (.ok m.fate) .error

/-- What becomes of an attempt that is waited for. -/
def outcome (m : Moment) : Bench.Outcome :=
  m.selectFault.elim (.ended m.fate) .refused

/-- What an attempt enters in the ledger, in order. -/
def effects (m : Moment) : List Effect :=
  .read m.input m.value ::
    match m.selectFault with
    | some fault => [.selectionRefused m.input fault]
    | none =>
      let range := (0, Text.unitLength m.value)
      [.selected m.input range, .logged (Log.debugging (copyMessage m.value)),
        .asked m.value (some range) m.clipboard.isNone]

/-- The text that an attempt writes, if it comes to that. -/
def written? (m : Moment) : Option String :=
  if m.selectFault = none ∧ m.clipboard = none then some m.value else none

/-- Of what an attempt enters in the ledger, one entry is a text that was written, if it wrote. -/
lemma filterMap_written?_effects (m : Moment) :
    m.effects.filterMap Effect.written? = m.written?.toList := by
  obtain ⟨input, value, _ | fault, _ | fault'⟩ := m <;> rfl

end Moment

namespace Bench

/-- The moment of an attempt to copy an input now. -/
def moment (b : Bench) (i : String) : Moment :=
  ⟨i, (b.fields i).value, (b.fields i).selectFault, b.clipboard⟩

/-- The bench with an input selected, if the input lets itself be selected. -/
def select (b : Bench) (i : String) : Bench :=
  let f := b.fields i
  if f.selectFault = none then
    b.setField i { f with selection := some (0, Text.unitLength f.value) }
  else b

/-- The bench after an attempt to copy an input. -/
def attempted (b : Bench) (i : String) : Bench :=
  { b.select i with ledger := b.ledger ++ (b.moment i).effects }

/-! ## What an attempt leaves alone -/

@[simp] lemma ledger_attempted (b : Bench) (i : String) :
    (b.attempted i).ledger = b.ledger ++ (b.moment i).effects := rfl

@[simp] lemma clipboard_attempted (b : Bench) (i : String) :
    (b.attempted i).clipboard = b.clipboard := by
  rw [attempted, select]
  split_ifs <;> rfl

@[simp] lemma pending_attempted (b : Bench) (i : String) :
    (b.attempted i).pending = b.pending := by
  rw [attempted, select]
  split_ifs <;> rfl

@[simp] lemma nextListener_attempted (b : Bench) (i : String) :
    (b.attempted i).nextListener = b.nextListener := by
  rw [attempted, select]
  split_ifs <;> rfl

lemma fields_attempted_of_ne (b : Bench) {i j : String} (h : j ≠ i) :
    (b.attempted i).fields j = b.fields j := by
  rw [attempted, select]
  split_ifs
  · exact if_neg h
  · rfl

/-- Of an input nothing but the selection is touched. -/
lemma exists_selection_attempted (b : Bench) (i j : String) :
    ∃ selection, (b.attempted i).fields j = { b.fields j with selection } := by
  by_cases h : j = i
  · subst h
    rw [attempted, select]
    split_ifs
    · exact ⟨_, if_pos rfl⟩
    · exact ⟨(b.fields j).selection, rfl⟩
  · exact ⟨(b.fields j).selection, b.fields_attempted_of_ne h⟩

@[simp] lemma value_attempted (b : Bench) (i j : String) :
    ((b.attempted i).fields j).value = (b.fields j).value := by
  obtain ⟨selection, h⟩ := b.exists_selection_attempted i j
  rw [h]

@[simp] lemma selectFault_attempted (b : Bench) (i j : String) :
    ((b.attempted i).fields j).selectFault = (b.fields j).selectFault := by
  obtain ⟨selection, h⟩ := b.exists_selection_attempted i j
  rw [h]

@[simp] lemma latch_attempted (b : Bench) (i j : String) :
    ((b.attempted i).fields j).latch = (b.fields j).latch := by
  obtain ⟨selection, h⟩ := b.exists_selection_attempted i j
  rw [h]

/-- An attempt leaves everything that an attempt depends on. -/
@[simp] lemma moment_attempted (b : Bench) (i j : String) :
    (b.attempted i).moment j = b.moment j := by
  simp [moment]

/-! ## Attempts -/

/-- **What an attempt does.**  It hands back its result, selects its input and enters its effects in
the ledger. -/
theorem attempt_eq (b : Bench) (i : String) :
    attempt (surface i) b = ((b.moment i).result, b.attempted i) := by
  cases hselect : (b.fields i).selectFault with
  | some fault =>
    simp [attempt, surface, hselect, Moment.result, moment, attempted, select, Moment.effects,
      happen]
  | none =>
    cases hclipboard : b.clipboard with
    | some fault =>
      simp [attempt, surface, hselect, hclipboard, Moment.result, Moment.fate, moment, attempted,
        select, Moment.effects, happen, setField]
    | none =>
      simp [attempt, surface, hselect, hclipboard, Moment.result, Moment.fate, moment, attempted,
        select, Moment.effects, happen, setField]

lemma copy_eq (b : Bench) (i : String) : b.copy i = ((b.moment i).outcome, b.attempted i) := by
  rw [copy, attempt_eq, Moment.outcome, Moment.result]
  cases (b.moment i).selectFault <;> rfl

/-- Copying an input a number of times is as many attempts, all of them alike. -/
lemma copyTimes_eq (b : Bench) (i : String) (n : ℕ) :
    b.copyTimes i n = (List.replicate n (b.moment i).outcome, (fun b => b.attempted i)^[n] b) := by
  induction n generalizing b with
  | zero => rfl
  | succ n ih => rw [copyTimes, copy_eq, ih, moment_attempted, List.replicate_succ]; rfl

/-- What attempts leave alone is left alone by any number of them. -/
lemma iterate_attempted {α : Type} (view : Bench → α) {i : String}
    (h : ∀ b : Bench, view (b.attempted i) = view b) (n : ℕ) (b : Bench) :
    view ((fun b => b.attempted i)^[n] b) = view b := by
  induction n generalizing b with
  | zero => rfl
  | succ n ih => rw [Function.iterate_succ_apply, ih, h]

lemma ledger_iterate_attempted (b : Bench) (i : String) (n : ℕ) :
    ((fun b => b.attempted i)^[n] b).ledger
      = b.ledger ++ (List.replicate n (b.moment i).effects).flatten := by
  induction n generalizing b with
  | zero => simp
  | succ n ih =>
    rw [Function.iterate_succ_apply, ih, moment_attempted, ledger_attempted, List.replicate_succ,
      List.flatten_cons, List.append_assoc]

/-! ## Steps -/

lemma step_copy (b : Bench) (i : String) :
    b.step (.copy i) = (.copied (b.moment i).outcome, b.attempted i) := by
  rw [step, copy_eq]

/-- An attempt that could select its input leaves its write pending. -/
lemma step_start (b : Bench) (i : String) :
    b.step (.start i) = (.started ((b.moment i).selectFault.elim (.ok ()) .error),
      { b.attempted i with
        pending := if (b.moment i).selectFault = none then (b.moment i).fate :: b.pending
          else b.pending }) := by
  rw [step, attempt_eq, Moment.result]
  cases (b.moment i).selectFault with
  | none => simp
  | some fault =>
    rw [if_neg (by simp), ← b.pending_attempted i]
    rfl

/-- Waiting for a write takes it off the pending ones, and does nothing else. -/
lemma step_finish (b : Bench) :
    b.step .finish = (.finished b.pending.head?, { b with pending := b.pending.tail }) := by
  obtain ⟨fields, clipboard, _ | ⟨result, rest⟩, nextListener, ledger⟩ := b <;> rfl

lemma step_click (b : Bench) (i : String) :
    b.step (.click i) = (.clicked (List.replicate (b.living i).length (b.moment i).outcome),
      (fun b => b.attempted i)^[(b.living i).length] b) := by
  rw [step, copyTimes_eq]

lemma setField_self (b : Bench) (i : String) : b.setField i (b.fields i) = b := by
  have hfields : (fun j => if j = i then b.fields i else b.fields j) = b.fields := by
    funext j
    split_ifs with h
    · rw [h]
    · rfl
  rw [setField, hfields]

/-- An active latch keeps the listener that it has, and the installer does not run. -/
lemma step_connect_of_some {b : Bench} {i : String} {k : ℕ}
    (h : (b.fields i).latch.listener = some k) : b.step (.connect i) = (.connected false 0, b) := by
  have hlatch : (b.fields i).latch = ⟨some k⟩ := by rw [← h]
  have hfield : { b.fields i with latch := ⟨some k⟩ } = b.fields i := by rw [← hlatch]
  simp [step, Latch.connect, hlatch, hfield, setField_self]

/-- An open latch gets a new listener, and the installer runs once. -/
lemma step_connect_of_none {b : Bench} {i : String} (h : (b.fields i).latch.listener = none) :
    b.step (.connect i) = (.connected true 1,
      { b.setField i { b.fields i with latch := ⟨some b.nextListener⟩ } with
        nextListener := b.nextListener + 1
        ledger := b.ledger ++ [.installed i b.nextListener] }) := by
  have hlatch : (b.fields i).latch = ⟨none⟩ := by rw [← h]
  simp [step, Latch.connect, hlatch, install, happen, setField, installs]

/-- A latch that holds a listener gives it back. -/
lemma step_disconnect_of_some {b : Bench} {i : String} {k : ℕ}
    (h : (b.fields i).latch.listener = some k) :
    b.step (.disconnect i) = (.disconnected true,
      { b.setField i { b.fields i with latch := ⟨none⟩ } with
        ledger := b.ledger ++ [.dropped i k] }) := by
  simp [step, Latch.disconnect, h, happen, setField]

lemma step_disconnect_of_none {b : Bench} {i : String}
    (h : (b.fields i).latch.listener = none) :
    b.step (.disconnect i) = (.disconnected false, b) := by
  have hlatch : (b.fields i).latch = ⟨none⟩ := by rw [← h]
  have hfield : { b.fields i with latch := ⟨none⟩ } = b.fields i := by rw [← hlatch]
  simp [step, Latch.disconnect, hlatch, hfield, setField_self]

/-- The effects of a step on the ledger. -/
def effects (b : Bench) : Step → List Effect
  | .connect i => (b.fields i).latch.listener.elim [.installed i b.nextListener] fun _ => []
  | .disconnect i => (b.fields i).latch.listener.elim [] fun k => [.dropped i k]
  | .copy i | .start i => (b.moment i).effects
  | .click i => (List.replicate (b.living i).length (b.moment i).effects).flatten
  | .clipboard _ | .value .. | .selectFault .. | .finish | .look _ => []

/-- **The ledger is only appended to**, and each step appends its effects. -/
theorem ledger_step (b : Bench) (a : Step) : (b.step a).2.ledger = b.ledger ++ b.effects a := by
  cases a with
  | connect i =>
    cases hlatch : (b.fields i).latch.listener with
    | none => rw [step_connect_of_none hlatch, effects, hlatch]; rfl
    | some k => rw [step_connect_of_some hlatch, effects, hlatch]; simp
  | disconnect i =>
    cases hlatch : (b.fields i).latch.listener with
    | none => rw [step_disconnect_of_none hlatch, effects, hlatch]; simp
    | some k => rw [step_disconnect_of_some hlatch, effects, hlatch]; rfl
  | copy i => rw [step_copy]; rfl
  | start i => rw [step_start]; rfl
  | finish => rw [step_finish]; simp [effects]
  | click i => rw [step_click]; exact b.ledger_iterate_attempted i _
  | clipboard _ | value _ _ | selectFault _ _ | look _ => simp [step, effects]

/-- A step that is not on an input leaves it as it is. -/
theorem fields_step_of_ne (b : Bench) {a : Step} {j : String} (h : a.input? ≠ some j) :
    (b.step a).2.fields j = b.fields j := by
  have hne {i : String} (hi : a.input? = some i) : j ≠ i := by
    rintro rfl
    exact h hi
  cases a with
  | clipboard _ | look _ => rfl
  | finish => rw [step_finish]
  | value i _ | selectFault i _ => exact if_neg (hne rfl)
  | connect i =>
    cases hlatch : (b.fields i).latch.listener with
    | none => rw [step_connect_of_none hlatch]; exact if_neg (hne rfl)
    | some k => rw [step_connect_of_some hlatch]
  | disconnect i =>
    cases hlatch : (b.fields i).latch.listener with
    | none => rw [step_disconnect_of_none hlatch]
    | some k => rw [step_disconnect_of_some hlatch]; exact if_neg (hne rfl)
  | copy i => rw [step_copy]; exact b.fields_attempted_of_ne (hne rfl)
  | start i => rw [step_start]; exact b.fields_attempted_of_ne (hne rfl)
  | click i =>
    rw [step_click]
    exact iterate_attempted (·.fields j) (fun b => b.fields_attempted_of_ne (hne rfl)) _ b

end Bench

end PageCompanion.Copying
