/-
# What a click does

A click comes by the element that was clicked and by those above it.  Every click listener that
it meets makes an attempt to copy its input, and `Session.clicked` is the list of these inputs, in
order.  So a click is a sequence of attempts (`step_click`), each of which reads its input, selects
it, and calls the page's write function once with what was read, if there is such a function.
`Copied` says in closed form what a sequence of attempts leaves.
-/
import PageCompanion.Proofs.Live.Attachment

namespace PageCompanion.Live

open Dom (Page Place Spot WriteCall)
open Script (CallResult Fate Value)

/-! ## The write function of a page -/

/-- A write function, with the clipboard that it is a property of. -/
structure Writer where
  clipboard : Value
  recorded : Bool
  result : CallResult Value

/-- The write function of a page's clipboard.  There is none when the clipboard cannot be read, is
no object, or has no such function. -/
def writer? (p : Page) : Option Writer :=
  match p.clipboard with
  | .error _ => none
  | .ok clipboard =>
    match clipboard.get writeProperty with
    | .ok (.object { kind := .function recorded result, .. }) =>
      some ⟨clipboard, recorded, result⟩
    | _ => none

/-- The promises that one call of a page's write function gives. -/
def promisesOf (p : Page) : List (Fate Value) :=
  match (writer? p).map Writer.result with
  | some (.promises fate) => [fate]
  | _ => []

/-- The write that is begun on a page; the number is that of the promise, if it is given one. -/
def pendingOf (p : Page) (promise : ℕ) : Pending :=
  match (writer? p).map Writer.result with
  | none => .failed .clipboardUnavailable
  | some (.throws thrown) => .failed (.clipboardRejected (.reported thrown.describe))
  | some (.returns _) => .failed (.clipboardRejected .noPromise)
  | some (.promises _) => .awaits promise

/-- The call that copying an input makes, if there is a function to call. -/
def copyCall? (p : Page) (n : ℕ) : Option WriteCall :=
  (writer? p).map fun w =>
    ⟨w.clipboard, (p.element n).value, some (n, Text.unitLength (p.element n).value), w.recorded⟩

/-- No call is made exactly when the clipboard is unavailable. -/
lemma copyCall?_eq_none_iff (p : Page) (n promise : ℕ) :
    copyCall? p n = none ↔ pendingOf p promise = .failed .clipboardUnavailable := by
  rw [copyCall?, pendingOf]
  cases writer? p with
  | none => simp
  | some w =>
    obtain ⟨clipboard, recorded, result⟩ := w
    cases result <;> simp

lemma beginWrite_of_writer? (p : Page) (text : String) :
    beginWrite p text =
      match writer? p with
      | none => (.failed .clipboardUnavailable, p)
      | some w => callWrite p w.clipboard text w.recorded w.result := by
  rw [beginWrite, writer?]
  cases p.clipboard with
  | error thrown => rfl
  | ok clipboard =>
    simp only
    cases clipboard.get writeProperty with
    | error thrown => rfl
    | ok found =>
      cases found with
      | object o =>
        obtain ⟨kind, -, -, -⟩ := o
        cases kind <;> rfl
      | _ => rfl

/-- What beginning a write does to a page. -/
lemma beginWrite_eq (p : Page) (text : String) :
    beginWrite p text = (pendingOf p p.promises.length,
      { p with
        calls := p.calls
          ++ ((writer? p).map fun w => ⟨w.clipboard, text, p.selected, w.recorded⟩).toList
        promises := p.promises ++ promisesOf p }) := by
  rw [beginWrite_of_writer?, pendingOf, promisesOf]
  cases writer? p with
  | none => simp
  | some w =>
    obtain ⟨clipboard, recorded, result⟩ := w
    cases result <;> simp [callWrite, Page.call]

lemma promisesOf_eq_nil_or (p : Page) : promisesOf p = [] ∨ ∃ fate, promisesOf p = [fate] := by
  rw [promisesOf]
  split
  · exact Or.inr ⟨_, rfl⟩
  · exact Or.inl rfl

/-- A write that is given no promise does not depend on which number one would have. -/
lemma pendingOf_of_no_promise {p : Page} (h : promisesOf p = []) (k k' : ℕ) :
    pendingOf p k = pendingOf p k' := by
  rw [promisesOf] at h
  rw [pendingOf, pendingOf]
  cases hresult : (writer? p).map Writer.result with
  | none => rfl
  | some result =>
    cases result with
    | promises fate =>
      rw [hresult] at h
      exact absurd h (by simp)
    | _ => rfl

/-- The promises that one call is given count as one for the number of the next. -/
lemma pendingOf_add_promises (p : Page) (k : ℕ) :
    pendingOf p (k + (promisesOf p).length) = pendingOf p (k + 1) := by
  rcases promisesOf_eq_nil_or p with hnone | ⟨fate, hone⟩
  · exact pendingOf_of_no_promise hnone _ _
  · rw [hone, List.length_singleton]

namespace Session

variable {s : Session}

/-! ## Attempts -/

/-- What an attempt to copy an input leaves. -/
lemma copyInput_eq (s : Session) (n : ℕ) :
    s.copyInput n = { s with
      page := { s.page with
        selected := some (n, Text.unitLength (s.page.element n).value)
        calls := s.page.calls ++ (copyCall? s.page n).toList
        promises := s.page.promises ++ promisesOf s.page }
      attempts := s.attempts ++
        [⟨n, (s.page.element n).value, pendingOf s.page s.page.promises.length⟩]
      waiting := s.waiting ++ [s.attempts.length]
      log := s.log ++
        [⟨Log.debugging (Copying.copyMessage (s.page.element n).value), s.threshold⟩] } := by
  simp only [copyInput, Copying.attempt, surface, beginWrite_eq]
  rfl

/-- What is left when attempts to copy some inputs have been made, one after another. -/
structure Copied (s : Session) (ns : List ℕ) (t : Session) : Prop where
  /-- Each attempt made one call with what it read, if there was a function to call; the input had
  been selected by then. -/
  calls : t.page.calls = s.page.calls ++ ns.filterMap (copyCall? s.page)
  promises : t.page.promises = s.page.promises ++ ns.flatMap fun _ => promisesOf s.page
  /-- The input of the last attempt is selected. -/
  selected : t.page.selected
    = (ns.getLast?.map fun n => (n, Text.unitLength (s.page.element n).value)).or s.page.selected
  attempts : t.attempts = s.attempts ++ ns.mapIdx fun j n =>
    ⟨n, (s.page.element n).value, pendingOf s.page (s.page.promises.length + j)⟩
  /-- The new attempts wait, and nothing is announced yet. -/
  waiting : t.waiting = s.waiting ++ List.range' s.attempts.length ns.length
  announced : t.announced = s.announced

/-- An attempt leaves the clipboard and the elements as they were. -/
lemma writer?_copyInput (s : Session) (n : ℕ) :
    writer? (s.copyInput n).page = writer? s.page := by
  rw [copyInput_eq]
  rfl

lemma element_copyInput (s : Session) (n m : ℕ) :
    (s.copyInput n).page.element m = s.page.element m := by
  rw [copyInput_eq]
  rfl

lemma promisesOf_copyInput (s : Session) (n : ℕ) :
    promisesOf (s.copyInput n).page = promisesOf s.page := by
  rw [promisesOf, writer?_copyInput, promisesOf]

lemma copyCall?_copyInput (s : Session) (n : ℕ) :
    copyCall? (s.copyInput n).page = copyCall? s.page := by
  funext m
  rw [copyCall?, writer?_copyInput, element_copyInput, copyCall?]

/-- What an attempt begins after another. -/
lemma pendingOf_copyInput (s : Session) (n j : ℕ) :
    pendingOf (s.copyInput n).page ((s.copyInput n).page.promises.length + j)
      = pendingOf s.page (s.page.promises.length + (j + 1)) := by
  have hlength : (s.copyInput n).page.promises.length + j
      = s.page.promises.length + j + (promisesOf s.page).length := by
    rw [copyInput_eq]
    simp only [List.length_append]
    omega
  rw [hlength, pendingOf, writer?_copyInput, ← pendingOf, pendingOf_add_promises, Nat.add_assoc]

lemma copied_foldl (s : Session) (ns : List ℕ) : s.Copied ns (ns.foldl copyInput s) := by
  induction ns generalizing s with
  | nil => exact ⟨by simp, by simp, by simp, by simp, by simp, rfl⟩
  | cons n ns ih =>
    obtain ⟨hcalls, hfates, hselected, hattempts, hwaiting, hannounced⟩ := ih (s.copyInput n)
    rw [copyCall?_copyInput] at hcalls
    rw [promisesOf_copyInput] at hfates
    simp only [element_copyInput] at hselected
    simp only [element_copyInput, pendingOf_copyInput] at hattempts
    rw [List.foldl_cons]
    refine ⟨?_, ?_, ?_, ?_, ?_, ?_⟩
    · rw [hcalls, copyInput_eq]
      cases hn : copyCall? s.page n <;> simp [hn]
    · rw [hfates, copyInput_eq]
      simp
    · rw [hselected, copyInput_eq, List.getLast?_cons]
      cases ns.getLast? <;> simp
    · rw [hattempts, copyInput_eq, List.mapIdx_cons]
      simp
    · rw [hwaiting, copyInput_eq]
      simp [List.range'_succ]
    · rw [hannounced, copyInput_eq]

/-! ## Clicks -/

/-- The live click listeners at an input. -/
def copiers (s : Session) (n : ℕ) : List Listener :=
  s.listeners.live.filter fun l => l.place = .node n && l.reaction.kind = .click

/-- The inputs that a click copies, in order: the input that was clicked and those above it, each
once for every click listener that it has. -/
def clicked (s : Session) (spot : Spot) : List ℕ :=
  ((s.page.path (s.page.place spot)).filterMap Place.node?).flatMap fun n =>
    List.replicate (s.copiers n).length n

/-- A click listener copies the input that it stands at. -/
lemma Sound.reaction_of_mem_copiers (hs : s.Sound) {n : ℕ} {l : Listener} (hl : l ∈ s.copiers n) :
    ∃ owner, l.reaction = .copy owner n := by
  obtain ⟨hlive, hat⟩ := List.mem_filter.mp hl
  simp only [Bool.and_eq_true, decide_eq_true_eq] at hat
  obtain ⟨hplace, hkind⟩ := hat
  cases hreaction : l.reaction with
  | copy owner input =>
    rw [hs.matched.placed l hlive owner input hreaction] at hplace
    exact ⟨owner, by rw [Place.node.inj hplace]⟩
  | _ =>
    rw [hreaction] at hkind
    exact absurd hkind (by simp [Reaction.kind])

/-- Click listeners stand at elements only. -/
lemma Sound.idsAt_click (hs : s.Sound) (place : Place) :
    s.listeners.idsAt .click place = place.node?.elim [] fun n => (s.copiers n).map (·.id) := by
  cases hnode : place.node? with
  | some n =>
    have hplace : place = .node n := by
      cases place with
      | node m => rw [Option.some.inj hnode]
      | _ => exact absurd hnode (by simp [Place.node?])
    rw [hplace]
    rfl
  | none =>
    rw [Option.elim_none, Listeners.idsAt, List.map_eq_nil_iff, List.filter_eq_nil_iff]
    intro l hl hat
    simp only [Bool.and_eq_true, decide_eq_true_eq] at hat
    obtain ⟨rfl, hkind⟩ := hat
    cases hreaction : l.reaction with
    | copy owner input =>
      rw [hs.matched.placed l hl owner input hreaction] at hnode
      exact absurd hnode (by simp [Place.node?])
    | _ =>
      rw [hreaction] at hkind
      exact absurd hkind (by simp [Reaction.kind])

/-- The click listeners along a path, each with the input that it copies. -/
lemma Sound.along_click (hs : s.Sound) (path : List Place) :
    s.listeners.along .click path = ((path.filterMap Place.node?).flatMap fun n =>
      (s.copiers n).map fun l => (l.id, n)).map Prod.fst := by
  induction path with
  | nil => rfl
  | cons place path ih =>
    rw [Listeners.along, List.flatMap_cons, ← Listeners.along, ih, hs.idsAt_click,
      List.filterMap_cons]
    cases place.node? with
    | none => rfl
    | some n => simp [Function.comp_def]

/-- Listeners that copy inputs make attempts one after another. -/
lemma reactAll_copies {copies : List (ℕ × ℕ)}
    (h : ∀ q ∈ copies, ∃ l owner, s.listeners.find? q.1 = some l ∧ l.reaction = .copy owner q.2) :
    (s.reactAll none (copies.map Prod.fst)).1 = (copies.map Prod.snd).foldl copyInput s := by
  induction copies generalizing s with
  | nil => rfl
  | cons q copies ih =>
    obtain ⟨l, owner, hfind, hreaction⟩ := h q List.mem_cons_self
    have hreact : s.react q.1 none = (s.copyInput q.2, none) := by
      rw [react, hfind]
      simp only [hreaction]
    rw [List.map_cons, reactAll, hreact, List.map_cons, List.foldl_cons]
    refine ih fun q' hq' => ?_
    -- copying changes no listener
    rw [(alike_copyInput s q.2).listeners]
    exact h q' (List.mem_cons_of_mem q hq')

/-- **A click is a sequence of attempts to copy the inputs that it comes by.** -/
theorem Sound.step_click (hs : s.Sound) (spot : Spot) :
    (s.step (.click spot)).2 = (s.clicked spot).foldl copyInput s := by
  rw [Session.step, dispatch, hs.along_click, reactAll_copies]
  · rw [clicked, List.map_flatMap]
    simp [Function.comp_def]
  · intro q hq
    obtain ⟨n, -, hq⟩ := List.mem_flatMap.mp hq
    obtain ⟨l, hl, rfl⟩ := List.mem_map.mp hq
    obtain ⟨owner, hreaction⟩ := hs.reaction_of_mem_copiers hl
    have hlive : l ∈ s.listeners.live := List.mem_of_mem_filter hl
    exact ⟨l, owner, hs.matched.find?_eq_some_iff.mpr ⟨hlive, rfl⟩, hreaction⟩

end Session

end PageCompanion.Live
