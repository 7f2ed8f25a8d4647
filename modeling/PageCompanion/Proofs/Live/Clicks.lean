/-
# One outcome for every copy

The facts on clicks are put together here.  A click bubbles, so it is not only the input that was
clicked that is copied, but every input that the click comes by and that has a listener; each of
these copies has one outcome.
-/
import PageCompanion.Proofs.Live.Gentle

namespace PageCompanion.Live

open Dom (Page Place Spot)

/-- **Every copy that a click begins has one outcome.**  In every run, a click makes an attempt for
each listener of each input that it comes by, and what becomes of an attempt depends on its own
write only, whatever happens afterwards.  An attempt calls the write function unless the clipboard
is unavailable.  If no script has opened a roster, no input has two listeners; and an input that is
attached keeps its listener whatever becomes of its copies, so that it is copied as often as a
click comes by. -/
theorem one_outcome_per_copy (p : Page) (before : List Session.Step) :
    let s := (Session.onPage p).steps before
    (∀ spot after,
      let t := (s.step (.click spot)).2
      s.Copied (s.clicked spot) t ∧
        ∀ j n, (s.clicked spot)[j]? = some n →
          t.Concludes after (s.attempts.length + j) ⟨n, (s.page.element n).value,
            pendingOf s.page (s.page.promises.length + j)⟩) ∧
    (∀ n promise, copyCall? s.page n = none ↔
      pendingOf s.page promise = .failed .clipboardUnavailable) ∧
    ((∀ selector, .openRoster selector ∉ before) →
      (∀ n, (s.copiers n).length ≤ 1) ∧
        ∀ n l, s.copiers n ≠ [] → (∀ a ∈ l, Session.Step.Gentle a) →
          (s.page.isConnected n = true ∨ ∀ a ∈ l, ¬ Session.Step.Scans a) →
          (s.steps l).copiers n = s.copiers n ∧
            ((s.steps l).attempts.map Attempt.input).count n
              = (s.attempts.map Attempt.input).count n + l.countP (·.comesBy s.page n)) := by
  intro s
  have hs : s.Sound := Session.sound_steps p before
  have hnumbered : s.Numbered := Session.numbered_steps p before
  refine ⟨fun spot after => ?_, copyCall?_eq_none_iff s.page, fun hopen => ?_⟩
  · intro t
    have ht : t = (s.clicked spot).foldl Session.copyInput s := hs.step_click spot
    have hcopied : s.Copied (s.clicked spot) t := by
      rw [ht]
      exact Session.copied_foldl s _
    refine ⟨hcopied, fun j n hj => ?_⟩
    obtain ⟨hlt, -⟩ := List.getElem?_eq_some_iff.mp hj
    -- the attempt is among those that the click has made, and waits
    refine Session.concludes_of_waiting (hnumbered.step hs _) (hs.step _) ?_ ?_ after
    · rw [hcopied.waiting]
      exact List.mem_append_right _ (List.mem_range'_1.mpr ⟨by omega, by omega⟩)
    · rw [hcopied.attempts, List.getElem?_append_right (by omega), Nat.add_sub_cancel_left,
        List.getElem?_mapIdx, hj, Option.map_some]
  · have halone : s.Alone := Session.alone_steps p hopen
    exact ⟨halone.length_copiers_le hs, fun n l hn hl hscan =>
      Session.attempts_of_attached halone hs hn hl hscan⟩

/-- An input whose value changes while its copy is pending, and that is clicked twice. -/
theorem one_outcome_per_copy_of_changed_value :
    let link : Spot := .element "link"
    let made := Dom.Element.make "link" "input" [("data-copy-on-click", "")] "old"
    let before : List Session.Step := [.change (.create made), .change (.append link .body), .start]
    let s := (Session.onPage {}).steps before
    let t := (s.step (.click link)).2
    let after : List Session.Step := [.change (.value link "new"), .tick]
    s.copiers 1 ≠ [] ∧ t.page.calls.map (·.text) = ["old"] ∧
      (t.steps after).told 0 = [⟨0, 1, "copy-on-click:copied", "old", true⟩] ∧
      ((s.steps [.click link, .tick, .click link]).attempts.map Attempt.input).count 1 = 2 := by
  intro link made before s t after
  have hclicked : s.clicked link = [1] := by decide +kernel
  have hattached : s.copiers 1 ≠ [] := by decide +kernel
  have hopen : ∀ selector, .openRoster selector ∉ before := by simp [before]
  obtain ⟨hclick, -, halone⟩ := one_outcome_per_copy {} before
  obtain ⟨hcopied, hconcludes⟩ := hclick link after
  obtain ⟨-, hattempts⟩ := halone hopen
  have hnumber : s.attempts.length + 0 = 0 := by decide +kernel
  have hvalue : (s.page.element 1).value = "old" := by decide +kernel
  have hpending : pendingOf s.page (s.page.promises.length + 0) = .awaits 0 := by decide +kernel
  have hconcluded : t.Concludes after (s.attempts.length + 0) ⟨1, (s.page.element 1).value,
      pendingOf s.page (s.page.promises.length + 0)⟩ := hconcludes 0 1 (by rw [hclicked]; rfl)
  rw [hnumber, hvalue, hpending] at hconcluded
  refine ⟨hattached, ?_, ?_, ?_⟩
  · rw [hcopied.calls, hclicked]
    decide +kernel
  · -- the write has ended when the tasks are run, and not before
    let changed : List Session.Step := [.change (.value link "new")]
    have hunnoticed : t.Unnoticed changed (.awaits 0) :=
      Session.unnoticed_cons_iff.mpr ⟨by simp, Session.unnoticed_nil _ _⟩
    have hended : Ends (t.steps changed).page (.awaits 0) (.ok ()) :=
      poll_eq_some_iff.mp (by decide +kernel)
    have hfault : (t.steps changed).page.eventFault = none := by decide +kernel
    have hreached : ((t.steps changed).page.path (.node 1)).contains .window = true := by
      decide +kernel
    have htold := hconcluded.told changed [] (.ok ()) rfl hunnoticed hended hfault
    rw [hreached] at htold
    exact htold
  · obtain ⟨-, hcount⟩ := hattempts 1 [.click link, .tick, .click link] hattached
      (by simp [Session.Step.Gentle]) (Or.inr (by simp [Session.Step.Scans]))
    rw [hcount]
    decide +kernel

/-- A click copies the input above an input that has no listener, and a copy that succeeds is not
announced on a page where no event can be made. -/
theorem copy_elsewhere_or_without_event :
    let outer := Dom.Element.make "outer" "input" [("data-copy-on-click", "")] "whole"
    let inner := Dom.Element.make "inner" "input" [] "part"
    let nested : List Session.Step := [.change (.create outer), .change (.create inner),
      .change (.append (.element "outer") .body), .start,
      .change (.append (.element "inner") (.element "outer"))]
    let s := (Session.onPage {}).steps nested
    let faulty : List Session.Step := [.change (.create outer),
      .change (.append (.element "outer") .body), .start, .change (.eventFault (some .null)),
      .click (.element "outer"), .tick]
    let t := (Session.onPage {}).steps faulty
    (s.page.place (.element "inner") = .node 2 ∧ s.page.isInput 2 = true ∧ s.copiers 2 = [] ∧
        (s.step (.click (.element "inner"))).2.page.calls.map (·.text) = ["whole"]) ∧
      t.attempts = [⟨1, "whole", .awaits 0⟩] ∧ (Pending.awaits 0).poll t.page = some (.ok ()) ∧
        t.waiting = [] ∧ t.announced = [] := by
  decide +kernel

end PageCompanion.Live
