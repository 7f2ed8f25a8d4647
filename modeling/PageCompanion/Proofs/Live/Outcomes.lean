/-
# What becomes of an attempt

An attempt waits until the tasks that wait are run and find its write ended, and is announced
then, once.  So its number is among those that wait until the first `tick` of this kind, and never
again afterwards; `Numbered` says that the numbers are kept in this way.  From what one step does to
an attempt it follows what the steps after it do (`concludes_of_waiting`).
-/
import PageCompanion.Proofs.Live.Onward

namespace PageCompanion.Live

open Dom (Page Place Spot)
open Script (Value)

/-- When the members of a list without repeats each give things of their own, what belongs to one
of them is what it gave. -/
lemma filter_flatMap_of_nodup {α β : Type} [DecidableEq α] {gives : α → List β} {owner : β → α}
    (howner : ∀ a, ∀ b ∈ gives a, owner b = a) {as : List α} (h : as.Nodup) (a : α) :
    (as.flatMap gives).filter (owner · = a) = if a ∈ as then gives a else [] := by
  induction as with
  | nil => simp
  | cons a' as ih =>
    obtain ⟨ha', has⟩ := List.nodup_cons.mp h
    rw [List.flatMap_cons, List.filter_append, ih has]
    by_cases heq : a' = a
    · subst heq
      have hown : (gives a').filter (owner · = a') = gives a' :=
        List.filter_eq_self.mpr fun b hb => decide_eq_true (howner a' b hb)
      rw [hown, if_neg ha', if_pos List.mem_cons_self, List.append_nil]
    · have hother : (gives a').filter (owner · = a) = [] := by
        refine List.filter_eq_nil_iff.mpr fun b hb => ?_
        rw [decide_eq_true_iff, howner a' b hb]
        exact heq
      rw [hother, List.nil_append]
      simp [Ne.symm heq]

/-! ## What is announced -/

/-- The name and the detail of the event that tells how an attempt to copy a text ended. -/
def outcome (text : String) : Except Fault Unit → String × String
  | .ok () => (Session.copiedEvent, text)
  | .error fault => (Session.failedEvent, fault.message)

namespace Session

variable {s t : Session}

/-- What was announced of an attempt. -/
def told (s : Session) (k : ℕ) : List Announcement :=
  s.announced.filter (·.attempt = k)

/-- What is announced of an attempt that has ended.  There is no event when none can be made. -/
def report (s : Session) (k : ℕ) (a : Attempt) (r : Except Fault Unit) : List Announcement :=
  match s.page.eventFault with
  | some _ => []
  | none => [⟨k, a.input, (outcome a.text r).1, (outcome a.text r).2,
      (s.page.path (.node a.input)).contains .window⟩]

/-- The record that stands in place of an event that cannot be made. -/
def eventWarning (a : Attempt) (r : Except Fault Unit) (thrown : Value) : Log.Record :=
  Log.warning s!"could not create {(outcome a.text r).1}: {thrown.describe}"

/-- Announcing an attempt adds its report and touches no other attempt. -/
lemma announce_spec (s : Session) (k : ℕ) (a : Attempt) (r : Except Fault Unit) :
    (s.announce k a r).page = s.page ∧ (s.announce k a r).attempts = s.attempts ∧
      (s.announce k a r).waiting = s.waiting ∧
      (s.announce k a r).announced = s.announced ++ s.report k a r ∧
      s.log <+: (s.announce k a r).log ∧
      ∀ thrown, s.page.eventFault = some thrown →
        ⟨eventWarning a r thrown, s.threshold⟩ ∈ (s.announce k a r).log := by
  cases hfault : s.page.eventFault with
  | none =>
    cases r with
    | ok _ => simp [announce, report, hfault, outcome]
    | error fault => simp [announce, report, hfault, outcome, logAll]
  | some thrown =>
    cases r with
    | ok _ => simp [announce, report, hfault, outcome, logAll, eventWarning]
    | error fault => simp [announce, report, hfault, outcome, logAll, eventWarning]

/-! ## Running the tasks that wait -/

/-- The attempt of a number, if there is one, has not ended. -/
def unended (s : Session) (k : ℕ) : Bool :=
  s.attempts[k]?.any fun a => (a.pending.poll s.page).isNone

/-- What is announced of the attempt of a number, if there is one and it has ended. -/
def reports (s : Session) (k : ℕ) : List Announcement :=
  (s.attempts[k]?.bind fun a => (a.pending.poll s.page).map (s.report k a)).getD []

/-- Attempts have been looked at: those that have ended are announced, and the others wait. -/
structure Resumed (s : Session) (ks : List ℕ) (t : Session) : Prop where
  page : t.page = s.page
  attempts : t.attempts = s.attempts
  waiting : t.waiting = s.waiting ++ ks.filter s.unended
  announced : t.announced = s.announced ++ ks.flatMap s.reports
  log : s.log <+: t.log

lemma resumed_resume (s : Session) (k : ℕ) : s.Resumed [k] (s.resume k) := by
  rw [resume]
  cases ha : s.attempts[k]? with
  | none =>
    have hunended : s.unended k = false := by rw [unended, ha]; rfl
    have hreports : s.reports k = [] := by rw [reports, ha]; rfl
    exact ⟨rfl, rfl, by simp [hunended], by simp [hreports], List.prefix_refl _⟩
  | some a =>
    simp only
    cases hpoll : a.pending.poll s.page with
    | none =>
      have hunended : s.unended k = true := by rw [unended, ha]; simp [hpoll]
      have hreports : s.reports k = [] := by rw [reports, ha]; simp [hpoll]
      exact ⟨rfl, rfl, by simp [hunended], by simp [hreports], List.prefix_refl _⟩
    | some r =>
      have hunended : s.unended k = false := by rw [unended, ha]; simp [hpoll]
      have hreports : s.reports k = s.report k a r := by rw [reports, ha]; simp [hpoll]
      obtain ⟨hpage, hattempts, hwaiting, hannounced, hlog, -⟩ := announce_spec s k a r
      exact ⟨hpage, hattempts, by simp [hunended, hwaiting], by simp [hreports, hannounced], hlog⟩

lemma Resumed.trans {ks ks' : List ℕ} {u : Session} (h : s.Resumed ks t) (h' : t.Resumed ks' u) :
    s.Resumed (ks ++ ks') u := by
  have hunended : t.unended = s.unended := by
    funext k
    rw [unended, h.attempts, h.page, unended]
  have hreports : t.reports = s.reports := by
    funext k
    have hreport : t.report = s.report := by
      funext k a r
      rw [report, h.page, report]
    rw [reports, h.attempts, h.page, hreport, reports]
  refine ⟨h'.page.trans h.page, h'.attempts.trans h.attempts, ?_, ?_, h.log.trans h'.log⟩
  · rw [h'.waiting, h.waiting, hunended, List.filter_append, List.append_assoc]
  · rw [h'.announced, h.announced, hreports, List.flatMap_append, List.append_assoc]

lemma resumed_foldl (s : Session) (ks : List ℕ) : s.Resumed ks (ks.foldl resume s) := by
  induction ks generalizing s with
  | nil => exact ⟨rfl, rfl, by simp, by simp, List.prefix_refl _⟩
  | cons k ks ih => exact (resumed_resume s k).trans (ih _)

/-- What `tick` does to the attempts that wait. -/
lemma resumed_tick (s : Session) : Resumed { s with waiting := [] } s.waiting s.tick :=
  resumed_foldl _ _

/-- An attempt whose event cannot be made is reported to the log instead. -/
lemma eventWarning_mem_log_tick {k : ℕ} (hk : k ∈ s.waiting) {a : Attempt}
    (ha : s.attempts[k]? = some a) {r : Except Fault Unit} (hr : Ends s.page a.pending r)
    {thrown : Value} (hthrown : s.page.eventFault = some thrown) :
    ∃ threshold, ⟨eventWarning a r thrown, threshold⟩ ∈ s.tick.log := by
  obtain ⟨before, after, hsplit⟩ := List.append_of_mem hk
  obtain ⟨u, hu⟩ : ∃ u, u = before.foldl resume { s with waiting := [] } := ⟨_, rfl⟩
  have htick : s.tick = after.foldl resume (u.resume k) := by
    rw [tick, hsplit, List.foldl_append, List.foldl_cons, hu]
  have hbefore : Resumed { s with waiting := [] } before u := hu ▸ resumed_foldl _ before
  have hresume : u.resume k = u.announce k a r := by
    rw [resume, hbefore.attempts, ha]
    simp only [hbefore.page, poll_eq_some_iff.mpr hr]
  refine ⟨u.threshold, ?_⟩
  rw [htick]
  refine (resumed_foldl _ after).log.subset ?_
  rw [hresume]
  exact (announce_spec u k a r).2.2.2.2.2 thrown (hbefore.page ▸ hthrown)

lemma of_mem_reports {k : ℕ} {e : Announcement} (he : e ∈ s.reports k) :
    e.attempt = k ∧ s.unended k = false ∧ k < s.attempts.length := by
  rw [reports] at he
  cases ha : s.attempts[k]? with
  | none =>
    rw [ha] at he
    exact absurd he (by simp)
  | some a =>
    cases hpoll : a.pending.poll s.page with
    | none =>
      rw [ha] at he
      exact absurd he (by simp [hpoll])
    | some r =>
      refine ⟨?_, by rw [unended, ha]; simp [hpoll], (List.getElem?_eq_some_iff.mp ha).1⟩
      rw [ha] at he
      simp only [Option.bind_some, hpoll, Option.map_some, Option.getD_some, report] at he
      split at he
      · exact absurd he (by simp)
      · rw [List.mem_singleton.mp he]

lemma reports_of_ends {k : ℕ} {a : Attempt} (ha : s.attempts[k]? = some a) {r : Except Fault Unit}
    (hr : Ends s.page a.pending r) : s.reports k = s.report k a r ∧ s.unended k = false := by
  have hpoll := poll_eq_some_iff.mpr hr
  constructor
  · rw [reports, ha]
    simp [hpoll]
  · rw [unended, ha]
    simp [hpoll]

lemma unended_of_not_ends {k : ℕ} {a : Attempt} (ha : s.attempts[k]? = some a)
    (hr : ∀ r, ¬ Ends s.page a.pending r) : s.unended k = true := by
  have hpoll := poll_eq_none_iff.mpr hr
  rw [unended, ha]
  simp [hpoll]

/-- Of each attempt that waited nothing but its own report is announced. -/
lemma told_tick (h : s.waiting.Nodup) (k : ℕ) :
    s.tick.told k = s.told k ++ if k ∈ s.waiting then s.reports k else [] := by
  have hannounced : s.tick.announced = s.announced ++ s.waiting.flatMap s.reports :=
    (resumed_tick s).announced
  have hreports : (s.waiting.flatMap s.reports).filter (·.attempt = k)
      = if k ∈ s.waiting then s.reports k else [] :=
    filter_flatMap_of_nodup (fun _ _ he => (of_mem_reports he).1) h k
  rw [told, hannounced, List.filter_append, hreports, told]

lemma waiting_tick (s : Session) : s.tick.waiting = s.waiting.filter s.unended :=
  (resumed_tick s).waiting

/-! ## Numbers of attempts -/

/-- The numbers that wait are those of different attempts, and none of them was announced. -/
structure Numbered (s : Session) : Prop where
  nodup : s.waiting.Nodup
  lt : ∀ k ∈ s.waiting, k < s.attempts.length
  announced_lt : ∀ e ∈ s.announced, e.attempt < s.attempts.length
  announced_not_mem : ∀ e ∈ s.announced, e.attempt ∉ s.waiting

lemma numbered_onPage (p : Page) : (onPage p).Numbered :=
  ⟨List.nodup_nil, by simp [onPage], by simp [onPage], by simp [onPage]⟩

lemma Numbered.of_onward (h : s.Numbered) (hst : Onward s t) : t.Numbered := by
  have hle := hst.attempts.length_le
  -- the numbers that are new are above all that there are
  refine ⟨?_, fun k hk => ?_, fun e he => ?_, fun e he hk => ?_⟩
  · rw [hst.waiting, List.nodup_append]
    refine ⟨h.nodup, List.nodup_range', ?_⟩
    rintro k hk k' hk' rfl
    have hlt := h.lt k hk
    have hge := (List.mem_range'_1.mp hk').1
    omega
  · rw [hst.waiting] at hk
    rcases List.mem_append.mp hk with hk | hk
    · have hlt := h.lt k hk
      omega
    · have hlt := (List.mem_range'_1.mp hk).2
      omega
  · rw [hst.announced] at he
    have hlt := h.announced_lt e he
    omega
  · rw [hst.announced] at he
    rw [hst.waiting] at hk
    rcases List.mem_append.mp hk with hk | hk
    · exact h.announced_not_mem e he hk
    · have hlt := h.announced_lt e he
      have hge := (List.mem_range'_1.mp hk).1
      omega

lemma Numbered.tick (h : s.Numbered) : s.tick.Numbered := by
  have hattempts : s.tick.attempts = s.attempts := (resumed_tick s).attempts
  have hannounced : s.tick.announced = s.announced ++ s.waiting.flatMap s.reports :=
    (resumed_tick s).announced
  refine ⟨?_, fun k hk => ?_, fun e he => ?_, fun e he hk => ?_⟩
  · rw [waiting_tick]
    exact h.nodup.filter _
  · rw [waiting_tick] at hk
    rw [hattempts]
    exact h.lt k (List.mem_of_mem_filter hk)
  · rw [hannounced] at he
    rw [hattempts]
    rcases List.mem_append.mp he with he | he
    · exact h.announced_lt e he
    · obtain ⟨k, -, hk⟩ := List.mem_flatMap.mp he
      rw [(of_mem_reports hk).1]
      exact (of_mem_reports hk).2.2
  · rw [hannounced] at he
    rw [waiting_tick] at hk
    obtain ⟨hwaits, hunended⟩ := List.mem_filter.mp hk
    rcases List.mem_append.mp he with he | he
    · exact h.announced_not_mem e he hwaits
    · -- what was announced just now has ended
      obtain ⟨k, -, hk⟩ := List.mem_flatMap.mp he
      rw [(of_mem_reports hk).1, (of_mem_reports hk).2.1] at hunended
      exact absurd hunended (by simp)

lemma Numbered.step (h : s.Numbered) (hs : s.Sound) (a : Step) : (s.step a).2.Numbered := by
  by_cases ha : a = .tick
  · subst ha
    exact h.tick
  · exact h.of_onward (onward_step hs ha)

lemma Numbered.steps (h : s.Numbered) (hs : s.Sound) (l : List Step) : (s.steps l).Numbered := by
  induction l generalizing s with
  | nil => exact h
  | cons a l ih => exact ih (h.step hs a) (hs.step a)

/-- **Every run leaves numbers in order.** -/
theorem numbered_steps (p : Page) (l : List Step) : ((onPage p).steps l).Numbered :=
  (numbered_onPage p).steps (sound_onPage p) l

/-! ## One attempt in a run -/

/-- What every step keeps: attempts that were made, writes that have ended, and the log. -/
lemma kept_step (hs : s.Sound) (a : Step) :
    s.attempts <+: (s.step a).2.attempts ∧ Later s.page (s.step a).2.page ∧
      s.log <+: (s.step a).2.log := by
  by_cases ha : a = .tick
  · subst ha
    obtain ⟨hpage, hattempts, -, -, hlog⟩ := resumed_tick s
    refine ⟨?_, ?_, hlog⟩
    · rw [step, hattempts]
    · rw [step, hpage]
      exact Later.refl _
  · have honward := onward_step hs ha
    exact ⟨honward.attempts, honward.later, honward.log⟩

lemma kept_steps (hs : s.Sound) (l : List Step) :
    s.attempts <+: (s.steps l).attempts ∧ Later s.page (s.steps l).page ∧
      s.log <+: (s.steps l).log := by
  induction l generalizing s with
  | nil => exact ⟨List.prefix_refl _, Later.refl _, List.prefix_refl _⟩
  | cons a l ih =>
    obtain ⟨hattempts, hlater, hlog⟩ := kept_step hs a
    obtain ⟨hattempts', hlater', hlog'⟩ := ih (hs.step a)
    exact ⟨hattempts.trans hattempts', hlater.trans hlater', hlog.trans hlog'⟩

lemma getElem?_attempts_steps (hs : s.Sound) {k : ℕ} {a : Attempt}
    (h : s.attempts[k]? = some a) (l : List Step) : (s.steps l).attempts[k]? = some a := by
  obtain ⟨rest, hrest⟩ := (kept_steps hs l).1
  rw [← hrest, List.getElem?_append_left (List.getElem?_eq_some_iff.mp h).1, h]

/-- An attempt that does not wait any more is announced no more. -/
lemma told_steps_of_not_mem (h : s.Numbered) (hs : s.Sound) {k : ℕ}
    (hk : k < s.attempts.length) (hwaits : k ∉ s.waiting) (l : List Step) :
    (s.steps l).told k = s.told k := by
  induction l generalizing s with
  | nil => rfl
  | cons a l ih =>
    rw [steps_cons]
    have hlength := (kept_step hs a).1.length_le
    by_cases ha : a = .tick
    · subst ha
      have hgone : k ∉ s.tick.waiting := by
        rw [waiting_tick]
        exact fun hmem => hwaits (List.mem_of_mem_filter hmem)
      have htold : s.tick.told k = s.told k := by
        rw [told_tick h.nodup, if_neg hwaits, List.append_nil]
      rw [← htold]
      exact ih h.tick (hs.step .tick) (by omega) hgone
    · have honward := onward_step hs ha
      have hgone : k ∉ (s.step a).2.waiting := by
        rw [honward.waiting]
        intro hmem
        rcases List.mem_append.mp hmem with hmem | hmem
        · exact hwaits hmem
        · have hge := (List.mem_range'_1.mp hmem).1
          omega
      have htold : (s.step a).2.told k = s.told k := by
        rw [told, honward.announced, told]
      rw [← htold]
      exact ih (h.of_onward honward) (hs.step a) (by omega) hgone

/-- No `tick` of a list of steps finds the write ended. -/
def Unnoticed (s : Session) (l : List Step) (pending : Pending) : Prop :=
  ∀ first rest, l = first ++ .tick :: rest → ∀ r, ¬ Ends (s.steps first).page pending r

lemma unnoticed_nil (s : Session) (pending : Pending) : s.Unnoticed [] pending := by
  intro first rest hl
  exact absurd hl (by simp)

lemma unnoticed_cons_iff {x : Step} {l : List Step} {pending : Pending} :
    s.Unnoticed (x :: l) pending ↔
      (x = .tick → ∀ r, ¬ Ends s.page pending r) ∧ (s.step x).2.Unnoticed l pending := by
  constructor
  · intro h
    refine ⟨fun hx => h [] l (by rw [hx]; rfl), fun first rest hl => ?_⟩
    exact h (x :: first) rest (by rw [hl]; rfl)
  · rintro ⟨hx, hl⟩ first rest hsplit
    cases first with
    | nil => exact hx (List.cons.inj hsplit).1
    | cons y first =>
      obtain ⟨rfl, hrest⟩ := List.cons.inj hsplit
      exact hl first rest hrest

/-- If some `tick` finds the write ended, one is the first that does. -/
lemma unnoticed_or_exists (s : Session) (l : List Step) (pending : Pending) :
    s.Unnoticed l pending ∨ ∃ first rest r, l = first ++ .tick :: rest ∧
      s.Unnoticed first pending ∧ Ends (s.steps first).page pending r := by
  induction l generalizing s with
  | nil => exact Or.inl (unnoticed_nil s pending)
  | cons x l ih =>
    by_cases hends : x = .tick ∧ ∃ r, Ends s.page pending r
    · obtain ⟨rfl, r, hr⟩ := hends
      exact Or.inr ⟨[], l, r, rfl, unnoticed_nil s pending, hr⟩
    · have hx : x = .tick → ∀ r, ¬ Ends s.page pending r := fun hx r hr => hends ⟨hx, r, hr⟩
      rcases ih (s.step x).2 with hl | ⟨first, rest, r, rfl, hfirst, hr⟩
      · exact Or.inl (unnoticed_cons_iff.mpr ⟨hx, hl⟩)
      · exact Or.inr ⟨x :: first, rest, r, rfl, unnoticed_cons_iff.mpr ⟨hx, hfirst⟩, hr⟩

/-- An attempt that waits goes on waiting until a `tick` finds its write ended. -/
lemma waits_of_unnoticed (h : s.Numbered) (hs : s.Sound) {k : ℕ} (hk : k ∈ s.waiting)
    {a : Attempt} (ha : s.attempts[k]? = some a) {l : List Step} (hl : s.Unnoticed l a.pending) :
    k ∈ (s.steps l).waiting ∧ (s.steps l).told k = s.told k := by
  induction l generalizing s with
  | nil => exact ⟨hk, rfl⟩
  | cons x l ih =>
    obtain ⟨hx, hl⟩ := unnoticed_cons_iff.mp hl
    have hnext : k ∈ (s.step x).2.waiting ∧ (s.step x).2.told k = s.told k := by
      by_cases htick : x = .tick
      · have hunended := unended_of_not_ends ha (hx htick)
        have hreports : s.reports k = [] := by
          refine List.eq_nil_iff_forall_not_mem.mpr fun e he => ?_
          rw [(of_mem_reports he).2.1] at hunended
          exact absurd hunended (by simp)
        rw [htick, step, waiting_tick, told_tick h.nodup, if_pos hk, hreports, List.append_nil]
        exact ⟨List.mem_filter.mpr ⟨hk, hunended⟩, rfl⟩
      · have honward := onward_step hs htick
        rw [told, honward.announced, honward.waiting]
        exact ⟨List.mem_append_left _ hk, rfl⟩
    rw [steps_cons, ← hnext.2]
    exact ih (h.step hs x) (hs.step x) hnext.1 (getElem?_attempts_steps hs ha [x]) hl

/-- The first `tick` that finds the write ended announces the attempt, and nothing is announced of
it afterwards. -/
lemma told_of_ends (h : s.Numbered) (hs : s.Sound) {k : ℕ} (hk : k ∈ s.waiting) {a : Attempt}
    (ha : s.attempts[k]? = some a) {first : List Step} (hfirst : s.Unnoticed first a.pending)
    {r : Except Fault Unit} (hr : Ends (s.steps first).page a.pending r) (rest : List Step) :
    (s.steps (first ++ .tick :: rest)).told k = s.told k ++ (s.steps first).report k a r := by
  obtain ⟨hwaits, htold⟩ := waits_of_unnoticed h hs hk ha hfirst
  have hv : (s.steps first).Numbered := h.steps hs first
  have hvs : (s.steps first).Sound := hs.steps first
  have hva : (s.steps first).attempts[k]? = some a := getElem?_attempts_steps hs ha first
  rw [steps_append, steps_cons]
  obtain ⟨v, hveq⟩ : ∃ v, v = s.steps first := ⟨_, rfl⟩
  rw [← hveq] at hwaits htold hv hvs hva hr ⊢
  obtain ⟨hreports, hunended⟩ := reports_of_ends hva hr
  have hgone : k ∉ v.tick.waiting := by
    rw [waiting_tick, List.mem_filter, hunended]
    simp
  have hlt : k < v.tick.attempts.length := (resumed_tick v).attempts ▸ hv.lt k hwaits
  rw [step, told_steps_of_not_mem hv.tick (hvs.step .tick) hlt hgone, told_tick hv.nodup,
    if_pos hwaits, htold, hreports]

/-- What becomes of an attempt in the steps after it. -/
structure Concludes (s : Session) (l : List Step) (k : ℕ) (a : Attempt) : Prop where
  made : (s.steps l).attempts[k]? = some a
  once : ((s.steps l).told k).length ≤ 1
  /-- Nothing is announced while the write has not ended. -/
  pending : (∀ r, ¬ Ends (s.steps l).page a.pending r) → (s.steps l).told k = []
  /-- Nothing is announced before the tasks that wait have found the write ended. -/
  unnoticed : s.Unnoticed l a.pending → (s.steps l).told k = []
  /-- The first tasks that find the write ended announce how. -/
  told : ∀ first rest r, l = first ++ .tick :: rest → s.Unnoticed first a.pending →
    Ends (s.steps first).page a.pending r → (s.steps first).page.eventFault = none →
    (s.steps l).told k = [⟨k, a.input, (outcome a.text r).1, (outcome a.text r).2,
      ((s.steps first).page.path (.node a.input)).contains .window⟩]
  /-- When no event can be made, the log says so. -/
  warned : ∀ first rest r thrown, l = first ++ .tick :: rest → s.Unnoticed first a.pending →
    Ends (s.steps first).page a.pending r → (s.steps first).page.eventFault = some thrown →
    (s.steps l).told k = [] ∧
      ∃ threshold, ⟨eventWarning a r thrown, threshold⟩ ∈ (s.steps l).log

/-- **Every attempt that waits concludes once.** -/
theorem concludes_of_waiting (h : s.Numbered) (hs : s.Sound) {k : ℕ} (hk : k ∈ s.waiting)
    {a : Attempt} (ha : s.attempts[k]? = some a) (l : List Step) : s.Concludes l k a := by
  have hnone : s.told k = [] := by
    refine List.filter_eq_nil_iff.mpr fun e he hek => ?_
    rw [decide_eq_true_iff] at hek
    exact h.announced_not_mem e he (hek ▸ hk)
  have hunnoticed : s.Unnoticed l a.pending → (s.steps l).told k = [] := fun hl =>
    (waits_of_unnoticed h hs hk ha hl).2.trans hnone
  have htold : ∀ first rest r, l = first ++ .tick :: rest → s.Unnoticed first a.pending →
      Ends (s.steps first).page a.pending r →
      (s.steps l).told k = (s.steps first).report k a r := by
    rintro first rest r rfl hfirst hr
    rw [told_of_ends h hs hk ha hfirst hr, hnone, List.nil_append]
  refine ⟨getElem?_attempts_steps hs ha l, ?_, fun hl => ?_, hunnoticed,
    fun first rest r hl hfirst hr hfault => ?_,
    fun first rest r thrown hl hfirst hr hfault => ⟨?_, ?_⟩⟩
  · rcases unnoticed_or_exists s l a.pending with hl | ⟨first, rest, r, hl, hfirst, hr⟩
    · rw [hunnoticed hl]
      simp
    · rw [htold first rest r hl hfirst hr, report]
      split <;> simp
  · -- a write that has ended once has ended in the end
    refine hunnoticed fun first rest hsplit r hr => hl r ?_
    rw [hsplit, steps_append]
    exact hr.later (kept_steps (hs.steps first) _).2.1
  · rw [htold first rest r hl hfirst hr, report, hfault]
  · rw [htold first rest r hl hfirst hr, report, hfault]
  · have hwaits := (waits_of_unnoticed h hs hk ha hfirst).1
    obtain ⟨threshold, hmem⟩ := eventWarning_mem_log_tick hwaits
      (getElem?_attempts_steps hs ha first) hr hfault
    refine ⟨threshold, ?_⟩
    rw [hl, steps_append, steps_cons]
    exact (kept_steps ((hs.steps first).step .tick) rest).2.2.subset hmem

end Session

end PageCompanion.Live
