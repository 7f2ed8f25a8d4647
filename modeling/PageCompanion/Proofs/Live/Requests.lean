/-
# Requests that meet the companion

On its way an event meets listeners one after another, and each finds the event as those before
it have left it.  When the event before a request meets the companion's listener, and holds
headers, the listener does the writes of its stamp to them and nothing else (`Serving.react`).
These are the writes of the stamp that the last start made.
-/
import PageCompanion.Proofs.Live.Starting
import PageCompanion.Proofs.Token.Writes

namespace PageCompanion.Live

open Dom (Page Place Spot)
open Script (Object Value)

/-- An event that holds headers in its detail. -/
structure Carries (event : Option Value) (detail headers : Object Value) : Prop where
  detail_eq : event = some (.object detail)
  detail_isFunction : detail.isFunction = false
  headers_eq : detail.get headersProperty = .ok (.object headers)
  headers_isFunction : headers.isFunction = false

lemma openHeaders_of_carries {event : Option Value} {detail headers : Object Value}
    (h : Carries event detail headers) : openHeaders event = .ok (detail, headers) := by
  obtain ⟨rfl, hdetail, hheaders, hplain⟩ := h
  simp [openHeaders, Value.asObject?, hdetail, hheaders, hplain]

lemma putProperty_of_find? {l : List (String × Value)} {name : String} {value : Value}
    (h : (l.find? fun p => p.1 == name).map (·.2) = some value) :
    Object.putProperty name value l = l := by
  induction l with
  | nil => exact absurd h (by simp)
  | cons p rest ih =>
    rw [Object.putProperty]
    split_ifs with hp
    · rw [List.find?_cons_of_pos (by simpa using hp), Option.map_some, Option.some_inj] at h
      rw [← hp, ← h]
    · rw [List.find?_cons_of_neg (by simpa using hp)] at h
      rw [ih h]

namespace Carries

variable {event : Option Value} {detail headers : Object Value}

lemma trap?_eq (h : Carries event detail headers) : detail.trap? headersProperty = none := by
  have hget := h.headers_eq
  rw [Object.get] at hget
  cases htrap : detail.trap? headersProperty with
  | none => rfl
  | some thrown =>
    rw [htrap] at hget
    exact absurd hget (by simp)

lemma find?_eq (h : Carries event detail headers) :
    detail.find? headersProperty = some (.object headers) := by
  have hget := h.headers_eq
  simp only [Object.get, h.trap?_eq, Except.ok.injEq] at hget
  cases hfind : detail.find? headersProperty with
  | none =>
    rw [hfind] at hget
    exact absurd hget (by simp)
  | some value =>
    rw [hfind] at hget
    exact congrArg some hget

/-- Headers that are left as they are leave the event as it is. -/
lemma withHeaders_self (h : Carries event detail headers) :
    some (.object (withHeaders detail headers)) = event := by
  have hfind := h.find?_eq
  rw [Object.find?, text?_headersProperty] at hfind
  rw [Live.withHeaders, putProperty_of_find? hfind, h.detail_eq]

/-- An event carries the headers that are put into it. -/
lemma withHeaders (h : Carries event detail headers) {headers' : Object Value}
    (hplain : headers'.isFunction = false) :
    Carries (some (.object (withHeaders detail headers'))) (withHeaders detail headers')
      headers' := by
  refine ⟨rfl, h.detail_isFunction, ?_, hplain⟩
  have htrap : (Live.withHeaders detail headers').trap? headersProperty = none := h.trap?_eq
  simp only [Object.get, htrap, find?_withHeaders, if_pos, Option.getD_some]

end Carries

namespace Session

variable {s : Session}

/-- The writes that a listener does to the headers of a request. -/
def writesOf (s : Session) (k : ℕ) : List (String × String) :=
  match s.listeners.find? k with
  | some l =>
    match l.reaction with
    | .stamp stamp => stamp.writes
    | _ => []
  | none => []

/-- A request event that is sent to a spot meets a listener: `here` is the session and the event
as the listeners before have left them. -/
def Meets (s : Session) (spot : Spot) (sent : Value) (k : ℕ) (here : Session × Option Value) :
    Prop :=
  ∃ earlier later, s.listeners.along .request (s.page.path (s.page.place spot))
      = earlier ++ k :: later ∧ here = s.reactAll (some sent) earlier

lemma reactAll_append (s : Session) (detail : Option Value) (ks ks' : List ℕ) :
    s.reactAll detail (ks ++ ks')
      = (s.reactAll detail ks).1.reactAll (s.reactAll detail ks).2 ks' := by
  induction ks generalizing s detail with
  | nil => rfl
  | cons k ks ih => exact ih _ _

/-- Sending an event is letting the listeners react that it meets. -/
lemma dispatch_of_meets {spot : Spot} {sent : Value} {k : ℕ} {here : Session × Option Value}
    (h : s.Meets spot sent k here) : ∃ later, s.dispatch .request spot (some sent)
      = (here.1.react k here.2).1.reactAll (here.1.react k here.2).2 later := by
  obtain ⟨earlier, later, halong, rfl⟩ := h
  refine ⟨later, ?_⟩
  rw [dispatch, halong, reactAll_append]
  rfl

lemma exists_meets {spot : Spot} {k : ℕ}
    (h : k ∈ s.listeners.along .request (s.page.path (s.page.place spot))) (sent : Value) :
    ∃ here, s.Meets spot sent k here := by
  obtain ⟨earlier, later, halong⟩ := List.append_of_mem h
  exact ⟨_, earlier, later, halong, rfl⟩

namespace Serving

variable {c : Companion} {stamp : Token.Stamp}

/-- An event that comes by the window meets the companion's listener. -/
lemma mem_along (h : s.Serving c stamp) {path : List Place} (hwindow : .window ∈ path) :
    c.stamper ∈ s.listeners.along .request path := by
  obtain ⟨l, hl, hid, hplace, hlike⟩ := h.stamper.lives
  rw [Listeners.along, List.mem_flatMap]
  refine ⟨.window, hwindow, Listeners.mem_idsAt.mpr ⟨l, hl, ⟨hplace, ?_⟩, hid⟩⟩
  rw [hlike.kind_eq]
  rfl

lemma exists_stamp (h : s.Serving c stamp) (hs : s.Sound) :
    ∃ l st, s.listeners.find? c.stamper = some l ∧ l.reaction = .stamp st ∧
      st.writes = stamp.writes := by
  obtain ⟨l, hl, hid, -, hlike⟩ := h.stamper.lives
  -- the stamp may have warned since it was made, which does not change what it writes
  have hfind : s.listeners.find? c.stamper = some l :=
    hs.matched.find?_eq_some_iff.mpr ⟨hl, hid⟩
  cases hreaction : l.reaction with
  | stamp st =>
    rw [hreaction] at hlike
    exact ⟨l, st, hfind, hreaction, Token.Stamp.writes_congr hlike.1 hlike.2⟩
  | rescan roster =>
    rw [hreaction] at hlike
    exact Reaction.noConfusion hlike
  | copy owner input =>
    rw [hreaction] at hlike
    exact Reaction.noConfusion hlike

/-- The companion's listener writes what the stamp of the last start writes. -/
lemma writesOf_eq (h : s.Serving c stamp) (hs : s.Sound) :
    s.writesOf c.stamper = stamp.writes := by
  obtain ⟨l, st, hfind, hreaction, hwrites⟩ := h.exists_stamp hs
  simp only [writesOf, hfind, hreaction, hwrites]

/-- Of an event that holds headers, the companion's listener changes the headers by its writes. -/
lemma react (h : s.Serving c stamp) (hs : s.Sound) {event : Option Value}
    {detail headers : Object Value} (hcarries : Carries event detail headers) :
    (s.react c.stamper event).2 = some (.object (withHeaders detail
      (Token.writeAll headers (s.writesOf c.stamper)))) := by
  obtain ⟨l, st, hfind, hreaction, hwrites⟩ := h.exists_stamp hs
  rw [h.writesOf_eq hs, ← hwrites]
  simp only [Session.react, hfind, hreaction, handle_of_ok (openHeaders_of_carries hcarries),
    Token.Stamp.apply_headers]

/-- Whatever the companion's listener writes, it writes under the name of the stamp's header. -/
lemma fst_of_mem_writesOf (h : s.Serving c stamp) (hs : s.Sound) {w : String × String}
    (hw : w ∈ s.writesOf c.stamper) : w.1 = stamp.names.header := by
  rw [h.writesOf_eq hs] at hw
  exact Token.Stamp.fst_of_mem_writes hw

/-- Headers that keep what is written under the name of the stamp's header get the writes. -/
lemma react_of_kept (h : s.Serving c stamp) (hs : s.Sound) {event : Option Value}
    {detail headers : Object Value} (hcarries : Carries event detail headers)
    (hkept : headers.writing stamp.names.header = .kept) :
    (s.react c.stamper event).2 = some (.object (withHeaders detail
      ((s.writesOf c.stamper).foldl (fun o w => o.put w.1 w.2) headers))) := by
  rw [h.react hs hcarries, Token.writeAll_of_kept]
  intro w hw
  rw [h.fst_of_mem_writesOf hs hw, hkept]

/-- Other headers leave the event as it is. -/
lemma react_of_not_kept (h : s.Serving c stamp) (hs : s.Sound) {event : Option Value}
    {detail headers : Object Value} (hcarries : Carries event detail headers)
    (hlost : headers.writing stamp.names.header ≠ .kept) :
    (s.react c.stamper event).2 = event := by
  rw [h.react hs hcarries, Token.writeAll_of_not_kept, hcarries.withHeaders_self]
  intro w hw
  rwa [h.fst_of_mem_writesOf hs hw]

/-- Where an event meets a listener the companion is served as it was when the event was sent. -/
lemma of_meets (h : s.Serving c stamp) (hs : s.Sound) {spot : Spot} {sent : Value} {k : ℕ}
    {here : Session × Option Value} (hmeets : s.Meets spot sent k here) :
    here.1.Sound ∧ here.1.Serving c stamp := by
  obtain ⟨earlier, later, -, rfl⟩ := hmeets
  have hmoves := moves_reactAll hs earlier (some sent)
  exact ⟨hs.of_moves hmoves, h.of_moves hs hmoves⟩

end Serving

end Session

end PageCompanion.Live
