/-
# The preview and the page agree

A page mirrors an invocation when its cookies are the text that the invocation reads, and the
attributes of its body ask for what the invocation states.  The two read their settings in
different ways, and only one of them cuts blanks off the text; still the last line of the run
says exactly what the companion of the page writes on every request.
-/
import PageCompanion.Proofs.Live.Requests
import PageCompanion.Proofs.Preview.Reading

namespace PageCompanion.Preview

open Cookie (Jar)
open Dom (Page Spot)
open Live (Carries Session cookiesOrNone overrideKey? overridePrefix readPairs readSettings
  withHeaders)
open Script (Object Value)
open Text (trim)

/-- An attribute overrides a setting when its name begins like this. -/
def IsOverride (a : String × String) : Bool :=
  "data-hx-assist-".toList.isPrefixOf a.1.toList

/-- The attributes that ask for what an invocation states. -/
def mirrored (i : Invocation) : List (String × String) :=
  [("data-hx-assist-csrf-cookie", i.cookieName), ("data-hx-assist-csrf-header", i.headerName)]
    ++ if i.omitMissing then [("data-hx-assist-csrf-missing", "omit")] else []

/-- A page whose cookies are a text, and whose body has the attributes that ask for what an
invocation states, in any order, and no other attribute that overrides a setting. -/
structure Mirrors (p : Page) (i : Invocation) (raw : String) : Prop where
  isHtml : p.isHtml = true
  body : p.body?.isSome
  cookie : p.cookie = .ok raw
  attributes : (p.bodyAttributes.filter IsOverride).Perm (mirrored i)

/-! ## What the page reads -/

/-- Only the attributes that override a setting are read. -/
lemma readPairs_eq (p : Page) : readPairs p = (p.bodyAttributes.filter IsOverride).filterMap
    fun a => (overrideKey? a.1).map fun key => (key, a.2) := by
  rw [readPairs, List.filterMap_filter]
  refine List.filterMap_congr fun a _ => ?_
  by_cases ha : IsOverride a = true
  · rw [if_pos ha]
  · rw [if_neg ha]
    have hnone : (overrideKey? a.1).isSome = false := by
      rw [overrideKey?, Option.isSome_map, List.isSome_isPrefixOf?_eq_isPrefixOf]
      exact Bool.eq_false_iff.mpr ha
    rw [Option.isSome_eq_false_iff, Option.isNone_iff_eq_none] at hnone
    rw [hnone, Option.map_none]

lemma filterMap_mirrored (i : Invocation) : (mirrored i).filterMap
    (fun a => (overrideKey? a.1).map fun key => (key, a.2)) = i.overrides := by
  have hcookie : overrideKey? "data-hx-assist-csrf-cookie" = some Key.cookie.name := by
    decide +kernel
  have hheader : overrideKey? "data-hx-assist-csrf-header" = some Key.header.name := by
    decide +kernel
  have hmissing : overrideKey? "data-hx-assist-csrf-missing" = some Key.missing.name := by
    decide +kernel
  rw [mirrored, Invocation.overrides]
  cases i.omitMissing <;> simp [hcookie, hheader, hmissing, Token.Policy.name]

namespace Mirrors

variable {p : Page} {i : Invocation} {raw : String}

/-- The page has the names of the invocation, if the invocation's are valid. -/
lemma token_readSettings (h : Mirrors p i raw) {settings : Settings}
    (hsettings : i.settings = .ok settings) : (readSettings p).1.token = i.names := by
  obtain ⟨s, hs, -⟩ := exists_ofPairs_of_settings hsettings
  -- the page reads the overrides of the invocation, in the order of its attributes
  have hperm : (readPairs p).Perm i.overrides := by
    rw [readPairs_eq, ← filterMap_mirrored i]
    exact h.attributes.filterMap _
  have hread : (readSettings p).1 = s :=
    Settings.override_perm_of_ofPairs hs hperm (nodup_keys_overrides i)
  rw [hread, token_of_ofPairs hs]

lemma jar_cookiesOrNone (h : Mirrors p i raw) : (cookiesOrNone p).1 = Jar.parse raw := by
  simp [cookiesOrNone, Live.readCookies, h.isHtml, h.cookie]

end Mirrors

/-! ## The agreement -/

/-- A session whose page mirrors an invocation starts with the stamp that the invocation's run
is about. -/
lemma freshStamp_of_mirrors {s : Session} {i : Invocation} {raw : String} {settings : Settings}
    (h : Mirrors s.page i raw) (hsettings : i.settings = .ok settings) :
    s.freshStamp = (Token.Stamp.make (Jar.parse raw) settings.token).1 := by
  rw [Session.freshStamp, h.jar_cookiesOrNone, h.token_readSettings hsettings,
    token_of_settings hsettings]

/-- The last line of a run tells what a stamp writes: the one that a session on a page which mirrors
the invocation starts with. -/
lemma lastLine_iff_writes {s : Session} {i : Invocation} {w : Workspace} {raw : String}
    (hreads : i.Reads w raw) (hexit : (i.run w).exit = 0) (hpage : Mirrors s.page i raw) :
    s.freshStamp.names.header = trim i.headerName ∧
      (∀ value, (i.run w).lines.getLast? = some (valueLine (trim i.headerName) value) ↔
        s.freshStamp.writes = [(trim i.headerName, value)]) ∧
      ((i.run w).lines.getLast? = some (omissionNote (trim i.headerName) (trim i.cookieName)) ↔
        s.freshStamp.writes = []) := by
  obtain ⟨settings, hsettings, hlast⟩ := getLast?_lines hreads hexit
  rw [← freshStamp_of_mirrors hpage hsettings] at hlast
  have hnames : s.freshStamp.names = i.names := by
    rw [freshStamp_of_mirrors hpage hsettings, ← token_of_settings hsettings]
    rfl
  have hheader : trim i.headerName = s.freshStamp.names.header := by rw [hnames, Invocation.names]
  have hcookie : trim i.cookieName = s.freshStamp.names.cookie := by rw [hnames, Invocation.names]
  refine ⟨hheader.symm, fun value => ?_, ?_⟩
  · rw [hlast, Option.some_inj, hheader, headerLine_eq_value_iff,
      Token.Stamp.writes_eq_singleton_iff]
  · rw [hlast, Option.some_inj, hheader, hcookie, headerLine_eq_note_iff,
      Token.Stamp.writes_eq_nil_iff]

/-- **The last line of a run says what the companion writes.**  Take an invocation that reads a
text and succeeds, and a page that mirrors it when the companion is started, whatever happened
before and whatever happens until the next start.  Every event before a request that comes by the
window meets the companion's listener.  If the event holds headers, then the last line of the run
shows a value exactly when the listener writes this value under the name of the header, and is the
note exactly when it writes nothing.  Headers that can be written to under that name, as ordinary
ones can under every name but `__proto__`, get what is written, and nothing else of the event is
changed; other headers leave the event as it was. -/
theorem preview_agrees (p : Page) (before after : List Session.Step) (i : Invocation)
    (w : Workspace) (raw : String) (hafter : .start ∉ after) (hreads : i.Reads w raw)
    (hexit : (i.run w).exit = 0) (hpage : Mirrors ((Session.onPage p).steps before).page i raw) :
    let s := (Session.onPage p).steps (before ++ .start :: after)
    let header := trim i.headerName
    ∃ c, s.companion = some c ∧
      (∀ spot sent, .window ∈ s.page.path (s.page.place spot) →
        ∃ here, s.Meets spot sent c.stamper here) ∧
      ∀ spot sent here detail headers, s.Meets spot sent c.stamper here →
        Carries here.2 detail headers →
        let writes := here.1.writesOf c.stamper
        let left := (here.1.react c.stamper here.2).2
        (∀ value, (i.run w).lines.getLast? = some (valueLine header value) ↔
          writes = [(header, value)]) ∧
        ((i.run w).lines.getLast? = some (omissionNote header (trim i.cookieName)) ↔
          writes = []) ∧
        (headers.writing header = .kept → left = some (.object
          (withHeaders detail (writes.foldl (fun o w => o.put w.1 w.2) headers)))) ∧
        (headers.writing header ≠ .kept → left = here.2) := by
  intro s header
  obtain ⟨u, hu⟩ : ∃ u, u = (Session.onPage p).steps before := ⟨_, rfl⟩
  rw [← hu] at hpage
  obtain ⟨hheader, hvalue, hnote⟩ := lastLine_iff_writes hreads hexit hpage
  -- the companion that the start leaves serves until the end of the run
  have hstarted : u.start.Sound := (hu ▸ Session.sound_steps p before : u.Sound).start
  have hrun : s = u.start.steps after := by
    rw [hu]
    exact Session.steps_append _ before _
  have hs : s.Sound := hrun ▸ hstarted.steps after
  obtain ⟨c, hserves⟩ := Session.Serving.exists_of_start (hu ▸ Session.sound_steps p before)
  have hserving : s.Serving c u.freshStamp := hrun ▸ hserves.steps hstarted hafter
  refine ⟨c, hserving.companion_eq, fun spot sent hwindow => ?_, ?_⟩
  · exact Session.exists_meets (hserving.mem_along hwindow) sent
  · intro spot sent here detail headers hmeets hcarries writes left
    obtain ⟨hhere, hserved⟩ := hserving.of_meets hs hmeets
    have hwrites : writes = u.freshStamp.writes := hserved.writesOf_eq hhere
    rw [hwrites]
    refine ⟨hvalue, hnote, fun hkept => ?_, fun hlost => ?_⟩
    · rw [← hwrites]
      exact hserved.react_of_kept hhere hcarries (by rwa [hheader])
    · exact hserved.react_of_not_kept hhere hcarries (by rwa [hheader])

/-- A page whose attributes come in another order, whose token has an escape, and whose cookies
are gone when a request is sent: the companion writes what the preview of its cookies at the
start shows. -/
theorem preview_agrees_of_lost_cookies :
    let raw := "theme=dark; xsrf=a%20b"
    let i : Invocation :=
      { cookie := some raw, cookieName := " xsrf", headerName := "X-XSRF", omitMissing := true }
    let before : List Session.Step := [.change (.cookie (.ok raw)), .change (.body (some
      [("lang", "en"), ("data-hx-assist-csrf-missing", "omit"),
        ("data-hx-assist-csrf-header", "X-XSRF"), ("data-hx-assist-csrf-cookie", " xsrf")]))]
    let after : List Session.Step := [.change (.cookie (.ok "")), .tick]
    let s := (Session.onPage {}).steps (before ++ .start :: after)
    let sent : Value := .object { properties := [("headers", .object {})] }
    .start ∉ after ∧ i.Reads {} raw ∧ (i.run {}).exit = 0 ∧
      Mirrors ((Session.onPage {}).steps before).page i raw ∧
      (i.run {}).lines.getLast? = some (valueLine "X-XSRF" "a b") ∧
      ∃ c here, s.companion = some c ∧ s.Meets .body sent c.stamper here ∧
        here.1.writesOf c.stamper = [("X-XSRF", "a b")] := by
  intro raw i before after s sent
  have hafter : .start ∉ after := by simp [after]
  have hreads : i.Reads {} raw := Or.inl rfl
  have hexit : (i.run {}).exit = 0 := by decide +kernel
  have hpage : Mirrors ((Session.onPage {}).steps before).page i raw :=
    ⟨by decide +kernel, by decide +kernel, rfl, by decide +kernel⟩
  have hline : (i.run {}).lines.getLast? = some (valueLine "X-XSRF" "a b") := by
    decide +kernel
  have hheader : trim i.headerName = "X-XSRF" := by decide +kernel
  obtain ⟨c, hc, hmeets, hwrites⟩ :=
    preview_agrees {} before after i {} raw hafter hreads hexit hpage
  obtain ⟨here, hhere⟩ := hmeets .body sent (by decide +kernel)
  -- nothing else listens to requests, so the companion's listener finds the event as it was sent
  have hsent : here.2 = some sent := by
    obtain ⟨earlier, later, halong, rfl⟩ := hhere
    have hone : s.listeners.along .request (s.page.path (s.page.place .body)) = [0] := by
      decide +kernel
    have hearlier : earlier = [] := by
      rw [hone] at halong
      cases earlier with
      | nil => rfl
      | cons k ks => simp at halong
    rw [hearlier]
    rfl
  have hcarries : Carries here.2 { properties := [("headers", .object {})] } {} :=
    ⟨hsent, rfl, rfl, rfl⟩
  have hvalue := (hwrites .body sent here _ _ hhere hcarries).1 "a b"
  rw [hheader] at hvalue
  exact ⟨hafter, hreads, hexit, hpage, hline, c, here, hc, hhere, hvalue.mp hline⟩

end PageCompanion.Preview
