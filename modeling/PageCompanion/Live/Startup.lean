/-
# What a page asks for

A page overrides settings with attributes of its body, and it has cookies if it is an HTML
document.  Both are read once, when the companion is started.  A bad override is reported and
skipped, and cookies that cannot be read count as no cookies, so starting never fails.
-/
import PageCompanion.Cookie.Jar
import PageCompanion.Dom.Page
import PageCompanion.Settings

namespace PageCompanion.Live

open Cookie (Jar)
open Dom (Page)

/-- What the names of the attributes that override settings begin with. -/
def overridePrefix : String := "data-hx-assist-"

/-- The key that an attribute overrides, if it is one that overrides a setting. -/
def overrideKey? (name : String) : Option String :=
  (overridePrefix.toList.isPrefixOf? name.toList).map String.ofList

/-- The overrides on the body of a page, in the order of its attributes. -/
def readPairs (p : Page) : List (String × String) :=
  p.bodyAttributes.filterMap fun a => (overrideKey? a.1).map fun key => (key, a.2)

/-- The record of an override that is skipped. -/
def skipped (fault : SettingFault) : Log.Record :=
  Log.warning s!"{(Fault.setting fault).message}; ignored"

/-- The settings that a page asks for, and the records of the overrides that were skipped. -/
def readSettings (p : Page) : Settings × List Log.Record :=
  let read := ({} : Settings).override (readPairs p)
  (read.1, read.2.map skipped)

/-- The cookies of a page. -/
def readCookies (p : Page) : Except PageFault Jar :=
  if !p.isHtml then .error .notHtml
  else
    match p.cookie with
    | .error thrown => .error (.cookiesUnreadable thrown.describe)
    | .ok raw => .ok (Jar.parse raw)

/-- The cookies of a page, or none and a record of why they cannot be read. -/
def cookiesOrNone (p : Page) : Jar × List Log.Record :=
  match readCookies p with
  | .ok jar => (jar, [])
  | .error fault =>
    -- the page starts all the same, with the policy for a missing token
    (.empty, [Log.warning s!"{(Fault.page fault).message}; treating cookies as empty"])

end PageCompanion.Live
