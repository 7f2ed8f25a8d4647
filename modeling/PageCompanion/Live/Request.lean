/-
# The headers of a request on its way

Before each request the page sends an event whose detail holds the headers that the request will
have.  A listener stamps them with the token.  `openHeaders` finds the headers in an event, or
says what is wrong with it; `handle` stamps them and never fails: an event that is not as it
should be is reported and left as it is, and so is the stamp.
-/
import PageCompanion.Fault
import PageCompanion.Script.Headers
import PageCompanion.Token.Stamp

namespace PageCompanion.Live

open Script (Kind Object Value)

/-- The name of the event before a request. -/
def requestEvent : String := "htmx:configRequest"

/-- The property of the event's detail that holds the headers. -/
def headersProperty : String := "headers"

/-- The detail of an event and the headers in it.  An event that is not a custom one has no
detail at all. -/
def openHeaders (event : Option Value) : Except PageFault (Object Value × Object Value) :=
  match event with
  | none => .error (.plainEvent requestEvent)
  | some detail =>
    match detail.asObject? with
    | none => .error .noDetail
    | some d =>
      match d.get headersProperty with
      | .error thrown => .error (.headersUnreadable thrown.debugText)
      | .ok headers =>
        match headers.asObject? with
        | none => .error .headersNotObject
        | some h => .ok (d, h)

/-- The detail of an event with these headers in it. -/
def withHeaders (detail headers : Object Value) : Object Value :=
  { detail with
    properties := Object.putProperty headersProperty (.object headers) detail.properties }

/-- The headers are none of the texts of an error. -/
theorem text?_headersProperty (o : Object Value) : o.kind.text? headersProperty = none := by
  cases hkind : o.kind with
  | error name message => simp [Kind.text?, headersProperty]
  | _ => rfl

/-- The headers are found in the detail, and nothing else of it is changed. -/
theorem find?_withHeaders (detail headers : Object Value) (name : String) :
    (withHeaders detail headers).find? name
      = if name = headersProperty then some (.object headers) else detail.find? name := by
  rw [withHeaders, Object.find?, Object.find?, Object.find?_putProperty]
  by_cases hname : name = headersProperty
  · simp [hname, text?_headersProperty]
  · simp [hname, Ne.symm hname]

/-- What is said of an event that holds no headers. -/
def requestMessage (fault : PageFault) : String :=
  s!"{requestEvent}: {(Fault.page fault).message}"

/-- Stamp the headers in an event: the stamp and the event afterwards, and what was logged. -/
def handle (stamp : Token.Stamp) (event : Option Value) :
    Token.Stamp × Option Value × List Log.Record :=
  match openHeaders event with
  | .error fault => (stamp, event, [Log.warning (requestMessage fault)])
  | .ok (detail, headers) =>
    let stamped := stamp.apply headers
    (stamped.1, some (.object (withHeaders detail stamped.2.1)), stamped.2.2)

theorem handle_of_error {stamp : Token.Stamp} {event : Option Value} {fault : PageFault}
    (h : openHeaders event = .error fault) :
    handle stamp event = (stamp, event, [Log.warning (requestMessage fault)]) := by
  simp [handle, h]

theorem handle_of_ok {stamp : Token.Stamp} {event : Option Value} {detail headers : Object Value}
    (h : openHeaders event = .ok (detail, headers)) :
    handle stamp event = ((stamp.apply headers).1,
      some (.object (withHeaders detail (stamp.apply headers).2.1)),
      (stamp.apply headers).2.2) := by
  simp [handle, h]

end PageCompanion.Live
