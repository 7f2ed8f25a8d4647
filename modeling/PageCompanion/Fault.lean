/-
# Faults

Everything that can go wrong, as causes.  There are five kinds: the clipboard is not there, the
clipboard refused, the page is not as it should be, a setting is not valid, or a source of
cookies cannot be read.  Each kind but the first has its own type of causes, one of which
passes on a text that came from outside.  `message` is the one place that words them.

A missing token cookie is no fault; what is sent then is a setting.
-/
namespace PageCompanion

/-- Why a clipboard refused a write. -/
inductive ClipboardFault where
  /-- The platform gave this reason. -/
  | reported (reason : String)
  /-- The platform's write operation answered with something that cannot be waited for. -/
  | noPromise
deriving DecidableEq, Repr

/-- What is wrong with a page or with an event on it. -/
inductive PageFault where
  /-- The page gave this reason. -/
  | reported (reason : String)
  /-- The document has no cookies because it is not an HTML document. -/
  | notHtml
  /-- Reading the document's cookies ended in an exception. -/
  | cookiesUnreadable (reason : String)
  /-- An event of this name carries no detail because it is not a custom event. -/
  | plainEvent (name : String)
  | noDetail
  /-- Reading the headers of a request ended in an exception. -/
  | headersUnreadable (reason : String)
  | headersNotObject
  | badSelector (selector reason : String)
deriving DecidableEq, Repr

inductive SettingFault where
  /-- The settings' user gave this reason. -/
  | reported (reason : String)
  | unknownKey (key : String)
  /-- The setting needs a text. -/
  | empty (key : String)
  /-- The setting needs the name of a policy. -/
  | noPolicy (key value : String)
  /-- The setting needs the name of a log level. -/
  | noLevel (key value : String)
deriving DecidableEq, Repr

/-- Why a source of cookies cannot be read. -/
inductive SourceFault where
  /-- The system gave this reason. -/
  | reported (reason : String)
  | notFound
  | notDirectory
  | isDirectory
  | nameTooLong
  | notText
deriving DecidableEq, Repr

/-- Anything that can go wrong. -/
inductive Fault where
  /-- The platform has no clipboard that can be written to. -/
  | clipboardUnavailable
  | clipboardRejected (cause : ClipboardFault)
  /-- A look-up or a call on the page failed. -/
  | page (cause : PageFault)
  | setting (cause : SettingFault)
  | source (cause : SourceFault)
deriving DecidableEq, Repr

/-- The reason for a refused write, in words. -/
def ClipboardFault.message : ClipboardFault → String
  | reported reason => reason
  | noPromise => "writeText did not return a promise"

def PageFault.message : PageFault → String
  | reported reason => reason
  | notHtml => "document is not an HTML document"
  | cookiesUnreadable reason => s!"document.cookie: {reason}"
  | plainEvent name => s!"{name} is not a CustomEvent"
  | noDetail => "event has no detail"
  | headersUnreadable reason => s!"detail.headers: {reason}"
  | headersNotObject => "detail.headers is not an object"
  | badSelector selector reason => s!"bad selector '{selector}': {reason}"

def SettingFault.message : SettingFault → String
  | reported reason => reason
  | unknownKey key => s!"unknown key '{key}'"
  | empty key => s!"{key} must not be empty"
  | noPolicy key value => s!"{key}: expected 'empty' or 'omit', got '{value}'"
  | noLevel key value => s!"{key}: unknown level '{value}'"

def SourceFault.message : SourceFault → String
  | reported reason => reason
  | notFound => "No such file or directory (os error 2)"
  | notDirectory => "Not a directory (os error 20)"
  | isDirectory => "Is a directory (os error 21)"
  | nameTooLong => "File name too long (os error 36)"
  | notText => "stream did not contain valid UTF-8"

def Fault.message : Fault → String
  | clipboardUnavailable => "clipboard is unavailable in this context"
  | clipboardRejected cause => s!"clipboard write rejected: {cause.message}"
  | page cause => s!"dom error: {cause.message}"
  | setting cause => s!"invalid configuration: {cause.message}"
  | source cause => cause.message

end PageCompanion
