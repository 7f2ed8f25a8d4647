/-
# Invocations

The command line previews the header that a page would send.  An invocation is what one run of
it was asked to do.  `Item` is the things that can stand on a command line, `UsageFault` is what
can be wrong with one, and `helpText` is what the command says of itself.
-/
import PageCompanion.Text.Pieces
import PageCompanion.Text.Plain
import PageCompanion.Token.Policy

namespace PageCompanion.Preview

/-- The things that can be given on a command line. -/
inductive Item where
  | cookie
  | file
  /-- The name of the cookie that holds the token. -/
  | cookieName
  /-- The name of the header that carries the token. -/
  | headerName
  /-- Leave the header out when there is no token. -/
  | omitMissing
  /-- List the cookies as well. -/
  | dump
  /-- Log what is done. -/
  | verbose
  /-- Say how the command is used. -/
  | help
  /-- Say which version this is. -/
  | version
deriving DecidableEq, Repr

namespace Item

/-- How a message refers to an item. -/
def shown : Item → String
  | cookie => "[COOKIE]"
  | file => "--file <FILE>"
  | cookieName => "--cookie-name <COOKIE_NAME>"
  | headerName => "--header-name <HEADER_NAME>"
  | omitMissing => "--omit-missing"
  | dump => "--dump"
  | verbose => "--verbose"
  | help => "--help"
  | version => "--version"

/-- The item has a value; the others are flags. -/
def takesValue : Item → Bool
  | cookie | file | cookieName | headerName => true
  | _ => false

/-- The item that a long option names. -/
def ofLong? : String → Option Item
  | "file" => some file
  | "cookie-name" => some cookieName
  | "header-name" => some headerName
  | "omit-missing" => some omitMissing
  | "dump" => some dump
  | "verbose" => some verbose
  | "help" => some help
  | "version" => some version
  | _ => none

/-- The item that a short option names. -/
def ofShort? : Char → Option Item
  | 'f' => some file
  | 'v' => some verbose
  | 'h' => some help
  | 'V' => some version
  | _ => none

end Item

/-- What can be wrong with a command line. -/
inductive UsageFault where
  /-- There is no such option, or no room for another cookie string. -/
  | unexpectedArgument (argument : String)
  | valueRequired (item : Item)
  | repeated (item : Item)
  | unexpectedValue (value : String) (flag : Item)
  | conflict (first second : Item)
deriving DecidableEq, Repr

namespace UsageFault

/-- What is wrong with the command line, in words.  What is quoted from the command line is
highlighted on a terminal, so that a control sequence in it ends where the quotation does. -/
def message : UsageFault → String
  | unexpectedArgument argument => s!"error: unexpected argument '{Text.plain argument}' found"
  | valueRequired item => s!"error: a value is required for '{item.shown}' but none was supplied"
  | repeated item => s!"error: the argument '{item.shown}' cannot be used multiple times"
  | unexpectedValue value flag =>
    s!"error: unexpected value '{Text.plain value}' for '{flag.shown}' found; no more were " ++
      "expected"
  | conflict first second =>
    s!"error: the argument '{first.shown}' cannot be used with '{second.shown}'"

/-- A line without the carriage return at its end. -/
def withoutReturn (line : List Char) : List Char :=
  if line.getLast? = some '\r' then line.dropLast else line

/-- The first line of the message; a quoted argument may hold line breaks. -/
def firstLine (f : UsageFault) : String :=
  String.ofList (withoutReturn (Text.firstCut '\n' f.message.toList).1)

end UsageFault

/-- What a run of the command is asked to do. -/
structure Invocation where
  /-- The cookie string, when it stands on the command line. -/
  cookie : Option String := none
  file : Option String := none
  cookieName : String := Token.defaultCookie
  headerName : String := Token.defaultHeader
  omitMissing : Bool := false
  dump : Bool := false
  verbose : Bool := false
deriving DecidableEq, Repr, Inhabited

/-- The lines that say how the command is used. -/
def helpText : List String :=
  [ "Preview the CSRF header injected into htmx requests",
    "",
    "Usage: hx-header [OPTIONS] [COOKIE]",
    "",
    "Arguments:",
    "  [COOKIE]  Raw cookie string, e.g. \"theme=dark; _csrf=abc\". Read from stdin if absent",
    "",
    "Options:",
    "  -f, --file <FILE>                Read the cookie string from a file instead",
    "      --cookie-name <COOKIE_NAME>  Cookie holding the token [default: _csrf]",
    "      --header-name <HEADER_NAME>  Header to set [default: X-CSRF-Token]",
    "      --omit-missing               Omit the header when the cookie is missing instead of " ++
      "sending it empty",
    "      --dump                       Print every parsed cookie as well",
    "  -v, --verbose                    Enable debug logging",
    "  -h, --help                       Print help",
    "  -V, --version                    Print version" ]

end PageCompanion.Preview
