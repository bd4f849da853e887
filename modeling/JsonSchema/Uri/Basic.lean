import JsonSchema.Text.Encoding

/-!
# Addresses

An address is kept in its parts, each already in the form in which it is written. Two addresses
are equal when their texts are. An address without authority whose path does not start with a
slash is opaque: it has no hierarchy to resolve references in.
-/

namespace JsonSchema

/-- Who serves a resource: user information, host and port. The host is empty where the address
has the two slashes of an authority and nothing after them. -/
structure Authority where
  /-- The user, and after a colon the password, if there is either. -/
  user : String
  host : String
  port : Option Nat
deriving DecidableEq, Repr

structure Uri where
  scheme : String
  authority : Option Authority
  path : String
  query : Option String
  fragment : Option String
deriving DecidableEq, Repr

namespace Uri

/-- Why a text is no address. -/
inductive Fault where
  | emptyHost
  | port
  | ipv4
  | ipv6
  | internationalName
  | hostCharacter
  | opaqueBase
  | missingBase
deriving DecidableEq, Repr

def Fault.message : Fault → String
  | .emptyHost => "empty host"
  | .port => "invalid port number"
  | .ipv4 => "invalid IPv4 address"
  | .ipv6 => "invalid IPv6 address"
  | .internationalName => "invalid international domain name"
  | .hostCharacter => "invalid domain character"
  | .opaqueBase => "relative URL with a cannot-be-a-base base"
  | .missingBase => "relative URL without a base"

/-- Whether the address has no hierarchy. -/
def isOpaque (uri : Uri) : Bool := uri.authority.isNone && uri.path.toList.head? != some '/'

/-- The authority with its two slashes. -/
def authorityText (uri : Uri) : String :=
  match uri.authority with
  | some authority =>
    let user := if authority.user.isEmpty then "" else authority.user ++ "@"
    let port := match authority.port with
      | some port => ":" ++ toString port
      | none => ""
    "//" ++ user ++ authority.host ++ port
  | none => ""

/-- The path as written. Without authority a path that starts with two slashes has `/.` before
it, so that it does not read as an authority. -/
def pathText (uri : Uri) : String :=
  match uri.authority, uri.path.toList with
  | none, '/' :: '/' :: _ => "/." ++ uri.path
  | _, _ => uri.path

/-- The text without the fragment. -/
def resourceText (uri : Uri) : String :=
  let query := match uri.query with
    | some query => "?" ++ query
    | none => ""
  uri.scheme ++ ":" ++ uri.authorityText ++ uri.pathText ++ query

/-- The text. -/
def text (uri : Uri) : String :=
  match uri.fragment with
  | some fragment => uri.resourceText ++ "#" ++ fragment
  | none => uri.resourceText

/-- The address of the resource a fragment lies in. Blanks at the end of an opaque path go with
the fragment they stood before. -/
def withoutFragment (uri : Uri) : Uri :=
  let path :=
    if uri.isOpaque && uri.query.isNone then
      String.ofList (uri.path.toList.reverse.dropWhile (· == ' ')).reverse
    else uri.path
  { uri with path, fragment := none }

/-- The schemes with a fixed syntax and, but for files, a usual port. -/
def specialPorts : List (String × Option Nat) :=
  [("http", some 80), ("https", some 443), ("ws", some 80), ("wss", some 443), ("ftp", some 21), ("file", none)]

/-- Whether a scheme has the fixed syntax. -/
def isSpecial (scheme : String) : Bool := (specialPorts.lookup scheme).isSome

/-- The port that need not be written. -/
def defaultPort? (scheme : String) : Option Nat := (specialPorts.lookup scheme).join

/-! ## Escaping -/

/-- Controls and everything outside ASCII. -/
def escapedControl (c : Char) : Bool := c.toNat < 0x20 || 0x7F ≤ c.toNat

/-- What is escaped in a fragment. -/
def escapedInFragment (c : Char) : Bool := escapedControl c || [' ', '"', '<', '>', '\x60'].contains c

/-- What is escaped in a path. -/
def escapedInPath (c : Char) : Bool := escapedInFragment c || ['#', '?', '\x7b', '\x7d'].contains c

/-- What is escaped in a user name or password. -/
def escapedInUser (c : Char) : Bool :=
  escapedInPath c || ['/', ':', ';', '=', '@', '[', '\\', ']', '^', '|'].contains c

/-- What is escaped in a query; special schemes also escape the apostrophe. -/
def escapedInQuery (special : Bool) (c : Char) : Bool :=
  escapedControl c || [' ', '"', '#', '<', '>'].contains c || (special && c == '\'')

end Uri
end JsonSchema
