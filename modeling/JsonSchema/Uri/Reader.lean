import JsonSchema.Uri.Host

/-!
# Reading addresses

An address is read against a base or without one. Parts that are left out come from the base;
dot segments are taken out of the path, characters that may not stand where they do are
percent-encoded, and a port that the scheme implies is dropped.
-/

namespace JsonSchema.Uri

/-- The text without blanks and controls at its ends and without tabs and line ends. -/
def tidy (text : String) : List Char :=
  let blank (c : Char) : Bool := c.toNat ≤ 0x20
  let trimmed := ((text.toList.dropWhile blank).reverse.dropWhile blank).reverse
  trimmed.filter fun c => c ≠ '\t' && c ≠ '\n' && c ≠ '\r'

/-- The scheme, in lower case, and the text after its colon. -/
def scheme? (cs : List Char) : Option (String × List Char) :=
  let inScheme (c : Char) : Bool := c.isAlphanum || c = '+' || c = '-' || c = '.'
  match cs.head?, cs.dropWhile inScheme with
  | some first, ':' :: rest =>
    if first.isAlpha then some (String.ofList ((cs.takeWhile inScheme).map Char.toLower), rest) else none
  | _, _ => none

/-- Whether a character ends the segment before it. -/
def isSlash (special : Bool) (c : Char) : Bool := c = '/' || (special && c = '\\')

/-! ## Query and fragment -/

/-- The query and the fragment of a text that starts with one of their marks or is empty. -/
def readTail (special : Bool) (cs : List Char) : Option String × Option String :=
  let encoded (escaped : Char → Bool) (part : List Char) := String.ofList (Percent.encode escaped part)
  let query := match cs with
    | '?' :: rest => some (encoded (escapedInQuery special) (rest.takeWhile (· ≠ '#')))
    | _ => none
  let fragment := match cs.dropWhile (· ≠ '#') with
    | '#' :: rest => some (encoded escapedInFragment rest)
    | _ => none
  (query, fragment)

/-! ## Paths -/

/-- A letter with a colon or a bar after it, the name of a drive. -/
def isDrive (segment : List Char) : Bool :=
  match segment with
  | [letter, mark] => letter.isAlpha && (mark = ':' || mark = '|')
  | _ => false

/-- A drive named with a colon. -/
def isWrittenDrive (segment : List Char) : Bool := isDrive segment && segment[1]? == some ':'

/-- The segment with encoded dots written out. -/
def plainDots : List Char → List Char
  | '%' :: '2' :: 'e' :: rest => '.' :: plainDots rest
  | '%' :: '2' :: 'E' :: rest => '.' :: plainDots rest
  | c :: rest => c :: plainDots rest
  | [] => []

/-- The segments without the last one, unless that is a drive. -/
def dropSegment (reversed : List (List Char)) : List (List Char) :=
  match reversed with
  | last :: rest => if isDrive last then reversed else rest
  | [] => []

/-- Adds a segment to those before it, latest first. A single dot adds nothing and a double dot
takes one away; as the last segment either leaves an empty one. -/
def addSegment (file final : Bool) (reversed : List (List Char)) (segment : List Char) : List (List Char) :=
  let close (reversed : List (List Char)) := if final then [] :: reversed else reversed
  if plainDots segment = ['.', '.'] then close (dropSegment reversed)
  else if plainDots segment = ['.'] then close reversed
  else if file && reversed.isEmpty && isDrive segment then [segment.headD ' ', ':'] :: reversed
  else segment :: reversed

/-- Adds the segments of a path, of which the last one is final. -/
def addSegments (file : Bool) (reversed : List (List Char)) : List (List Char) → List (List Char)
  | [] => reversed
  | [segment] => addSegment file true reversed segment
  | segment :: rest => addSegments file (addSegment file false reversed segment) rest

/-- The text of a path from its segments. A file's path has no empty segments at its start. -/
def writeSegments (file : Bool) (segments : List (List Char)) : String :=
  let segments := if file then segments.dropWhile List.isEmpty else segments
  String.ofList ('/' :: List.intercalate ['/'] segments)

/-- The segments of a path text. -/
def pathSegments (path : String) : List (List Char) :=
  match path.toList with
  | '/' :: rest => Text.splitOn '/' rest
  | _ => []

/-- The raw segments at the start of a text, up to a query or fragment. -/
def rawSegments (special : Bool) (cs : List Char) : List (List Char) :=
  Text.splitWhere (isSlash special) (cs.takeWhile fun c => c ≠ '?' && c ≠ '#')

/-- A drive in front of other characters is a segment of its own. -/
def splitDrive : List (List Char) → List (List Char)
  | (letter :: ':' :: c :: more) :: rest =>
    if letter.isAlpha then [letter, ':'] :: (c :: more) :: rest else (letter :: ':' :: c :: more) :: rest
  | segments => segments

/-- A path that continues some segments, and the text after it. The path starts after the slash
that all paths begin with. -/
def readPath (scheme : String) (before : List (List Char)) (cs : List Char) : String × List Char :=
  let file := scheme = "file"
  let raw := rawSegments (isSpecial scheme) cs
  let raw := if file && before.isEmpty then splitDrive raw else raw
  let segments := addSegments file before.reverse (raw.map (Percent.encode escapedInPath))
  (writeSegments file segments.reverse, cs.dropWhile fun c => c ≠ '?' && c ≠ '#')

/-- An address from its scheme, authority and path, and the text of query and fragment. -/
def finish (scheme : String) (authority : Option Authority) (path : String) (tail : List Char) : Uri :=
  let (query, fragment) := readTail (isSpecial scheme) tail
  { scheme, authority, path, query, fragment }

/-! ## Authorities -/

/-- User information before the last at sign of an authority, and the text after that sign. -/
def splitUser (special : Bool) (cs : List Char) : Option (List Char) × List Char :=
  let authority := cs.takeWhile fun c => !(isSlash special c || c = '?' || c = '#')
  let host := (authority.reverse.takeWhile (· ≠ '@')).reverse
  if host.length = authority.length then (none, cs)
  else
    let user := authority.take (authority.length - host.length - 1)
    (some user, cs.drop (user.length + 1))

/-- The written form of user information. An empty password goes with its colon. -/
def writeUser (user : List Char) : String :=
  let encoded (part : List Char) := Percent.encode escapedInUser part
  match user.takeWhile (· ≠ ':'), user.dropWhile (· ≠ ':') with
  | name, ':' :: [] => String.ofList (encoded name)
  | name, ':' :: password => String.ofList (encoded name ++ ':' :: encoded password)
  | name, _ => String.ofList (encoded name)

/-- The length of the host at the start of a text. A colon inside brackets belongs to it. -/
def hostLength (special inBrackets : Bool) : List Char → Nat
  | [] => 0
  | c :: rest =>
    if (c = ':' && !inBrackets) || isSlash special c || c = '?' || c = '#' then 0
    else hostLength special (if c = '[' then true else if c = ']' then false else inBrackets) rest + 1

/-- The port at the start of a text, if any digit is there. -/
def readPort (cs : List Char) : Except Fault (Option Nat × List Char) :=
  let ds := cs.takeWhile Char.isDigit
  let rest := cs.dropWhile Char.isDigit
  let ends := match rest.head? with
    | some c => c = '/' || c = '\\' || c = '?' || c = '#'
    | none => true
  let port := ds.foldl (fun n c => 10 * n + (c.toNat - '0'.toNat)) 0
  if 65535 < port || !ends then .error .port
  else .ok (if ds.isEmpty then none else some port, rest)

/-- The path after an authority. A special scheme always has one. -/
def pathAfterAuthority (scheme : String) (cs : List Char) : String × List Char :=
  match cs with
  | [] => (if isSpecial scheme then "/" else "", [])
  | c :: rest =>
    if isSlash (isSpecial scheme) c then readPath scheme [] rest
    else if (c = '?' || c = '#') && !isSpecial scheme then ("", cs)
    else readPath scheme [] cs

/-- What follows the two slashes of an authority, for any scheme but `file`. -/
def readAuthority (scheme : String) (cs : List Char) : Except Fault Uri := do
  let special := isSpecial scheme
  let (user, rest) := splitUser special cs
  if user == some [] then
    if let c :: _ := rest then
      if isSlash special c || c = '?' || c = '#' then throw .emptyHost
  let written := writeUser (user.getD [])
  let length := hostLength special false rest
  let (host, rest) := (rest.take length, rest.drop length)
  if host.isEmpty && special then throw .emptyHost
  let host ← if special then specialHost host else plainHost host
  if host.isEmpty && (rest.head? == some ':' || !written.isEmpty) then throw .emptyHost
  let (port, rest) ← match rest with
    | ':' :: rest => readPort rest
    | rest => pure (none, rest)
  let port := if port == defaultPort? scheme then none else port
  let (path, tail) := pathAfterAuthority scheme rest
  return finish scheme (some ⟨written, host, port⟩) path tail

/-! ## Files -/

/-- The authority of a file on this machine. -/
def localFile : Authority := ⟨"", "", none⟩

/-- What follows the two slashes of a file address. A drive in the place of a host starts the path,
and before a path that starts with a drive the host is left out. -/
def readFileHost (cs : List Char) : Except Fault Uri := do
  let isEnd (c : Char) : Bool := c = '/' || c = '\\' || c = '?' || c = '#'
  let name := cs.takeWhile fun c => !isEnd c
  if isDrive name then
    let (path, tail) := readPath "file" [] cs
    return finish "file" (some localFile) path tail
  let host ← if name.isEmpty then pure "" else specialHost name
  let host := if host = "localhost" then "" else host
  let (path, tail) := pathAfterAuthority "file" (cs.drop name.length)
  let host := if (pathSegments path).head?.any isWrittenDrive then "" else host
  return finish "file" (some { localFile with host }) path tail

/-- Whether a text starts with a drive that is a whole segment. -/
def startsWithDrive (cs : List Char) : Bool :=
  isDrive (cs.take 2) && match cs[2]? with
    | some c => c = '/' || c = '\\' || c = '?' || c = '#'
    | none => true

/-! ## References -/

/-- The base with another fragment. -/
def withFragment (base : Uri) (cs : List Char) : Uri :=
  { base with fragment := some (String.ofList (Percent.encode escapedInFragment cs)) }

/-- The segments that a relative path continues: all but the last one, unless that is a file's
drive. -/
def parentSegments (base : Uri) : List (List Char) :=
  let reversed := (pathSegments base.path).reverse
  match reversed with
  | last :: rest => if base.scheme = "file" && isWrittenDrive last then reversed.reverse else rest.reverse
  | [] => []

/-- A reference that starts with neither scheme nor slash, in the hierarchy of a base. -/
def readRelativePath (base : Uri) (cs : List Char) : Uri :=
  match cs with
  | [] => { base with fragment := none }
  | '#' :: rest => base.withFragment rest
  | '?' :: _ => finish base.scheme base.authority base.path cs
  | cs =>
    if base.scheme = "file" && startsWithDrive cs then
      let (path, tail) := readPath "file" [] cs
      finish "file" (some localFile) path tail
    else
      let (path, tail) := readPath base.scheme base.parentSegments cs
      finish base.scheme base.authority path tail

/-- A file address after its scheme, or a reference to one. -/
def readFile (base : Option Uri) (cs : List Char) : Except Fault Uri :=
  let slash := isSlash true
  match cs with
  | c :: rest =>
    if slash c then
      if rest.head?.any slash then readFileHost (rest.drop 1)
      else
        let (host, before) := match base with
          | some base =>
            let first := (pathSegments base.path).headD []
            if startsWithDrive rest then ("", [])
            else if isWrittenDrive first then ("", [first])
            else (base.authority.elim "" Authority.host, [])
          | none => ("", [])
        let (path, tail) := readPath "file" before rest
        .ok (finish "file" (some { localFile with host }) path tail)
    else match base with
      | some base => .ok (base.readRelativePath cs)
      | none =>
        let (path, tail) := readPath "file" [] cs
        .ok (finish "file" (some localFile) path tail)
  | [] =>
    match base with
    | some base => .ok (base.readRelativePath [])
    | none => .ok (finish "file" (some localFile) "/" [])

/-- A reference without scheme against a base that is neither opaque nor a file. -/
def readRelative (base : Uri) (cs : List Char) : Except Fault Uri :=
  match cs with
  | c :: rest =>
    if c = '/' || c = '\\' then
      let slashes := cs.takeWhile fun c => c = '/' || c = '\\'
      if 2 ≤ slashes.length then
        let dropped := if slashes.take 2 = ['/', '/'] then 2 else slashes.length
        readAuthority base.scheme (cs.drop dropped)
      else
        let (path, tail) := readPath base.scheme [] rest
        .ok (finish base.scheme base.authority path tail)
    else .ok (base.readRelativePath cs)
  | [] => .ok (base.readRelativePath [])

/-- What follows a scheme without fixed syntax. -/
def readOther (scheme : String) (cs : List Char) : Except Fault Uri :=
  match cs with
  | '/' :: '/' :: rest => readAuthority scheme rest
  | '/' :: rest =>
    let (path, tail) := readPath scheme [] rest
    .ok (finish scheme none path tail)
  | cs =>
    let isEnd (c : Char) : Bool := c = '?' || c = '#'
    let path := Percent.encode escapedControl (cs.takeWhile fun c => !isEnd c)
    .ok (finish scheme none (String.ofList path) (cs.dropWhile fun c => !isEnd c))

/-- What follows a scheme. -/
def readAfterScheme (base : Option Uri) (scheme : String) (cs : List Char) : Except Fault Uri :=
  let sameScheme := base.filter fun base => base.scheme = scheme
  if scheme = "file" then readFile sameScheme cs
  else if isSpecial scheme then
    let slashes := cs.takeWhile (isSlash true)
    match sameScheme with
    | some base =>
      if slashes.length < 2 then readRelative base cs else readAuthority scheme (cs.drop slashes.length)
    | none => readAuthority scheme (cs.drop slashes.length)
  else readOther scheme cs

/-- Reads a text against an optional base. -/
def read (base : Option Uri) (text : String) : Except Fault Uri :=
  let cs := tidy text
  match scheme? cs with
  | some (scheme, rest) => readAfterScheme base scheme rest
  | none =>
    match base with
    | none => .error .missingBase
    | some base =>
      match cs with
      | '#' :: rest => .ok (base.withFragment rest)
      | cs =>
        if base.isOpaque then .error .opaqueBase
        else if base.scheme = "file" then readFile (some base) cs
        else readRelative base cs

/-- The address of a text that stands on its own. -/
def parse (text : String) : Except Fault Uri := read none text

/-- The address that a text denotes where `base` is the address of the place it stands in. -/
def join (base : Uri) (text : String) : Except Fault Uri := read (some base) text

/-- The address of documents that declare none. -/
def default : Uri := ⟨"json-schema", some ⟨"", "", none⟩, "/", none, none⟩

end JsonSchema.Uri
