import JsonSchema.Format.Timestamp
import JsonSchema.Pattern.Reader
import JsonSchema.Json.Basic
import JsonSchema.Uri.Reader

/-!
# Formats

A format rule judges a value by the schema fragment that names the format and the value itself.
The standard rules constrain strings only. A format that no rule is registered for constrains
nothing.
-/

namespace JsonSchema

/-- Whether a value meets a format, given the fragment that asks for it. -/
abbrev FormatRule := Json → Json → Bool

/-- Format rules by name. -/
structure Formats where
  rules : List (String × FormatRule)

namespace Formats

/-! ## The standard rules -/

/-- A rule for strings that any other value passes. -/
def onStrings (check : String → Bool) : FormatRule := fun _ value =>
  match value with
  | .str text => check text
  | _ => true

/-- Text, an at sign and text, without white space and further at signs. -/
def isEmail (text : String) : Bool :=
  let cs := text.toList
  let blank := (Unicode.property? "whitespace").getD .empty
  match cs.dropWhile (· ≠ '@') with
  | '@' :: domain =>
    cs.head? ≠ some '@' && !domain.isEmpty && !domain.contains '@' && !cs.any blank.contains
  | _ => false

/-- Groups of 8, 4, 4, 4 and 12 hexadecimal digits between hyphens. -/
def isUuid (text : String) : Bool :=
  let groups := Text.splitOn '-' text.toList
  groups.map List.length == [8, 4, 4, 4, 12] && groups.all fun group => group.all fun c => (Uri.digitIn? 16 c).isSome

/-- Four decimal bytes without superfluous zeros. -/
def isIpv4 (text : String) : Bool := (Uri.dottedPieces? text.toList).isSome

/-- The number of 16-bit groups written between colons; the last two may be an IPv4 address if
`dotted` allows that. -/
def groupCount? (dotted : Bool) (cs : List Char) : Option Nat :=
  if cs.isEmpty then some 0
  else
    let groups := Text.splitOn ':' cs
    let isGroup (g : List Char) : Bool := !g.isEmpty && g.length ≤ 4 && g.all fun c => (Uri.digitIn? 16 c).isSome
    if groups.all isGroup then some groups.length
    else if dotted && groups.dropLast.all isGroup && ((groups.getLast?.bind Uri.dottedPieces?).isSome) then
      some (groups.length + 1)
    else none

/-- The parts of a text before and after its first double colon. -/
def splitDoubleColon : List Char → Option (List Char × List Char)
  | ':' :: ':' :: rest => some ([], rest)
  | c :: rest => (splitDoubleColon rest).map fun (before, after) => (c :: before, after)
  | [] => none

/-- Eight groups, or fewer with a double colon in the place of the others. -/
def isIpv6 (text : String) : Bool :=
  match splitDoubleColon text.toList with
  | none => groupCount? true text.toList == some 8
  | some (before, after) =>
    match groupCount? false before, groupCount? true after with
    | some m, some n => m + n ≤ 7
    | _, _ => false

/-! ## Registries -/

def empty : Formats := ⟨[]⟩

/-- The rules of the standard formats. -/
def standard : Formats := ⟨[
  ("date-time", onStrings Timestamp.isTimestamp),
  ("date", onStrings Timestamp.isDate),
  ("time", onStrings Timestamp.isTime),
  ("email", onStrings isEmail),
  ("uuid", onStrings isUuid),
  ("uri", onStrings fun text => (Uri.parse text).toBool),
  ("ipv4", onStrings isIpv4),
  ("ipv6", onStrings isIpv6),
  ("regex", onStrings fun text => (Regex.compile text).toBool)]⟩

/-- Registers a rule, in the place of an earlier one of the same name. -/
def register (formats : Formats) (name : String) (rule : FormatRule) : Formats :=
  ⟨(name, rule) :: formats.rules.filter fun entry => entry.1 != name⟩

def rule? (formats : Formats) (name : String) : Option FormatRule := formats.rules.lookup name

/-- The names, in order of their code points. -/
def names (formats : Formats) : List String := (formats.rules.map Prod.fst).mergeSort (· ≤ ·)

end Formats
end JsonSchema
