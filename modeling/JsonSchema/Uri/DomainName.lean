import JsonSchema.Text.Encoding
import JsonSchema.Unicode.Category
import JsonSchema.Unicode.Direction
import JsonSchema.Unicode.Mapping
import JsonSchema.Unicode.Normalization
import JsonSchema.Uri.Punycode

/-!
# Domain names

A domain name is written in ASCII and lower case. Characters that are only other ways to write a
text are replaced, and the text is composed. A label that then holds characters outside ASCII is
written in its encoded form, marked by `xn--`; a label that is marked already has to be the encoded
form of the label it stands for. Where a name holds text that runs from right to left, every label
has to run in one direction.
-/

namespace JsonSchema.DomainName

/-- The text of some bytes, if they are well-formed UTF-8. -/
def decode? (bytes : List Nat) : Option (List Char) :=
  let text := Utf8.decodeLossy bytes
  if Utf8.encode text = bytes then some text else none

def isAscii (c : Char) : Bool := c.toNat < 0x80

/-! ## Characters -/

/-- Characters that are left out of a domain name: hyphens and joiners that are not seen, and
selectors of variants. -/
def invisible : CharSet :=
  CharSet.ofTable "AD 34F 180B-180D 180F 200B 2060 2064 FE00-FE0F FEFF 1BCA0-1BCA3 E0100-E01EF"

/-- A character as it stands in a domain name. -/
def mapChar (c : Char) : List Char :=
  if isAscii c then [c.toLower]
  else if invisible.contains c then []
  else match Unicode.mapping.lookup c.toNat with
    | some codes => codes.map Char.ofNat
    | none => [c]

/-- A text as it stands in a domain name. -/
def mapText (text : List Char) : List Char :=
  let mapped := text.flatMap mapChar
  if mapped.all isAscii then mapped else Unicode.compose mapped

/-- Characters outside ASCII that a domain name may hold: letters, marks, numbers, punctuation and
symbols, but for some that are not seen or would be taken for others, and the two joiners. -/
def usable : CharSet :=
  ((CharSet.unions (['L', 'M', 'N', 'P', 'S'].map Unicode.categoryGroup)).difference
    (.ofTable
      "4C0 10A0-10C5 115F-1160 17B4-17B5 1806 2024-2026 2132 2183 2488-249B 2FF0-2FFB 3164 33C2
       33C7 33D8 FE12 FE19 FE30 FE52 FFA0 FFFC-FFFD 1F100 2F868 2F874 2F91F 2F95F 2F9BF")).union
    (.ofTable "200C-200D 2EBF0-2EE5D")

/-- Characters that no domain name may hold. -/
def isDenied (c : Char) : Bool :=
  if isAscii c then
    c.toNat ≤ 0x20 || c.toNat = 0x7F ||
      ['%', '#', '/', ':', '<', '>', '?', '@', '[', '\\', ']', '^', '|'].contains c
  else !usable.contains c

/-! ## Labels -/

/-- Whether a label begins with a mark, which would belong to the character before it. -/
def startsWithMark (label : List Char) : Bool := label.head?.any (Unicode.categoryGroup 'M').contains

/-- Whether the joiners of a label are seen there: after a sign that takes away a vowel, or, where
they keep letters apart, between letters that would join. `before` is what precedes, reversed. -/
def joinersFit (before : List Char) : List Char → Bool
  | [] => true
  | c :: rest =>
    let afterVirama := before.head?.any fun c => Unicode.combiningClass c.toNat = Unicode.virama
    let next (text : List Char) := (text.dropWhile Unicode.transparent.contains).head?
    let between :=
      (next before).any (fun c => Unicode.dualJoining.contains c || Unicode.forwardJoining.contains c) &&
        (next rest).any fun c => Unicode.dualJoining.contains c || Unicode.backwardJoining.contains c
    (if c = '\u200C' then afterVirama || between else c ≠ '\u200D' || afterVirama) && joinersFit (c :: before) rest

/-- Whether a label can be read by itself. -/
def isWellFormed (label : List Char) : Bool :=
  label.all isAscii || !startsWithMark label && joinersFit [] label

/-- Whether a label holds text that runs from right to left. -/
def runsBack (label : List Char) : Bool :=
  !label.all isAscii && label.any fun c => Unicode.direction c = .right || Unicode.direction c = .arabic

/-- Whether a label runs in one direction: that of its first character, up to its last one, with the
numbers of one kind only where it runs from right to left. -/
def isDirected (label : List Char) : Bool :=
  let directions := label.map Unicode.direction
  let last := (directions.reverse.dropWhile (· = .mark)).head?
  match directions with
  | [] => true
  | .left :: _ =>
    directions.all (fun d => d ≠ .right && d ≠ .arabic) && last.any fun d => d = .left || d = .european
  | .right :: _ =>
    !directions.contains .left && last.any (fun d => d ≠ .neutral) &&
      !(directions.contains .european && directions.contains .arabic)
  | _ => false

/-- The mark of an encoded label. -/
def mark : List Char := ['x', 'n', '-', '-']

/-- A label in ASCII and the label that it stands for. -/
structure Label where
  ascii : List Char
  shown : List Char

/-- The label written as given. -/
def label? (label : List Char) : Option Label :=
  if mark.isPrefixOf label then do
    let shown ← Punycode.decode? (label.drop mark.length)
    if shown.all isAscii || mapText shown ≠ shown || shown.any isDenied || mark.isPrefixOf shown then none
    else some ⟨label, shown⟩
  else if label.all isAscii then some ⟨label, label⟩
  else some ⟨mark ++ Punycode.encode label, label⟩

/-! ## Names -/

/-- The ASCII form of a domain name given as bytes. -/
def toAscii? (bytes : List Nat) : Option (List Char) := do
  let text ← decode? bytes
  let mapped := mapText text
  if mapped.any isDenied then none
  let labels ← (Text.splitOn '.' mapped).mapM label?
  let shown := labels.map Label.shown
  if !shown.all isWellFormed || shown.any runsBack && !shown.all isDirected then none
  return List.intercalate ['.'] (labels.map Label.ascii)

end JsonSchema.DomainName
