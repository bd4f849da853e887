import JsonSchema.Proofs.Pointer.Reading
import JsonSchema.Text.Encoding

/-!
# Written pointers

A pointer is kept as a text, and each operation works on that text: a segment is escaped by two
replacements and put after a slash, the segments are what stands between the slashes from the third
byte on, and the pointer one level up ends before the last slash. A stretch of a text is given by
positions of bytes and is missing where these are past the end or inside a character.

The written pointers that come about so are the texts of lists of segments, one for each list; the
operations on texts are those on lists, and no stretch that they take is missing.
-/

namespace JsonSchema.Pointer

/-! ## Texts -/

/-- A text with another one in place of each occurrence of a character. -/
def replaceChar (old : Char) (new : List Char) (cs : List Char) : List Char :=
  cs.flatMap fun c => if c = old then new else [c]

/-- A text with a character in place of each occurrence of two, taken from the left. -/
def replacePair (first second new : Char) : List Char → List Char
  | c :: d :: rest =>
    if c = first ∧ d = second then new :: replacePair first second new rest
    else c :: replacePair first second new (d :: rest)
  | cs => cs

/-- The number of bytes of a text. -/
def byteLength (cs : List Char) : Nat := (Utf8.encode cs).length

/-- A text from the byte at a position on. -/
def dropBytes? : List Char → Nat → Option (List Char)
  | cs, 0 => some cs
  | [], _ + 1 => none
  | c :: rest, count =>
    if byteLength [c] ≤ count then dropBytes? rest (count - byteLength [c]) else none

/-- A text up to the byte at a position. -/
def takeBytes? : List Char → Nat → Option (List Char)
  | _, 0 => some []
  | [], _ + 1 => none
  | c :: rest, count =>
    if byteLength [c] ≤ count then (takeBytes? rest (count - byteLength [c])).map (c :: ·) else none

/-- The position in bytes of the last slash of a text. -/
def lastSlash? : List Char → Option Nat
  | [] => none
  | c :: rest =>
    match lastSlash? rest with
    | some position => some (byteLength [c] + position)
    | none => if c = '/' then some 0 else none

/-- Each tilde of a piece is followed by `0` or `1`. -/
def isEscaped : List Char → Bool
  | [] => true
  | '~' :: '0' :: rest => isEscaped rest
  | '~' :: '1' :: rest => isEscaped rest
  | '~' :: _ => false
  | _ :: rest => isEscaped rest

/-- A text without the `#` it may start with. -/
def bodyChars (text : String) : List Char :=
  match text.toList with
  | '#' :: rest => rest
  | cs => cs

/-- Each tilde is followed by `0` or `1`. -/
def TildesFollowed (cs : List Char) : Prop :=
  ∀ front back, cs = front ++ '~' :: back → back.head? = some '0' ∨ back.head? = some '1'

/-- A text that is empty after the `#` it may start with, or starts with a slash there and has no
dangling tilde. -/
def Acceptable (text : String) : Prop :=
  bodyChars text = [] ∨ (bodyChars text).head? = some '/' ∧ TildesFollowed (bodyChars text)

/-! ## Operations -/

/-- A pointer as it is kept: a text that starts with `#`. -/
structure Written where
  chars : List Char
deriving DecidableEq, Repr

namespace Written

def root : Written := ⟨['#']⟩

def isRoot (w : Written) : Bool := w.chars = ['#']

/-- The pointer of a text, whose pieces are looked at but not changed. -/
def parse (text : String) : Except Fault Written :=
  match bodyChars text with
  | [] => .ok root
  | '/' :: rest =>
    match (Text.splitOn '/' rest).find? fun piece => !isEscaped piece with
    | some piece => .error (.danglingTilde text (String.ofList piece))
    | none => .ok ⟨'#' :: '/' :: rest⟩
  | _ => .error (.noSlash text)

/-- The pointer to a member; the tildes are replaced before the slashes. -/
def join (w : Written) (segment : String) : Written :=
  ⟨w.chars ++ '/' :: replaceChar '/' ['~', '1'] (replaceChar '~' ['~', '0'] segment.toList)⟩

/-- The pointer to an item, whose position needs no escapes. -/
def item (w : Written) (index : Nat) : Written := ⟨w.chars ++ '/' :: (toString index).toList⟩

def joinAll (w : Written) (segments : List String) : Written := segments.foldl join w

/-- The segments, outermost first; none where the text is too short. In a piece `~1` is replaced
before `~0`. -/
def segments? (w : Written) : Option (List String) :=
  if w.isRoot then some []
  else
    (dropBytes? w.chars 2).map fun cs =>
      (Text.splitOn '/' cs).map fun piece =>
        String.ofList (replacePair '~' '0' '~' (replacePair '~' '1' '/' piece))

/-- The pointer one level up, which the root has not; none where the text cannot be cut. -/
def parent? (w : Written) : Option (Option Written) :=
  if w.isRoot then some none
  else
    match lastSlash? w.chars with
    | none => some none
    | some cut =>
      if cut ≤ 1 then some (some root) else (takeBytes? w.chars cut).map fun front => some ⟨front⟩

def last? (w : Written) : Option (Option String) := w.segments?.map (·.getLast?)

def resolve? (w : Written) (value : Json) : Option (Option Json) :=
  w.segments?.map fun segments => segments.foldlM step? value

/-- A written pointer that comes about by these operations. -/
inductive Built : Written → Prop
  | root : Built root
  | parsed {text : String} {w : Written} (accepted : parse text = .ok w) : Built w
  | member {w : Written} (built : Built w) (segment : String) : Built (w.join segment)
  | item {w : Written} (built : Built w) (index : Nat) : Built (w.item index)
  | upper {w upper : Written} (built : Built w) (above : w.parent? = some (some upper)) : Built upper

end Written

/-- A pointer as it is kept. -/
def written (p : Pointer) : Written := ⟨'#' :: p.pathChars⟩

/-! ## Escapes -/

/-- The two replacements together escape a segment: the tilde that the second one writes is not
replaced again. -/
theorem replaceChar_eq_escape (cs : List Char) :
    replaceChar '/' ['~', '1'] (replaceChar '~' ['~', '0'] cs) = escape cs := by
  fun_induction escape cs with
  | case1 => rfl
  | case2 rest ih => simpa [replaceChar] using ih
  | case3 rest ih => simpa [replaceChar] using ih
  | case4 c rest noTilde noSlash ih =>
    have plain : c ≠ '~' ∧ c ≠ '/' := ⟨noTilde, noSlash⟩
    simpa [replaceChar, plain] using ih

theorem replacePair_cons {first second new c : Char} {rest : List Char} (other : c ≠ first) :
    replacePair first second new (c :: rest) = c :: replacePair first second new rest := by
  cases rest with
  | nil => simp [replacePair]
  | cons d rest => simp [replacePair, other]

/-- Replacing `~1` leaves a segment in which only the tildes are escaped. -/
theorem replacePair_escape (cs : List Char) :
    replacePair '~' '1' '/' (escape cs) = replaceChar '~' ['~', '0'] cs := by
  fun_induction escape cs with
  | case1 => rfl
  | case2 rest ih =>
    -- the zero after the tilde starts no pair
    rw [replacePair, if_neg (by simp), replacePair_cons (by simp), ih]
    simp [replaceChar]
  | case3 rest ih => simpa [replacePair, replaceChar] using ih
  | case4 c rest noTilde noSlash ih =>
    rw [replacePair_cons noTilde, ih]
    simp [replaceChar, show c ≠ '~' from noTilde]

theorem replacePair_replaceChar (cs : List Char) :
    replacePair '~' '0' '~' (replaceChar '~' ['~', '0'] cs) = cs := by
  induction cs with
  | nil => rfl
  | cons c rest ih =>
    by_cases tilde : c = '~'
    · subst tilde
      simpa [replaceChar, replacePair] using ih
    · have kept : replaceChar '~' ['~', '0'] (c :: rest) = c :: replaceChar '~' ['~', '0'] rest := by
        simp [replaceChar, tilde]
      rw [kept, replacePair_cons tilde, ih]

/-- The two replacements in their order give back an escaped segment. -/
theorem replaced_escape (segment : String) :
    String.ofList (replacePair '~' '0' '~' (replacePair '~' '1' '/' (escape segment.toList))) = segment := by
  rw [replacePair_escape, replacePair_replaceChar, String.ofList_toList]

/-- A piece without a dangling tilde is an escaped segment. -/
theorem escape_of_unescape? {piece segment : List Char} (whole : '/' ∉ piece)
    (read : unescape? piece = some segment) : escape segment = piece := by
  fun_induction unescape? piece generalizing segment with
  | case1 =>
    cases read
    rfl
  | case2 rest ih =>
    obtain ⟨tail, found, rfl⟩ := Option.map_eq_some_iff.mp read
    rw [escape, ih (by simpa using whole) found]
  | case3 rest ih =>
    obtain ⟨tail, found, rfl⟩ := Option.map_eq_some_iff.mp read
    rw [escape, ih (by simpa using whole) found]
  | case4 => cases read
  | case5 c rest noZero noOne noTilde ih =>
    obtain ⟨tail, found, rfl⟩ := Option.map_eq_some_iff.mp read
    have later : '/' ∉ rest := fun inside => whole (List.mem_cons_of_mem c inside)
    have noSlash : c ≠ '/' := fun same => whole (by simp [same])
    rw [escape, ih later found]
    · exact noTilde
    · exact noSlash

theorem isEscaped_eq_isSome (piece : List Char) : isEscaped piece = (unescape? piece).isSome := by
  fun_induction unescape? piece with
  | case1 => rfl
  | case2 rest ih => simpa [isEscaped] using ih
  | case3 rest ih => simpa [isEscaped] using ih
  | case4 => simp_all [isEscaped]
  | case5 c rest noZero noOne noTilde ih => simp_all [isEscaped]

/-! ## Tildes -/

theorem tildesFollowed_cons {c : Char} {rest : List Char} :
    TildesFollowed (c :: rest) ↔
      (c = '~' → rest.head? = some '0' ∨ rest.head? = some '1') ∧ TildesFollowed rest := by
  constructor
  · intro followed
    refine ⟨?_, ?_⟩
    · rintro rfl
      exact followed [] rest rfl
    · intro front back same
      exact followed (c :: front) back (by simp [same])
  · rintro ⟨first, later⟩ front back same
    cases front with
    | nil =>
      obtain ⟨rfl, rfl⟩ := List.cons_eq_cons.mp same
      exact first rfl
    | cons d front =>
      obtain ⟨-, rest⟩ := List.cons_eq_cons.mp same
      exact later front back rest

theorem tildesFollowed_iff (piece : List Char) : TildesFollowed piece ↔ (unescape? piece).isSome := by
  fun_induction unescape? piece with
  | case1 => simp [TildesFollowed]
  | case2 rest ih => simp [tildesFollowed_cons, ih]
  | case3 rest ih => simp [tildesFollowed_cons, ih]
  | case4 rest noZero noOne =>
    simp only [tildesFollowed_cons, Option.isSome_none, Bool.false_eq_true, iff_false]
    grind [List.head?_eq_some_iff]
  | case5 c rest noZero noOne noTilde ih => simp_all [tildesFollowed_cons]

/-- A slash is no way to follow a tilde, so the pieces beside it are looked at apart. -/
theorem tildesFollowed_append {piece rest : List Char} :
    TildesFollowed (piece ++ '/' :: rest) ↔ TildesFollowed piece ∧ TildesFollowed rest := by
  have empty : TildesFollowed [] := by simp [TildesFollowed]
  induction piece with
  | nil => simp [tildesFollowed_cons, empty]
  | cons c piece ih =>
    simp only [List.cons_append, tildesFollowed_cons, ih]
    cases piece with
    | nil => simp [empty]
    | cons d piece => simp [and_assoc]

/-! ## Pieces -/

/-- A text either has no slash or is a piece, a slash and what follows. -/
theorem pieces_induction {motive : List Char → Prop} (whole : ∀ piece, '/' ∉ piece → motive piece)
    (cut : ∀ piece rest, '/' ∉ piece → motive rest → motive (piece ++ '/' :: rest)) (cs : List Char) :
    motive cs := by
  by_cases slash : '/' ∈ cs
  · obtain ⟨piece, rest, rfl, first⟩ := List.eq_append_cons_of_mem slash
    exact cut piece rest first (pieces_induction whole cut rest)
  · exact whole cs slash
termination_by cs.length
decreasing_by simp_all; omega

/-- The segments of the pieces are read where no tilde of the text dangles. -/
theorem tildesFollowed_iff_readSegments (text : String) (cs : List Char) :
    TildesFollowed cs ↔ ∃ segments, readSegments text (Text.splitOn '/' cs) = .ok segments := by
  induction cs using pieces_induction with
  | whole piece noSlash =>
    rw [splitOn_single noSlash, tildesFollowed_iff]
    cases read : unescape? piece <;> simp [readSegments, read, Except.map]
  | cut piece rest noSlash ih =>
    rw [splitOn_append noSlash, tildesFollowed_append, tildesFollowed_iff, ih]
    cases read : unescape? piece with
    | none => simp [readSegments, read]
    | some segment =>
      cases later : readSegments text (Text.splitOn '/' rest) <;> simp [readSegments, read, later, Except.map]

/-- The segments that are read are written with the same pieces. -/
theorem pathChars_of_readSegments {text : String} {cs : List Char} {segments : List String}
    (read : readSegments text (Text.splitOn '/' cs) = .ok segments) :
    (⟨segments⟩ : Pointer).pathChars = '/' :: cs := by
  induction cs using pieces_induction generalizing segments with
  | whole piece noSlash =>
    rw [splitOn_single noSlash] at read
    cases plain : unescape? piece with
    | none => simp [readSegments, plain] at read
    | some segment =>
      obtain rfl : [String.ofList segment] = segments := by simpa [readSegments, plain, Except.map] using read
      simp [pathChars, escape_of_unescape? noSlash plain]
  | cut piece rest noSlash ih =>
    rw [splitOn_append noSlash] at read
    cases plain : unescape? piece with
    | none => simp [readSegments, plain] at read
    | some segment =>
      cases later : readSegments text (Text.splitOn '/' rest) with
      | error fault => simp [readSegments, plain, later, Except.map] at read
      | ok tail =>
        obtain rfl : String.ofList segment :: tail = segments := by
          simpa [readSegments, plain, later, Except.map] using read
        have written := ih later
        simp only [pathChars] at written
        simp [pathChars, escape_of_unescape? noSlash plain, written]

/-- Where a piece has a dangling tilde, the first such piece is the fault. -/
theorem readSegments_eq_find? (text : String) (pieces : List (List Char)) :
    (∃ segments, readSegments text pieces = .ok segments ∧ pieces.find? (fun piece => !isEscaped piece) = none) ∨
      ∃ piece, readSegments text pieces = .error (.danglingTilde text (String.ofList piece)) ∧
        pieces.find? (fun piece => !isEscaped piece) = some piece := by
  induction pieces with
  | nil => exact .inl ⟨[], rfl, rfl⟩
  | cons piece pieces ih =>
    cases plain : unescape? piece with
    | none =>
      refine .inr ⟨piece, by simp [readSegments, plain], ?_⟩
      simp [isEscaped_eq_isSome, plain]
    | some segment =>
      have escaped : isEscaped piece = true := by simp [isEscaped_eq_isSome, plain]
      rcases ih with ⟨segments, read, none⟩ | ⟨dangling, read, found⟩
      · exact .inl ⟨String.ofList segment :: segments, by simp [readSegments, plain, read, Except.map],
          by simp [escaped, none]⟩
      · exact .inr ⟨dangling, by simp [readSegments, plain, read, Except.map], by simp [escaped, found]⟩

/-! ## Bytes -/

theorem byteLength_append (front back : List Char) : byteLength (front ++ back) = byteLength front + byteLength back := by
  simp [byteLength, Utf8.encode]

theorem byteLength_cons (c : Char) (rest : List Char) : byteLength (c :: rest) = byteLength [c] + byteLength rest :=
  byteLength_append [c] rest

theorem byteLength_pos (c : Char) : 0 < byteLength [c] := by
  simp only [byteLength, Utf8.encode, List.flatMap_cons, List.flatMap_nil, List.append_nil, Utf8.encodeChar]
  split_ifs <;> simp

theorem dropBytes?_cons (c : Char) (rest : List Char) (count : Nat) :
    dropBytes? (c :: rest) (byteLength [c] + count) = dropBytes? rest count := by
  have positive := byteLength_pos c
  rw [dropBytes?, if_pos (by omega), Nat.add_sub_cancel_left]
  omega

theorem takeBytes?_cons (c : Char) (rest : List Char) (count : Nat) :
    takeBytes? (c :: rest) (byteLength [c] + count) = (takeBytes? rest count).map (c :: ·) := by
  have positive := byteLength_pos c
  rw [takeBytes?, if_pos (by omega), Nat.add_sub_cancel_left]
  omega

/-- A text can be cut behind any of its characters. -/
theorem dropBytes?_append (front back : List Char) : dropBytes? (front ++ back) (byteLength front) = some back := by
  induction front with
  | nil => cases back <;> rfl
  | cons c front ih => rw [List.cons_append, byteLength_cons, dropBytes?_cons, ih]

theorem takeBytes?_append (front back : List Char) : takeBytes? (front ++ back) (byteLength front) = some front := by
  induction front with
  | nil => cases back <;> rfl
  | cons c front ih => rw [List.cons_append, byteLength_cons, takeBytes?_cons, ih, Option.map_some]

theorem lastSlash?_eq_none {cs : List Char} (noSlash : '/' ∉ cs) : lastSlash? cs = none := by
  induction cs with
  | nil => rfl
  | cons c rest ih =>
    have other : c ≠ '/' := fun same => noSlash (by simp [same])
    have later : '/' ∉ rest := fun inside => noSlash (List.mem_cons_of_mem c inside)
    simp [lastSlash?, ih later, other]

theorem lastSlash?_append {front piece : List Char} (noSlash : '/' ∉ piece) :
    lastSlash? (front ++ '/' :: piece) = some (byteLength front) := by
  induction front with
  | nil => simp [lastSlash?, lastSlash?_eq_none noSlash, byteLength, Utf8.encode]
  | cons c front ih => rw [List.cons_append, lastSlash?, ih, byteLength_cons c front]

/-! ## Lists of segments -/

variable (p : Pointer)

theorem pathChars_join (segment : String) :
    (p.join segment).pathChars = p.pathChars ++ '/' :: escape segment.toList := by
  simp [join, pathChars]

theorem written_join (segment : String) : (p.join segment).written = p.written.join segment := by
  simp [written, Written.join, pathChars_join, replaceChar_eq_escape]

/-- Digits are written as they are. -/
theorem written_item (index : Nat) : (p.item index).written = p.written.item index := by
  have plain (cs : List Char) (digits : ∀ c ∈ cs, c.isDigit) : escape cs = cs := by
    fun_induction escape cs with
    | case1 => rfl
    | case2 rest => exact absurd (digits '~' (by simp)) (by decide)
    | case3 rest => exact absurd (digits '/' (by simp)) (by decide)
    | case4 c rest noTilde noSlash ih => rw [ih fun d inside => digits d (List.mem_cons_of_mem c inside)]
  have kept : escape (Nat.toDigits 10 index) = Nat.toDigits 10 index :=
    plain _ fun _ inside => Digits.isDigit_of_mem inside
  simp [written, Written.item, item, pathChars_join, kept]

theorem written_joinAll (segments : List String) : (p.joinAll segments).written = p.written.joinAll segments := by
  induction segments generalizing p with
  | nil => simp [joinAll, Written.joinAll]
  | cons segment segments ih =>
    have step := ih (p.join segment)
    rw [written_join] at step
    simpa [joinAll, join, Written.joinAll] using step

/-- A pointer is the root or leads to a child of another. -/
theorem eq_root_or_join : p = root ∨ ∃ (upper : Pointer) (segment : String), p = upper.join segment := by
  obtain ⟨segments⟩ := p
  rcases List.eq_nil_or_concat segments with rfl | ⟨front, segment, rfl⟩
  · exact .inl rfl
  · exact .inr ⟨⟨front⟩, segment, by simp [join]⟩

theorem written_join_isRoot (segment : String) : (p.join segment).written.isRoot = false := by
  simp [written, Written.isRoot, pathChars_join]

/-- The third byte of a written pointer follows its first slash, and the segments follow from there. -/
theorem segments?_written : p.written.segments? = some p.segments := by
  obtain ⟨segments⟩ := p
  cases segments with
  | nil => rfl
  | cons segment rest =>
    have body : (⟨segment :: rest⟩ : Pointer).pathChars =
        '/' :: (escape segment.toList ++ (⟨rest⟩ : Pointer).pathChars) := by simp [pathChars]
    have below : (⟨segment :: rest⟩ : Pointer).written.isRoot = false := by simp [written, Written.isRoot, body]
    have start : dropBytes? (⟨segment :: rest⟩ : Pointer).written.chars 2 =
        some (escape segment.toList ++ (⟨rest⟩ : Pointer).pathChars) := by
      rw [written, body]
      exact dropBytes?_append ['#', '/'] _
    rw [Written.segments?, below, start, Option.map_some, splitOn_pathChars, List.map_map]
    simp [Function.comp_def, replaced_escape]

/-- The last slash of a written pointer stands before its last segment. -/
theorem parent?_written : p.written.parent? = some (p.parent?.map written) := by
  rcases p.eq_root_or_join with rfl | ⟨upper, segment, rfl⟩
  · rfl
  · have above : (upper.join segment).parent? = some upper := by simp [parent?, join, isRoot]
    have chars : (upper.join segment).written.chars = upper.written.chars ++ '/' :: escape segment.toList := by
      simp [written, pathChars_join]
    rw [Written.parent?, written_join_isRoot, above, chars, lastSlash?_append (slash_not_mem_escape _)]
    by_cases first : byteLength upper.written.chars ≤ 1
    · rcases upper.eq_root_or_join with rfl | ⟨top, name, rfl⟩
      · rfl
      · -- a longer pointer has more bytes than the mark it starts with
        have mark : byteLength ['#'] = 1 := rfl
        have positive := byteLength_pos '/'
        have size : byteLength (top.join name).written.chars =
            byteLength ['#'] + (byteLength top.pathChars + (byteLength ['/'] + byteLength (escape name.toList))) := by
          rw [written, pathChars_join, byteLength_cons, byteLength_append, byteLength_cons '/']
        omega
    · simp [first, takeBytes?_append]

theorem last?_written : p.written.last? = some p.last? := by
  rw [Written.last?, segments?_written]
  rfl

theorem resolve?_written (value : Json) : p.written.resolve? value = some (p.resolve? value) := by
  rw [Written.resolve?, segments?_written]
  rfl

theorem parse_eq (text : String) :
    parse text = match bodyChars text with
      | [] => .ok root
      | '/' :: rest => (readSegments text (Text.splitOn '/' rest)).map Pointer.mk
      | _ => .error (.noSlash text) := rfl

/-- Looking at the pieces of a text comes to the same as reading them. -/
theorem parse_written (text : String) : Written.parse text = (parse text).map written := by
  rw [parse_eq, Written.parse]
  split
  · rfl
  · rename_i rest body
    rcases readSegments_eq_find? text (Text.splitOn '/' rest) with ⟨segments, read, none⟩ | ⟨piece, read, found⟩
    · simp [none, read, Except.map, written, pathChars_of_readSegments read]
    · simp [found, read, Except.map]
  · rfl

theorem parse_ok_iff (text : String) : (∃ p, parse text = .ok p) ↔ Acceptable text := by
  rw [parse_eq, Acceptable]
  split
  · simp_all
  · rename_i rest body
    rw [body, tildesFollowed_cons, tildesFollowed_iff_readSegments text rest]
    cases readSegments text (Text.splitOn '/' rest) <;> simp [Except.map]
  · rename_i noText noSlash
    cases body : bodyChars text with
    | nil => exact absurd body noText
    | cons c rest =>
      have other : c ≠ '/' := fun same => noSlash rest (by rw [body, same])
      simp [other]

/-- The texts that the operations build are those of the lists of segments. -/
theorem built_iff (w : Written) : w.Built ↔ ∃ p : Pointer, p.written = w := by
  constructor
  · intro built
    induction built with
    | root => exact ⟨root, rfl⟩
    | @parsed text w accepted =>
      rw [parse_written] at accepted
      cases read : parse text with
      | error fault => simp [read, Except.map] at accepted
      | ok p => exact ⟨p, by simpa [read, Except.map] using accepted⟩
    | member built segment ih =>
      obtain ⟨p, rfl⟩ := ih
      exact ⟨p.join segment, p.written_join segment⟩
    | item built index ih =>
      obtain ⟨p, rfl⟩ := ih
      exact ⟨p.item index, p.written_item index⟩
    | upper built above ih =>
      obtain ⟨p, rfl⟩ := ih
      rw [parent?_written, Option.some_inj, Option.map_eq_some_iff] at above
      obtain ⟨upper, -, rfl⟩ := above
      exact ⟨upper, rfl⟩
  · rintro ⟨p, rfl⟩
    have accepted : Written.parse p.text = .ok p.written := by rw [parse_written, parse_text, Except.map]
    exact .parsed accepted

/-- Pointers are lists of segments: which texts are accepted; what is read is read again from its text
and joined from its segments; the segments, the upper pointer, the last segment and the value of a
joined pointer. A pointer is kept as a text whose operations are those on the list, with every
stretch of the text that they take in range, and these are all texts that the operations build. -/
theorem pointers_are_segment_lists :
    (∀ text, (∃ p, parse text = .ok p) ↔ Acceptable text) ∧
    (∀ text p, parse text = .ok p → parse p.text = .ok p ∧ root.joinAll p.segments = p) ∧
    (∀ segments, (root.joinAll segments).segments = segments ∧
      (Written.root.joinAll segments).segments? = some segments) ∧
    (∀ p segment, (join p segment).segments = p.segments ++ [segment] ∧ (join p segment).parent? = some p ∧
      (join p segment).last? = some segment ∧
      ∀ value, (join p segment).resolve? value = (p.resolve? value).bind (step? · segment)) ∧
    (∀ text, Written.parse text = (parse text).map written) ∧
    (∀ p segment, (join p segment).written = p.written.join segment) ∧
    (∀ p segments, (joinAll p segments).written = p.written.joinAll segments) ∧
    (∀ p : Pointer, p.written.segments? = some p.segments ∧ p.written.parent? = some (p.parent?.map written) ∧
      p.written.last? = some p.last? ∧ ∀ value, p.written.resolve? value = some (p.resolve? value)) ∧
    ∀ w : Written, w.Built ↔ ∃ p : Pointer, p.written = w := by
  refine ⟨parse_ok_iff, ?_, ?_, ?_, parse_written, written_join, written_joinAll, ?_, built_iff⟩
  · intro text p _
    exact ⟨p.parse_text, by simp [root, joinAll]⟩
  · intro segments
    have joined : (root.joinAll segments).segments = segments := by simp [root, joinAll]
    have kept := (root.joinAll segments).segments?_written
    rw [written_joinAll, joined] at kept
    exact ⟨joined, kept⟩
  · intro p segment
    refine ⟨rfl, by simp [parent?, join, isRoot], by simp [last?, join], ?_⟩
    intro value
    exact resolve?_join segment
  · intro p
    exact ⟨p.segments?_written, p.parent?_written, p.last?_written, p.resolve?_written⟩

/-- Escapes side by side, and an empty segment at the end. -/
theorem escaped_text_is_segment_list :
    parse "/~01~1/" = .ok ⟨["~1/", ""]⟩ ∧ parse (⟨["~1/", ""]⟩ : Pointer).text = .ok ⟨["~1/", ""]⟩ :=
  have read : parse "/~01~1/" = .ok ⟨["~1/", ""]⟩ := by decide
  ⟨read, (pointers_are_segment_lists.2.1 _ _ read).1⟩

end JsonSchema.Pointer
