/-
  Deskhand.Yaml.Reader

  Reading YAML.

  A reader for the part of YAML that settings are written in: mappings and sequences in block and
  flow form, plain and quoted scalars, comments, and a document marker at the start. Anchors, tags,
  literal blocks and explicit keys are refused. What depends on settings files is stated for every
  reader of YAML; this one is the reader that the program runs with.

  The reader knows the column of each character, because the block forms are told apart by columns:
  the keys of a mapping and the dashes of a sequence stand in one column, and whatever belongs to
  them stands further to the right. A token may be the key of a mapping only if it stands on one
  line.
-/

import Deskhand.Json.Reader
import Deskhand.Yaml.Basic

namespace Deskhand.Yaml

/-! ## Positions -/

/-- The rest of a text and the column where it starts. -/
structure Spot where
  rest : List Char
  column : Nat

/-- The spot after `count` more characters of the line. -/
def Spot.skip (spot : Spot) (count : Nat) : Spot := ⟨spot.rest.drop count, spot.column + count⟩

def isGap (c : Char) : Bool := c == ' ' || c == '\t'

/-- Whether the text ends here or goes on with a blank or a line break. -/
def endsToken : List Char → Bool
  | [] => true
  | c :: _ => isGap c || c == '\n'

/-- Whether a character is allowed in a document at all. -/
def isAllowed (c : Char) : Bool :=
  let n := c.toNat
  c == '\t' || c == '\n' || c == '\r' || (0x20 ≤ n && n ≤ 0x7E) || n == 0x85 ||
    (0xA0 ≤ n && n ≤ 0xFFFD && n != 0xFEFF) || 0x10000 ≤ n

/-- The text with all line breaks written in the same way. -/
def unifyBreaks : List Char → List Char
  | [] => []
  | '\r' :: '\n' :: rest => '\n' :: unifyBreaks rest
  | c :: rest => (if c = '\r' ∨ c = '\u0085' then '\n' else c) :: unifyBreaks rest

/-- Whether a line that starts here is a document marker of three equal characters. -/
def isMarker (mark : Char) (spot : Spot) : Bool :=
  spot.column == 0 && spot.rest.take 3 == [mark, mark, mark] && endsToken (spot.rest.drop 3)

/-- Whether a line that starts here ends the document. -/
def endsDocument (spot : Spot) : Bool := isMarker '-' spot || isMarker '.' spot

/-- Goes to the next token, over blanks, comments and line breaks. Says whether a line break was
crossed. A tab may not stand at the start of a line unless `tabs` holds. -/
def toToken (tabs : Bool) : (crossed : Bool) → (column : Nat) → (comment : Bool) → List Char →
    Option (Bool × Spot)
  | crossed, column, _, [] => some (crossed, ⟨[], column⟩)
  | crossed, column, comment, c :: rest =>
    if c = '\n' then toToken tabs true 0 false rest
    else if comment then toToken tabs crossed (column + 1) true rest
    else if c = ' ' then toToken tabs crossed (column + 1) false rest
    else if c = '\t' then
      -- Lines of a block are indented by spaces only.
      if crossed && !tabs then none else toToken tabs crossed (column + 1) false rest
    else if c = '#' then toToken tabs crossed (column + 1) true rest
    else some (crossed, ⟨c :: rest, column⟩)

/-- The next token of a block, `crossed` if its line has just begun. -/
def nextInBlock (crossed : Bool) (spot : Spot) : Option (Bool × Spot) :=
  toToken false crossed spot.column false spot.rest

/-- The next token between brackets. -/
def nextInFlow (spot : Spot) : Option Spot := do
  let (_, spot) ← toToken true false spot.column false spot.rest
  if endsDocument spot then none else some spot

/-! ## Quoted scalars -/

/-- Line breaks within a scalar: a single one is a space, and of more the first one is dropped. -/
def foldBreaks (count : Nat) : List Char :=
  if count ≤ 1 then [' '] else List.replicate (count - 1) '\n'

/-- The blanks and line breaks here: how many characters they are, how many of them are line breaks,
and the column after them. -/
def breaksFrom : (used breaks column : Nat) → List Char → Nat × Nat × Nat
  | used, breaks, column, [] => (used, breaks, column)
  | used, breaks, column, c :: rest =>
    if c = '\n' then breaksFrom (used + 1) (breaks + 1) 0 rest
    else if isGap c then breaksFrom (used + 1) breaks (column + 1) rest
    else (used, breaks, column)

/-- The character of a one-letter escape. -/
def escapeChar? (c : Char) : Option Char :=
  match c with
  | '0' => some '\x00'
  | 'a' => some '\x07'
  | 'b' => some '\x08'
  | 't' | '\t' => some '\t'
  | 'n' => some '\n'
  | 'v' => some '\x0b'
  | 'f' => some '\x0c'
  | 'r' => some '\r'
  | 'e' => some '\x1b'
  | ' ' => some ' '
  | '"' => some '"'
  | '/' => some '/'
  | '\\' => some '\\'
  | 'N' => some '\u0085'
  | '_' => some '\u00A0'
  | 'L' => some '\u2028'
  | 'P' => some '\u2029'
  | _ => none

def escapeDigits? (c : Char) : Option Nat :=
  match c with
  | 'x' => some 2
  | 'u' => some 4
  | 'U' => some 8
  | _ => none

/-- The character with a code point in hexadecimal. -/
def charOfHex? (digits : List Char) : Option Char := do
  let value ← digits.foldlM (fun n c => (Json.hexDigit? c).map (16 * n + ·)) 0
  if h : value.isValidChar then some (Char.ofNatAux value h) else none

/-- An escape, `rest` being what follows its backslash: what it stands for and its length. A line
break is joined with the start of the next line. -/
def escape? (rest : List Char) : Option (List Char × Nat) :=
  match rest with
  | [] => none
  | c :: after =>
    if c = '\n' then
      let (used, breaks, _) := breaksFrom 0 0 0 after
      some (List.replicate breaks '\n', used + 1)
    else
      match escapeChar? c, escapeDigits? c with
      | some found, _ => some ([found], 1)
      | none, some count =>
        let digits := after.take count
        if digits.length = count then (charOfHex? digits).map fun found => ([found], 1 + count)
        else none
      | none, none => none

/-- The content of a quoted scalar up to its closing quote, where the first `skip` characters are
used up and the closing quote is `quote`. -/
def quotedFrom (quote : Char) : (skip column : Nat) → List Char → Option (List Char × Spot)
  | _, _, [] => none
  | skip + 1, column, c :: rest => quotedFrom quote skip (if c = '\n' then 0 else column + 1) rest
  | 0, column, c :: rest =>
    if endsDocument ⟨c :: rest, column⟩ then none
    else if c = quote then
      -- Between single quotes two of them stand for one, and nothing else is an escape.
      if quote = '\'' ∧ rest.head? = some '\'' then
        (quotedFrom quote 1 (column + 1) rest).map fun (text, spot) => (c :: text, spot)
      else some ([], ⟨rest, column + 1⟩)
    else if c = '\\' ∧ quote = '"' then do
      let (found, length) ← escape? rest
      let (text, spot) ← quotedFrom quote length (column + 1) rest
      return (found ++ text, spot)
    -- Blanks around a line break are dropped together with it.
    else if isGap c || c == '\n' then
      let (used, breaks, _) := breaksFrom 0 0 column (c :: rest)
      let written := if breaks = 0 then (c :: rest).take used else foldBreaks breaks
      (quotedFrom quote (used - 1) (if c = '\n' then 0 else column + 1) rest).map
        fun (text, spot) => (written ++ text, spot)
    else (quotedFrom quote 0 (column + 1) rest).map fun (text, spot) => (c :: text, spot)

/-! ## Plain scalars -/

/-- The characters that mean something at the start of a token. -/
def indicators : List Char := "-?:,[]\x7b\x7d#&*!|>'\"%@\x60".toList

/-- The characters that end a plain scalar between brackets. -/
def flowIndicators : List Char := ",[]\x7b\x7d".toList

/-- Whether a plain scalar may start here. -/
def startsPlain (flow : Bool) : List Char → Bool
  | [] => false
  | c :: rest =>
    if isGap c || c == '\n' then false
    else if c = '-' then rest.head?.any fun d => !isGap d
    else if c = '?' ∨ c = ':' then !flow && !endsToken rest
    else !indicators.contains c

/-- Whether a colon within a plain scalar between brackets is malformed. -/
def isStrayColon (c : Char) (rest : List Char) : Bool :=
  c == ':' && rest.head?.any fun d => d == '?' || flowIndicators.contains d

/-- Whether a plain scalar ends before these characters. -/
def stopsPlain (flow : Bool) (c : Char) (rest : List Char) : Bool :=
  (c == ':' && endsToken rest) || (flow && flowIndicators.contains c)

/-- The content of a plain scalar, of which the first `skip` characters are used up, and the spot of
the next token. Lines that stand less than `indent` columns to the right do not belong to it. -/
def plainFrom (flow : Bool) (indent : Nat) :
    (skip column : Nat) → List Char → Option (List Char × Spot)
  | _, column, [] => some ([], ⟨[], column⟩)
  | skip + 1, column, c :: rest =>
    plainFrom flow indent skip (if c = '\n' then 0 else column + 1) rest
  | 0, column, c :: rest =>
    if isGap c || c == '\n' then
      let (used, breaks, after) := breaksFrom 0 0 column (c :: rest)
      let next := (c :: rest).drop used
      let written := if breaks = 0 then (c :: rest).take used else foldBreaks breaks
      let ends : Bool :=
        match next with
        | [] => true
        | d :: others =>
          -- A comment, a line of the parent, the end of the document, or a colon.
          d == '#' || (0 < breaks && ((!flow && after < indent) || endsDocument ⟨next, after⟩)) ||
            stopsPlain flow d others
      if ends then some ([], ⟨next, after⟩)
      else
        (plainFrom flow indent (used - 1) (if c = '\n' then 0 else column + 1) rest).map
          fun (text, spot) => (written ++ text, spot)
    else if flow && isStrayColon c rest then none
    else if stopsPlain flow c rest then some ([], ⟨c :: rest, column⟩)
    else
      (plainFrom flow indent 0 (column + 1) rest).map fun (text, spot) => (c :: text, spot)

/-- Whether a tab stands where a line of a plain scalar ought to be indented. -/
def tabsIntoMargin (indent : Nat) : (column : Nat) → (fresh : Bool) → List Char → Bool
  | _, _, [] => false
  | column, fresh, c :: rest =>
    if c = '\n' then tabsIntoMargin indent 0 true rest
    else if c = ' ' then tabsIntoMargin indent (column + 1) fresh rest
    else if c = '\t' then
      (fresh && column < indent) || tabsIntoMargin indent (column + 1) fresh rest
    else tabsIntoMargin indent (column + 1) false rest

/-! ## Tokens -/

/-- What was read between two spots. -/
def between (start after : Spot) : List Char :=
  start.rest.take (start.rest.length - after.rest.length)

/-- A scalar at a spot. -/
def scalarAt (flow : Bool) (indent : Nat) (spot : Spot) : Option (Yaml × Spot) :=
  match spot.rest with
  | [] => none
  | c :: rest =>
    if c = '"' ∨ c = '\'' then
      (quotedFrom c 0 (spot.column + 1) rest).map fun (text, after) =>
        (.scalar (String.ofList text) false, after)
    else if startsPlain flow spot.rest then do
      let (text, after) ← plainFrom flow indent 0 spot.column spot.rest
      if tabsIntoMargin indent spot.column false (between spot after) then none
      else return (.scalar (String.ofList text) true, after)
    else none

/-! ## Flow forms -/

mutual

/-- A value between brackets. -/
def flowValue : (fuel : Nat) → Spot → Option (Yaml × Spot)
  | 0, _ => none
  | fuel + 1, spot =>
    match spot.rest with
    | '[' :: _ => (flowItems fuel (spot.skip 1)).map fun (items, spot) => (.sequence items, spot)
    | '\x7b' :: _ => (flowPairs fuel (spot.skip 1)).map fun (pairs, spot) => (.mapping pairs, spot)
    | _ => scalarAt true 0 spot

/-- What follows a key between brackets: its value behind a colon, or nothing. -/
def flowMapped : (fuel : Nat) → Spot → Option (Option Yaml × Spot)
  | 0, _ => none
  | fuel + 1, spot => do
    let spot ← nextInFlow spot
    match spot.rest with
    | ':' :: _ =>
      let spot ← nextInFlow (spot.skip 1)
      match spot.rest with
      | ',' :: _ | ']' :: _ | '\x7d' :: _ => return (some empty, spot)
      | _ =>
        let (value, spot) ← flowValue fuel spot
        return (some value, spot)
    | _ => return (none, spot)

/-- The items of a sequence up to its closing bracket. -/
def flowItems : (fuel : Nat) → Spot → Option (List Yaml × Spot)
  | 0, _ => none
  | fuel + 1, spot => do
    let spot ← nextInFlow spot
    if spot.rest.head? = some ']' then return ([], spot.skip 1)
    else
      let (key, spot) ← flowValue fuel spot
      let (value, spot) ← flowMapped fuel spot
      -- A single pair may stand in a sequence without braces.
      let item := value.elim key fun value => .mapping [(key, value)]
      let spot ← nextInFlow spot
      match spot.rest with
      | ',' :: _ =>
        let (items, spot) ← flowItems fuel (spot.skip 1)
        return (item :: items, spot)
      | ']' :: _ => return ([item], spot.skip 1)
      | _ => none

/-- The pairs of a mapping up to its closing brace. -/
def flowPairs : (fuel : Nat) → Spot → Option (List (Yaml × Yaml) × Spot)
  | 0, _ => none
  | fuel + 1, spot => do
    let spot ← nextInFlow spot
    if spot.rest.head? = some '\x7d' then return ([], spot.skip 1)
    else
      let (key, spot) ← flowValue fuel spot
      let (value, spot) ← flowMapped fuel spot
      let spot ← nextInFlow spot
      match spot.rest with
      | ',' :: _ =>
        let (pairs, spot) ← flowPairs fuel (spot.skip 1)
        return ((key, value.getD empty) :: pairs, spot)
      | '\x7d' :: _ => return ([(key, value.getD empty)], spot.skip 1)
      | _ => none

end

/-! ## Block forms -/

/-- Whether a flow form starts here. -/
def startsFlow (s : List Char) : Bool := s.head? == some '[' || s.head? == some '\x7b'

/-- Whether an item of a block sequence starts here. -/
def startsItem (s : List Char) : Bool := s.head? == some '-' && endsToken (s.drop 1)

def maxKeyLength : Nat := 1024

/-- A scalar or flow form of a block, as far as the reading of a block depends on it. -/
structure Atom where
  value : Yaml
  /-- The spot after it; that of the next token if it is a plain scalar. -/
  after : Spot
  /-- Whether that spot is on another line than the start. -/
  crossed : Bool
  /-- Whether it may be a key. -/
  fitsKey : Bool

/-- A scalar or flow form at a spot. -/
def atom (fuel indent : Nat) (spot : Spot) : Option Atom := do
  let (value, after) ←
    if startsFlow spot.rest then flowValue fuel spot else scalarAt false indent spot
  let written := between spot after
  let crossed := written.contains '\n'
  return ⟨value, after, crossed && value.plain?.isSome, !crossed && written.length ≤ maxKeyLength⟩

/-- Goes on to the next token of a block, which must stand on a new line. -/
def endLine (crossed : Bool) (spot : Spot) : Option Spot := do
  let (crossed, spot) ← nextInBlock crossed spot
  if crossed || spot.rest.isEmpty then some spot else none

/-- Whether a colon that ends a key stands here. -/
def startsValue (s : List Char) : Bool := s.head? == some ':' && endsToken (s.drop 1)

def skipGaps (spot : Spot) : Spot := spot.skip (spot.rest.takeWhile isGap).length

mutual

/-- A value of a block at its first token. The token stands to the right of the column `indent - 1`,
in which its parent stands. -/
def block : (fuel indent : Nat) → Spot → Option (Yaml × Spot)
  | 0, _, _ => none
  | fuel + 1, indent, spot =>
    if startsItem spot.rest then
      (blockItems fuel spot.column spot).map fun (items, spot) => (.sequence items, spot)
    else do
      let atom ← atom fuel indent spot
      let colon := skipGaps atom.after
      if atom.fitsKey && startsValue colon.rest then
        let (first, next) ← blockMapped fuel spot.column (colon.skip 1)
        let (others, next) ← blockPairs fuel spot.column next
        return (.mapping ((atom.value, first) :: others), next)
      else return (atom.value, ← endLine atom.crossed atom.after)

/-- The items of a sequence whose dashes stand in `column`. -/
def blockItems : (fuel column : Nat) → Spot → Option (List Yaml × Spot)
  | 0, _, _ => none
  | fuel + 1, column, spot =>
    if spot.column = column ∧ startsItem spot.rest ∧ !endsDocument spot then do
      if ((spot.rest.drop 1).dropWhile (· == ' ')).head? = some '\t' then none
      let (_, next) ← nextInBlock false (spot.skip 1)
      let (item, next) ←
        if column < next.column && !next.rest.isEmpty && !endsDocument next then
          block fuel (column + 1) next
        else some (empty, next)
      let (items, next) ← blockItems fuel column next
      return (item :: items, next)
    else some ([], spot)

/-- The value of a key that stands in `column`, from behind its colon. -/
def blockMapped : (fuel column : Nat) → Spot → Option (Yaml × Spot)
  | 0, _, _ => none
  | fuel + 1, column, spot => do
    let (crossed, next) ← nextInBlock false spot
    if next.rest.isEmpty then return (empty, next)
    else if crossed then
      if endsDocument next then return (empty, next)
      else if column < next.column then block fuel (column + 1) next
      else if column = next.column && startsItem next.rest then
        (blockItems fuel column next).map fun (items, spot) => (.sequence items, spot)
      else return (empty, next)
    else if startsItem next.rest then none
    else
      let atom ← atom fuel (column + 1) next
      return (atom.value, ← endLine atom.crossed atom.after)

/-- The further pairs of a mapping whose keys stand in `column`. -/
def blockPairs : (fuel column : Nat) → Spot → Option (List (Yaml × Yaml) × Spot)
  | 0, _, _ => none
  | fuel + 1, column, spot =>
    if spot.rest.isEmpty || spot.column < column || endsDocument spot then some ([], spot)
    else if spot.column ≠ column || startsItem spot.rest then none
    else do
      let key ← atom fuel (column + 1) spot
      let colon := skipGaps key.after
      if key.fitsKey && startsValue colon.rest then
        let (value, next) ← blockMapped fuel column (colon.skip 1)
        let (others, next) ← blockPairs fuel column next
        return ((key.value, value) :: others, next)
      else none

end

/-! ## Documents -/

/-- The first token of the document, behind a marker that there may be. -/
def documentStart (s : List Char) : Option Spot := do
  let (_, spot) ← nextInBlock true ⟨s, 0⟩
  if isMarker '-' spot then
    let (_, spot) ← nextInBlock false (spot.skip 3)
    return spot
  else return spot

/-- Checks that nothing but the end of the document follows. -/
def documentEnd (spot : Spot) : Option Unit :=
  if spot.rest.isEmpty then some ()
  else if isMarker '.' spot then do
    let (_, spot) ← nextInBlock false (spot.skip 3)
    if spot.rest.isEmpty then some () else none
  else none

/-- Reads the single document of a text. -/
def parse (s : String) : Option Yaml := do
  let text := if s.toList.head? == some '\uFEFF' then s.toList.drop 1 else s.toList
  if !text.all isAllowed then none
  let text := unifyBreaks text
  let spot ← documentStart text
  if spot.rest.isEmpty || endsDocument spot then
    documentEnd spot
    return empty
  else
    let (value, spot) ← block (4 * text.length + 4) 0 spot
    documentEnd spot
    return value

/-- Whatever reads the documents that settings are written in. Where a text comes to no settings,
`reason?` is what the reader has to say about it. -/
structure Reader where
  value? : String → Option Yaml
  reason? : String → Option String

/-- The reader above, which gives no reasons. -/
def Reader.standard : Reader := ⟨parse, fun _ => none⟩

end Deskhand.Yaml
