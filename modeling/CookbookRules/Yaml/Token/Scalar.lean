import CookbookRules.Yaml.Token.Scan

/-!
# Scanning scalars

The three ways to write a scalar: plain, in quotes, and as a block. Line breaks inside a scalar are
folded: a single one is a space, of several in a row all but the first are kept. Every loop is bounded
by the number of characters that are left.
-/

namespace CookbookRules.Yaml.Scan

/-- Takes spaces and tabs. -/
def whites : Scan (List Char) :=
  run fun c => c = ' ' || c = '\t'

/-- The text of a folded line break with the breaks after it. -/
def folded (first : Char) (others : List Char) : List Char :=
  if first != '\n' then first :: others
  else if others.isEmpty then [' ']
  else others

/-! ## Plain scalars -/

/-- Whether a colon ends a plain scalar, given what follows it. -/
def colonEnds (flow : Bool) (next : Option Char) : Bool :=
  atBlank next || (flow && next.any [',', '[', ']', '{', '}'].contains)

/-- The longest run of characters that belongs to one word of a plain scalar. -/
def plainWord (flow : Bool) : List Char → List Char
  | [] => []
  | c :: rest =>
    if c = ' ' || c = '\t' || isBreak c || (c = ':' && colonEnds flow rest.head?) ||
        (flow && [',', '?', '[', ']', '{', '}'].contains c) then []
    else c :: plainWord flow rest

/-- Takes the spaces and breaks after the first break of a plain scalar; nothing if a document marker
begins a line. -/
def plainBreaks : Nat → Scan (Option (List Char))
  | 0 => pure (some [])
  | bound + 1 => do
    if (← get).nextIs (· == ' ') then
      move Cursor.advance
      plainBreaks bound
    else
      match ← lineBreak? with
      | none => pure (some [])
      | some c =>
        if (← get).atSeparator then pure none
        else pure ((← plainBreaks bound).map (c :: ·))

/-- Takes the white space after a word of a plain scalar. The answer is the text that stands for it,
nothing where the scalar ends, and whether a line break was among it. -/
def plainSpace : Scan (List Char × Bool) := do
  let whites ← run (· == ' ')
  match ← lineBreak? with
  | none => pure (whites, false)
  | some c =>
    let here ← get
    if here.atSeparator then pure ([], true)
    else
      match ← plainBreaks here.left with
      | none => pure ([], true)
      | some others => pure (folded c others, true)

/-- Takes words of a plain scalar, the text between the last two of them given. The answer is the text,
the mark where it stops, and whether a line break follows its last word. -/
def plainWords (flow : Bool) (indent : Nat) : Nat → (gap : List Char) → (stop : Mark) →
    (broken : Bool) → Scan (List Char × Mark × Bool)
  | 0, _, stop, broken => pure ([], stop, broken)
  | bound + 1, gap, stop, broken => do
    let here ← get
    let word := if here.nextIs (· == '#') then [] else plainWord flow here.rest
    if word.isEmpty then pure ([], stop, broken)
    else
      move (Cursor.advanceBy word.length)
      let stop := (← get).offset
      let (space, broken) ← plainSpace
      let after ← get
      if space.isEmpty || after.nextIs (· == '#') || (!flow && after.column < indent) then
        pure (gap ++ word, stop, broken)
      else
        let (rest, stop, broken) ← plainWords flow indent bound space stop broken
        pure (gap ++ word ++ rest, stop, broken)

/-- Takes a plain scalar. Outside of flow collections its later lines are indented by `indent`. -/
def plain (flow : Bool) (indent : Nat) : Scan (String × Mark × Bool) := do
  let here ← get
  let (cs, stop, broken) ← plainWords flow indent here.left [] here.offset false
  pure (String.ofList cs, stop, broken)

/-! ## Quoted scalars -/

/-- The characters that a backslash and a letter stand for. -/
def namedEscapes : List (Char × Char) :=
  [('0', '\x00'), ('a', '\x07'), ('b', '\x08'), ('t', '\t'), ('\t', '\t'), ('n', '\n'),
    ('v', '\x0B'), ('f', '\x0C'), ('r', '\r'), ('e', '\x1B'), (' ', ' '), ('"', '"'), ('\\', '\\'),
    ('/', '/'), ('N', '\u0085'), ('_', '\u00A0'), ('L', '\u2028'), ('P', '\u2029')]

/-- The numbers of digits after the letters that begin an escape by number. -/
def escapeWidths : List (Char × Nat) := [('x', 2), ('u', 4), ('U', 8)]

/-- The numbers of characters. -/
def codesOf (cs : List Char) : List Nat := cs.map Char.toNat

/-- Takes the number of a character or of a half of a surrogate pair. -/
def numbered (width : Nat) : Scan Nat := do
  let code ← hexNumber width
  if 0x10FFFF < code then throw (.scalar (.noSuchCharacter code))
  pure code

/-- Takes the breaks of a quoted scalar with the white space around them. -/
def quotedBreaks : Nat → Scan (List Char)
  | 0 => pure []
  | bound + 1 => do
    if (← get).atSeparator then refuse
    let _ ← whites
    match ← lineBreak? with
    | some c => pure (c :: (← quotedBreaks bound))
    | none => pure []

/-- Takes an escape after its backslash. -/
def escape : Scan (List Nat) := do
  let here ← get
  match here.peek with
  | none => refuse
  | some c =>
    match namedEscapes.lookup c, escapeWidths.lookup c with
    | some meant, _ =>
      move Cursor.advance
      pure [meant.toNat]
    | none, some width =>
      move Cursor.advance
      pure [← numbered width]
    | none, none =>
      match ← lineBreak? with
      | some _ => codesOf <$> quotedBreaks here.left
      | none => refuse

/-- Whether a character stands for itself in either kind of quotes. -/
def isPlainQuoted (c : Char) : Bool :=
  !(c = '\'' || c = '"' || c = '\\' || c = ' ' || c = '\t' || isBreak c)

/-- Takes the inside of a quoted scalar up to its closing quote. -/
def quotedInside (double : Bool) : Nat → Scan (List Nat)
  | 0 => refuse
  | bound + 1 => do
    let here ← get
    match here.rest with
    | [] => refuse
    | c :: rest =>
      if c = ' ' || c = '\t' || isBreak c then
        let space ← whites
        let after ← get
        if after.peek.isNone then refuse
        let text ←
          match ← lineBreak? with
          | some first => do pure (folded first (← quotedBreaks after.left))
          | none => pure space
        pure (codesOf text ++ (← quotedInside double bound))
      else if !double && c = '\'' && rest.head? = some '\'' then
        move (Cursor.advanceBy 2)
        pure (c.toNat :: (← quotedInside double bound))
      else if c = (if double then '"' else '\'') then
        move Cursor.advance
        pure []
      else if double && c = '\\' then
        move Cursor.advance
        let meant ← escape
        pure (meant ++ (← quotedInside double bound))
      else if isPlainQuoted c then
        let cs ← run isPlainQuoted
        pure (codesOf cs ++ (← quotedInside double bound))
      else
        move Cursor.advance
        pure (c.toNat :: (← quotedInside double bound))

/-- Takes a quoted scalar. -/
def quoted (double : Bool) : Scan Text.Spelling := do
  move Cursor.advance
  let here ← get
  pure (.ofCodes (← quotedInside double (here.left + 1)))

/-! ## Block scalars -/

/-- What happens to the line breaks at the end of a block scalar. -/
inductive Chomping
  | clip
  | strip
  | keep
  deriving DecidableEq, Repr

/-- Takes the sign that tells the chomping. -/
def chomping? : Scan (Option Chomping) := do
  if (← get).nextIs (· == '+') then
    move Cursor.advance
    pure (some .keep)
  else if (← get).nextIs (· == '-') then
    move Cursor.advance
    pure (some .strip)
  else pure none

/-- Takes the digit that tells the indentation, which is not zero. -/
def increment? : Scan (Option Nat) := do
  match (← get).peek with
  | some c =>
    if c.isDigit then
      if c = '0' then refuse
      move Cursor.advance
      pure (some (c.toNat - '0'.toNat))
    else pure none
  | none => pure none

/-- Takes both indicators of a block scalar, in either order. -/
def blockIndicators : Scan (Chomping × Option Nat) := do
  let result ←
    match ← chomping? with
    | some chomping => do pure (chomping, ← increment?)
    | none => do
      match ← increment? with
      | some increment => do pure ((← chomping?).getD .clip, some increment)
      | none => pure (.clip, none)
  require atSpace
  pure result

/-- Takes the empty lines before a block scalar; the answer has their breaks and the widest
indentation among them and the first line. -/
def blockIndentation : Nat → (widest : Nat) → Scan (List Char × Nat)
  | 0, widest => pure ([], widest)
  | bound + 1, widest => do
    if (← get).nextIs (· == ' ') then
      move Cursor.advance
      blockIndentation bound (max widest (← get).column)
    else
      match ← lineBreak? with
      | some c =>
        let (breaks, widest) ← blockIndentation bound widest
        pure (c :: breaks, widest)
      | none => pure ([], widest)

/-- Takes spaces up to a column. -/
def indentTo (indent : Nat) : Scan Unit :=
  move fun c => c.advanceBy (min (indent - c.column) (c.rest.takeWhile (· == ' ')).length)

/-- Takes the empty lines between the lines of a block scalar, and the indentation of the next line. -/
def blockBreaks (indent : Nat) : Nat → Scan (List Char)
  | 0 => pure []
  | bound + 1 => do
    indentTo indent
    match ← lineBreak? with
    | some c => pure (c :: (← blockBreaks indent bound))
    | none => pure []

/-- Takes the lines of a block scalar, the empty lines before the first given. The answer has the text,
the last line break of it, and the empty lines after it. -/
def blockLines (fold : Bool) (indent : Nat) : Nat → (breaks : List Char) →
    Scan (List Char × Option Char × List Char)
  | 0, breaks => pure ([], none, breaks)
  | bound + 1, breaks => do
    let here ← get
    if here.column = indent && here.peek.isSome then
      let spaced := here.nextIs fun c => c = ' ' || c = '\t'
      let line ← run fun c => !isBreak c
      let lineEnd ← lineBreak?
      let after ← blockBreaks indent here.left
      let next ← get
      if next.column = indent && next.peek.isSome then
        let joint :=
          if fold && lineEnd = some '\n' && !spaced && !next.nextIs fun c => c = ' ' || c = '\t' then
            if after.isEmpty then [' '] else []
          else lineEnd.toList
        let (rest, last, trailing) ← blockLines fold indent bound after
        pure (breaks ++ line ++ joint ++ rest, last, trailing)
      else pure (breaks ++ line, lineEnd, after)
    else pure ([], none, breaks)

/-- Takes a block scalar inside a collection that is indented by `indent`. -/
def block (fold : Bool) (indent : Nat) : Scan String := do
  move Cursor.advance
  let (chomping, increment) ← blockIndicators
  restOfLine
  let here ← get
  let bound := here.left + 1
  let least := max indent 1
  let (breaks, width) ←
    match increment with
    | none => do
      let (breaks, widest) ← blockIndentation bound 0
      pure (breaks, max least widest)
    | some increment => do
      let width := least + increment - 1
      pure (← blockBreaks width bound, width)
  let (text, last, trailing) ← blockLines fold width bound breaks
  let ending :=
    match chomping with
    | .strip => []
    | .clip => last.toList
    | .keep => last.toList ++ trailing
  pure (String.ofList (text ++ ending))

end CookbookRules.Yaml.Scan
