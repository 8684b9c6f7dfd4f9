import CookbookRules.Yaml.Token.Scalar

/-!
# From a text to its tokens

A key of a mapping is recognized only at the colon behind it, on the same line and within 1024
characters. Until then the lexer remembers where a key may have begun, and the tokens from there on wait
in a queue. `TokenStream.ofText` delivers each token as soon as no key can begin before it, so a fault
ends the stream exactly at the first token whose delivery needed the faulty place.
-/

namespace CookbookRules.Yaml

/-- A place where a key may have begun, and the number of the token that would follow its mark. -/
structure KeyStart where
  token : Nat
  required : Bool
  place : Cursor

/-- The state between two tokens. The key starts are listed by depth of flow collections. -/
structure Lexer where
  cursor : Cursor
  queue : List Token
  delivered : Nat
  depth : Nat
  indent : Int
  indents : List Int
  keyAllowed : Bool
  keyStarts : List (Nat × KeyStart)
  finished : Bool

namespace Lexer

/-- A step that may find the text malformed. -/
abbrev Step := Lexer → Except Fault Lexer

/-- The state before the first token of a text. -/
def start (text : List Char) : Lexer :=
  ⟨Cursor.start text, [⟨.streamStart, 0, 0⟩], 0, 0, -1, [], true, [], false⟩

/-- Whether the lexer is inside a flow collection. -/
def inFlow (l : Lexer) : Bool := l.depth != 0

/-- Refuses the text at the place of the cursor. -/
def refuse {α : Type} (l : Lexer) : Except Fault α := .error (.malformed l.cursor.offset)

/-- Appends a token. -/
def push (kind : TokenKind) (from_ to_ : Mark) (l : Lexer) : Lexer :=
  { l with queue := l.queue ++ [⟨kind, from_, to_⟩] }

/-- Appends a token without extent. -/
def pushHere (kind : TokenKind) (l : Lexer) : Lexer :=
  l.push kind l.cursor.offset l.cursor.offset

/-- Appends a token of `width` characters and moves past it. -/
def pushIndicator (kind : TokenKind) (width : Nat) (l : Lexer) : Lexer :=
  let next := l.cursor.advanceBy width
  { l.push kind l.cursor.offset next.offset with cursor := next }

/-- Puts a token before those from a number on. -/
def insertAt (number : Nat) (token : Token) (l : Lexer) : Lexer :=
  { l with queue := l.queue.insertIdx (number - l.delivered) token }

/-! ## Key starts -/

/-- Whether a key can no longer begin at a place. -/
def isStale (l : Lexer) (start : KeyStart) : Bool :=
  start.place.line != l.cursor.line || l.cursor.offset - start.place.offset > 1024

/-- Forgets stale key starts; a key that had to be there is missed. -/
def dropStale (l : Lexer) : Except Fault Lexer :=
  if l.keyStarts.any fun (_, start) => l.isStale start && start.required then l.refuse
  else .ok { l with keyStarts := l.keyStarts.filter fun (_, start) => !l.isStale start }

/-- Forgets the key start of the present depth; a key that had to be there is missed. -/
def dropKeyStart (l : Lexer) : Except Fault Lexer :=
  match l.keyStarts.lookup l.depth with
  | some start =>
    if start.required then l.refuse
    else .ok { l with keyStarts := l.keyStarts.filter (·.1 != l.depth) }
  | none => .ok l

/-- Remembers that a key may begin here, where one is allowed. -/
def saveKeyStart (l : Lexer) : Except Fault Lexer := do
  if l.keyAllowed then
    let required := !l.inFlow && l.indent == l.cursor.column
    let l ← l.dropKeyStart
    let start : KeyStart := ⟨l.delivered + l.queue.length, required, l.cursor⟩
    pure { l with keyStarts := l.keyStarts ++ [(l.depth, start)] }
  else pure l

/-- Says whether a key may begin at the next token. -/
def allowKey (allowed : Bool) (l : Lexer) : Lexer := { l with keyAllowed := allowed }

/-! ## Indentation -/

/-- Ends the block collections that are indented more than a column; the list is that of the outer
indentations. -/
def unwindTo (column : Int) : List Int → Lexer → Lexer
  | [], l => l
  | outer :: rest, l =>
    if column < l.indent then
      unwindTo column rest { l.pushHere .blockEnd with indent := outer, indents := rest }
    else l

/-- Ends the block collections that are indented more than a column. -/
def unwind (column : Int) (l : Lexer) : Lexer :=
  if l.inFlow then l else unwindTo column l.indents l

/-- Opens an indentation if a column is deeper than the present one. -/
def addIndent? (column : Nat) (l : Lexer) : Option Lexer :=
  if l.indent < column then some { l with indent := column, indents := l.indent :: l.indents }
  else none

/-- Opens a block collection at the cursor if it is deeper than the present one. -/
def openBlock (kind : TokenKind) (l : Lexer) : Lexer :=
  match l.addIndent? l.cursor.column with
  | some deeper => deeper.pushHere kind
  | none => l

/-! ## One token -/

/-- Moves past white space, comments and line breaks; a key may begin on a new line of a block. -/
def toNextToken : Nat → Lexer → Lexer
  | 0, l => l
  | bound + 1, l =>
    let spaced := l.cursor.skip (· == ' ')
    let after := if spaced.nextIs (· == '#') then spaced.skip fun c => !isBreak c else spaced
    match after.lineBreak? with
    | some (_, next) =>
      toNextToken bound { l with cursor := next, keyAllowed := l.keyAllowed || !l.inFlow }
    | none => { l with cursor := after }

/-- Takes a scan's token and what it says about the next key. -/
def take {α : Type} (scan : Scan α) (token : α → TokenKind × Option Mark × Bool) : Step := fun l => do
  let (result, next) ← scan l.cursor
  let (kind, stop, allowed) := token result
  pure { l.push kind l.cursor.offset (stop.getD next.offset) with cursor := next, keyAllowed := allowed }

/-- The end of the text. -/
def fetchEnd (l : Lexer) : Except Fault Lexer := do
  let l ← (l.unwind (-1)).dropKeyStart
  pure { l.pushHere .streamEnd with keyAllowed := false, keyStarts := [], finished := true }

/-- A directive. -/
def fetchDirective (l : Lexer) : Except Fault Lexer := do
  let l ← (l.unwind (-1)).dropKeyStart
  take Scan.directive (fun (kind, stop) => (kind, some stop, false)) l

/-- A document marker. -/
def fetchMarker (kind : TokenKind) (l : Lexer) : Except Fault Lexer := do
  let l ← (l.unwind (-1)).dropKeyStart
  pure ((l.allowKey false).pushIndicator kind 3)

/-- The start of a flow collection. -/
def fetchFlowStart (kind : TokenKind) (l : Lexer) : Except Fault Lexer := do
  let l ← l.saveKeyStart
  pure (({ l with depth := l.depth + 1 }.allowKey true).pushIndicator kind 1)

/-- The end of a flow collection. -/
def fetchFlowEnd (kind : TokenKind) (l : Lexer) : Except Fault Lexer := do
  let l ← l.dropKeyStart
  pure (({ l with depth := l.depth - 1 }.allowKey false).pushIndicator kind 1)

/-- The comma of a flow collection. -/
def fetchFlowEntry (l : Lexer) : Except Fault Lexer := do
  let l ← (l.allowKey true).dropKeyStart
  pure (l.pushIndicator .flowEntry 1)

/-- The hyphen of a block sequence. -/
def fetchBlockEntry (l : Lexer) : Except Fault Lexer := do
  if !l.inFlow && !l.keyAllowed then l.refuse
  let l := if l.inFlow then l else l.openBlock .blockSequenceStart
  let l ← (l.allowKey true).dropKeyStart
  pure (l.pushIndicator .blockEntry 1)

/-- The question mark before a key. -/
def fetchKey (l : Lexer) : Except Fault Lexer := do
  if !l.inFlow && !l.keyAllowed then l.refuse
  let l := if l.inFlow then l else l.openBlock .blockMappingStart
  let l ← (l.allowKey (!l.inFlow)).dropKeyStart
  pure (l.pushIndicator .key 1)

/-- The colon behind a key that began at a remembered place: the key's mark goes there, and before it
the start of a block mapping if the key is indented more than the collection around it. -/
def fetchValueOf (start : KeyStart) (l : Lexer) : Lexer :=
  let mark := start.place.offset
  let l := { l with keyStarts := l.keyStarts.filter (·.1 != l.depth) }
  let l := l.insertAt start.token ⟨.key, mark, mark⟩
  let l :=
    if l.inFlow then l
    else
      match l.addIndent? start.place.column with
      | some deeper => deeper.insertAt start.token ⟨.blockMappingStart, mark, mark⟩
      | none => l
  l.allowKey false

/-- A colon without a remembered key. -/
def fetchBareValue (l : Lexer) : Except Fault Lexer := do
  if !l.inFlow && !l.keyAllowed then l.refuse
  let l := if l.inFlow then l else l.openBlock .blockMappingStart
  (l.allowKey (!l.inFlow)).dropKeyStart

/-- The colon before a value. -/
def fetchValue (l : Lexer) : Except Fault Lexer := do
  let l ←
    match l.keyStarts.lookup l.depth with
    | some start => pure (l.fetchValueOf start)
    | none => l.fetchBareValue
  pure (l.pushIndicator .value 1)

/-- An alias, an anchor or a tag, at which a key may begin. -/
def fetchProperty (scan : Scan TokenKind) (l : Lexer) : Except Fault Lexer := do
  take scan (fun kind => (kind, none, false)) (← l.saveKeyStart)

/-- The column at which the content of the present collection begins. -/
def contentIndent (l : Lexer) : Nat := (l.indent + 1).toNat

/-- A block scalar. -/
def fetchBlock (fold : Bool) (l : Lexer) : Except Fault Lexer := do
  let l ← (l.allowKey true).dropKeyStart
  take (Scan.block fold l.contentIndent) (fun text => (.scalar false (.whole text), none, true)) l

/-- A quoted scalar. -/
def fetchQuoted (double : Bool) (l : Lexer) : Except Fault Lexer := do
  take (Scan.quoted double) (fun spelling => (.scalar false spelling, none, false))
    (← l.saveKeyStart)

/-- A plain scalar; a key may follow on the next line. -/
def fetchPlain (l : Lexer) : Except Fault Lexer := do
  take (Scan.plain l.inFlow l.contentIndent)
    (fun (text, stop, broken) => (.scalar true (.whole text), some stop, broken)) (← l.saveKeyStart)

/-- The characters that begin a plain scalar only if no blank follows, or never. -/
def indicators : List Char :=
  ['-', '?', ':', ',', '[', ']', '{', '}', '#', '&', '*', '!', '|', '>', '\'', '"', '%', '@', '`']

/-- Whether a plain scalar begins with a character. -/
def beginsPlain (l : Lexer) (c : Char) : Bool :=
  !(c = ' ' || c = '\t' || isBreak c || indicators.contains c) ||
    (!atBlank (l.cursor.peekAt 1) && (c = '-' || (!l.inFlow && (c = '?' || c = ':'))))

/-- Fetches the token that begins with a character. -/
def fetchAt (c : Char) (l : Lexer) : Except Fault Lexer :=
  let lineStart := l.cursor.column = 0
  let standsAlone := atBlank (l.cursor.peekAt 1)
  if c = '%' && lineStart then l.fetchDirective
  else if lineStart && l.cursor.atMarker '-' then l.fetchMarker .documentStart
  else if lineStart && l.cursor.atMarker '.' then l.fetchMarker .documentEnd
  else if c = '[' then l.fetchFlowStart .flowSequenceStart
  else if c = '{' then l.fetchFlowStart .flowMappingStart
  else if c = ']' then l.fetchFlowEnd .flowSequenceEnd
  else if c = '}' then l.fetchFlowEnd .flowMappingEnd
  else if c = ',' then l.fetchFlowEntry
  else if c = '-' && standsAlone then l.fetchBlockEntry
  else if c = '?' && (l.inFlow || standsAlone) then l.fetchKey
  else if c = ':' && (l.inFlow || standsAlone) then l.fetchValue
  else if c = '*' then l.fetchProperty (TokenKind.alias <$> Scan.anchorName)
  else if c = '&' then l.fetchProperty (TokenKind.anchor <$> Scan.anchorName)
  else if c = '!' then l.fetchProperty Scan.tag
  else if c = '|' && !l.inFlow then l.fetchBlock false
  else if c = '>' && !l.inFlow then l.fetchBlock true
  else if c = '\'' then l.fetchQuoted false
  else if c = '"' then l.fetchQuoted true
  else if l.beginsPlain c then l.fetchPlain
  else l.refuse

/-- Fetches the next token, with the block ends before it. -/
def fetch (l : Lexer) : Except Fault Lexer := do
  let c := l.cursor
  let l := if c.offset = 0 && c.nextIs (· == '\uFEFF') then { l with cursor := c.advance } else l
  let l ← (toNextToken (c.left + 1) l).dropStale
  let l := l.unwind l.cursor.column
  match l.cursor.peek with
  | none => l.fetchEnd
  | some c => l.fetchAt c

/-! ## Delivery -/

/-- Whether the next token has to wait because a key may begin before it. -/
def mustWait (l : Lexer) : Bool :=
  l.keyStarts.any fun (_, start) => start.token = l.delivered

/-- Delivers tokens until the text ends or is found malformed; the bound counts steps. -/
def deliver : Nat → Lexer → List Token → TokenStream
  | 0, _, sent => ⟨sent.reverse, none⟩
  | bound + 1, l, sent =>
    if l.finished then ⟨sent.reverse ++ l.queue, none⟩
    else
      match l.queue with
      | [] =>
        match l.fetch with
        | .ok l => deliver bound l sent
        | .error fault => ⟨sent.reverse, some fault⟩
      | token :: rest =>
        match l.dropStale with
        | .error fault => ⟨sent.reverse, some fault⟩
        | .ok l =>
          if l.mustWait then
            match l.fetch with
            | .ok l => deliver bound l sent
            | .error fault => ⟨sent.reverse, some fault⟩
          else deliver bound { l with queue := rest, delivered := l.delivered + 1 } (token :: sent)

end Lexer

/-- The tokens of a text. Each step of the lexer takes a character or delivers a token, and a character
makes at most four tokens. -/
def TokenStream.ofText (text : List Char) : TokenStream :=
  Lexer.deliver (8 * (text.length + 4)) (Lexer.start text) []

end CookbookRules.Yaml
