import CookbookRules.Proofs.Yaml.Scanning
import CookbookRules.Yaml.Token.Lexer
import Mathlib.Data.List.InsertIdx

/-!
# The lexer stays in the text

Between two tokens the cursor of the lexer, the marks of the tokens that wait and the places where a key may
have begun lie in the text. Each step keeps this and gives up at a place of the text, so all tokens that are
delivered have their marks in it, and so has the fault that ends them.
-/

namespace CookbookRules.Yaml

/-- A token starts and stops in a text of so many characters. -/
structure Token.IsWithin (size : Nat) (token : Token) : Prop where
  start : token.start ≤ size
  stop : token.stop ≤ size

/-- The tokens and the fault that ends them lie in a text of so many characters. -/
structure TokenStream.IsWithin (size : Nat) (stream : TokenStream) : Prop where
  tokens : ∀ token ∈ stream.tokens, token.IsWithin size
  fault : ∀ fault ∈ stream.fault, fault.IsWithin size

namespace Lexer

/-- The places that the lexer remembers lie in the text. -/
structure IsIn (text : List Char) (l : Lexer) : Prop where
  cursor : l.cursor.IsIn text
  queue : ∀ token ∈ l.queue, token.IsWithin text.length
  keyStarts : ∀ entry ∈ l.keyStarts, entry.2.place.IsIn text

/-- A step ends with a lexer in the text, or gives up at a place of it. -/
abbrev Goes (text : List Char) (outcome : Except Fault Lexer) : Prop :=
  Ends text.length outcome (IsIn text)

variable {text : List Char} {l : Lexer} {kind : TokenKind} {α : Type} {P : α → Prop}

theorem isIn_start (text : List Char) : (start text).IsIn text :=
  ⟨Cursor.isIn_start text, List.forall_mem_singleton.2 ⟨Nat.zero_le _, Nat.zero_le _⟩,
    List.forall_mem_nil _⟩

theorem IsIn.refuse (h : l.IsIn text) : Ends text.length (l.refuse : Except Fault α) P :=
  h.cursor.within

/-! ## Tokens that wait -/

theorem IsIn.push {from_ to_ : Mark} (h : l.IsIn text) (starts : from_ ≤ text.length)
    (stops : to_ ≤ text.length) : (l.push kind from_ to_).IsIn text :=
  ⟨h.cursor, List.forall_mem_append.2 ⟨h.queue, List.forall_mem_singleton.2 ⟨starts, stops⟩⟩, h.keyStarts⟩

theorem IsIn.pushHere (h : l.IsIn text) : (l.pushHere kind).IsIn text :=
  h.push h.cursor.within h.cursor.within

theorem IsIn.pushIndicator (h : l.IsIn text) (width : Nat) : (l.pushIndicator kind width).IsIn text := by
  have next := h.cursor.advanceBy width
  have pushed : (l.push kind l.cursor.offset (l.cursor.advanceBy width).offset).IsIn text :=
    h.push h.cursor.within next.within
  exact ⟨next, pushed.queue, pushed.keyStarts⟩

theorem IsIn.insertAt {token : Token} (h : l.IsIn text) (number : Nat)
    (within : token.IsWithin text.length) : (l.insertAt number token).IsIn text := by
  refine ⟨h.cursor, fun other member => ?_, h.keyStarts⟩
  rcases List.eq_or_mem_of_mem_insertIdx member with rfl | old
  · exact within
  · exact h.queue other old

theorem IsIn.allowKey (h : l.IsIn text) (allowed : Bool) : (l.allowKey allowed).IsIn text :=
  ⟨h.cursor, h.queue, h.keyStarts⟩

/-! ## Key starts -/

theorem IsIn.filterKeyStarts (h : l.IsIn text) (kept : Nat × KeyStart → Bool) :
    IsIn text { l with keyStarts := l.keyStarts.filter kept } :=
  ⟨h.cursor, h.queue, fun entry member => h.keyStarts entry (List.mem_filter.1 member).1⟩

theorem IsIn.place_of_lookup {depth : Nat} {start : KeyStart} (h : l.IsIn text)
    (found : l.keyStarts.lookup depth = some start) : start.place.IsIn text := by
  obtain ⟨before, after, cut, -⟩ := List.lookup_eq_some_iff.1 found
  exact h.keyStarts (depth, start) (by simp [cut])

theorem IsIn.dropStale (h : l.IsIn text) : Goes text l.dropStale := by
  unfold Lexer.dropStale
  split
  · exact h.refuse
  · exact h.filterKeyStarts _

theorem IsIn.dropKeyStart (h : l.IsIn text) : Goes text l.dropKeyStart := by
  unfold Lexer.dropKeyStart
  split
  · split
    · exact h.refuse
    · exact h.filterKeyStarts _
  · exact h

theorem IsIn.saveKeyStart (h : l.IsIn text) : Goes text l.saveKeyStart := by
  unfold Lexer.saveKeyStart
  split
  · refine h.dropKeyStart.bind fun l' h' => ?_
    exact ⟨h'.cursor, h'.queue,
      List.forall_mem_append.2 ⟨h'.keyStarts, List.forall_mem_singleton.2 h'.cursor⟩⟩
  · exact h

/-! ## Indentation -/

theorem IsIn.unwindTo (h : l.IsIn text) (column : Int) (outer : List Int) :
    (Lexer.unwindTo column outer l).IsIn text := by
  induction outer generalizing l with
  | nil => exact h
  | cons indent rest ih =>
      rw [Lexer.unwindTo]
      split
      · have pushed : (l.pushHere .blockEnd).IsIn text := h.pushHere
        exact ih ⟨pushed.cursor, pushed.queue, pushed.keyStarts⟩
      · exact h

theorem IsIn.unwind (h : l.IsIn text) (column : Int) : (l.unwind column).IsIn text := by
  unfold Lexer.unwind
  split
  · exact h
  · exact h.unwindTo column _

theorem IsIn.addIndent? {column : Nat} {deeper : Lexer} (h : l.IsIn text)
    (opened : l.addIndent? column = some deeper) : deeper.IsIn text := by
  unfold Lexer.addIndent? at opened
  split at opened
  · cases opened
    exact ⟨h.cursor, h.queue, h.keyStarts⟩
  · cases opened

theorem IsIn.openBlock (h : l.IsIn text) (kind : TokenKind) : (l.openBlock kind).IsIn text := by
  unfold Lexer.openBlock
  split
  · next opened => exact (h.addIndent? opened).pushHere
  · exact h

/-- Outside of flow collections a block may be opened. -/
theorem IsIn.openOutside (h : l.IsIn text) (kind : TokenKind) :
    (if l.inFlow then l else l.openBlock kind).IsIn text := by
  split
  · exact h
  · exact h.openBlock kind

/-! ## One token -/

theorem IsIn.toNextToken (h : l.IsIn text) (bound : Nat) : (Lexer.toNextToken bound l).IsIn text := by
  induction bound generalizing l with
  | zero => exact h
  | succ bound ih =>
      have spaced := h.cursor.skip (· == ' ')
      have after : (if (l.cursor.skip (· == ' ')).nextIs (· == '#')
          then (l.cursor.skip (· == ' ')).skip fun c => !isBreak c
          else l.cursor.skip (· == ' ')).IsIn text := by
        split
        · exact spaced.skip _
        · exact spaced
      rw [Lexer.toNextToken]
      split
      · next taken => exact ih ⟨after.lineBreak? taken, h.queue, h.keyStarts⟩
      · exact ⟨after, h.queue, h.keyStarts⟩

/-- A scan's token stops where the scan does, or before. -/
theorem IsIn.take {scan : Scan α} {token : α → TokenKind × Option Mark × Bool} (h : l.IsIn text)
    (scans : Scan.Yields text scan P) (stops : ∀ a, P a → ∀ mark ∈ (token a).2.1, mark ≤ text.length) :
    Goes text (Lexer.take scan token l) := by
  unfold Lexer.take
  refine (scans l.cursor h.cursor).bind fun result held => ?_
  obtain ⟨answer, next⟩ := result
  have stop : (token answer).2.1.getD next.offset ≤ text.length := by
    cases told : (token answer).2.1 with
    | none => exact held.2.within
    | some mark => exact stops answer held.1 mark told
  exact ⟨held.2, (h.push h.cursor.within stop).queue, h.keyStarts⟩

theorem IsIn.takeWhole {scan : Scan α} {token : α → TokenKind × Option Mark × Bool} (h : l.IsIn text)
    (scans : Scan.Keeps text scan) (whole : ∀ a, (token a).2.1 = none) :
    Goes text (Lexer.take scan token l) :=
  h.take scans fun a _ mark told => by simp [whole a] at told

theorem IsIn.fetchEnd (h : l.IsIn text) : Goes text l.fetchEnd := by
  refine (h.unwind (-1)).dropKeyStart.bind fun l' h' => ?_
  have pushed : (l'.pushHere .streamEnd).IsIn text := h'.pushHere
  exact ⟨pushed.cursor, pushed.queue, List.forall_mem_nil _⟩

theorem IsIn.fetchDirective (h : l.IsIn text) : Goes text l.fetchDirective := by
  refine (h.unwind (-1)).dropKeyStart.bind fun l' h' => ?_
  refine h'.take Scan.yields_directive fun answer stop mark told => ?_
  exact Option.some.inj told ▸ stop

theorem IsIn.fetchMarker (h : l.IsIn text) (kind : TokenKind) : Goes text (l.fetchMarker kind) :=
  (h.unwind (-1)).dropKeyStart.bind fun _ h' => (h'.allowKey false).pushIndicator 3

theorem IsIn.atDepth (h : l.IsIn text) (depth : Nat) : IsIn text { l with depth := depth } :=
  ⟨h.cursor, h.queue, h.keyStarts⟩

theorem IsIn.fetchFlowStart (h : l.IsIn text) (kind : TokenKind) : Goes text (l.fetchFlowStart kind) :=
  h.saveKeyStart.bind fun _ h' => ((h'.atDepth _).allowKey true).pushIndicator 1

theorem IsIn.fetchFlowEnd (h : l.IsIn text) (kind : TokenKind) : Goes text (l.fetchFlowEnd kind) :=
  h.dropKeyStart.bind fun _ h' => ((h'.atDepth _).allowKey false).pushIndicator 1

theorem IsIn.fetchFlowEntry (h : l.IsIn text) : Goes text l.fetchFlowEntry :=
  (h.allowKey true).dropKeyStart.bind fun _ h' => h'.pushIndicator 1

/-- Where a block collection may begin, it is opened, and an indicator follows. -/
theorem IsIn.goesOpened {allowed : Bool} (h : l.IsIn text) (opening kind : TokenKind) :
    Goes text (do
      let l ← ((if l.inFlow then l else l.openBlock opening).allowKey allowed).dropKeyStart
      pure (l.pushIndicator kind 1)) :=
  ((h.openOutside opening).allowKey allowed).dropKeyStart.bind fun _ h' => h'.pushIndicator 1

theorem IsIn.fetchBlockEntry (h : l.IsIn text) : Goes text l.fetchBlockEntry := by
  unfold Lexer.fetchBlockEntry
  dsimp only
  split
  · exact h.refuse.bind_never
  · exact h.goesOpened .blockSequenceStart .blockEntry

theorem IsIn.fetchKey (h : l.IsIn text) : Goes text l.fetchKey := by
  unfold Lexer.fetchKey
  dsimp only
  split
  · exact h.refuse.bind_never
  · exact h.goesOpened .blockMappingStart .key

/-- The key's mark and the start of its mapping go where the key began. -/
theorem IsIn.fetchValueOf {start : KeyStart} (h : l.IsIn text) (place : start.place.IsIn text) :
    (l.fetchValueOf start).IsIn text := by
  have here (kind : TokenKind) : Token.IsWithin text.length ⟨kind, start.place.offset, start.place.offset⟩ :=
    ⟨place.within, place.within⟩
  have marked := (h.filterKeyStarts (·.1 != l.depth)).insertAt start.token (here .key)
  unfold Lexer.fetchValueOf
  refine IsIn.allowKey ?_ false
  split
  · exact marked
  · split
    · next opened => exact (marked.addIndent? opened).insertAt _ (here .blockMappingStart)
    · exact marked

theorem IsIn.fetchBareValue (h : l.IsIn text) : Goes text l.fetchBareValue := by
  unfold Lexer.fetchBareValue
  dsimp only
  split
  · exact h.refuse.bind_never
  · exact ((h.openOutside _).allowKey _).dropKeyStart

theorem IsIn.fetchValue (h : l.IsIn text) : Goes text l.fetchValue := by
  unfold Lexer.fetchValue
  dsimp only
  split
  · next found => exact (h.fetchValueOf (h.place_of_lookup found)).pushIndicator 1
  · exact h.fetchBareValue.bind fun _ h' => h'.pushIndicator 1

theorem IsIn.fetchProperty {scan : Scan TokenKind} (h : l.IsIn text) (scans : Scan.Keeps text scan) :
    Goes text (l.fetchProperty scan) :=
  h.saveKeyStart.bind fun _ h' => h'.takeWhole scans fun _ => rfl

theorem IsIn.fetchBlock (h : l.IsIn text) (fold : Bool) : Goes text (l.fetchBlock fold) :=
  (h.allowKey true).dropKeyStart.bind fun _ h' => h'.takeWhole (Scan.keeps_block fold _) fun _ => rfl

theorem IsIn.fetchQuoted (h : l.IsIn text) (double : Bool) : Goes text (l.fetchQuoted double) :=
  h.saveKeyStart.bind fun _ h' => h'.takeWhole (Scan.keeps_quoted double) fun _ => rfl

theorem IsIn.fetchPlain (h : l.IsIn text) : Goes text l.fetchPlain := by
  refine h.saveKeyStart.bind fun l' h' => ?_
  refine h'.take (Scan.yields_plain _ _) fun answer stop mark told => ?_
  exact Option.some.inj told ▸ stop

theorem IsIn.fetchAt (h : l.IsIn text) (c : Char) : Goes text (l.fetchAt c) := by
  have named (kind : String → TokenKind) : Scan.Keeps text (kind <$> Scan.anchorName) :=
    Scan.keeps_anchorName.mapped
  refine ends_ite h.fetchDirective ?_
  refine ends_ite (h.fetchMarker .documentStart) ?_
  refine ends_ite (h.fetchMarker .documentEnd) ?_
  refine ends_ite (h.fetchFlowStart .flowSequenceStart) ?_
  refine ends_ite (h.fetchFlowStart .flowMappingStart) ?_
  refine ends_ite (h.fetchFlowEnd .flowSequenceEnd) ?_
  refine ends_ite (h.fetchFlowEnd .flowMappingEnd) ?_
  refine ends_ite h.fetchFlowEntry ?_
  refine ends_ite h.fetchBlockEntry ?_
  refine ends_ite h.fetchKey ?_
  refine ends_ite h.fetchValue ?_
  refine ends_ite (h.fetchProperty (named .alias)) ?_
  refine ends_ite (h.fetchProperty (named .anchor)) ?_
  refine ends_ite (h.fetchProperty Scan.keeps_tag) ?_
  refine ends_ite (h.fetchBlock false) ?_
  refine ends_ite (h.fetchBlock true) ?_
  refine ends_ite (h.fetchQuoted false) ?_
  refine ends_ite (h.fetchQuoted true) ?_
  exact ends_ite h.fetchPlain h.refuse

theorem IsIn.fetch (h : l.IsIn text) : Goes text l.fetch := by
  have begun : IsIn text (if l.cursor.offset = 0 && l.cursor.nextIs (· == '\uFEFF')
      then { l with cursor := l.cursor.advance } else l) := by
    split
    · exact ⟨h.cursor.advance, h.queue, h.keyStarts⟩
    · exact h
  refine (begun.toNextToken _).dropStale.bind fun l' h' => ?_
  have unwound := h'.unwind l'.cursor.column
  dsimp only
  split
  · exact unwound.fetchEnd
  · exact unwound.fetchAt _

/-! ## Delivery -/

/-- What is delivered lies in the text, whatever the number of steps. -/
theorem IsIn.deliver {sent : List Token} (h : l.IsIn text) (earlier : ∀ token ∈ sent, token.IsWithin text.length)
    (bound : Nat) : (Lexer.deliver bound l sent).IsWithin text.length := by
  have reversed {sent : List Token} (earlier : ∀ token ∈ sent, token.IsWithin text.length) :
      ∀ token ∈ sent.reverse, token.IsWithin text.length :=
    fun token member => earlier token (List.mem_reverse.1 member)
  induction bound generalizing l sent with
  | zero =>
      rw [Lexer.deliver]
      exact ⟨reversed earlier, by simp⟩
  | succ bound ih =>
      have ended {fault : Fault} (within : fault.IsWithin text.length) :
          TokenStream.IsWithin text.length ⟨sent.reverse, some fault⟩ := by
        refine ⟨reversed earlier, fun other told => ?_⟩
        exact Option.some.inj told ▸ within
      have queued := h.queue
      rw [Lexer.deliver]
      split
      · exact ⟨List.forall_mem_append.2 ⟨reversed earlier, queued⟩, by simp⟩
      · split
        · cases next : l.fetch with
          | ok l' => exact ih (h.fetch.of_ok next) earlier
          | error fault => exact ended (h.fetch.of_error next)
        · next token rest waiting =>
          rw [waiting, List.forall_mem_cons] at queued
          cases next : l.dropStale with
          | error fault => exact ended (h.dropStale.of_error next)
          | ok l' =>
              have h' : l'.IsIn text := h.dropStale.of_ok next
              dsimp only
              split
              · cases next' : l'.fetch with
                | ok l'' => exact ih (h'.fetch.of_ok next') earlier
                | error fault => exact ended (h'.fetch.of_error next')
              · exact ih ⟨h'.cursor, queued.2, h'.keyStarts⟩ (List.forall_mem_cons.2 ⟨queued.1, earlier⟩)

end Lexer

/-- The tokens of a text lie in it, and so does the fault that ends them. -/
theorem TokenStream.isWithin_ofText (text : List Char) : (ofText text).IsWithin text.length :=
  (Lexer.isIn_start text).deliver (List.forall_mem_nil _) _

end CookbookRules.Yaml
