import CookbookRules.Proofs.Yaml.Cursor
import CookbookRules.Proofs.Yaml.Steps
import CookbookRules.Yaml.Token.Scalar

/-!
# Scans stay in the text

Each scan moves a cursor from one place of a text to another, and gives up at a place of it.
-/

namespace CookbookRules.Yaml.Scan

/-- A scan goes from place to place of a text, gives up at a place of it, and what it answers has a property. -/
abbrev Yields {α : Type} (text : List Char) (scan : Scan α) (P : α → Prop) : Prop :=
  Stays text.length (Cursor.IsIn text) scan P

/-- A scan goes from place to place of a text and gives up at a place of it. -/
abbrev Keeps {α : Type} (text : List Char) (scan : Scan α) : Prop := Yields text scan fun _ => True

variable {text : List Char} {α β : Type} {P : α → Prop} {Q : β → Prop} {next : α → Scan β}

theorem yields_refuse : Yields text refuse P :=
  stays_get.bind fun _ isIn => stays_throw isIn.within

theorem keeps_advance : Keeps text (move Cursor.advance) :=
  stays_modify fun _ isIn => isIn.advance

theorem keeps_advanceBy (n : Nat) : Keeps text (move (Cursor.advanceBy n)) :=
  stays_modify fun _ isIn => isIn.advanceBy n

theorem keeps_skip (test : Char → Bool) : Keeps text (move (·.skip test)) :=
  stays_modify fun _ isIn => isIn.skip test

theorem keeps_run (test : Char → Bool) : Keeps text (run test) :=
  fun _ isIn => ⟨trivial, isIn.span test⟩

theorem keeps_spaces : Keeps text spaces :=
  keeps_skip _

theorem keeps_require (test : Option Char → Bool) : Keeps text (require test) := by
  unfold require
  refine stays_get.bind fun c isIn => ?_
  split
  · exact stays_pure trivial
  · exact yields_refuse

theorem keeps_lineBreak? : Keeps text lineBreak? := by
  unfold lineBreak?
  refine stays_get.bind fun c isIn => ?_
  split
  · next taken => exact (stays_set (isIn.lineBreak? taken)).bind fun _ _ => stays_pure trivial
  · exact stays_pure trivial

theorem keeps_restOfLine : Keeps text restOfLine := by
  unfold restOfLine
  refine keeps_spaces.bind fun _ _ => stays_get.bind fun c _ => ?_
  have onward : Keeps text (do require atLineEnd; let _ ← lineBreak?) :=
    (keeps_require _).bind fun _ _ => keeps_lineBreak?.bind fun _ _ => stays_pure trivial
  dsimp only
  split
  · exact (keeps_skip _).bind fun _ _ => onward
  · exact onward

theorem keeps_name : Keeps text name := by
  unfold name
  refine (keeps_run _).bind fun cs _ => ?_
  dsimp only
  split
  · exact yields_refuse.bind_never
  · exact stays_pure trivial

theorem keeps_anchorName : Keeps text anchorName := by
  unfold anchorName
  refine keeps_advance.bind fun _ _ => keeps_name.bind fun _ _ => ?_
  exact (keeps_require _).bind fun _ _ => stays_pure trivial

/-! ## Tags and directives -/

theorem keeps_hexNumber (width : Nat) : Keeps text (hexNumber width) := by
  unfold hexNumber
  refine stays_get.bind fun c _ => ?_
  dsimp only
  split
  · split
    · exact yields_refuse.bind_never
    · exact (keeps_advanceBy width).bind fun _ _ => stays_pure trivial
  · exact yields_refuse

theorem keeps_escapedBytes (bound : Nat) : Keeps text (escapedBytes bound) := by
  induction bound with
  | zero => exact stays_pure trivial
  | succ bound ih =>
      unfold escapedBytes
      refine stays_get.bind fun c _ => ?_
      split
      · refine keeps_advance.bind fun _ _ => (keeps_hexNumber 2).bind fun _ _ => ?_
        exact ih.bind fun _ _ => stays_pure trivial
      · exact stays_pure trivial

theorem keeps_escapes : Keeps text escapes := by
  unfold escapes
  refine stays_get.bind fun c isIn => (keeps_escapedBytes _).bind fun bytes _ => ?_
  split
  · exact stays_pure trivial
  · exact stays_throw isIn.within

theorem keeps_uriChars (bound : Nat) : Keeps text (uriChars bound) := by
  induction bound with
  | zero => exact stays_pure trivial
  | succ bound ih =>
      unfold uriChars
      refine stays_get.bind fun c _ => ?_
      split
      · exact (keeps_run _).bind fun _ _ => ih.bind fun _ _ => stays_pure trivial
      · split
        · exact keeps_escapes.bind fun _ _ => ih.bind fun _ _ => stays_pure trivial
        · exact stays_pure trivial

theorem keeps_uri : Keeps text uri := by
  unfold uri
  refine stays_get.bind fun c _ => (keeps_uriChars _).bind fun cs _ => stays_get.bind fun after _ => ?_
  dsimp only
  split
  · exact yields_refuse.bind_never
  · exact stays_pure trivial

theorem keeps_handle : Keeps text handle := by
  unfold handle
  refine (keeps_require _).bind fun _ _ => keeps_advance.bind fun _ _ => stays_get.bind fun c _ => ?_
  split
  · exact stays_pure trivial
  · refine (keeps_run _).bind fun cs _ => (keeps_require _).bind fun _ _ => ?_
    exact keeps_advance.bind fun _ _ => stays_pure trivial

theorem keeps_tag : Keeps text tag := by
  unfold tag
  refine stays_get.bind fun c isIn => ?_
  have onward (kind : TokenKind) : Keeps text (pure kind >>= fun kind => do require atSpace; pure kind) :=
    (keeps_require _).bind fun _ _ => stays_pure trivial
  dsimp only
  split
  · refine (stays_set isIn.advance.advance).bind fun _ _ => keeps_uri.bind fun suffix _ => ?_
    exact (keeps_require _).bind fun _ _ => keeps_advance.bind fun _ _ => onward _
  · split
    · exact (stays_set isIn.advance).bind fun _ _ => onward _
    · split
      · exact keeps_handle.bind fun _ _ => keeps_uri.bind fun _ _ => onward _
      · exact (stays_set isIn.advance).bind fun _ _ => keeps_uri.bind fun _ _ => onward _

theorem keeps_directiveNumber : Keeps text directiveNumber := by
  unfold directiveNumber
  refine (keeps_run _).bind fun digits _ => ?_
  dsimp only
  split
  · exact yields_refuse.bind_never
  · split
    · exact (stays_throw_scalar _).bind_never
    · exact stays_pure trivial

/-- A directive stops at a place of the text. -/
theorem yields_directive : Yields text directive (·.2 ≤ text.length) := by
  unfold directive
  refine keeps_advance.bind fun _ _ => keeps_name.bind fun word _ => (keeps_require _).bind fun _ _ => ?_
  have onward (kind : TokenKind) : Yields text (pure kind >>= fun kind => do
      let stop := (← get).offset
      if kind = .otherDirective then move (·.skip fun c => !isBreak c)
      restOfLine
      pure (kind, stop)) (·.2 ≤ text.length) := by
    refine Stays.bind (P := fun _ => True) (stays_pure trivial) fun kind _ => ?_
    refine stays_get.bind fun c isIn => ?_
    dsimp only
    split
    · exact (keeps_skip _).bind fun _ _ => keeps_restOfLine.bind fun _ _ => stays_pure isIn.within
    · exact keeps_restOfLine.bind fun _ _ => stays_pure isIn.within
  dsimp only at onward ⊢
  split
  · refine keeps_spaces.bind fun _ _ => keeps_directiveNumber.bind fun _ _ => ?_
    refine (keeps_require _).bind fun _ _ => keeps_advance.bind fun _ _ => ?_
    exact keeps_directiveNumber.bind fun _ _ => (keeps_require _).bind fun _ _ => onward _
  · split
    · refine keeps_spaces.bind fun _ _ => keeps_handle.bind fun _ _ => (keeps_require _).bind fun _ _ => ?_
      refine keeps_spaces.bind fun _ _ => keeps_uri.bind fun _ _ => ?_
      exact (keeps_require _).bind fun _ _ => onward _
    · exact onward _

/-! ## Plain scalars -/

theorem keeps_plainBreaks (bound : Nat) : Keeps text (plainBreaks bound) := by
  induction bound with
  | zero => exact stays_pure trivial
  | succ bound ih =>
      unfold plainBreaks
      refine stays_get.bind fun c _ => ?_
      split
      · exact keeps_advance.bind fun _ _ => ih
      · refine keeps_lineBreak?.bind fun taken _ => ?_
        split
        · exact stays_pure trivial
        · refine stays_get.bind fun c _ => ?_
          split
          · exact stays_pure trivial
          · exact ih.bind fun _ _ => stays_pure trivial

theorem keeps_plainSpace : Keeps text plainSpace := by
  unfold plainSpace
  refine (keeps_run _).bind fun whites _ => keeps_lineBreak?.bind fun taken _ => ?_
  split
  · exact stays_pure trivial
  · refine stays_get.bind fun c _ => ?_
    split
    · exact stays_pure trivial
    · refine (keeps_plainBreaks _).bind fun others _ => ?_
      split
      · exact stays_pure trivial
      · exact stays_pure trivial

theorem yields_plainWords {flow : Bool} {indent bound : Nat} {gap : List Char} {stop : Mark} {broken : Bool}
    (within : stop ≤ text.length) :
    Yields text (plainWords flow indent bound gap stop broken) (·.2.1 ≤ text.length) := by
  induction bound generalizing gap stop broken with
  | zero => exact stays_pure within
  | succ bound ih =>
      unfold plainWords
      refine stays_get.bind fun c _ => ?_
      dsimp only
      generalize (if c.nextIs (· == '#') then [] else plainWord flow c.rest) = word
      split
      · exact stays_pure within
      · refine (keeps_advanceBy _).bind fun _ _ => stays_get.bind fun c isIn => ?_
        refine keeps_plainSpace.bind fun space _ => stays_get.bind fun after _ => ?_
        split
        · exact stays_pure isIn.within
        · exact (ih isIn.within).bind fun answer later => stays_pure later

/-- A plain scalar stops at a place of the text. -/
theorem yields_plain (flow : Bool) (indent : Nat) : Yields text (plain flow indent) (·.2.1 ≤ text.length) := by
  unfold plain
  refine stays_get.bind fun c isIn => ?_
  exact (yields_plainWords isIn.within).bind fun answer within => stays_pure within

/-! ## Quoted scalars -/

theorem keeps_numbered (width : Nat) : Keeps text (numbered width) := by
  unfold numbered
  refine (keeps_hexNumber width).bind fun code _ => ?_
  dsimp only
  split
  · exact (stays_throw_scalar _).bind_never
  · exact stays_pure trivial

theorem keeps_quotedBreaks (bound : Nat) : Keeps text (quotedBreaks bound) := by
  induction bound with
  | zero => exact stays_pure trivial
  | succ bound ih =>
      unfold quotedBreaks
      refine stays_get.bind fun c _ => ?_
      dsimp only
      split
      · exact yields_refuse.bind_never
      · refine (keeps_run _).bind fun _ _ => keeps_lineBreak?.bind fun taken _ => ?_
        split
        · exact ih.bind fun _ _ => stays_pure trivial
        · exact stays_pure trivial

theorem keeps_escape : Keeps text escape := by
  unfold escape
  refine stays_get.bind fun c _ => ?_
  split
  · exact yields_refuse
  · split
    · exact keeps_advance.bind fun _ _ => stays_pure trivial
    · exact keeps_advance.bind fun _ _ => (keeps_numbered _).bind fun _ _ => stays_pure trivial
    · refine keeps_lineBreak?.bind fun taken _ => ?_
      split
      · exact (keeps_quotedBreaks _).mapped
      · exact yields_refuse

theorem keeps_quotedInside (double : Bool) (bound : Nat) : Keeps text (quotedInside double bound) := by
  induction bound with
  | zero => exact yields_refuse
  | succ bound ih =>
      have onward (codes : List Nat) : Keeps text (do pure (codes ++ (← quotedInside double bound))) :=
        ih.bind fun _ _ => stays_pure trivial
      unfold quotedInside
      generalize (if double then '"' else '\'') = quote
      refine stays_get.bind fun c _ => ?_
      dsimp only
      split
      · exact yields_refuse
      · split
        · refine (keeps_run _).bind fun space _ => stays_get.bind fun after _ => ?_
          split
          · exact yields_refuse.bind_never
          · refine keeps_lineBreak?.bind fun taken _ => ?_
            split
            · exact (keeps_quotedBreaks _).bind fun _ _ => onward _
            · exact onward _
        · split
          · exact (keeps_advanceBy 2).bind fun _ _ => onward [_]
          · split
            · exact keeps_advance.bind fun _ _ => stays_pure trivial
            · split
              · exact keeps_advance.bind fun _ _ => keeps_escape.bind fun _ _ => onward _
              · split
                · exact (keeps_run _).bind fun _ _ => onward _
                · exact keeps_advance.bind fun _ _ => onward [_]

theorem keeps_quoted (double : Bool) : Keeps text (quoted double) := by
  unfold quoted
  refine keeps_advance.bind fun _ _ => stays_get.bind fun c _ => ?_
  exact (keeps_quotedInside double _).bind fun _ _ => stays_pure trivial

/-! ## Block scalars -/

theorem keeps_chomping? : Keeps text chomping? := by
  unfold chomping?
  refine stays_get.bind fun c _ => ?_
  split
  · exact keeps_advance.bind fun _ _ => stays_pure trivial
  · refine stays_get.bind fun c _ => ?_
    split
    · exact keeps_advance.bind fun _ _ => stays_pure trivial
    · exact stays_pure trivial

theorem keeps_increment? : Keeps text increment? := by
  unfold increment?
  refine stays_get.bind fun c _ => ?_
  split
  · split
    · dsimp only
      split
      · exact yields_refuse.bind_never
      · exact keeps_advance.bind fun _ _ => stays_pure trivial
    · exact stays_pure trivial
  · exact stays_pure trivial

theorem keeps_blockIndicators : Keeps text blockIndicators := by
  unfold blockIndicators
  have onward (result : Chomping × Option Nat) : Keeps text (do require atSpace; pure result) :=
    (keeps_require _).bind fun _ _ => stays_pure trivial
  refine keeps_chomping?.bind fun chomping _ => ?_
  dsimp only
  split
  · exact keeps_increment?.bind fun _ _ => onward _
  · refine keeps_increment?.bind fun increment _ => ?_
    split
    · exact keeps_chomping?.bind fun _ _ => onward _
    · exact onward _

theorem keeps_blockIndentation (bound widest : Nat) : Keeps text (blockIndentation bound widest) := by
  induction bound generalizing widest with
  | zero => exact stays_pure trivial
  | succ bound ih =>
      unfold blockIndentation
      refine stays_get.bind fun c _ => ?_
      split
      · exact keeps_advance.bind fun _ _ => stays_get.bind fun c _ => ih _
      · refine keeps_lineBreak?.bind fun taken _ => ?_
        split
        · exact (ih _).bind fun _ _ => stays_pure trivial
        · exact stays_pure trivial

theorem keeps_indentTo (indent : Nat) : Keeps text (indentTo indent) :=
  stays_modify fun _ isIn => isIn.advanceBy _

theorem keeps_blockBreaks (indent bound : Nat) : Keeps text (blockBreaks indent bound) := by
  induction bound with
  | zero => exact stays_pure trivial
  | succ bound ih =>
      unfold blockBreaks
      refine (keeps_indentTo indent).bind fun _ _ => keeps_lineBreak?.bind fun taken _ => ?_
      split
      · exact ih.bind fun _ _ => stays_pure trivial
      · exact stays_pure trivial

theorem keeps_blockLines (fold : Bool) (indent bound : Nat) (breaks : List Char) :
    Keeps text (blockLines fold indent bound breaks) := by
  induction bound generalizing breaks with
  | zero => exact stays_pure trivial
  | succ bound ih =>
      unfold blockLines
      refine stays_get.bind fun c _ => ?_
      dsimp only
      split
      · refine (keeps_run _).bind fun line _ => keeps_lineBreak?.bind fun lineEnd _ => ?_
        refine (keeps_blockBreaks indent _).bind fun after _ => stays_get.bind fun next _ => ?_
        split
        · exact (ih _).bind fun _ _ => stays_pure trivial
        · exact stays_pure trivial
      · exact stays_pure trivial

theorem keeps_block (fold : Bool) (indent : Nat) : Keeps text (block fold indent) := by
  unfold block
  refine keeps_advance.bind fun _ _ => keeps_blockIndicators.bind fun indicators _ => ?_
  refine keeps_restOfLine.bind fun _ _ => stays_get.bind fun c _ => ?_
  dsimp only
  split
  · refine (keeps_blockIndentation _ _).bind fun found _ => ?_
    refine Stays.bind (P := fun _ => True) (stays_pure trivial) fun _ _ => ?_
    exact (keeps_blockLines fold _ _ _).bind fun _ _ => stays_pure trivial
  · refine (keeps_blockBreaks _ _).bind fun found _ => ?_
    refine Stays.bind (P := fun _ => True) (stays_pure trivial) fun _ _ => ?_
    exact (keeps_blockLines fold _ _ _).bind fun _ _ => stays_pure trivial

end CookbookRules.Yaml.Scan
