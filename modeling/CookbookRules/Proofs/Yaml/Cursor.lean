import CookbookRules.Yaml.Cursor

/-!
# Places in a text

A cursor that moves on from the start of a text stays in the text: what follows it is what the text has
behind its offset, and its line is told by the line breaks before it. So the line that a scan counts as it
goes is the line of its mark, and the lines of a text are numbered from one to one more than its breaks.
-/

namespace CookbookRules.Yaml

/-- A place in a text. -/
structure Cursor.IsIn (text : List Char) (c : Cursor) : Prop where
  rest : c.rest = text.drop c.offset
  within : c.offset ≤ text.length
  line : c.line = breaksBefore c.offset text

variable {text cs rest : List Char} {c next : Cursor} {ch : Char} {n : Nat} {mark : Mark}

/-- One character on, there is one more line break before the place if the character ends its line. -/
theorem breaksBefore_succ (h : text.drop n = ch :: rest) :
    breaksBefore (n + 1) text = breaksBefore n text + if endsLine ch rest then 1 else 0 := by
  induction n generalizing text with
  | zero =>
      rw [List.drop_zero] at h
      subst h
      simp [breaksBefore]
  | succ n ih =>
      cases text with
      | nil => simp at h
      | cons first others =>
          rw [List.drop_succ_cons] at h
          rw [breaksBefore, ih h, breaksBefore, Nat.add_assoc]

/-- A mark has one of the lines of the text. -/
theorem lineAt_bounds (text : List Char) (mark : Mark) :
    1 ≤ lineAt text mark ∧ lineAt text mark ≤ breakCount text + 1 :=
  ⟨Nat.succ_pos _, Nat.succ_le_succ (breaksBefore_le_breakCount mark text)⟩

namespace Cursor

theorem isIn_start (text : List Char) : (start text).IsIn text :=
  ⟨rfl, Nat.zero_le _, by rw [start, breaksBefore]⟩

/-- One character on, the offset is one more, and the line if the character ends its line. -/
theorem advance_of_rest (there : c.rest = ch :: rest) : c.advance.offset = c.offset + 1 ∧
    c.advance.line = c.line + if endsLine ch rest then 1 else 0 := by
  unfold Cursor.advance
  split
  · next empty => cases empty.symm.trans there
  · next other behind there' =>
    cases there.symm.trans there'
    split
    · exact ⟨rfl, rfl⟩
    · exact ⟨rfl, rfl⟩

theorem advance_of_nil (there : c.rest = []) : c.advance = c := by
  unfold Cursor.advance
  split
  · rfl
  · next behind => cases there.symm.trans behind

theorem IsIn.advance (h : c.IsIn text) : c.advance.IsIn text := by
  cases there : c.rest with
  | nil => rwa [advance_of_nil there]
  | cons ch rest =>
      obtain ⟨offset, line⟩ := advance_of_rest there
      have behind : text.drop c.offset = ch :: rest := h.rest ▸ there
      refine ⟨?_, ?_, ?_⟩
      · rw [advance_rest, offset, h.rest, List.tail_drop]
      · rw [offset, Nat.add_one_le_iff, ← Nat.not_le, ← List.drop_eq_nil_iff, behind]
        exact List.cons_ne_nil _ _
      · rw [line, offset, breaksBefore_succ behind, h.line]

theorem IsIn.advanceBy (h : c.IsIn text) (n : Nat) : (c.advanceBy n).IsIn text := by
  induction n generalizing c with
  | zero => exact h
  | succ n ih => exact ih h.advance

theorem IsIn.span (h : c.IsIn text) (test : Char → Bool) : (c.span test).2.IsIn text :=
  h.advanceBy _

theorem IsIn.skip (h : c.IsIn text) (test : Char → Bool) : (c.skip test).IsIn text :=
  h.span test

theorem IsIn.lineBreak? (h : c.IsIn text) (taken : c.lineBreak? = some (ch, next)) : next.IsIn text := by
  unfold Cursor.lineBreak? at taken
  split at taken
  · cases taken
    exact h.advanceBy 2
  · split at taken
    · cases taken
      exact h.advance
    · split at taken
      · cases taken
        exact h.advance
      · cases taken
  · cases taken

end Cursor

end CookbookRules.Yaml
