import Mathlib.Data.List.Forall2
import ScrobbleRelay.Proofs.Text.Trimmed
import ScrobbleRelay.Text.Lines

/-!
# The trimmed lines of a text

A text is cut at its line feeds.  Where its lines are trimmed, and a line that
is not there counts as an empty one, three things about a text do not matter:
which of the two endings its lines have, whether its last line has an ending
at all, and blanks at the ends of lines.  What stands after a line feed does
not matter for the lines before it.
-/

namespace ScrobbleRelay.Text

/-! ## Texts by their pieces -/

/-- A text is a last piece, or a piece with a separator and a text after it. -/
theorem pieces_induction (sep : Char) {P : List Char → Prop}
    (last : ∀ cs, sep ∉ cs → P cs)
    (more : ∀ l rest, sep ∉ l → P rest → P (l ++ sep :: rest))
    (cs : List Char) : P cs := by
  by_cases h : sep ∈ cs
  · obtain ⟨l, rest, hcs, hl⟩ := List.eq_append_cons_of_mem h
    rw [hcs]
    exact more l rest hl (pieces_induction sep last more rest)
  · exact last cs h
termination_by cs.length
decreasing_by
  rw [hcs, List.length_append, List.length_cons]
  omega

theorem notMem_of_mem_splitOn {sep : Char} {cs piece : List Char}
    (h : piece ∈ cs.splitOn sep) : sep ∉ piece := by
  induction cs using pieces_induction sep with
  | last cs hcs =>
      rw [List.splitOn_eq_singleton hcs, List.mem_singleton] at h
      rwa [h]
  | more l rest hl ih =>
      rw [List.splitOn_append_cons_self_of_not_mem hl, List.mem_cons] at h
      rcases h with rfl | h
      · exact hl
      · exact ih h

/-- A character of a text is a separator or stands in a piece. -/
theorem eq_or_exists_mem_splitOn (sep : Char) {cs : List Char} {c : Char}
    (h : c ∈ cs) : c = sep ∨ ∃ piece ∈ cs.splitOn sep, c ∈ piece := by
  induction cs using pieces_induction sep with
  | last cs hcs =>
      rw [List.splitOn_eq_singleton hcs]
      exact .inr ⟨cs, List.mem_singleton_self cs, h⟩
  | more l rest hl ih =>
      rw [List.splitOn_append_cons_self_of_not_mem hl]
      rw [List.mem_append, List.mem_cons] at h
      rcases h with hmem | rfl | hmem
      · exact .inr ⟨l, List.mem_cons_self, hmem⟩
      · exact .inl rfl
      · rcases ih hmem with hsep | ⟨piece, hpiece, hc⟩
        · exact .inl hsep
        · exact .inr ⟨piece, List.mem_cons_of_mem l hpiece, hc⟩

/-! ## The lines that are read -/

/-- The line at a place without the blanks at its ends; a line that is not
there is empty. -/
def lineAt (cs : List Char) (i : Nat) : List Char :=
  trimChars ((cs.splitOn '\n')[i]?.getD [])

theorem blanks_return : Blanks ['\r'] := by
  intro c hc
  rw [List.mem_singleton] at hc
  rw [hc]
  rfl

/-- The carriage return of a line ending is one of the blanks at its end. -/
theorem trimChars_withoutReturn (line : List Char) :
    trimChars (withoutReturn line) = trimChars line := by
  unfold withoutReturn
  split
  next rest hrest =>
    have hline : line = rest.reverse ++ ['\r'] := by
      rw [← List.reverse_cons, ← hrest, List.reverse_reverse]
    rw [hline, trimChars_append_blanks blanks_return]
  next => rfl

/-- The lines that are read differ from the pieces between line feeds in
blanks at their ends, and in an empty piece at the end of the text. -/
theorem trimChars_linesFrom (line cs : List Char) (i : Nat) :
    trimChars ((linesFrom line cs)[i]?.getD []) =
      trimChars ((cs.splitOnPPrepend (· == '\n') line)[i]?.getD []) := by
  induction cs generalizing line i with
  | nil =>
      rw [linesFrom, List.splitOnPPrepend_nil]
      cases line with
      | nil => cases i <;> rfl
      | cons c line => rfl
  | cons c cs ih =>
      by_cases hc : c = '\n'
      · subst hc
        rw [linesFrom, List.splitOnPPrepend_cons_pos (by rfl)]
        cases i with
        | zero => exact trimChars_withoutReturn line.reverse
        | succ i => exact ih [] i
      · rw [linesFrom, List.splitOnPPrepend_cons_neg (by simpa using hc)]
        · exact ih (c :: line) i
        · exact hc

theorem getElem?_lines_trim (s : String) (i : Nat) :
    ((lines s).map trim)[i]?.getD "" = String.ofList (lineAt s.toList i) := by
  have hline : trimChars ((charLines s.toList)[i]?.getD []) =
      lineAt s.toList i :=
    trimChars_linesFrom [] s.toList i
  rw [← hline, lines, List.getElem?_map, List.getElem?_map]
  cases (charLines s.toList)[i]? with
  | none => rfl
  | some line => simp [trim]

theorem lineAt_eq_iff {cs text : List Char} {i : Nat} (hne : text ≠ []) :
    lineAt cs i = text ↔
      ∃ line, (cs.splitOn '\n')[i]? = some line ∧ TrimsTo line text := by
  rw [lineAt]
  cases (cs.splitOn '\n')[i]? with
  | none =>
      refine iff_of_false (fun h => hne h.symm) ?_
      rintro ⟨line, hline, -⟩
      cases hline
  | some line =>
      rw [Option.getD_some, trimChars_eq_iff]
      constructor
      · intro h
        exact ⟨line, rfl, h⟩
      · rintro ⟨_, ⟨⟩, h⟩
        exact h

/-! ## Texts by their lines -/

section ByLines

variable {l cs : List Char}

@[simp] theorem lineAt_nil (i : Nat) : lineAt [] i = [] := by
  cases i <;> rfl

theorem lineAt_last_zero (h : '\n' ∉ cs) : lineAt cs 0 = trimChars cs := by
  rw [lineAt, List.splitOn_eq_singleton h]
  rfl

theorem lineAt_last_succ (h : '\n' ∉ cs) (i : Nat) : lineAt cs (i + 1) = [] := by
  rw [lineAt, List.splitOn_eq_singleton h]
  rfl

theorem lineAt_line_zero (h : '\n' ∉ l) (rest : List Char) :
    lineAt (l ++ '\n' :: rest) 0 = trimChars l := by
  rw [lineAt, List.splitOn_append_cons_self_of_not_mem h]
  rfl

theorem lineAt_line_succ (h : '\n' ∉ l) (rest : List Char) (i : Nat) :
    lineAt (l ++ '\n' :: rest) (i + 1) = lineAt rest i := by
  rw [lineAt, List.splitOn_append_cons_self_of_not_mem h]
  rfl

end ByLines

/-! ## What does not matter -/

def LineEnding (e : List Char) : Prop := e = ['\n'] ∨ e = ['\r', '\n']

/-- A text with some of its line endings switched from one to the other. -/
inductive Reended : List Char → List Char → Prop
  | rest (cs : List Char) : Reended cs cs
  | line {l e e' cs cs' : List Char} : '\n' ∉ l → LineEnding e → LineEnding e' →
      Reended cs cs' → Reended (l ++ e ++ cs) (l ++ e' ++ cs')

/-- A line with more blanks at its ends. -/
def Widened (l l' : List Char) : Prop :=
  ∃ front back, Blanks front ∧ Blanks back ∧ l' = front ++ l ++ back

/-- A text with more blanks at the ends of its lines. -/
def Respaced (cs cs' : List Char) : Prop :=
  List.Forall₂ Widened (cs.splitOn '\n') (cs'.splitOn '\n')

variable {l e cs cs' : List Char}

/-- A line ending ends a line and nothing more, once the line is trimmed. -/
theorem LineEnding.lineAt_append (he : LineEnding e) (hl : '\n' ∉ l)
    (rest : List Char) :
    lineAt (l ++ e ++ rest) 0 = trimChars l ∧
      ∀ i, lineAt (l ++ e ++ rest) (i + 1) = lineAt rest i := by
  rcases he with rfl | rfl
  · rw [List.append_assoc]
    exact ⟨lineAt_line_zero hl rest, lineAt_line_succ hl rest⟩
  · have hreturn : '\n' ∉ l ++ ['\r'] := by
      simp [hl]
    have hcut : l ++ ['\r', '\n'] ++ rest = (l ++ ['\r']) ++ '\n' :: rest := by
      simp
    rw [hcut, lineAt_line_zero hreturn, trimChars_append_blanks blanks_return]
    exact ⟨rfl, lineAt_line_succ hreturn rest⟩

theorem Reended.lineAt_eq (h : Reended cs cs') (i : Nat) :
    lineAt cs i = lineAt cs' i := by
  induction h generalizing i with
  | rest cs => rfl
  | line hl he he' _ ih =>
      have hold := he.lineAt_append hl
      have hnew := he'.lineAt_append hl
      cases i with
      | zero => rw [(hold _).1, (hnew _).1]
      | succ i => rw [(hold _).2, (hnew _).2, ih]

theorem Widened.trimChars_eq {l l' : List Char} (h : Widened l l') :
    trimChars l = trimChars l' := by
  obtain ⟨front, back, hfront, hback, rfl⟩ := h
  exact (trimChars_between hfront hback l).symm

theorem Respaced.lineAt_eq (h : Respaced cs cs') (i : Nat) :
    lineAt cs i = lineAt cs' i := by
  unfold Respaced at h
  unfold lineAt
  generalize cs.splitOn '\n' = ls at h ⊢
  generalize cs'.splitOn '\n' = ls' at h ⊢
  induction h generalizing i with
  | nil => rfl
  | cons hline _ ih =>
      cases i with
      | zero => exact hline.trimChars_eq
      | succ i => exact ih i

theorem LineEnding.lineAt_last (he : LineEnding e) (cs : List Char) (i : Nat) :
    lineAt (cs ++ e) i = lineAt cs i := by
  induction cs using pieces_induction '\n' generalizing i with
  | last cs hcs =>
      have hend := he.lineAt_append hcs []
      rw [List.append_nil] at hend
      cases i with
      | zero => rw [hend.1, lineAt_last_zero hcs]
      | succ i => rw [hend.2, lineAt_last_succ hcs, lineAt_nil]
  | more l rest hl ih =>
      rw [List.append_assoc, List.cons_append]
      cases i with
      | zero => rw [lineAt_line_zero hl, lineAt_line_zero hl]
      | succ i => rw [lineAt_line_succ hl, lineAt_line_succ hl, ih]

theorem lineAt_append_of_lt_count {i : Nat} (h : i < cs.count '\n')
    (more : List Char) : lineAt (cs ++ more) i = lineAt cs i := by
  induction cs using pieces_induction '\n' generalizing i with
  | last cs hcs =>
      rw [List.count_eq_zero_of_not_mem hcs] at h
      exact absurd h (Nat.not_lt_zero i)
  | more l rest hl ih =>
      rw [List.append_assoc, List.cons_append]
      cases i with
      | zero => rw [lineAt_line_zero hl, lineAt_line_zero hl]
      | succ i =>
          rw [List.count_append, List.count_eq_zero_of_not_mem hl,
            List.count_cons_self] at h
          rw [lineAt_line_succ hl, lineAt_line_succ hl, ih (by omega)]

end ScrobbleRelay.Text
