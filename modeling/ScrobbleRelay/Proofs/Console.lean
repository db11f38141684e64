import ScrobbleRelay.Console
import ScrobbleRelay.Proofs.Ends
import ScrobbleRelay.Proofs.Text.Trimmed

/-!
# What is typed on a console

A question that is answered takes one line off the input, and its answer is the
text of that line without the blanks at its ends.  At the end of the input the
line and the answer are empty.
-/

namespace ScrobbleRelay.Console

/-- Bytes are the first line of an input, with other bytes after them: the line
goes up to the first line feed, or to the end where there is none. -/
def IsLine (line after : List UInt8) : Prop :=
  (∃ front, 10 ∉ front ∧ line = front ++ [10]) ∨ (10 ∉ line ∧ after = [])

/-- A line gives an answer: it is the UTF-8 form of a text, which trims to the
answer. -/
def Gives (line : List UInt8) (answer : String) : Prop :=
  ∃ text, String.fromUTF8? (ByteArray.mk line.toArray) = some text ∧
    Text.TrimsTo text.toList answer.toList

/-- The first two lines that are typed give two answers. -/
def GivesBoth (c : Console) (first second : String) : Prop :=
  ∃ line next rest, c.input = line ++ (next ++ rest) ∧
    IsLine line (next ++ rest) ∧ IsLine next rest ∧
    Gives line first ∧ Gives next second

theorem splitLine_isLine (input : List UInt8) :
    (splitLine input).1 ++ (splitLine input).2 = input ∧
      IsLine (splitLine input).1 (splitLine input).2 := by
  induction input with
  | nil => exact ⟨rfl, .inr ⟨List.not_mem_nil, rfl⟩⟩
  | cons b rest ih =>
      by_cases hb : b = 10
      · subst hb
        exact ⟨rfl, .inl ⟨[], List.not_mem_nil, rfl⟩⟩
      · have hsplit : splitLine (b :: rest) =
            (b :: (splitLine rest).1, (splitLine rest).2) := by
          rw [splitLine, if_neg hb]
        obtain ⟨hwhole, hline⟩ := ih
        rw [hsplit]
        refine ⟨congrArg (b :: ·) hwhole, ?_⟩
        have hb' : (10 : UInt8) ≠ b := Ne.symm hb
        rcases hline with ⟨front, hfront, hline⟩ | ⟨hline, hend⟩
        · left
          refine ⟨b :: front, by simp [hb', hfront], ?_⟩
          rw [hline, List.cons_append]
        · exact .inr ⟨by simp [hb', hline], hend⟩

variable {label text answer : String} {c c' : Console}

theorem readLine_done (h : readLine.Ends c (.done text) c') :
    c'.input = (splitLine c.input).2 ∧
      String.fromUTF8? (ByteArray.mk (splitLine c.input).1.toArray) =
        some text := by
  have h := Task.Ends.of_world_bind h
  cases hsplit : splitLine c.input with
  | mk line after =>
  simp only [hsplit] at h
  have h := Task.Ends.of_change_bind h
  cases htext : String.fromUTF8? (ByteArray.mk line.toArray) with
  | none =>
      rw [htext] at h
      cases h.1
  | some taken =>
      rw [htext] at h
      obtain ⟨htaken, rfl⟩ := h
      obtain rfl := Ending.done.inj htaken
      exact ⟨rfl, rfl⟩

/-- A question that is answered takes one line, which gives the answer. -/
theorem ask_done (h : (ask label).Ends c (.done answer) c') :
    ∃ line, c.input = line ++ c'.input ∧ IsLine line c'.input ∧
      Gives line answer := by
  have h := Task.Ends.of_change_bind h
  obtain ⟨text, read, hread, hpure⟩ := h.of_bind_done
  obtain rfl := Ending.done.inj hpure.1
  obtain rfl : read = c' := hpure.2
  obtain ⟨hrest, htext⟩ := readLine_done hread
  obtain ⟨hwhole, hline⟩ := splitLine_isLine c.input
  have hanswer : Text.TrimsTo text.toList (Text.trim text).toList := by
    rw [Text.trim, String.toList_ofList]
    exact Text.trimChars_eq_iff.mp rfl
  refine ⟨(splitLine c.input).1, ?_, ?_, text, htext, hanswer⟩
  · rw [hrest]
    exact hwhole.symm
  · rw [hrest]
    exact hline

/-- Two questions that are answered, one after the other, take two lines. -/
theorem givesBoth_of_asks {other next : String} {c'' : Console}
    (hfirst : (ask label).Ends c (.done answer) c')
    (hsecond : (ask other).Ends c' (.done next) c'') :
    c.GivesBoth answer next := by
  obtain ⟨line, hinput, hline, hgives⟩ := ask_done hfirst
  obtain ⟨line', hinput', hline', hgives'⟩ := ask_done hsecond
  rw [hinput'] at hinput hline
  exact ⟨line, line', c''.input, hinput, hline, hline', hgives, hgives'⟩

end ScrobbleRelay.Console
