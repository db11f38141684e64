import Mathlib.Data.List.TakeWhile
import ScrobbleRelay.Text.Blank

/-!
# What trimming leaves

Trimming takes the blanks off both ends of a text and nothing else: it leaves
the one text without blanks at its ends that lies in the middle of blanks.  So
blanks may be added and taken away at the ends, and the trimmed text is the
same.
-/

namespace ScrobbleRelay.Text

def Blanks (cs : List Char) : Prop := ∀ c ∈ cs, isBlank c = true

instance : DecidablePred Blanks :=
  fun _ => decidable_of_iff _ List.all_eq_true

/-- A list with no blank at either end. -/
def Trimmed (cs : List Char) : Prop :=
  (∀ c ∈ cs.head?, isBlank c = false) ∧ ∀ c ∈ cs.getLast?, isBlank c = false

/-- A line trims to a text, which stands in it between blanks. -/
def TrimsTo (line text : List Char) : Prop :=
  Trimmed text ∧
    ∃ front back, Blanks front ∧ Blanks back ∧ line = front ++ text ++ back

theorem Blanks.reverse {cs : List Char} (h : Blanks cs) : Blanks cs.reverse := by
  intro c hc
  exact h c (List.mem_reverse.mp hc)

theorem trimFront_append {front : List Char} (h : Blanks front)
    (cs : List Char) : trimFront (front ++ cs) = trimFront cs :=
  List.dropWhile_append_of_pos h

theorem trimBack_append {back : List Char} (h : Blanks back)
    (cs : List Char) : trimBack (cs ++ back) = trimBack cs := by
  rw [trimBack, trimBack, List.reverse_append,
    List.dropWhile_append_of_pos h.reverse]

theorem trimFront_of_blanks {cs : List Char} (h : Blanks cs) :
    trimFront cs = [] := by
  have hnil := trimFront_append h []
  simpa [trimFront] using hnil

/-- A list is the blanks at its front and what trimming them leaves. -/
theorem exists_append_trimFront (cs : List Char) :
    ∃ front, Blanks front ∧ cs = front ++ trimFront cs :=
  ⟨cs.takeWhile isBlank, fun _ hc => List.mem_takeWhile_imp hc,
    List.takeWhile_append_dropWhile.symm⟩

theorem exists_append_trimBack (cs : List Char) :
    ∃ back, Blanks back ∧ cs = trimBack cs ++ back := by
  obtain ⟨front, hfront, hcs⟩ := exists_append_trimFront cs.reverse
  refine ⟨front.reverse, hfront.reverse, ?_⟩
  have hreverse := congrArg List.reverse hcs
  rwa [List.reverse_reverse, List.reverse_append] at hreverse

theorem head?_trimFront (cs : List Char) :
    ∀ c ∈ (trimFront cs).head?, isBlank c = false := by
  intro c hc
  have hhead := List.head?_dropWhile_not isBlank cs
  rw [Option.mem_def, trimFront] at hc
  rwa [hc] at hhead

theorem getLast?_trimBack (cs : List Char) :
    ∀ c ∈ (trimBack cs).getLast?, isBlank c = false := by
  rw [trimBack, List.getLast?_reverse]
  exact head?_trimFront _

theorem head?_trimBack {cs : List Char}
    (h : ∀ c ∈ cs.head?, isBlank c = false) :
    ∀ c ∈ (trimBack cs).head?, isBlank c = false := by
  intro c hc
  obtain ⟨back, -, hcs⟩ := exists_append_trimBack cs
  apply h
  rw [hcs, List.head?_append]
  exact Option.or_eq_some_iff.mpr (.inl hc)

theorem trimmed_trimChars (cs : List Char) : Trimmed (trimChars cs) :=
  ⟨head?_trimBack (head?_trimFront cs), getLast?_trimBack _⟩

theorem trimFront_of_head? {cs : List Char}
    (h : ∀ c ∈ cs.head?, isBlank c = false) : trimFront cs = cs := by
  cases cs with
  | nil => rfl
  | cons c cs => exact List.dropWhile_cons_of_neg (by simp [h c rfl])

theorem Trimmed.trimChars_eq {cs : List Char} (h : Trimmed cs) :
    trimChars cs = cs := by
  have hback : trimFront cs.reverse = cs.reverse := by
    apply trimFront_of_head?
    rw [List.head?_reverse]
    exact h.2
  rw [trimChars, trimFront_of_head? h.1]
  exact (congrArg List.reverse hback).trans cs.reverse_reverse

/-- Blanks at the back are trimmed from whatever is left of the front. -/
theorem trimChars_append_blanks {back : List Char} (h : Blanks back)
    (cs : List Char) : trimChars (cs ++ back) = trimChars cs := by
  obtain ⟨front, hfront, hcs⟩ := exists_append_trimFront cs
  by_cases hnil : trimFront cs = []
  · have hblanks : Blanks cs := by
      rw [hcs, hnil, List.append_nil]
      exact hfront
    rw [trimChars, trimChars, trimFront_append hblanks,
      trimFront_of_blanks h, trimFront_of_blanks hblanks]
  · have hkeep : trimFront (trimFront cs ++ back) = trimFront cs ++ back := by
      obtain ⟨c, rest, hrest⟩ := List.exists_cons_of_ne_nil hnil
      have hhead := head?_trimFront cs
      rw [hrest] at hhead ⊢
      exact trimFront_of_head? hhead
    have happend : trimFront (cs ++ back) = trimFront cs ++ back := by
      rw [hcs, List.append_assoc, trimFront_append hfront, hkeep,
        trimFront_append hfront, trimFront_of_head? (head?_trimFront cs)]
    rw [trimChars, happend, trimBack_append h, trimChars]

theorem trimChars_between {front back : List Char} (hfront : Blanks front)
    (hback : Blanks back) (cs : List Char) :
    trimChars (front ++ cs ++ back) = trimChars cs := by
  rw [trimChars_append_blanks hback, trimChars, trimFront_append hfront,
    trimChars]

theorem trimChars_eq_iff {line text : List Char} :
    trimChars line = text ↔ TrimsTo line text := by
  constructor
  · rintro rfl
    obtain ⟨front, hfront, hline⟩ := exists_append_trimFront line
    obtain ⟨back, hback, htext⟩ := exists_append_trimBack (trimFront line)
    refine ⟨trimmed_trimChars line, front, back, hfront, hback, ?_⟩
    rw [trimChars, List.append_assoc, ← htext]
    exact hline
  · rintro ⟨htext, front, back, hfront, hback, rfl⟩
    rw [trimChars_between hfront hback, htext.trimChars_eq]

end ScrobbleRelay.Text
