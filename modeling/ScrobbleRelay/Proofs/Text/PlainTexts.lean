import ScrobbleRelay.Text.Composition

/-!
# The composed form of plain texts

The tables of marks and of compositions begin far beyond ASCII, and no
composition has its second part in ASCII.  So nothing in a text of ASCII can be
taken apart, moved or put together, and the text is its own composed form.
-/

namespace ScrobbleRelay.Text

/-! ## Packed tables -/

namespace Packed

theorem numbers_eq (lines : List String) :
    numbers lines = numbersFrom 0 (lines.flatMap String.toList) := by
  rw [numbers, String.toList_join]

/-- The lines of a table as one list of letters, without a look at their
bytes. -/
theorem flatMap_toList_cons (letters : List Char) (lines : List String) :
    (String.ofList letters :: lines).flatMap String.toList =
      letters ++ lines.flatMap String.toList := by
  rw [List.flatMap_cons, String.toList_ofList]

theorem le_first_of_mem_rangesFrom {start : Nat} {numbers : List Nat}
    {range : Range} (h : range ∈ rangesFrom start numbers) :
    start + numbers.headD 0 ≤ range.first := by
  induction start, numbers using rangesFrom.induct with
  | case1 start gap length value rest next ih =>
      rw [rangesFrom, List.mem_cons] at h
      rcases h with rfl | h
      · exact Nat.le_refl _
      · have hnext := ih h
        simp only [next, List.headD_cons] at hnext ⊢
        omega
  | case2 start numbers hshort =>
      rw [rangesFrom] at h
      · cases h
      · exact hshort

/-- Before its first range a table has no values. -/
theorem valueOf_eq_zero {table : List Range} {n : Nat}
    (h : ∀ range ∈ table, n < range.first) : valueOf table n = 0 := by
  have hnone : (table.find? fun range =>
      range.first ≤ n && n ≤ range.last) = none := by
    rw [List.find?_eq_none]
    intro range hrange
    have hfirst := h range hrange
    simp
    omega
  rw [valueOf, hnone]
  rfl

end Packed

/-! ## What the tables hold -/

/-- A character of ASCII other than the first. -/
def IsPlain (c : Char) : Prop := 0 < c.toNat ∧ c.toNat < 128

theorem eq_toNat_of_ofNat {c : Char} {code : Nat} (hc : IsPlain c)
    (h : Char.ofNat code = c) : code = c.toNat := by
  by_cases hvalid : code.isValidChar
  · rw [← h, Char.ofNat, dif_pos hvalid]
    rfl
  · rw [Char.ofNat, dif_neg hvalid] at h
    rw [← h] at hc
    exact absurd hc.1 (by decide)

/-- The codes of the second parts in the numbers of compositions. -/
def secondCodes : List Nat → List Nat
  | _ :: _ :: second :: rest => second :: secondCodes rest
  | _ => []

/-- A composition is of a character that is not before the first one, and its
second part is one of the second parts. -/
theorem of_mem_compositionsFrom {start : Nat} {numbers : List Nat}
    {entry : Composition} (h : entry ∈ compositionsFrom start numbers) :
    (∃ code, start + numbers.headD 0 ≤ code ∧ entry.whole = Char.ofNat code) ∧
      ∃ code ∈ secondCodes numbers, entry.second = Char.ofNat code := by
  induction start, numbers using compositionsFrom.induct with
  | case1 start distance first second rest ih =>
      rw [compositionsFrom, List.mem_cons] at h
      rw [secondCodes]
      rcases h with rfl | h
      · exact ⟨⟨_, Nat.le_refl _, rfl⟩, second, List.mem_cons_self, rfl⟩
      · obtain ⟨⟨code, hcode, hwhole⟩, second', hmem, hsecond⟩ := ih h
        refine ⟨⟨code, ?_, hwhole⟩, second', List.mem_cons_of_mem _ hmem, hsecond⟩
        simp only [List.headD_cons]
        omega
  | case2 start numbers hshort =>
      rw [compositionsFrom] at h
      · cases h
      · exact hshort

theorem headD_classes : 128 ≤ (Packed.numbers packedClasses).headD 0 := by
  rw [Packed.numbers_eq]
  unfold packedClasses
  rw [Packed.flatMap_toList_cons]
  decide +kernel

theorem headD_compositions :
    128 ≤ (Packed.numbers packedCompositions).headD 0 := by
  rw [Packed.numbers_eq]
  unfold packedCompositions
  rw [Packed.flatMap_toList_cons]
  decide +kernel

theorem secondCodes_compositions :
    (secondCodes (Packed.numbers packedCompositions)).all (128 ≤ ·) = true := by
  rw [Packed.numbers_eq]
  unfold packedCompositions
  repeat rw [Packed.flatMap_toList_cons]
  decide +kernel

theorem combiningClass_of_plain {c : Char} (hc : IsPlain c) :
    combiningClass c = 0 := by
  apply Packed.valueOf_eq_zero
  intro range hrange
  have hfirst := Packed.le_first_of_mem_rangesFrom hrange
  have hclasses := headD_classes
  have hplain := hc.2
  omega

/-- A plain character is neither composed nor the second part of one that
is. -/
theorem composition_of_plain {c : Char} (hc : IsPlain c) {entry : Composition}
    (h : entry ∈ compositionTable) : entry.whole ≠ c ∧ entry.second ≠ c := by
  obtain ⟨⟨code, hcode, hwhole⟩, second, hmem, hsecond⟩ :=
    of_mem_compositionsFrom h
  have hplain := hc.2
  constructor
  · intro heq
    have htable := headD_compositions
    have heq' := eq_toNat_of_ofNat hc (hwhole.symm.trans heq)
    omega
  · intro heq
    have htable := List.all_eq_true.mp secondCodes_compositions second hmem
    have heq' := eq_toNat_of_ofNat hc (hsecond.symm.trans heq)
    rw [decide_eq_true_eq] at htable
    omega

/-! ## Taking apart and putting together -/

theorem split?_of_plain {c : Char} (hc : IsPlain c) : split? c = none := by
  have hsyllable : splitSyllable? c = none := by
    have hplain := hc.2
    have hbefore : (c.toNat < firstSyllable) = true := by
      simp only [firstSyllable, eq_iff_iff, iff_true]
      omega
    simp [splitSyllable?, hbefore]
  have htable : compositionTable.find? (fun entry => entry.whole == c) = none := by
    rw [List.find?_eq_none]
    intro entry hentry
    simpa using (composition_of_plain hc hentry).1
  rw [split?, hsyllable, htable]
  rfl

theorem join?_of_plain (start : Char) {c : Char} (hc : IsPlain c) :
    join? start c = none := by
  have hsyllable : joinSyllable? start c = none := by
    have hplain := hc.2
    have hvowel : isWithin firstVowel vowelCount c.toNat = false := by
      rw [isWithin, Bool.and_eq_false_iff, decide_eq_false_iff_not]
      left
      simp only [firstVowel]
      omega
    have htrail : isWithin (beforeTrail + 1) (trailCount - 1) c.toNat = false := by
      rw [isWithin, Bool.and_eq_false_iff, decide_eq_false_iff_not]
      left
      simp only [beforeTrail]
      omega
    simp [joinSyllable?, hvowel, htrail]
  have htable : compositionTable.find?
      (fun entry => entry.first == start && entry.second == c) = none := by
    rw [List.find?_eq_none]
    intro entry hentry
    simp [(composition_of_plain hc hentry).2]
  rw [join?, hsyllable, htable]
  rfl

theorem flatMap_parts_of_plain {cs : List Char} (h : ∀ c ∈ cs, IsPlain c) :
    cs.flatMap parts = cs := by
  induction cs with
  | nil => rfl
  | cons c cs ih =>
      obtain ⟨hc, hcs⟩ := List.forall_mem_cons.mp h
      have hparts : parts c = [c] := by
        simp [parts, greatestSplits, partsWithin, split?_of_plain hc]
      rw [List.flatMap_cons, hparts, ih hcs, List.singleton_append]

theorem decomposed_of_plain {cs : List Char} (h : ∀ c ∈ cs, IsPlain c) :
    decomposed cs = cs := by
  rw [decomposed, flatMap_parts_of_plain h]
  induction cs with
  | nil => simp [orderedFrom, sortedMarks]
  | cons c cs ih =>
      obtain ⟨hc, hcs⟩ := List.forall_mem_cons.mp h
      simp [orderedFrom, sortedMarks, combiningClass_of_plain hc, ih hcs]

theorem joinFrom_of_plain (start : Char) {cs : List Char}
    (h : ∀ c ∈ cs, IsPlain c) : joinFrom start [] 0 cs = start :: cs := by
  induction cs generalizing start with
  | nil => rfl
  | cons c cs ih =>
      obtain ⟨hc, hcs⟩ := List.forall_mem_cons.mp h
      simp [joinFrom, join?_of_plain start hc, combiningClass_of_plain hc, ih c hcs]

theorem composed_of_plain {cs : List Char} (h : ∀ c ∈ cs, IsPlain c) :
    composed cs = cs := by
  rw [composed, decomposed_of_plain h]
  cases cs with
  | nil => rfl
  | cons c cs =>
      obtain ⟨hc, hcs⟩ := List.forall_mem_cons.mp h
      rw [joined, if_pos (combiningClass_of_plain hc), joinFrom_of_plain c hcs]

end ScrobbleRelay.Text
