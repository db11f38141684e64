import ScrobbleRelay.Text.Digits

/-!
# Digits are read back

The number that decimal digits write is read back from them, also with zeros
in front.
-/

namespace ScrobbleRelay.Text

theorem digitsFrom?_eq {cs : List Char} (h : ∀ c ∈ cs, c.isDigit = true)
    (value : Nat) :
    digitsFrom? value cs = some (Nat.ofDigitChars 10 cs value) := by
  induction cs generalizing value with
  | nil => simp [digitsFrom?]
  | cons c cs ih =>
      obtain ⟨hc, hcs⟩ := List.forall_mem_cons.mp h
      rw [digitsFrom?, if_pos hc, ih hcs, Nat.ofDigitChars_cons, Nat.mul_comm]
      rfl

theorem natOfDigits?_eq {cs : List Char} (h : ∀ c ∈ cs, c.isDigit = true)
    (hcs : cs ≠ []) : natOfDigits? cs = some (Nat.ofDigitChars 10 cs 0) := by
  cases cs with
  | nil => exact absurd rfl hcs
  | cons c cs => exact digitsFrom?_eq h 0

theorem isDigit_of_mem_toDigits {n : Nat} {c : Char}
    (h : c ∈ Nat.toDigits 10 n) : c.isDigit = true :=
  Nat.isDigit_of_mem_toDigits (by decide) (by decide) h

theorem toList_toString (n : Nat) : (toString n).toList = Nat.toDigits 10 n :=
  Nat.toList_repr

theorem toList_pushn (c : Char) (count : Nat) :
    ("".pushn c count).toList = List.replicate count c := by
  rw [String.pushn_eq_repeat_push]
  induction count with
  | zero => rfl
  | succ count ih =>
      rw [Nat.repeat, String.toList_push, ih, List.replicate_succ']

theorem toList_padded (width n : Nat) :
    (padded width n).toList =
      List.replicate (width - (Nat.toDigits 10 n).length) '0' ++
        Nat.toDigits 10 n := by
  simp [padded, toList_pushn, ← String.length_toList]

theorem padded_ne_nil (width n : Nat) : (padded width n).toList ≠ [] := by
  simp [toList_padded]

theorem isDigit_of_mem_padded {width n : Nat} {c : Char}
    (h : c ∈ (padded width n).toList) : c.isDigit = true := by
  rw [toList_padded, List.mem_append] at h
  rcases h with hzero | hdigit
  · rw [List.eq_of_mem_replicate hzero]
    rfl
  · exact isDigit_of_mem_toDigits hdigit

theorem natOfDigits?_padded (width n : Nat) :
    natOfDigits? (padded width n).toList = some n := by
  rw [natOfDigits?_eq (fun c => isDigit_of_mem_padded) (padded_ne_nil width n),
    toList_padded, Nat.ofDigitChars_append, Nat.ofDigitChars_replicate_zero,
    Nat.mul_zero, Nat.ofDigitChars_ten_toDigits]

theorem natOfDigits?_toString (n : Nat) :
    natOfDigits? (toString n).toList = some n := by
  rw [toList_toString, natOfDigits?_eq (fun c => isDigit_of_mem_toDigits) (by simp),
    Nat.ofDigitChars_ten_toDigits]

/-- A list that does not begin with a minus sign is read as digits alone. -/
theorem intOfDigits?_of_head?_ne {cs : List Char} (h : cs.head? ≠ some '-') :
    intOfDigits? cs = (natOfDigits? cs).map Int.ofNat := by
  unfold intOfDigits?
  split
  · exact absurd rfl h
  · rfl

theorem intOfDigits?_toString (z : Int) :
    intOfDigits? (toString z).toList = some z := by
  cases z with
  | ofNat n =>
      have htext : (toString (Int.ofNat n)).toList = Nat.toDigits 10 n :=
        toList_toString n
      have hplain : (Nat.toDigits 10 n).head? ≠ some '-' := by
        intro hhead
        have hdigit := isDigit_of_mem_toDigits (List.mem_of_head? hhead)
        cases hdigit
      rw [htext, intOfDigits?_of_head?_ne hplain, ← toList_toString,
        natOfDigits?_toString]
      rfl
  | negSucc n =>
      have htext : (toString (Int.negSucc n)).toList =
          '-' :: (toString (n + 1)).toList := by
        have hrepr : toString (Int.negSucc n) = "-" ++ toString (n + 1) := rfl
        rw [hrepr, String.toList_append]
        rfl
      rw [htext, intOfDigits?, natOfDigits?_toString]
      rfl

/-- A number other than zero begins with another digit than zero. -/
theorem head?_toDigits_ne {n : Nat} (h : 0 < n) :
    (Nat.toDigits 10 n).head? ≠ some '0' := by
  induction n using Nat.strongRecOn with
  | ind n ih =>
      by_cases hsmall : n < 10
      · have hdigit : ∀ m < 10, 0 < m → [m.digitChar].head? ≠ some '0' := by
          decide
        rw [Nat.toDigits_of_lt_base hsmall]
        exact hdigit n hsmall h
      · have hhead := ih (n / 10) (by omega) (by omega)
        obtain ⟨c, cs, hcs⟩ := List.exists_cons_of_ne_nil
          (Nat.toDigits_ne_nil (n := n / 10) (b := 10))
        rw [hcs] at hhead
        rw [Nat.toDigits_of_base_le (by decide) (by omega), hcs]
        exact hhead

end ScrobbleRelay.Text
