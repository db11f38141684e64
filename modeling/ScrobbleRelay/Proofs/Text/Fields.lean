import Mathlib.Algebra.Group.Nat.Defs
import Mathlib.Data.List.Forall2
import Mathlib.Data.List.Lex
import ScrobbleRelay.Proofs.Text.Digits

/-!
# Fields of fixed width

A number that fits its field is written with as many digits as the field is
wide.  Such fields are compared one after the other when texts are compared
sign by sign, and each of them as its number: so a text made of them is
ordered like the numbers it was made from.
-/

namespace ScrobbleRelay.Text

/-! ## Digits of a field -/

/-- A padded number ends in its last digit, behind the others in a field that
is narrower by one. -/
theorem toList_padded_succ (width n : Nat) :
    (padded (width + 2) n).toList =
      (padded (width + 1) (n / 10)).toList ++ [(n % 10).digitChar] := by
  by_cases hsmall : n < 10
  · have hfront : n / 10 = 0 := Nat.div_eq_of_lt hsmall
    have hlast : n % 10 = n := Nat.mod_eq_of_lt hsmall
    rw [toList_padded, toList_padded, hfront, hlast,
      Nat.toDigits_of_lt_base hsmall, Nat.toDigits_zero]
    simp [List.replicate_succ']
  · have hdigits : Nat.toDigits 10 n =
        Nat.toDigits 10 (n / 10) ++ [(n % 10).digitChar] :=
      Nat.toDigits_of_base_le (by decide) (Nat.not_lt.mp hsmall)
    rw [toList_padded, toList_padded, hdigits]
    simp

theorem length_padded {width n : Nat} (h : n < 10 ^ (width + 1)) :
    (padded (width + 1) n).toList.length = width + 1 := by
  have hshort : (Nat.toDigits 10 n).length ≤ width + 1 :=
    (Nat.length_toDigits_le_iff (by decide) (Nat.succ_pos width)).mpr h
  rw [toList_padded, List.length_append, List.length_replicate]
  omega

/-! ## Order -/

/-- Texts are compared by their first parts, where these are equally long. -/
theorem append_lt_append_iff {front front' rest rest' : List Char}
    (h : front.length = front'.length) :
    front ++ rest < front' ++ rest' ↔
      front < front' ∨ front = front' ∧ rest < rest' := by
  induction front generalizing front' with
  | nil =>
      obtain rfl : front' = [] := List.length_eq_zero_iff.mp h.symm
      simp
  | cons c front ih =>
      cases front' with
      | nil => simp at h
      | cons d front' =>
          have hlength : front.length = front'.length := by simpa using h
          have hrest := ih hlength
          simp only [List.cons_append, List.cons_lt_cons_iff, hrest,
            List.cons.injEq]
          tauto

theorem digitChar_lt_digitChar :
    ∀ n < 10, ∀ m < n, m.digitChar < n.digitChar := by
  decide

theorem padded_lt_padded {width m n : Nat} (hlt : m < n)
    (h : n < 10 ^ (width + 1)) :
    (padded (width + 1) m).toList < (padded (width + 1) n).toList := by
  induction width generalizing m n with
  | zero =>
      have hn : n < 10 := h
      have hm : m < 10 := hlt.trans hn
      rw [toList_padded, toList_padded, Nat.toDigits_of_lt_base hm,
        Nat.toDigits_of_lt_base hn]
      exact List.cons_lt_cons_iff.mpr (.inl (digitChar_lt_digitChar n hn m hlt))
  | succ width ih =>
      have hn : n / 10 < 10 ^ (width + 1) := by
        rw [Nat.pow_succ] at h
        omega
      have hm : m / 10 < 10 ^ (width + 1) := by omega
      have hlength : (padded (width + 1) (m / 10)).toList.length =
          (padded (width + 1) (n / 10)).toList.length := by
        rw [length_padded hm, length_padded hn]
      rw [toList_padded_succ, toList_padded_succ, append_lt_append_iff hlength]
      by_cases hfront : m / 10 < n / 10
      · exact .inl (ih hfront hn)
      · have hsame : m / 10 = n / 10 := by omega
        have hlast : m % 10 < n % 10 := by omega
        refine .inr ⟨by rw [hsame], List.cons_lt_cons_iff.mpr (.inl ?_)⟩
        exact digitChar_lt_digitChar _ (Nat.mod_lt n (by decide)) _ hlast

theorem padded_lt_padded_iff {width m n : Nat} (hm : m < 10 ^ (width + 1))
    (hn : n < 10 ^ (width + 1)) :
    (padded (width + 1) m).toList < (padded (width + 1) n).toList ↔ m < n := by
  constructor
  · intro h
    by_contra hnot
    rcases Nat.lt_or_eq_of_le (Nat.not_lt.mp hnot) with hlt | heq
    · exact List.lt_asymm h (padded_lt_padded hlt hm)
    · rw [heq] at h
      exact List.lt_irrefl _ h
  · intro h
    exact padded_lt_padded h hn

/-- A field decides, or is the same and leaves the decision to what follows
it. -/
theorem field_lt_field_iff {width m n : Nat} (hm : m < 10 ^ (width + 1))
    (hn : n < 10 ^ (width + 1)) (separator : Char) {rest rest' : List Char} :
    (padded (width + 1) m).toList ++ separator :: rest <
        (padded (width + 1) n).toList ++ separator :: rest' ↔
      m < n ∨ m = n ∧ rest < rest' := by
  have hlength : (padded (width + 1) m).toList.length =
      (padded (width + 1) n).toList.length := by
    rw [length_padded hm, length_padded hn]
  have hsame : (padded (width + 1) m).toList = (padded (width + 1) n).toList ↔
      m = n := by
    constructor
    · intro h
      have hread := natOfDigits?_padded (width + 1) m
      rw [h, natOfDigits?_padded] at hread
      exact (Option.some.inj hread).symm
    · intro h
      rw [h]
  rw [append_lt_append_iff hlength, padded_lt_padded_iff hm hn, hsame,
    List.cons_lt_cons_iff]
  simp

/-! ## Shapes -/

/-- What may stand in place of a sign of a shape: any digit for a letter, and
nothing else for every other sign. -/
def Fits (sign c : Char) : Prop :=
  if sign.isAlpha then c.isDigit = true else c = sign

/-- A text has a shape, whose letters stand for digits. -/
def HasShape (shape text : String) : Prop :=
  List.Forall₂ Fits shape.toList text.toList

theorem forall₂_fits_padded {letters : List Char} {width n : Nat}
    (hletters : letters.all Char.isAlpha = true)
    (hwidth : letters.length = width + 1) (h : n < 10 ^ (width + 1)) :
    List.Forall₂ Fits letters (padded (width + 1) n).toList := by
  rw [List.forall₂_iff_get]
  refine ⟨by rw [hwidth, length_padded h], ?_⟩
  intro i hi hi'
  have hletter : (letters.get ⟨i, hi⟩).isAlpha = true :=
    List.all_eq_true.mp hletters _ (List.get_mem letters ⟨i, hi⟩)
  rw [Fits, if_pos hletter]
  exact isDigit_of_mem_padded (List.get_mem _ ⟨i, hi'⟩)

theorem forall₂_fits_field {letters shape rest : List Char} {width n : Nat}
    {separator : Char} (hletters : letters.all Char.isAlpha = true)
    (hwidth : letters.length = width + 1) (h : n < 10 ^ (width + 1))
    (hseparator : separator.isAlpha = false)
    (hrest : List.Forall₂ Fits shape rest) :
    List.Forall₂ Fits (letters ++ separator :: shape)
      ((padded (width + 1) n).toList ++ separator :: rest) := by
  have hsign : Fits separator separator := by
    rw [Fits, if_neg (by simp [hseparator])]
  exact List.rel_append (forall₂_fits_padded hletters hwidth h)
    (.cons hsign hrest)

end ScrobbleRelay.Text
