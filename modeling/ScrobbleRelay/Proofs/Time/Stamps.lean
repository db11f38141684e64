import ScrobbleRelay.Proofs.Text.Digits
import ScrobbleRelay.Proofs.Time.Calendar
import ScrobbleRelay.Time.Instant

/-!
# Stamps are read back

Each field of a stamp is a run of digits in front of a separator that is no
digit, so the fields are found again one after the other, and the text of a
stamp with a real date and time reads as that stamp, in every year.  The stamp
of an instant is such a stamp, and its seconds are those of the instant.
-/

namespace ScrobbleRelay.Time

open Text (padded)

/-- A number in front of a separator is read back, with what follows. -/
theorem numberBefore?_padded {separator : Char} (width n : Nat)
    (rest : List Char) (hseparator : separator.isDigit = false) :
    numberBefore? separator ((padded width n).toList ++ separator :: rest) =
      some (n, rest) := by
  have hdigits : ∀ c ∈ (padded width n).toList, c.isDigit = true :=
    fun c => Text.isDigit_of_mem_padded
  have htake : ((padded width n).toList ++ separator :: rest).takeWhile
      Char.isDigit = (padded width n).toList := by
    rw [List.takeWhile_append_of_pos hdigits]
    simp [hseparator]
  have hdrop : ((padded width n).toList ++ separator :: rest).dropWhile
      Char.isDigit = separator :: rest := by
    rw [List.dropWhile_append_of_pos hdigits]
    simp [hseparator]
  simp [numberBefore?, htake, hdrop, Text.natOfDigits?_padded]

theorem yearBefore?_of_isDigit {c : Char} {cs rest : List Char} {n : Nat}
    (h : c.isDigit = true)
    (hnumber : numberBefore? '-' (c :: cs) = some (n, rest)) :
    yearBefore? (c :: cs) = some ((n : Int), rest) := by
  rw [yearBefore?, hnumber]
  · rfl
  · rintro tail ⟨⟩
    cases h
  · rintro tail ⟨⟩
    cases h

theorem yearBefore?_yearText (year : Int) (rest : List Char) :
    yearBefore? ((yearText year).toList ++ '-' :: rest) = some (year, rest) := by
  have hnumber (n : Nat) :
      numberBefore? '-' ((padded 4 n).toList ++ '-' :: rest) = some (n, rest) :=
    numberBefore?_padded 4 n rest rfl
  unfold yearText
  split
  · have hvalue : (year.toNat : Int) = year := by omega
    obtain ⟨c, cs, hcs⟩ :=
      List.exists_cons_of_ne_nil (Text.padded_ne_nil 4 year.toNat)
    have hc : c.isDigit = true :=
      Text.isDigit_of_mem_padded (hcs ▸ List.mem_cons_self)
    have hplain := hnumber year.toNat
    rw [hcs, List.cons_append] at hplain ⊢
    rw [yearBefore?_of_isDigit hc hplain, hvalue]
  · split
    · have hvalue : -(year.natAbs : Int) = year := by omega
      have htext : ("-" ++ padded 4 year.natAbs).toList ++ '-' :: rest =
          '-' :: ((padded 4 year.natAbs).toList ++ '-' :: rest) := by
        simp
      rw [htext, yearBefore?, hnumber]
      exact congrArg (fun y => some (y, rest)) hvalue
    · have hvalue : (year.natAbs : Int) = year := by omega
      have htext : ("+" ++ padded 4 year.natAbs).toList ++ '-' :: rest =
          '+' :: ((padded 4 year.natAbs).toList ++ '-' :: rest) := by
        simp
      rw [htext, yearBefore?, hnumber]
      exact congrArg (fun y => some (y, rest)) hvalue

namespace Stamp

theorem toList_text (s : Stamp) :
    s.text.toList =
      (yearText s.date.year).toList ++ '-' :: ((padded 2 s.date.month).toList ++
      '-' :: ((padded 2 s.date.day).toList ++ ' ' :: ((padded 2 s.hour).toList ++
      ':' :: ((padded 2 s.minute).toList ++ ':' ::
      (padded 2 s.second).toList)))) := by
  simp [text]

theorem ofText?_text {s : Stamp} (h : s.Valid) : ofText? s.text = some s := by
  have hhyphen (n : Nat) (rest : List Char) :
      numberBefore? '-' ((padded 2 n).toList ++ '-' :: rest) = some (n, rest) :=
    numberBefore?_padded 2 n rest rfl
  have hblank (n : Nat) (rest : List Char) :
      numberBefore? ' ' ((padded 2 n).toList ++ ' ' :: rest) = some (n, rest) :=
    numberBefore?_padded 2 n rest rfl
  have hcolon (n : Nat) (rest : List Char) :
      numberBefore? ':' ((padded 2 n).toList ++ ':' :: rest) = some (n, rest) :=
    numberBefore?_padded 2 n rest rfl
  simp only [ofText?, toList_text, yearBefore?_yearText, Option.bind_eq_bind,
    Option.bind_some, hhyphen, hblank, hcolon, Text.natOfDigits?_padded]
  exact if_pos h

end Stamp

namespace Instant

theorem valid_stamp (t : Instant) : t.stamp.Valid := by
  refine ⟨valid_ofDays _, ?_, ?_, ?_⟩
  · have hday : t.secondOfDay < 86400 := by
      unfold secondOfDay
      omega
    simp only [stamp]
    omega
  · exact Nat.mod_lt _ (by decide)
  · have hsecond : t.secondOfDay % 60 < 60 := Nat.mod_lt _ (by decide)
    simp only [stamp]
    split <;> omega

theorem ofText?_text (t : Instant) : Stamp.ofText? t.text = some t.stamp :=
  Stamp.ofText?_text t.valid_stamp

/-- The seconds of the stamp are those of the instant; a leap second is the one
after them. -/
theorem toSeconds_stamp (t : Instant) :
    t.stamp.toSeconds = t.seconds + (if t.inLeapSecond then 1 else 0) := by
  have hdate : t.stamp.date.toDays = t.seconds / 86400 := toDays_ofDays _
  rw [Stamp.toSeconds, hdate]
  simp only [stamp, secondOfDay]
  split <;> omega

end Instant

end ScrobbleRelay.Time
