import Mathlib.Data.List.Basic
import ScrobbleRelay.Toml.Writer

/-!
# Strings that are written can be read

A text is read back from each of the four kinds of strings that it can be
written as.  A basic string is read one written character at a time.  In a
long string a run of quotes may stand right before the closing quotes, so the
quotes that were just written are carried along until something else follows
them.
-/

namespace ScrobbleRelay.Toml

/-! ## Characters between double quotes -/

theorem escapedScalar?_fourDigits {n : Nat} (h : n < 128) :
    ∃ a b c d, fourDigits n = [a, b, c, d] ∧
      escapedScalar? [a, b, c, d] = some (Char.ofNat n) := by
  have hall :
      ∀ n < 128, (fourDigits n).length = 4 ∧
        escapedScalar? (fourDigits n) = some (Char.ofNat n) := by
    decide +kernel
  obtain ⟨hlength, hscalar⟩ := hall n h
  obtain ⟨a, b, c, d, hdigits⟩ := List.length_eq_four.mp hlength
  rw [hdigits] at hscalar
  exact ⟨a, b, c, d, hdigits, hscalar⟩

/-- The ways in which a character other than a quote stands between double
quotes: by a letter, by its number, or as it is. -/
inductive Written (long : Bool) (c : Char) : List Char → Prop
  | letter {e : Char} (escape : escapedLetter? e = some c) :
      Written long c ['\\', e]
  | number {x y z w : Char} (escape : escapedScalar? [x, y, z, w] = some c) :
      Written long c ['\\', 'u', x, y, z, w]
  | plain (basic : isBasicChar c = true) : Written long c [c]
  | lineFeed (kept : long = true) (feed : c = '\n') : Written long c [c]

/-- Every character other than a quote is written in one of the ways. -/
theorem escapedChar_written (long : Bool) {c : Char} (hquote : c ≠ '"') :
    Written long c (escapedChar long c) := by
  unfold escapedChar
  by_cases hb : c = '\x08'
  · rw [if_pos hb]
    exact .letter (hb ▸ rfl)
  rw [if_neg hb]
  by_cases ht : c = '\t'
  · rw [if_pos ht]
    exact .letter (ht ▸ rfl)
  rw [if_neg ht]
  by_cases hn : c = '\n'
  · rw [if_pos hn]
    cases long with
    | true =>
        subst hn
        exact .lineFeed rfl rfl
    | false => exact .letter (hn ▸ rfl)
  rw [if_neg hn]
  by_cases hf : c = '\x0c'
  · rw [if_pos hf]
    exact .letter (hf ▸ rfl)
  rw [if_neg hf]
  by_cases hr : c = '\r'
  · rw [if_pos hr]
    exact .letter (hr ▸ rfl)
  rw [if_neg hr]
  by_cases hs : c = '\\'
  · rw [if_pos hs]
    subst hs
    exact .letter rfl
  rw [if_neg hs]
  by_cases hcontrol : (c.toNat < 0x20 || c.toNat == 0x7F) = true
  · rw [if_pos hcontrol]
    have hlt : c.toNat < 128 := by
      simp only [Bool.or_eq_true, decide_eq_true_eq, beq_iff_eq] at hcontrol
      omega
    obtain ⟨x, y, z, w, hdigits, hscalar⟩ := escapedScalar?_fourDigits hlt
    rw [hdigits]
    rw [Char.ofNat_toNat] at hscalar
    exact .number hscalar
  · rw [if_neg hcontrol]
    simp only [Bool.or_eq_true, decide_eq_true_eq, beq_iff_eq, not_or,
      Nat.not_lt] at hcontrol
    exact .plain (by simp [isBasicChar, isPlain, hcontrol, hquote, hs])

/-- What a character is written as begins with no quote and with no carriage
return, and with a line feed only if that is the character. -/
theorem Written.head {long : Bool} {c : Char} {cs : List Char}
    (h : Written long c cs) :
    ∃ x xs, cs = x :: xs ∧ x ≠ '"' ∧ x ≠ '\r' ∧ (x = '\n' → c = '\n') := by
  cases h with
  | letter => exact ⟨_, _, rfl, by decide, by decide, fun h => by cases h⟩
  | number => exact ⟨_, _, rfl, by decide, by decide, fun h => by cases h⟩
  | plain basic =>
      refine ⟨_, _, rfl, ?_, ?_, id⟩
      · rintro rfl
        cases basic
      · rintro rfl
        cases basic
  | lineFeed kept feed =>
      subst feed
      exact ⟨_, _, rfl, by decide, by decide, id⟩

/-! ## Basic strings -/

theorem escapedLetter?_ne {e c : Char} (h : escapedLetter? e = some c) :
    e ≠ 'u' ∧ e ≠ 'U' := by
  constructor
  · rintro rfl
    cases h
  · rintro rfl
    cases h

theorem basicRest_written {c : Char} {cs : List Char}
    (h : Written false c cs) (rest : List Char) :
    basicRest (cs ++ rest) = push c (basicRest rest) := by
  cases h with
  | letter escape =>
      obtain ⟨hu, hU⟩ := escapedLetter?_ne escape
      simp [basicRest, hu, hU, escape]
  | number escape => simp [basicRest, escape]
  | plain basic =>
      simp only [isBasicChar, Bool.and_eq_true, bne_iff_ne] at basic
      simp [basicRest, basic, isBasicChar]
  | lineFeed kept => cases kept

/-- A text that is written between double quotes is read back. -/
theorem basicRest_basicChars (quotes : Nat) (cs rest : List Char) :
    basicRest (basicChars false quotes cs ++ '"' :: rest) = some (cs, rest) := by
  induction cs generalizing quotes with
  | nil => simp [basicChars, basicRest]
  | cons c cs ih =>
      by_cases hquote : c = '"'
      · subst hquote
        simp [basicChars, basicRest, escapedLetter?, ih, push]
      · have hwritten := escapedChar_written false hquote
        simp only [basicChars, if_neg hquote, List.append_assoc]
        rw [basicRest_written hwritten, ih]
        rfl

/-! ## Long basic strings -/

theorem longBasicRest_written {c : Char} {cs : List Char}
    (h : Written true c cs) (rest : List Char) :
    longBasicRest false (cs ++ rest) = push c (longBasicRest false rest) := by
  cases h with
  | letter escape =>
      obtain ⟨hu, hU⟩ := escapedLetter?_ne escape
      simp [longBasicRest, hu, hU, escape]
  | number escape => simp [longBasicRest, escape]
  | plain basic =>
      have hreturn : c ≠ '\r' := by
        rintro rfl
        cases basic
      have hfeed : c ≠ '\n' := by
        rintro rfl
        cases basic
      have hchar := basic
      simp only [isBasicChar, Bool.and_eq_true, bne_iff_ne] at hchar
      simp [longBasicRest, basic, hchar, hreturn, hfeed]
  | lineFeed kept feed =>
      subst feed
      simp [longBasicRest]

/-- At most two quotes before something else are read as themselves. -/
theorem longBasicRest_quotes {quotes : Nat} (h : quotes ≤ 2)
    {xs ys rest : List Char} (hhead : ∀ r, xs ≠ '"' :: r)
    (hrest : longBasicRest false xs = some (ys, rest)) :
    longBasicRest false (List.replicate quotes '"' ++ xs) =
      some (List.replicate quotes '"' ++ ys, rest) := by
  have hcases : quotes = 0 ∨ quotes = 1 ∨ quotes = 2 := by omega
  rcases hcases with rfl | rfl | rfl
  · exact hrest
  · simp [longBasicRest, hhead, hrest, push]
  · simp [longBasicRest, hhead, hrest, push]

/-- At most two quotes before the closing ones belong to the text. -/
theorem longBasicRest_closing {quotes : Nat} (h : quotes ≤ 2)
    {rest : List Char} (hend : ∀ r, rest ≠ '"' :: r) :
    longBasicRest false
        (List.replicate quotes '"' ++ '"' :: '"' :: '"' :: rest) =
      some (List.replicate quotes '"', rest) := by
  have hcases : quotes = 0 ∨ quotes = 1 ∨ quotes = 2 := by omega
  rcases hcases with rfl | rfl | rfl
  · simp [longBasicRest, hend]
  · simp [longBasicRest]
  · simp [longBasicRest]

/-- A text that is written in long form between double quotes is read back;
so are the `quotes` double quotes just before it. -/
theorem longBasicRest_basicChars (quotes : Nat) (h : quotes ≤ 2)
    (cs rest : List Char) (hend : ∀ r, rest ≠ '"' :: r) :
    longBasicRest false
        (List.replicate quotes '"' ++
          (basicChars true quotes cs ++ '"' :: '"' :: '"' :: rest)) =
      some (List.replicate quotes '"' ++ cs, rest) := by
  induction cs generalizing quotes with
  | nil => simpa [basicChars] using longBasicRest_closing h hend
  | cons c cs ih =>
      by_cases hquote : c = '"'
      · subst hquote
        by_cases hroom : quotes < 2
        · have hrun := ih (quotes + 1) (by omega)
          simp only [List.replicate_succ', List.append_assoc,
            List.cons_append, List.nil_append] at hrun
          simpa [basicChars, hroom] using hrun
        · have hrest := ih 0 (by omega)
          have hescaped :
              longBasicRest false
                  ('\\' :: '"' :: (basicChars true 0 cs ++ '"' :: '"' :: '"' :: rest)) =
                some ('"' :: cs, rest) := by
            simp only [List.replicate_zero, List.nil_append] at hrest
            simp [longBasicRest, escapedLetter?, hrest, push]
          have hrun := longBasicRest_quotes h (by simp) hescaped
          simpa [basicChars, hroom] using hrun
      · have hwritten := escapedChar_written true hquote
        obtain ⟨x, xs, hx, hhead, -⟩ := hwritten.head
        have hrest := ih 0 (by omega)
        have hchar :
            longBasicRest false (escapedChar true c ++
              (basicChars true 0 cs ++ '"' :: '"' :: '"' :: rest)) =
              some (c :: cs, rest) := by
          simp only [List.replicate_zero, List.nil_append] at hrest
          rw [longBasicRest_written hwritten, hrest]
          rfl
        have hrun := longBasicRest_quotes h (by simp [hx, hhead]) hchar
        simpa [basicChars, hquote] using hrun

/-! ## Literal strings -/

theorem literalRest_append {cs : List Char}
    (h : ∀ c ∈ cs, isLiteralChar c = true) (rest : List Char) :
    literalRest (cs ++ '\'' :: rest) = some (cs, rest) := by
  induction cs with
  | nil => simp [literalRest]
  | cons c cs ih =>
      have hc := h c (by simp)
      have hquote : c ≠ '\'' := by
        rintro rfl
        cases hc
      have hrest := ih fun x hx => h x (by simp [hx])
      rw [List.cons_append, literalRest, if_pos hc, hrest]
      · rfl
      · exact hquote

/-- At most two quotes before something else are read as themselves. -/
theorem longLiteralRest_quotes {quotes : Nat} (h : quotes ≤ 2)
    {xs ys rest : List Char} (hhead : ∀ r, xs ≠ '\'' :: r)
    (hrest : longLiteralRest xs = some (ys, rest)) :
    longLiteralRest (List.replicate quotes '\'' ++ xs) =
      some (List.replicate quotes '\'' ++ ys, rest) := by
  have hcases : quotes = 0 ∨ quotes = 1 ∨ quotes = 2 := by omega
  rcases hcases with rfl | rfl | rfl
  · exact hrest
  · simp [longLiteralRest, hhead, hrest, push]
  · simp [longLiteralRest, hhead, hrest, push]

/-- At most two quotes before the closing ones belong to the text. -/
theorem longLiteralRest_closing {quotes : Nat} (h : quotes ≤ 2)
    {rest : List Char} (hend : ∀ r, rest ≠ '\'' :: r) :
    longLiteralRest
        (List.replicate quotes '\'' ++ '\'' :: '\'' :: '\'' :: rest) =
      some (List.replicate quotes '\'', rest) := by
  have hcases : quotes = 0 ∨ quotes = 1 ∨ quotes = 2 := by omega
  rcases hcases with rfl | rfl | rfl
  · simp [longLiteralRest, hend]
  · simp [longLiteralRest]
  · simp [longLiteralRest]

theorem le_longestRun (c : Char) (run : Nat) (cs : List Char) :
    run ≤ longestRun c run cs := by
  induction cs generalizing run with
  | nil => exact Nat.le_refl run
  | cons x cs ih =>
      unfold longestRun
      by_cases hx : x = c
      · rw [if_pos hx]
        exact Nat.le_trans (Nat.le_succ run) (ih (run + 1))
      · rw [if_neg hx]
        exact Nat.le_max_left _ _

/-- A text without controls and without three single quotes in a row is read
back; so are the `quotes` single quotes just before it. -/
theorem longLiteralRest_append (quotes : Nat) {cs : List Char}
    (hplain : ∀ c ∈ cs, needsEscape c = false)
    (hruns : longestRun '\'' quotes cs ≤ 2)
    (rest : List Char) (hend : ∀ r, rest ≠ '\'' :: r) :
    longLiteralRest
        (List.replicate quotes '\'' ++ (cs ++ '\'' :: '\'' :: '\'' :: rest)) =
      some (List.replicate quotes '\'' ++ cs, rest) := by
  have hquotes : quotes ≤ 2 := Nat.le_trans (le_longestRun _ _ _) hruns
  induction cs generalizing quotes with
  | nil => simpa using longLiteralRest_closing hquotes hend
  | cons c cs ih =>
      have hcs : ∀ x ∈ cs, needsEscape x = false := fun x hx =>
        hplain x (by simp [hx])
      by_cases hquote : c = '\''
      · subst hquote
        simp only [longestRun, if_true] at hruns
        have hrun := ih (quotes + 1) hcs hruns
          (Nat.le_trans (le_longestRun _ _ _) hruns)
        simp only [List.replicate_succ', List.append_assoc,
          List.cons_append, List.nil_append] at hrun
        simpa using hrun
      · simp only [longestRun, if_neg hquote] at hruns
        have hrest := ih 0 hcs (by omega) (by omega)
        simp only [List.replicate_zero, List.nil_append] at hrest
        have hc := hplain c (by simp)
        have hreturn : c ≠ '\r' := by
          rintro rfl
          cases hc
        have hliteral : c = '\n' ∨ isLiteralChar c = true := by
          by_cases hfeed : c = '\n'
          · exact .inl hfeed
          · right
            simpa [needsEscape, isLiteralChar, hfeed, hquote] using hc
        have hchar :
            longLiteralRest (c :: (cs ++ '\'' :: '\'' :: '\'' :: rest)) =
              some (c :: cs, rest) := by
          simp [longLiteralRest, hquote, hreturn, hliteral, hrest, push]
        have hrun := longLiteralRest_quotes hquotes (by simp [hquote]) hchar
        simpa using hrun

/-! ## Strings of every kind -/

theorem readString_basic (cs rest : List Char) :
    readString (quotedChars .basic cs ++ '\n' :: rest) =
      some (String.ofList cs, '\n' :: rest) := by
  have hread := basicRest_basicChars 0 cs ('\n' :: rest)
  have hlong :
      ∀ r, basicChars false 0 cs ++ '"' :: '\n' :: rest ≠ '"' :: '"' :: r := by
    intro r
    cases cs with
    | nil => simp [basicChars]
    | cons c cs =>
        by_cases hquote : c = '"'
        · simp [basicChars, hquote]
        · obtain ⟨x, xs, hx, hhead, -⟩ :=
            (escapedChar_written false hquote).head
          simp [basicChars, hquote, hx, hhead]
  have hchars :
      quotedChars .basic cs ++ '\n' :: rest =
        '"' :: (basicChars false 0 cs ++ '"' :: '\n' :: rest) := by
    simp [quotedChars]
  rw [hchars, readString, hread]
  · rfl
  · exact hlong

theorem readString_literal {cs : List Char}
    (h : ∀ c ∈ cs, isLiteralChar c = true) (rest : List Char) :
    readString (quotedChars .literal cs ++ '\n' :: rest) =
      some (String.ofList cs, '\n' :: rest) := by
  have hread := literalRest_append h ('\n' :: rest)
  have hlong : ∀ r, cs ++ '\'' :: '\n' :: rest ≠ '\'' :: '\'' :: r := by
    intro r
    cases cs with
    | nil => simp
    | cons c cs =>
        have hquote : c ≠ '\'' := by
          rintro rfl
          cases h '\'' (by simp)
        simp [hquote]
  have hchars :
      quotedChars .literal cs ++ '\n' :: rest =
        '\'' :: (cs ++ '\'' :: '\n' :: rest) := by
    simp [quotedChars]
  rw [hchars, readString, hread]
  · rfl
  · exact hlong

/-- Where a text has a line feed, the line break that it is written after is
skipped; where it has none, none is skipped. -/
theorem skipLineBreak_leadingBreak (cs xs : List Char)
    (h : '\n' ∉ cs → ∃ x ys, xs = x :: ys ∧ x ≠ '\n' ∧ x ≠ '\r') :
    skipLineBreak (leadingBreak cs ++ xs) = xs := by
  unfold leadingBreak
  by_cases hfeed : '\n' ∈ cs
  · simp [hfeed, skipLineBreak]
  · obtain ⟨x, ys, rfl, hline, hreturn⟩ := h hfeed
    simp [hfeed, skipLineBreak, hline, hreturn]

theorem readString_longBasic (cs rest : List Char) :
    readString (quotedChars .longBasic cs ++ '\n' :: rest) =
      some (String.ofList cs, '\n' :: rest) := by
  have hread :=
    longBasicRest_basicChars 0 (Nat.zero_le 2) cs ('\n' :: rest) (by simp)
  have hskip := skipLineBreak_leadingBreak cs
    (basicChars true 0 cs ++ '"' :: '"' :: '"' :: '\n' :: rest) (by
      intro hfeed
      cases cs with
      | nil => exact ⟨_, _, rfl, by decide, by decide⟩
      | cons c cs =>
          by_cases hquote : c = '"'
          · simp [basicChars, hquote]
          · obtain ⟨x, xs, hx, -, hreturn, hline⟩ :=
              (escapedChar_written true hquote).head
            have hne : x ≠ '\n' := fun h => hfeed (by simp [hline h])
            simp [basicChars, hquote, hx, hreturn, hne])
  simp only [List.replicate_zero, List.nil_append] at hread
  simp [quotedChars, readString, hskip, hread]

/-- A text without controls and without three single quotes in a row is read
back from a long literal string. -/
theorem readString_longLiteral {cs : List Char}
    (hplain : ∀ c ∈ cs, needsEscape c = false)
    (hruns : longestRun '\'' 0 cs ≤ 2) (rest : List Char) :
    readString (quotedChars .longLiteral cs ++ '\n' :: rest) =
      some (String.ofList cs, '\n' :: rest) := by
  have hread :=
    longLiteralRest_append 0 hplain hruns ('\n' :: rest) (by simp)
  have hskip := skipLineBreak_leadingBreak cs
    (cs ++ '\'' :: '\'' :: '\'' :: '\n' :: rest) (by
      intro hfeed
      cases cs with
      | nil => exact ⟨_, _, rfl, by decide, by decide⟩
      | cons c cs =>
          refine ⟨c, _, rfl, ?_, ?_⟩
          · rintro rfl
            simp at hfeed
          · rintro rfl
            cases hplain '\r' (by simp))
  simp only [List.replicate_zero, List.nil_append] at hread
  simp [quotedChars, readString, hskip, hread]

/-- A character whose longest run is empty does not occur. -/
theorem not_mem_of_longestRun_eq_zero {c : Char} {cs : List Char}
    (h : longestRun c 0 cs = 0) : c ∉ cs := by
  induction cs with
  | nil => simp
  | cons x cs ih =>
      by_cases hx : x = c
      · have hrun := le_longestRun c (0 + 1) cs
        simp only [longestRun, if_pos hx] at h
        omega
      · simp only [longestRun, if_neg hx] at h
        have hrest := ih (by omega)
        simp [Ne.symm hx, hrest]

theorem readString_stringChars (cs rest : List Char) :
    readString (stringChars cs ++ '\n' :: rest) =
      some (String.ofList cs, '\n' :: rest) := by
  unfold stringChars quotesFor
  simp only
  split
  · exact readString_basic cs rest
  · split
    · next h =>
        simp only [Bool.and_eq_true, Bool.not_eq_true', decide_eq_true_eq,
          List.any_eq_false] at h
        obtain ⟨⟨hplain, hsingle⟩, hfeed⟩ := h
        apply readString_literal
        intro c hc
        have hquote : c ≠ '\'' := by
          rintro rfl
          exact not_mem_of_longestRun_eq_zero hsingle hc
        have hline : c ≠ '\n' := by
          rintro rfl
          simp [hc] at hfeed
        simpa [needsEscape, isLiteralChar, hquote, hline] using hplain c hc
    · split
      · exact readString_longBasic cs rest
      · split
        · next h =>
            simp only [Bool.and_eq_true, Bool.not_eq_true', decide_eq_true_eq,
              List.any_eq_false] at h
            obtain ⟨hplain, hsingle⟩ := h
            refine readString_longLiteral ?_ hsingle rest
            intro c hc
            simpa using hplain c hc
        · split
          · exact readString_longBasic cs rest
          · exact readString_basic cs rest

end ScrobbleRelay.Toml
