import ScrobbleRelay.Web.Form

/-!
# Form texts are read back

Every byte is written with characters that are neither an ampersand nor an
equals sign, and is read back from them whatever follows.  So the separators
of a form text are those between its pairs, and `readPairs?` gives back the
pairs that were written, for all texts.
-/

namespace ScrobbleRelay.Web

/-! ## Bytes -/

theorem byteArray_toList_loop (bytes : ByteArray) (i : Nat) (front : List UInt8) :
    ByteArray.toList.loop bytes i front =
      front.reverse ++ bytes.data.toList.drop i := by
  induction i, front using ByteArray.toList.loop.induct bytes with
  | case1 i front hi ih =>
      have hget : bytes.data.toList.drop i =
          bytes.get! i :: bytes.data.toList.drop (i + 1) := by
        have hlength : i < bytes.data.toList.length := hi
        rw [List.drop_eq_getElem_cons hlength]
        congr 1
        simp [ByteArray.get!, getElem!_pos bytes.data i hi]
      rw [ByteArray.toList.loop, if_pos hi, ih, hget]
      simp
  | case2 i front hi =>
      have hlength : bytes.data.toList.length ≤ i := Nat.not_lt.mp hi
      rw [ByteArray.toList.loop, if_neg hi, List.drop_eq_nil_of_le hlength]
      simp

theorem byteArray_toList (bytes : ByteArray) :
    bytes.toList = bytes.data.toList := by
  simp [ByteArray.toList, byteArray_toList_loop]

theorem forall_byte {P : UInt8 → Prop} (h : ∀ n < 256, P (UInt8.ofNat n))
    (b : UInt8) : P b := by
  simpa using h b.toNat b.toNat_lt

theorem hexDigitValue?_upperHexDigit :
    ∀ n < 16, hexDigitValue? (upperHexDigit n) = some n := by
  decide

/-- A byte that stands for itself is one character, which is no sign of the
encoding. -/
theorem formByte_plain : ∀ b, isFormByte b = true →
    (Char.ofNat b.toNat).toString.toUTF8.toList = [b] ∧
      Char.ofNat b.toNat ≠ '%' ∧ Char.ofNat b.toNat ≠ '+' := by
  refine forall_byte ?_
  decide +kernel

theorem formByte_signs : ∀ b,
    '&' ∉ formByte b ∧ '=' ∉ formByte b ∧ '\x7b' ∉ formByte b := by
  refine forall_byte ?_
  decide +kernel

theorem formBytes_plus (rest : List Char) :
    formBytes ('+' :: rest) = 32 :: formBytes rest := by
  simp [formBytes]

theorem formBytes_plain {c : Char} (rest : List Char) (hpercent : c ≠ '%')
    (hplus : c ≠ '+') :
    formBytes (c :: rest) = c.toString.toUTF8.toList ++ formBytes rest := by
  rw [formBytes]
  · rintro a b tail rfl
    exact absurd rfl hpercent
  · exact hplus

theorem formBytes_formByte (b : UInt8) (rest : List Char) :
    formBytes (formByte b ++ rest) = b :: formBytes rest := by
  unfold formByte
  by_cases hplain : isFormByte b = true
  · obtain ⟨hbytes, hpercent, hplus⟩ := formByte_plain b hplain
    rw [if_pos hplain, List.singleton_append,
      formBytes_plain rest hpercent hplus, hbytes]
    rfl
  · rw [if_neg hplain]
    by_cases hblank : b = 32
    · rw [if_pos hblank, hblank]
      exact formBytes_plus rest
    · rw [if_neg hblank]
      have hhigh := hexDigitValue?_upperHexDigit (b.toNat / 16)
        (by have := b.toNat_lt; omega)
      have hlow := hexDigitValue?_upperHexDigit (b.toNat % 16)
        (Nat.mod_lt _ (by decide))
      have hvalue : 16 * (b.toNat / 16) + b.toNat % 16 = b.toNat :=
        Nat.div_add_mod b.toNat 16
      simp only [percentEncoded, List.cons_append, List.nil_append, formBytes,
        hhigh, hlow, hvalue, UInt8.ofNat_toNat]

/-! ## Names and values -/

theorem formBytes_flatMap (bytes : List UInt8) :
    formBytes (bytes.flatMap formByte) = bytes := by
  induction bytes with
  | nil => rfl
  | cons b bytes ih => rw [List.flatMap_cons, formBytes_formByte, ih]

theorem readFormChars?_formChars (s : String) :
    readFormChars? (formChars s) = some s := by
  have hbytes : ByteArray.mk (formBytes (formChars s)).toArray = s.toUTF8 := by
    rw [formChars, formBytes_flatMap, byteArray_toList]
  rw [readFormChars?, hbytes]
  exact dif_pos s.isValidUTF8

theorem formChars_signs (s : String) :
    '&' ∉ formChars s ∧ '=' ∉ formChars s ∧ '\x7b' ∉ formChars s := by
  simp only [formChars, List.mem_flatMap, not_exists, not_and]
  exact ⟨fun b _ => (formByte_signs b).1, fun b _ => (formByte_signs b).2.1,
    fun b _ => (formByte_signs b).2.2⟩

theorem takeWhile_ne_append_cons {c : Char} {front : List Char}
    (rest : List Char) (h : c ∉ front) :
    (front ++ c :: rest).takeWhile (· != c) = front ∧
      (front ++ c :: rest).dropWhile (· != c) = c :: rest := by
  have hfront : ∀ d ∈ front, (d != c) = true := by
    intro d hd
    exact bne_iff_ne.mpr fun heq => h (heq ▸ hd)
  constructor
  · rw [List.takeWhile_append_of_pos hfront]
    simp
  · rw [List.dropWhile_append_of_pos hfront]
    simp

theorem readPair?_pairChars (pair : String × String) :
    readPair? (pairChars pair) = some pair := by
  obtain ⟨htake, hdrop⟩ := takeWhile_ne_append_cons (formChars pair.2)
    (formChars_signs pair.1).2.1
  simp only [readPair?, pairChars, htake, hdrop, List.drop_succ_cons,
    List.drop_zero, readFormChars?_formChars]
  rfl

theorem pairChars_signs (pair : String × String) :
    '&' ∉ pairChars pair ∧ '\x7b' ∉ pairChars pair := by
  simp [pairChars, formChars_signs]

/-! ## Pairs -/

theorem splitAll_eq_splitOn (c : Char) (cs : List Char) :
    splitAll c cs = cs.splitOn c := by
  induction cs with
  | nil => rfl
  | cons d cs ih =>
      rw [splitAll, ih, List.splitOn_cons_eq_if_modifyHead]
      obtain ⟨piece, pieces, hpieces⟩ :=
        List.exists_cons_of_ne_nil (List.splitOn_ne_nil c cs)
      by_cases hd : d = c
      · simp [hpieces, hd]
      · simp [hpieces, hd]

theorem splitAll_formText {pairs : List (String × String)} (h : pairs ≠ []) :
    splitAll '&' (formText pairs).toList = pairs.map pairChars := by
  have hpieces : ∀ piece ∈ pairs.map pairChars, '&' ∉ piece := by
    intro piece hpiece
    obtain ⟨pair, -, rfl⟩ := List.mem_map.mp hpiece
    exact (pairChars_signs pair).1
  rw [formText, String.toList_ofList, splitAll_eq_splitOn]
  exact List.splitOn_intercalate '&' hpieces (by simpa using h)

theorem mapM_readPair? (pairs : List (String × String)) :
    (pairs.map pairChars).mapM readPair? = some pairs := by
  induction pairs with
  | nil => rfl
  | cons pair pairs ih =>
      rw [List.map_cons, List.mapM_cons, readPair?_pairChars, ih]
      rfl

theorem readPairs?_formText (pairs : List (String × String)) :
    readPairs? (formText pairs) = some pairs := by
  cases pairs with
  | nil => rfl
  | cons pair pairs =>
      have hnonempty : (formText (pair :: pairs)).isEmpty = false := by
        cases pairs <;> simp [formText, pairChars]
      rw [readPairs?, hnonempty, if_neg Bool.false_ne_true,
        splitAll_formText (by simp)]
      exact mapM_readPair? (pair :: pairs)

theorem brace_notMem_formText (pairs : List (String × String)) :
    '\x7b' ∉ (formText pairs).toList := by
  rw [formText, String.toList_ofList]
  induction pairs with
  | nil => simp
  | cons pair pairs ih =>
      have hpair := (pairChars_signs pair).2
      cases pairs with
      | nil => simpa using hpair
      | cons next pairs =>
          rw [List.map_cons] at ih
          rw [List.map_cons, List.map_cons, List.intercalate_cons_cons]
          simp [hpair, ih]

theorem formText_injective : Function.Injective formText := by
  intro pairs others htext
  have hread := readPairs?_formText pairs
  rw [htext, readPairs?_formText] at hread
  exact (Option.some.inj hread).symm

end ScrobbleRelay.Web
