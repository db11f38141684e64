import ScrobbleRelay.Proofs.Text.Digits
import ScrobbleRelay.Web.Json

/-!
# JSON is read back

`Json.Reads` says that a value is read back from how it is written, whatever
closing mark follows it.  Strings of any text and whole numbers are read back,
and so are arrays and objects of values that are; a text of such a value reads
as that value.
-/

namespace ScrobbleRelay.Web.Json

/-! ## Strings -/

theorem unit?_lowerHexDigit : ∀ n < 32,
    unit? '0' '0' (lowerHexDigit (n / 16)) (lowerHexDigit (n % 16)) = some n := by
  decide

/-- A character of a string is read back, whatever follows it. -/
theorem stringRest_escaped (c : Char) (rest : List Char) :
    stringRest (escaped c ++ rest) = push c (stringRest rest) := by
  unfold escaped
  repeat
    split
    · next h =>
        subst h
        simp [stringRest, escapedLetter?]
  split
  · next hcontrol =>
      have hunit := unit?_lowerHexDigit c.toNat hcontrol
      have hsmall : ¬ (0xD800 ≤ c.toNat ∧ c.toNat < 0xDC00) := by omega
      have hother : ¬ (0xDC00 ≤ c.toNat ∧ c.toNat < 0xE000) := by omega
      simp [stringRest, hunit, hsmall, hother, Char.ofNat_toNat]
  · next hquote hslash _ _ _ _ _ hcontrol =>
      rw [List.singleton_append, stringRest]
      · rw [if_neg hcontrol]
      · exact hquote
      · exact fun _ _ _ _ _ heq _ => hslash heq
      · exact fun _ _ heq _ => hslash heq

theorem stringRest_flatMap (cs rest : List Char) :
    stringRest (cs.flatMap escaped ++ '"' :: rest) = some (cs, rest) := by
  induction cs with
  | nil => rfl
  | cons c cs ih =>
      rw [List.flatMap_cons, List.append_assoc, stringRest_escaped, ih]
      rfl

theorem readString_stringChars (s : String) (rest : List Char) :
    readString (stringChars s ++ rest) = some (s, rest) := by
  simp [stringChars, readString, stringRest_flatMap]

/-! ## Values -/

/-- What may follow a value: nothing, or a comma or a closing mark. -/
def Closes (rest : List Char) : Prop :=
  ∀ c ∈ rest.head?, c = ',' ∨ c = ']' ∨ c = '\x7d'

theorem closes_nil : Closes [] := by
  simp [Closes]

theorem closes_cons {c : Char} (rest : List Char)
    (h : c = ',' ∨ c = ']' ∨ c = '\x7d') : Closes (c :: rest) := by
  simpa [Closes] using h

/-- A value that nests less than `depth` deep is read back from its text,
whatever follows it. -/
structure Reads (depth : Nat) (j : Json) : Prop where
  opens : ∃ c cs, j.chars = c :: cs ∧ isGap c = false ∧ c ≠ ']'
  reads : ∀ rest, Closes rest → readValue depth (j.chars ++ rest) = some (j, rest)

theorem Reads.string (depth : Nat) (s : String) :
    (Json.string s).Reads (depth + 1) where
  opens := ⟨'"', _, rfl, rfl, by decide⟩
  reads rest _ := by
    simp [chars, stringChars, readValue, stringRest_flatMap]

/-! ### Numbers -/

theorem ne_of_isDigit {c d : Char} (hc : c.isDigit = true)
    (hd : d.isDigit = false) : c ≠ d := by
  rintro rfl
  cases hc.symm.trans hd

theorem isDigit_eq_false_of_closes {c : Char} {rest : List Char}
    (h : Closes (c :: rest)) : c.isDigit = false := by
  rcases h c rfl with rfl | rfl | rfl <;> decide

theorem readDigits_append {digits rest : List Char}
    (hdigits : ∀ c ∈ digits, c.isDigit = true) (hne : digits ≠ [])
    (hrest : Closes rest) :
    readDigits (digits ++ rest) = some (digits, rest) := by
  have hstop : rest.takeWhile Char.isDigit = [] ∧
      rest.dropWhile Char.isDigit = rest := by
    cases rest with
    | nil => exact ⟨rfl, rfl⟩
    | cons c rest =>
        simp [isDigit_eq_false_of_closes hrest]
  obtain ⟨htake, hdrop⟩ := hstop
  rw [readDigits, List.takeWhile_append_of_pos hdigits,
    List.dropWhile_append_of_pos hdigits, htake, hdrop, List.append_nil]
  cases digits with
  | nil => exact absurd rfl hne
  | cons c digits => rfl

theorem readWhole_toDigits (n : Nat) {rest : List Char} (hrest : Closes rest) :
    readWhole (Nat.toDigits 10 n ++ rest) = some (Nat.toDigits 10 n, rest) := by
  cases Nat.eq_zero_or_pos n with
  | inl hzero =>
      rw [hzero, Nat.toDigits_zero, List.singleton_append]
      cases rest with
      | nil => rfl
      | cons c rest => simp [readWhole, isDigit_eq_false_of_closes hrest]
  | inr hpos =>
      have hread := readDigits_append (fun c => Text.isDigit_of_mem_toDigits)
        (Nat.toDigits_ne_nil (n := n) (b := 10)) hrest
      have hhead := Text.head?_toDigits_ne hpos
      cases hdigits : Nat.toDigits 10 n with
      | nil => exact absurd hdigits Nat.toDigits_ne_nil
      | cons c cs =>
          rw [hdigits] at hread hhead
          rw [List.cons_append] at hread ⊢
          rw [readWhole, hread]
          rintro tail ⟨⟩
          exact hhead rfl

theorem readNumber_toDigits (n : Nat) {rest : List Char} (hrest : Closes rest) :
    readNumber (Nat.toDigits 10 n ++ rest) =
      some (.number (toString n), rest) := by
  have hwhole := readWhole_toDigits n hrest
  have hfraction : readFraction rest = some ([], rest) := by
    cases rest with
    | nil => rfl
    | cons c rest => rcases hrest c rfl with rfl | rfl | rfl <;> rfl
  have hexponent : readExponent rest = some ([], rest) := by
    cases rest with
    | nil => rfl
    | cons c rest => rcases hrest c rfl with rfl | rfl | rfl <;> rfl
  cases hdigits : Nat.toDigits 10 n with
  | nil => exact absurd hdigits Nat.toDigits_ne_nil
  | cons c cs =>
      have hc : c.isDigit = true :=
        Text.isDigit_of_mem_toDigits (hdigits ▸ List.mem_cons_self)
      have hsign : c ≠ '-' := ne_of_isDigit hc rfl
      rw [hdigits, List.cons_append] at hwhole
      rw [List.cons_append, readNumber]
      · simp [hwhole, hfraction, hexponent, ← hdigits,
          Nat.repr_eq_ofList_toDigits]
      · exact fun _ heq => hsign (List.cons.inj heq).1

theorem readValue_of_isDigit (depth : Nat) {c : Char} (cs : List Char)
    (hc : c.isDigit = true) :
    readValue (depth + 1) (c :: cs) = readNumber (c :: cs) := by
  rw [readValue]
  all_goals
    exact fun _ heq => absurd (List.cons.inj heq).1 (ne_of_isDigit hc rfl)

theorem Reads.number (depth n : Nat) :
    (Json.number (toString n)).Reads (depth + 1) := by
  have hchars : (Json.number (toString n)).chars = Nat.toDigits 10 n := by
    rw [chars, Text.toList_toString]
  cases hdigits : Nat.toDigits 10 n with
  | nil => exact absurd hdigits Nat.toDigits_ne_nil
  | cons c cs =>
      have hc : c.isDigit = true :=
        Text.isDigit_of_mem_toDigits (hdigits ▸ List.mem_cons_self)
      constructor
      · refine ⟨c, cs, hchars.trans hdigits, ?_, ne_of_isDigit hc rfl⟩
        simp [isGap, ne_of_isDigit hc]
      · intro rest hrest
        have hnumber := readNumber_toDigits n hrest
        rw [hdigits, List.cons_append] at hnumber
        rw [hchars, hdigits, List.cons_append, readValue_of_isDigit depth _ hc,
          hnumber]

/-! ### Arrays -/

theorem skipGap_cons {c : Char} (rest : List Char) (h : isGap c = false) :
    skipGap (c :: rest) = c :: rest := by
  simp [skipGap, h]

theorem Reads.skipGap_chars {depth : Nat} {j : Json} (h : j.Reads depth)
    (rest : List Char) : skipGap (j.chars ++ rest) = j.chars ++ rest := by
  obtain ⟨c, cs, hchars, hgap, -⟩ := h.opens
  rw [hchars, List.cons_append, skipGap_cons _ hgap]

theorem itemsChars_cons_cons (item next : Json) (items : List Json) :
    itemsChars (item :: next :: items) =
      item.chars ++ ',' :: itemsChars (next :: items) := by
  rw [itemsChars]
  simp

/-- Values that are read back are read back one after the other. -/
theorem readItems_itemsChars {depth : Nat} {items : List Json}
    (hitems : ∀ item ∈ items, item.Reads depth) (hne : items ≠ [])
    (rest : List Char) {fuel : Nat} (hfuel : items.length ≤ fuel) :
    readItems (readValue depth) fuel (itemsChars items ++ ']' :: rest) =
      some (items, rest) := by
  induction items generalizing fuel with
  | nil => exact absurd rfl hne
  | cons item items ih =>
      obtain ⟨hitem, hothers⟩ := List.forall_mem_cons.mp hitems
      obtain ⟨fuel, rfl⟩ : ∃ k, fuel = k + 1 :=
        Nat.exists_eq_add_one_of_ne_zero (by simp at hfuel; omega)
      cases items with
      | nil =>
          have hread := hitem.reads (']' :: rest) (closes_cons rest (by simp))
          rw [itemsChars, readItems, hitem.skipGap_chars, hread]
          rfl
      | cons next items =>
          have hread := hitem.reads
            (',' :: (itemsChars (next :: items) ++ ']' :: rest))
            (closes_cons _ (by simp))
          have hshort : (next :: items).length ≤ fuel := by simpa using hfuel
          have hrest := ih hothers (by simp) hshort
          rw [itemsChars_cons_cons, readItems, List.append_assoc,
            List.cons_append, hitem.skipGap_chars, hread]
          simp only [skipGap_cons _ (rfl : isGap ',' = false), hrest,
            Option.map_some]

theorem length_le_itemsChars (items : List Json) :
    items.length ≤ (itemsChars items).length + 1 := by
  induction items with
  | nil => simp
  | cons item items ih =>
      cases items with
      | nil => simp
      | cons next items =>
          rw [itemsChars_cons_cons]
          simp at ih ⊢
          omega

theorem itemsChars_opens {depth : Nat} {item : Json} (items : List Json)
    (h : item.Reads depth) :
    ∃ c cs, itemsChars (item :: items) = c :: cs ∧ isGap c = false ∧ c ≠ ']' := by
  obtain ⟨c, cs, hchars, hc⟩ := h.opens
  cases items with
  | nil => exact ⟨c, cs, by rw [itemsChars, hchars], hc⟩
  | cons next items =>
      exact ⟨c, _, by rw [itemsChars_cons_cons, hchars, List.cons_append], hc⟩

/-- An array that does not close at once is read item by item. -/
theorem readValue_array (depth : Nat) {c : Char} (cs : List Char)
    (hgap : isGap c = false) (hclose : c ≠ ']') {items : List Json}
    {rest : List Char}
    (hread : readItems (readValue depth) ((c :: cs).length + 1) (c :: cs) =
      some (items, rest)) :
    readValue (depth + 1) ('[' :: c :: cs) = some (.array items, rest) := by
  rw [readValue, skipGap_cons cs hgap]
  split
  · next heq => exact absurd (List.cons.inj heq).1 hclose
  · rw [hread]
    rfl

theorem Reads.array {depth : Nat} {items : List Json}
    (h : ∀ item ∈ items, item.Reads depth) :
    (Json.array items).Reads (depth + 1) where
  opens := ⟨'[', _, rfl, rfl, by decide⟩
  reads rest _ := by
    cases items with
    | nil => simp [chars, itemsChars, readValue, skipGap, isGap]
    | cons item items =>
        have hlength := length_le_itemsChars (item :: items)
        obtain ⟨c, cs, hchars, hgap, hclose⟩ :=
          itemsChars_opens items (h item List.mem_cons_self)
        have hread {fuel : Nat} (hfuel : (item :: items).length ≤ fuel) :=
          readItems_itemsChars h (by simp) rest hfuel
        rw [hchars, List.cons_append] at hread
        rw [chars, hchars, List.cons_append, List.cons_append, List.append_assoc]
        refine readValue_array depth _ hgap hclose (hread ?_)
        rw [hchars] at hlength
        simp at hlength ⊢
        omega

/-! ### Objects -/

theorem skipGap_stringChars (s : String) (rest : List Char) :
    skipGap (stringChars s ++ rest) = stringChars s ++ rest :=
  skipGap_cons _ rfl

theorem fieldsChars_cons_cons (name : String) (value : Json)
    (next : String × Json) (fields : List (String × Json)) :
    fieldsChars ((name, value) :: next :: fields) =
      stringChars name ++ ':' :: value.chars ++ ',' ::
        fieldsChars (next :: fields) := by
  rw [fieldsChars]
  simp

/-- Fields whose values are read back are read back one after the other. -/
theorem readFields_fieldsChars {depth : Nat} {fields : List (String × Json)}
    (hfields : ∀ field ∈ fields, field.2.Reads depth) (hne : fields ≠ [])
    (rest : List Char) {fuel : Nat} (hfuel : fields.length ≤ fuel) :
    readFields (readValue depth) fuel (fieldsChars fields ++ '\x7d' :: rest) =
      some (fields, rest) := by
  induction fields generalizing fuel with
  | nil => exact absurd rfl hne
  | cons field fields ih =>
      obtain ⟨name, value⟩ := field
      obtain ⟨hvalue, hothers⟩ := List.forall_mem_cons.mp hfields
      obtain ⟨fuel, rfl⟩ : ∃ k, fuel = k + 1 :=
        Nat.exists_eq_add_one_of_ne_zero (by simp at hfuel; omega)
      cases fields with
      | nil =>
          have hread := hvalue.reads ('\x7d' :: rest) (closes_cons rest (by simp))
          rw [fieldsChars, readFields, List.append_assoc, List.cons_append,
            skipGap_stringChars, readString_stringChars]
          simp only [skipGap_cons _ (rfl : isGap ':' = false),
            hvalue.skipGap_chars, hread]
          rfl
      | cons next fields =>
          have hread := hvalue.reads
            (',' :: (fieldsChars (next :: fields) ++ '\x7d' :: rest))
            (closes_cons _ (by simp))
          have hshort : (next :: fields).length ≤ fuel := by simpa using hfuel
          have hrest := ih hothers (by simp) hshort
          rw [fieldsChars_cons_cons, readFields, List.append_assoc,
            List.append_assoc, List.cons_append, List.cons_append,
            skipGap_stringChars, readString_stringChars]
          simp only [skipGap_cons _ (rfl : isGap ':' = false),
            skipGap_cons _ (rfl : isGap ',' = false), hvalue.skipGap_chars,
            hread, hrest, Option.map_some]

theorem length_le_fieldsChars (fields : List (String × Json)) :
    fields.length ≤ (fieldsChars fields).length := by
  induction fields with
  | nil => simp
  | cons field fields ih =>
      obtain ⟨name, value⟩ := field
      cases fields with
      | nil =>
          rw [fieldsChars]
          simp
          omega
      | cons next fields =>
          rw [fieldsChars_cons_cons]
          simp at ih ⊢
          omega

/-- An object that does not close at once is read field by field. -/
theorem readValue_object (depth : Nat) (cs : List Char)
    {fields : List (String × Json)} {rest : List Char}
    (hread : readFields (readValue depth) (('"' :: cs).length + 1) ('"' :: cs) =
      some (fields, rest)) :
    readValue (depth + 1) ('\x7b' :: '"' :: cs) =
      some (.object fields, rest) := by
  rw [readValue, skipGap_cons cs rfl]
  split
  · next heq => exact absurd (List.cons.inj heq).1 (by decide)
  · rw [hread]
    rfl

theorem Reads.object {depth : Nat} {fields : List (String × Json)}
    (h : ∀ field ∈ fields, field.2.Reads depth) :
    (Json.object fields).Reads (depth + 1) where
  opens := ⟨'\x7b', _, rfl, rfl, by decide⟩
  reads rest _ := by
    cases fields with
    | nil => simp [chars, fieldsChars, readValue, skipGap, isGap]
    | cons field fields =>
        have hlength := length_le_fieldsChars (field :: fields)
        have hread {fuel : Nat} (hfuel : (field :: fields).length ≤ fuel) :=
          readFields_fieldsChars h (by simp) rest hfuel
        have hopens : ∃ cs, fieldsChars (field :: fields) = '"' :: cs := by
          cases fields with
          | nil => exact ⟨_, rfl⟩
          | cons next fields => exact ⟨_, fieldsChars_cons_cons ..⟩
        obtain ⟨cs, hchars⟩ := hopens
        rw [hchars, List.cons_append] at hread
        rw [chars, hchars, List.cons_append, List.cons_append, List.append_assoc]
        refine readValue_object depth _ (hread ?_)
        rw [hchars] at hlength
        simp at hlength ⊢
        omega

/-- The text of a value that is read back reads as that value. -/
theorem Reads.ofText?_text {j : Json} (h : j.Reads 128) :
    ofText? j.text = some j := by
  obtain ⟨c, cs, hchars, hgap, -⟩ := h.opens
  have hskip : skipGap j.text.toList = j.chars := by
    rw [text, String.toList_ofList, hchars]
    simp [skipGap, hgap]
  have hread := h.reads [] closes_nil
  rw [List.append_nil] at hread
  rw [ofText?, hskip, hread]
  rfl

end ScrobbleRelay.Web.Json
