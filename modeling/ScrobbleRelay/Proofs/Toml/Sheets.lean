import ScrobbleRelay.Proofs.Toml.Strings
import ScrobbleRelay.Toml.Reader

/-!
# Sheets that are written can be read

The document of a sheet is read back from its text: name by name, line by
line and part by part.  Every piece is read with whatever follows it, which
is left for the reader of the next piece.  Between the pieces the reader skips
line feeds, so what matters about a piece is that it does not begin with
anything that is skipped.
-/

namespace ScrobbleRelay.Toml

/-! ## Characters that a piece begins with -/

/-- A list of characters begins with one that no reader skips. -/
def BeginsPlainly (cs : List Char) : Prop :=
  ∃ c rest, cs = c :: rest ∧ isGap c = false ∧ c ≠ '\n' ∧ c ≠ '\r' ∧ c ≠ '#' ∧
    c ≠ '\ufeff'

namespace BeginsPlainly

variable {cs : List Char}

theorem append (h : BeginsPlainly cs) (rest : List Char) :
    BeginsPlainly (cs ++ rest) := by
  obtain ⟨c, cs, rfl, hc⟩ := h
  exact ⟨c, cs ++ rest, rfl, hc⟩

theorem skipGap_eq (h : BeginsPlainly cs) : skipGap cs = cs := by
  obtain ⟨c, rest, rfl, hgap, -⟩ := h
  simp [skipGap, hgap]

theorem skipSpace_eq (h : BeginsPlainly cs) : skipSpace cs = cs := by
  obtain ⟨c, rest, rfl, hgap, hfeed, hreturn, hcomment, -⟩ := h
  simp [skipSpace, skipSpaceFrom, hgap, hfeed, hreturn, hcomment]

theorem skipMark_eq (h : BeginsPlainly cs) : skipMark cs = cs := by
  obtain ⟨c, rest, rfl, -, -, -, -, hmark⟩ := h
  simp [skipMark, hmark]

end BeginsPlainly

theorem skipSpace_lineFeed (cs : List Char) :
    skipSpace ('\n' :: cs) = skipSpace cs := by
  simp [skipSpace, skipSpaceFrom]

/-! ## Names -/

theorem isNameChar_plain {c : Char} (h : isNameChar c = true) :
    isGap c = false ∧ c ≠ '\n' ∧ c ≠ '\r' ∧ c ≠ '#' ∧ c ≠ '\ufeff' ∧ c ≠ '"' ∧
      c ≠ '\'' ∧ c ≠ '[' := by
  refine ⟨?_, ?_, ?_, ?_, ?_, ?_, ?_, ?_⟩
  · rw [isGap, Bool.or_eq_false_iff, beq_eq_false_iff_ne, beq_eq_false_iff_ne]
    constructor <;> rintro rfl <;> cases h
  all_goals
    rintro rfl
    cases h

theorem nameChars_begins (name : String) :
    BeginsPlainly (nameChars name) ∧ ∀ r, nameChars name ≠ '[' :: r := by
  unfold nameChars
  by_cases hbare : BareName name
  · rw [if_pos hbare]
    obtain ⟨hne, hall⟩ := hbare
    obtain ⟨c, cs, hcs⟩ := List.exists_cons_of_ne_nil hne
    obtain ⟨hgap, hfeed, hreturn, hcomment, hmark, -, -, hbracket⟩ :=
      isNameChar_plain (hall c (by simp [hcs]))
    rw [hcs]
    exact ⟨⟨c, cs, rfl, hgap, hfeed, hreturn, hcomment, hmark⟩, by simp [hbracket]⟩
  · rw [if_neg hbare]
    exact ⟨⟨'"', _, rfl, by decide⟩, by simp [quotedChars]⟩

theorem readName_nameChars (name : String) (rest : List Char)
    (hend : ∀ c r, rest = c :: r → isNameChar c = false) :
    readName (nameChars name ++ rest) = some (name, rest) := by
  unfold nameChars
  by_cases hbare : BareName name
  · rw [if_pos hbare]
    obtain ⟨hne, hall⟩ := hbare
    have hstop :
        rest.takeWhile isNameChar = [] ∧ rest.dropWhile isNameChar = rest := by
      cases rest with
      | nil => exact ⟨rfl, rfl⟩
      | cons c r => simp [hend c r rfl]
    have htake : (name.toList ++ rest).takeWhile isNameChar = name.toList := by
      rw [List.takeWhile_append_of_pos hall, hstop.1, List.append_nil]
    have hdrop : (name.toList ++ rest).dropWhile isNameChar = rest := by
      rw [List.dropWhile_append_of_pos hall, hstop.2]
    obtain ⟨c, cs, hcs⟩ := List.exists_cons_of_ne_nil hne
    obtain ⟨-, -, -, -, -, hdouble, hsingle, -⟩ :=
      isNameChar_plain (hall c (by simp [hcs]))
    have hquotes :
        (∀ r, name.toList ++ rest = '"' :: r → False) ∧
          ∀ r, name.toList ++ rest = '\'' :: r → False := by
      simp [hcs, hdouble, hsingle]
    rw [readName, htake, hdrop]
    · simp [hne]
    · exact hquotes.1
    · exact hquotes.2
  · rw [if_neg hbare]
    have hread := basicRest_basicChars 0 name.toList rest
    simp [quotedChars, readName, hread]

/-! ## Lines -/

theorem readKey_nameChars (name : String) (rest : List Char)
    (hend : ∀ c r, rest = c :: r → isNameChar c = false)
    (hdot : ∀ r, skipGap rest ≠ '.' :: r) :
    readKey (nameChars name ++ rest) = some (([], name), skipGap rest) := by
  have hgap : skipGap (nameChars name ++ rest) = nameChars name ++ rest :=
    ((nameChars_begins name).1.append rest).skipGap_eq
  have hpath :
      readPath greatestDepth (nameChars name ++ rest) =
        some ([name], skipGap rest) := by
    rw [greatestDepth, readPath, hgap, readName_nameChars name rest hend]
    simp only
  rw [readKey, hpath]
  rfl

theorem stringChars_head (cs : List Char) :
    ∃ quote rest, stringChars cs = quote :: rest ∧ (quote = '"' ∨ quote = '\'') := by
  unfold stringChars
  cases quotesFor cs with
  | basic => exact ⟨_, _, rfl, .inl rfl⟩
  | literal => exact ⟨_, _, rfl, .inr rfl⟩
  | longBasic => exact ⟨_, _, rfl, .inl rfl⟩
  | longLiteral => exact ⟨_, _, rfl, .inr rfl⟩

theorem readValue_chars (l : Literal) (rest : List Char) :
    readValue greatestDepth (l.chars ++ '\n' :: rest) =
      some (l.value, '\n' :: rest) := by
  cases l with
  | text s =>
      have hread := readString_stringChars s.toList rest
      obtain ⟨quote, cs, hcs, hquote⟩ := stringChars_head s.toList
      rw [hcs, List.cons_append] at hread
      have hstring :
          readValue greatestDepth (quote :: (cs ++ '\n' :: rest)) =
            (readString (quote :: (cs ++ '\n' :: rest))).map
              (Prod.map Value.string id) := by
        rcases hquote with rfl | rfl <;> rfl
      rw [Literal.chars, hcs, List.cons_append, hstring, hread]
      simp [Literal.value]
  | flag b => cases b <;> rfl
  | nothing => rfl

theorem literal_skipGap (l : Literal) (rest : List Char) :
    skipGap (l.chars ++ rest) = l.chars ++ rest := by
  cases l with
  | text s =>
      obtain ⟨quote, cs, hcs, hquote⟩ := stringChars_head s.toList
      rw [Literal.chars, hcs]
      rcases hquote with rfl | rfl <;> rfl
  | flag b => cases b <;> rfl
  | nothing => rfl

theorem readAssignment_chars (e : Entry) (rest : List Char) :
    readAssignment (readValue greatestDepth) (e.chars ++ rest) =
      some (e.assignment, '\n' :: rest) := by
  have hchars :
      e.chars ++ rest =
        nameChars e.name ++
          (' ' :: '=' :: ' ' :: (e.literal.chars ++ '\n' :: rest)) := by
    simp [Entry.chars]
  have hkey := readKey_nameChars e.name
    (' ' :: '=' :: ' ' :: (e.literal.chars ++ '\n' :: rest))
    (by simp [isNameChar]) (by simp [skipGap, isGap])
  have hgap :
      skipGap (' ' :: (e.literal.chars ++ '\n' :: rest)) =
        e.literal.chars ++ '\n' :: rest :=
    literal_skipGap e.literal ('\n' :: rest)
  have hequals :
      skipGap (' ' :: '=' :: ' ' :: (e.literal.chars ++ '\n' :: rest)) =
        '=' :: ' ' :: (e.literal.chars ++ '\n' :: rest) := by
    simp [skipGap, isGap]
  rw [hequals] at hkey
  rw [hchars, readAssignment, hkey]
  simp only [hgap, readValue_chars, Option.map_some]
  rfl

theorem entry_begins (e : Entry) (rest : List Char) :
    BeginsPlainly (e.chars ++ rest) ∧ ∀ r, e.chars ++ rest ≠ '[' :: r := by
  obtain ⟨hbegins, hbracket⟩ := nameChars_begins e.name
  obtain ⟨c, cs, hcs, hc⟩ := hbegins
  have hhead : c ≠ '[' := by
    rintro rfl
    exact hbracket cs hcs
  have hchars :
      e.chars ++ rest =
        c :: (cs ++ " = ".toList ++ e.literal.chars ++ ['\n'] ++ rest) := by
    simp [Entry.chars, hcs]
  rw [hchars]
  exact ⟨⟨c, _, rfl, hc⟩, by simp [hhead]⟩

/-- Lines are read back where the end of the text or a heading follows, if
there is fuel for one more line than there is. -/
theorem readAssignments_chars (entries : List Entry) (tail : List Char)
    (fuel : Nat) (hfuel : entries.length < fuel)
    (hend : skipSpace tail = [] ∨ ∃ r, skipSpace tail = '[' :: r) :
    readAssignments fuel (entries.flatMap Entry.chars ++ tail) =
      some (entries.map Entry.assignment, skipSpace tail) := by
  induction entries generalizing fuel with
  | nil =>
      obtain ⟨fuel, rfl⟩ :=
        Nat.exists_eq_add_one_of_ne_zero (Nat.ne_zero_of_lt hfuel)
      rw [List.flatMap_nil, List.nil_append, readAssignments]
      rcases hend with hnil | ⟨r, hheading⟩
      · rw [hnil]
        rfl
      · rw [hheading]
        rfl
  | cons e entries ih =>
      obtain ⟨fuel, rfl⟩ :=
        Nat.exists_eq_add_one_of_ne_zero (Nat.ne_zero_of_lt hfuel)
      have hrest := ih fuel (by simpa using hfuel)
      obtain ⟨hbegins, hbracket⟩ :=
        entry_begins e (entries.flatMap Entry.chars ++ tail)
      have hne : e.chars ++ (entries.flatMap Entry.chars ++ tail) ≠ [] := by
        obtain ⟨c, cs, hcs, -⟩ := hbegins
        simp [hcs]
      rw [List.flatMap_cons, List.append_assoc, readAssignments,
        hbegins.skipSpace_eq]
      simp only [readAssignment_chars]
      have hline :
          afterLine? ('\n' :: (entries.flatMap Entry.chars ++ tail)) =
            some (entries.flatMap Entry.chars ++ tail) := rfl
      simp [hline, hrest]

/-! ## Parts -/

theorem readHeading_chars (p : Part) (rest : List Char) :
    readHeading (p.headingChars ++ rest) = some (p.asSection.heading, rest) := by
  unfold Part.headingChars
  cases helement : p.isElement with
  | true =>
      have hkey := readKey_nameChars p.name (']' :: ']' :: '\n' :: rest)
        (by simp [isNameChar]) (by simp [skipGap, isGap])
      have hgap :
          skipGap (']' :: ']' :: '\n' :: rest) = ']' :: ']' :: '\n' :: rest := rfl
      rw [hgap] at hkey
      have hline : afterLine? ('\n' :: rest) = some rest := rfl
      simp [readHeading, hkey, hline, Part.asSection, helement]
  | false =>
      have hkey := readKey_nameChars p.name (']' :: '\n' :: rest)
        (by simp [isNameChar]) (by simp [skipGap, isGap])
      have hgap : skipGap (']' :: '\n' :: rest) = ']' :: '\n' :: rest := rfl
      rw [hgap] at hkey
      have hline : afterLine? ('\n' :: rest) = some rest := rfl
      have hbracket :
          ∀ r, nameChars p.name ++ ']' :: '\n' :: rest ≠ '[' :: r := by
        obtain ⟨⟨c, cs, hcs, -⟩, hhead⟩ := nameChars_begins p.name
        intro r h
        rw [hcs, List.cons_append] at h
        exact hhead cs (by rw [hcs, (List.cons.inj h).1])
      have hchars :
          "[".toList ++ nameChars p.name ++ "]\n".toList ++ rest =
            '[' :: (nameChars p.name ++ ']' :: '\n' :: rest) := by
        simp
      simp only [Bool.false_eq_true, if_false, hchars]
      rw [readHeading]
      · simp [hkey, hline, Part.asSection, helement]
      · exact hbracket

theorem heading_head (p : Part) : ∃ r, p.headingChars = '[' :: r := by
  unfold Part.headingChars
  cases p.isElement with
  | true => exact ⟨_, rfl⟩
  | false => exact ⟨_, rfl⟩

/-- Before the parts of a sheet only line feeds are skipped. -/
theorem skipSpace_partsChars (first : Bool) (parts : List Part) :
    skipSpace (partsChars first parts) = partsChars true parts := by
  cases parts with
  | nil => rfl
  | cons p parts =>
      obtain ⟨r, hr⟩ := heading_head p
      have hbracket (rest : List Char) :
          skipSpace ('[' :: rest) = '[' :: rest := by
        simp [skipSpace, skipSpaceFrom, isGap]
      cases first with
      | true => simp [partsChars, Part.chars, hr, hbracket]
      | false =>
          simp [partsChars, Part.chars, hr, hbracket, skipSpace_lineFeed]

theorem partsChars_head (parts : List Part) :
    partsChars true parts = [] ∨ ∃ r, partsChars true parts = '[' :: r := by
  cases parts with
  | nil => exact .inl rfl
  | cons p parts =>
      obtain ⟨r, hr⟩ := heading_head p
      right
      simp [partsChars, Part.chars, hr]

theorem length_le_flatMap_chars (entries : List Entry) :
    entries.length ≤ (entries.flatMap Entry.chars).length := by
  induction entries with
  | nil => simp
  | cons e entries ih =>
      have hpos : 0 < e.chars.length := by
        simp only [Entry.chars, List.length_append, List.length_cons]
        omega
      simp only [List.flatMap_cons, List.length_append, List.length_cons]
      omega

theorem length_le_partsChars (first : Bool) (parts : List Part) :
    parts.length ≤ (partsChars first parts).length := by
  induction parts generalizing first with
  | nil => simp
  | cons p parts ih =>
      have hrest := ih false
      obtain ⟨r, hr⟩ := heading_head p
      simp only [partsChars, Part.chars, hr, List.length_append,
        List.length_cons]
      omega

/-- Parts are read back, if there is fuel for one more part than there is. -/
theorem readSections_partsChars (parts : List Part) (fuel : Nat)
    (hfuel : parts.length < fuel) :
    readSections fuel (partsChars true parts) =
      some (parts.map Part.asSection) := by
  induction parts generalizing fuel with
  | nil =>
      obtain ⟨fuel, rfl⟩ :=
        Nat.exists_eq_add_one_of_ne_zero (Nat.ne_zero_of_lt hfuel)
      rfl
  | cons p parts ih =>
      obtain ⟨fuel, rfl⟩ :=
        Nat.exists_eq_add_one_of_ne_zero (Nat.ne_zero_of_lt hfuel)
      have hrest := ih fuel (by simpa using hfuel)
      have hchars :
          partsChars true (p :: parts) =
            p.headingChars ++
              (p.entries.flatMap Entry.chars ++ partsChars false parts) := by
        simp [partsChars, Part.chars]
      have hlines := readAssignments_chars p.entries (partsChars false parts)
        ((p.entries.flatMap Entry.chars ++ partsChars false parts).length + 1)
        (by
          have := length_le_flatMap_chars p.entries
          simp only [List.length_append]
          omega)
        (by
          rw [skipSpace_partsChars]
          exact partsChars_head parts)
      obtain ⟨r, hr⟩ := heading_head p
      have hne : p.headingChars ++
          (p.entries.flatMap Entry.chars ++ partsChars false parts) ≠ [] := by
        simp [hr]
      rw [hchars, readSections]
      · simp only [readHeading_chars, hlines, skipSpace_partsChars, hrest]
        rfl
      · exact hne

/-! ## Whole sheets -/

theorem Document.ofText?_text (s : Sheet) :
    Document.ofText? s.text = some s.document := by
  have hmark : skipMark s.chars = s.chars := by
    unfold Sheet.chars
    cases s.entries with
    | cons e entries =>
        simp only [List.flatMap_cons, List.append_assoc]
        exact (entry_begins e _).1.skipMark_eq
    | nil =>
        rcases partsChars_head s.parts with hnil | ⟨r, hr⟩
        · simp [hnil, skipMark]
        · simp [hr, skipMark]
  have hlines := readAssignments_chars s.entries
    (partsChars s.entries.isEmpty s.parts) (s.chars.length + 1)
    (by
      have := length_le_flatMap_chars s.entries
      simp only [Sheet.chars, List.length_append]
      omega)
    (by
      rw [skipSpace_partsChars]
      exact partsChars_head s.parts)
  have hparts := readSections_partsChars s.parts
    ((partsChars true s.parts).length + 1)
    (by
      have := length_le_partsChars true s.parts
      omega)
  rw [Document.ofText?, Sheet.text, String.toList_ofList, Document.ofChars?,
    hmark]
  have hchars :
      s.chars =
        s.entries.flatMap Entry.chars ++ partsChars s.entries.isEmpty s.parts :=
    rfl
  rw [← hchars, skipSpace_partsChars] at hlines
  rw [hlines]
  simp only [hparts]
  rfl

end ScrobbleRelay.Toml
