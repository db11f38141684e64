import ScrobbleRelay.Proofs.Bus.Rules
import ScrobbleRelay.Proofs.Text.Lines
import ScrobbleRelay.Proofs.Web.FormTexts

/-!
# The grammars of names on the bus

Which texts are names is said here by their pieces between dots or slashes;
each check accepts exactly these.  Two things that the checks let pass are part
of the grammars: the last element of a dotted name may be empty, and so may
the first one of the name of a connection.
-/

namespace ScrobbleRelay.Bus

variable {allowed : Char → Bool} {digitsFirst : Bool} {name path : String}

/-! ## Grammars -/

/-- Names of members: letters, digits and underscores, no digit first. -/
structure IsMemberName (name : String) : Prop where
  chars : ∀ c ∈ name.toList, isWordChar c = true
  head : ∃ c rest, name.toList = c :: rest ∧ c.isDigit = false
  length : name.utf8ByteSize ≤ greatestLength

/-- What may stand between two dots of a name. -/
structure IsElement (allowed : Char → Bool) (digitsFirst : Bool)
    (element : List Char) : Prop where
  chars : ∀ c ∈ element, allowed c = true
  head : digitsFirst = true ∨ ∀ c ∈ element.head?, c.isDigit = false

/-- Elements of which only the last one may be empty. -/
structure AreElements (allowed : Char → Bool) (digitsFirst : Bool)
    (pieces : List (List Char)) : Prop where
  filled : ∀ element ∈ pieces.dropLast, element ≠ []
  elements : ∀ element ∈ pieces, IsElement allowed digitsFirst element

/-- Names of two elements or more: those of interfaces, and the well-known
names of senders. -/
structure IsDotted (allowed : Char → Bool) (name : String) : Prop where
  several : 1 < (name.toList.splitOn '.').length
  elements : AreElements allowed false (name.toList.splitOn '.')
  least : 3 ≤ name.utf8ByteSize
  length : name.utf8ByteSize ≤ greatestLength

/-- Names of connections: elements that may begin with digits, the first of
them after a colon. -/
structure IsConnection (name : String) : Prop where
  pieces : ∃ first elements, name.toList.splitOn '.' = (':' :: first) :: elements ∧
    elements ≠ [] ∧ (∀ c ∈ first, isBusNameChar c = true) ∧
    AreElements isBusNameChar true elements
  length : name.utf8ByteSize ≤ greatestLength

/-- Names of senders. -/
def IsBusName (name : String) : Prop :=
  IsConnection name ∨ IsDotted isBusNameChar name

/-- Object paths: one slash, or elements with a slash before each of them. -/
def IsObjectPath (path : String) : Prop :=
  ∃ rest, path.toList = '/' :: rest ∧
    (rest = [] ∨ ∀ element ∈ rest.splitOn '/',
      element ≠ [] ∧ ∀ c ∈ element, isWordChar c = true)

/-! ## Members -/

theorem checkLength_eq_ok_iff {least : Nat} :
    checkLength least name = .ok () ↔
      least ≤ name.utf8ByteSize ∧ name.utf8ByteSize ≤ greatestLength := by
  unfold checkLength
  by_cases hshort : name.utf8ByteSize < least
  · simp [hshort, Nat.not_le.mpr hshort]
  · by_cases hlong : greatestLength < name.utf8ByteSize
    · simp [hshort, hlong, Nat.not_le.mpr hlong]
    · simp [hshort, hlong, Nat.not_lt.mp hshort, Nat.not_lt.mp hlong]

theorem checkChars_eq_ok_iff {cs : List Char} :
    checkChars allowed cs = .ok () ↔ ∀ c ∈ cs, allowed c = true := by
  induction cs with
  | nil => simp [checkChars]
  | cons c cs ih =>
      rw [checkChars]
      by_cases hc : allowed c = true
      · simp [hc, ih]
      · simp [hc]

theorem checkMember_eq_ok_iff : checkMember name = .ok () ↔ IsMemberName name := by
  rw [checkMember, check_bind_eq_ok_iff, checkLength_eq_ok_iff]
  constructor
  · rintro ⟨⟨hleast, hlength⟩, hname⟩
    rcases hchars : name.toList with _ | ⟨c, rest⟩
    · obtain rfl : name = "" := String.toList_eq_nil_iff.mp hchars
      cases hleast
    · simp only [hchars] at hname
      by_cases hc : c.isDigit = true
      · simp [hc] at hname
      · rw [if_neg hc, checkChars_eq_ok_iff] at hname
        exact ⟨by rwa [hchars], ⟨c, rest, hchars, by simpa using hc⟩, hlength⟩
  · rintro ⟨hchars, ⟨c, rest, hname, hc⟩, hlength⟩
    have hleast : 1 ≤ name.utf8ByteSize := by
      rw [Nat.one_le_iff_ne_zero, Ne, String.utf8ByteSize_eq_zero_iff]
      rintro rfl
      cases hname
    refine ⟨⟨hleast, hlength⟩, ?_⟩
    rw [hname] at hchars ⊢
    simp only [hc]
    exact checkChars_eq_ok_iff.mpr hchars

/-! ## Dotted names -/

theorem areElements_singleton {e : List Char} :
    AreElements allowed digitsFirst [e] ↔ IsElement allowed digitsFirst e := by
  constructor
  · intro h
    exact h.elements e (List.mem_singleton_self e)
  · intro h
    exact ⟨by simp, by simpa using h⟩

theorem areElements_cons {e : List Char} {pieces : List (List Char)}
    (hpieces : pieces ≠ []) :
    AreElements allowed digitsFirst (e :: pieces) ↔
      (e ≠ [] ∧ IsElement allowed digitsFirst e) ∧
        AreElements allowed digitsFirst pieces := by
  constructor
  · rintro ⟨hfilled, helements⟩
    rw [List.dropLast_cons_of_ne_nil hpieces] at hfilled
    rw [List.forall_mem_cons] at hfilled helements
    exact ⟨⟨hfilled.1, helements.1⟩, hfilled.2, helements.2⟩
  · rintro ⟨⟨hne, he⟩, hfilled, helements⟩
    refine ⟨?_, List.forall_mem_cons.mpr ⟨he, helements⟩⟩
    rw [List.dropLast_cons_of_ne_nil hpieces]
    exact List.forall_mem_cons.mpr ⟨hne, hfilled⟩

section Elements

variable {e : List Char}

theorem checkElements_inside (he : '.' ∉ e) (dotted : Bool) (rest : List Char) :
    checkElements allowed digitsFirst false dotted (e ++ rest) = .ok () ↔
      (∀ c ∈ e, allowed c = true) ∧
        checkElements allowed digitsFirst false dotted rest = .ok () := by
  induction e with
  | nil => simp
  | cons c e ih =>
      rw [List.mem_cons, not_or] at he
      rw [List.cons_append, checkElements, if_neg (Ne.symm he.1)]
      by_cases hc : allowed c = true
      · simp [hc, ih he.2]
      · simp [hc]

/-- At the start of an element its first character is looked at twice. -/
theorem checkElements_fresh (he : '.' ∉ e) (hne : e ≠ []) (dotted : Bool)
    (rest : List Char) :
    checkElements allowed digitsFirst true dotted (e ++ rest) = .ok () ↔
      IsElement allowed digitsFirst e ∧
        checkElements allowed digitsFirst false dotted rest = .ok () := by
  obtain ⟨c, e, rfl⟩ := List.exists_cons_of_ne_nil hne
  by_cases hdigit : (c.isDigit && !digitsFirst) = true
  · have hnot : ¬ IsElement allowed digitsFirst (c :: e) := by
      intro h
      rcases h.head with hfirst | hhead
      · simp [hfirst] at hdigit
      · simp [hhead c rfl] at hdigit
    rw [List.mem_cons, not_or] at he
    rw [List.cons_append, checkElements, if_neg (Ne.symm he.1)]
    simp [hdigit, hnot]
  · have helement : IsElement allowed digitsFirst (c :: e) ↔
        ∀ d ∈ c :: e, allowed d = true := by
      constructor
      · exact IsElement.chars
      · intro hchars
        refine ⟨hchars, ?_⟩
        by_cases hfirst : digitsFirst = true
        · exact .inl hfirst
        · right
          simpa [hfirst] using hdigit
    have hdot : c ≠ '.' := by
      rintro rfl
      exact he List.mem_cons_self
    have hsame : checkElements allowed digitsFirst true dotted (c :: e ++ rest) =
        checkElements allowed digitsFirst false dotted (c :: e ++ rest) := by
      rw [List.cons_append, checkElements, checkElements, if_neg hdot, if_neg hdot]
      simp [hdigit]
    rw [hsame, checkElements_inside he, helement]

theorem checkElements_eq_ok_iff (dotted : Bool) (cs : List Char) :
    checkElements allowed digitsFirst true dotted cs = .ok () ↔
      AreElements allowed digitsFirst (cs.splitOn '.') ∧
        (dotted = true ∨ 1 < (cs.splitOn '.').length) := by
  induction cs using Text.pieces_induction '.' generalizing dotted with
  | last e he =>
      rw [List.splitOn_eq_singleton he, areElements_singleton]
      by_cases hne : e = []
      · subst hne
        have helement : IsElement allowed digitsFirst [] := ⟨by simp, by simp⟩
        simp [checkElements, helement]
      · have hfresh :
            checkElements allowed digitsFirst true dotted (e ++ []) = .ok () ↔ _ :=
          checkElements_fresh he hne dotted []
        rw [List.append_nil] at hfresh
        rw [hfresh]
        simp [checkElements]
  | more e rest he ih =>
      have hpieces := List.splitOn_ne_nil '.' rest
      rw [List.splitOn_append_cons_self_of_not_mem he, areElements_cons hpieces]
      by_cases hne : e = []
      · simp [hne, checkElements]
      · have hdot : checkElements allowed digitsFirst false dotted ('.' :: rest) =
            checkElements allowed digitsFirst true true rest := rfl
        have hlength : 0 < (rest.splitOn '.').length :=
          List.length_pos_of_ne_nil hpieces
        rw [checkElements_fresh he hne, hdot, ih]
        simp [hne, hlength]

end Elements

theorem isDotted_iff :
    IsDotted allowed name ↔
      (3 ≤ name.utf8ByteSize ∧ name.utf8ByteSize ≤ greatestLength) ∧
        checkElements allowed false true false name.toList = .ok () := by
  rw [checkElements_eq_ok_iff]
  constructor
  · rintro ⟨hseveral, helements, hleast, hlength⟩
    exact ⟨⟨hleast, hlength⟩, helements, .inr hseveral⟩
  · rintro ⟨⟨hleast, hlength⟩, helements, hfalse | hseveral⟩
    · cases hfalse
    · exact ⟨hseveral, helements, hleast, hlength⟩

theorem checkInterface_eq_ok_iff :
    checkInterface name = .ok () ↔ IsDotted isWordChar name := by
  rw [checkInterface, check_bind_eq_ok_iff, checkLength_eq_ok_iff, isDotted_iff]

theorem checkWellKnown_eq_ok_iff :
    checkWellKnown name = .ok () ↔ IsDotted isBusNameChar name := by
  rw [checkWellKnown, isDotted_iff]
  by_cases hempty : name.isEmpty = true
  · obtain rfl : name = "" := String.isEmpty_iff.mp hempty
    simp
  · rw [if_neg hempty, check_bind_eq_ok_iff, checkLength_eq_ok_iff]

theorem checkElements_colon {rest : List Char} :
    checkElements isBusNameChar true false false rest = .ok () ↔
      ∃ first elements, (':' :: rest).splitOn '.' = (':' :: first) :: elements ∧
        elements ≠ [] ∧ (∀ c ∈ first, isBusNameChar c = true) ∧
        AreElements isBusNameChar true elements := by
  by_cases hdot : '.' ∈ rest
  · obtain ⟨first, others, rfl, hfirst⟩ := List.eq_append_cons_of_mem hdot
    have hcolon : '.' ∉ ':' :: first := by
      simpa using hfirst
    have hsplit : (':' :: (first ++ '.' :: others)).splitOn '.' =
        (':' :: first) :: others.splitOn '.' :=
      List.splitOn_append_cons_self_of_not_mem hcolon others
    have hrest : checkElements isBusNameChar true false false ('.' :: others) =
        checkElements isBusNameChar true true true others := rfl
    rw [checkElements_inside hfirst, hrest, checkElements_eq_ok_iff, hsplit]
    constructor
    · rintro ⟨hchars, helements, -⟩
      exact ⟨_, _, rfl, List.splitOn_ne_nil _ _, hchars, helements⟩
    · rintro ⟨_, _, heq, -, hchars, helements⟩
      cases heq
      exact ⟨hchars, helements, .inl rfl⟩
  · have hcolon : '.' ∉ ':' :: rest := by
      simpa using hdot
    have hinside : checkElements isBusNameChar true false false (rest ++ []) =
        .ok () ↔ _ := checkElements_inside hdot false []
    rw [List.append_nil] at hinside
    rw [hinside, List.splitOn_eq_singleton hcolon]
    constructor
    · rintro ⟨-, hend⟩
      cases hend
    · rintro ⟨_, _, heq, hne, -⟩
      cases heq
      exact absurd rfl hne

theorem checkUnique_colon {rest : List Char} (hname : name.toList = ':' :: rest) :
    checkUnique name = .ok () ↔ IsConnection name := by
  have hne : name.isEmpty = false := by
    rw [Bool.eq_false_iff, Ne, String.isEmpty_iff]
    rintro rfl
    cases hname
  have hother : name ≠ busItself := by
    rintro rfl
    have hhead : busItself.toList.head? = some 'o' := by decide +kernel
    rw [hname] at hhead
    cases hhead
  have hcheck : checkUnique name =
      if greatestLength < name.utf8ByteSize then .error (.long name)
      else checkElements isBusNameChar true false false rest := by
    simp [checkUnique, hne, hother, hname]
  rw [hcheck]
  by_cases hlong : greatestLength < name.utf8ByteSize
  · have hnot : ¬ IsConnection name := fun h => Nat.not_le.mpr hlong h.length
    simp [hlong, hnot]
  · rw [if_neg hlong, checkElements_colon, ← hname]
    constructor
    · intro hpieces
      exact ⟨hpieces, Nat.not_lt.mp hlong⟩
    · exact IsConnection.pieces

theorem IsConnection.exists_toList_eq (h : IsConnection name) :
    ∃ rest, name.toList = ':' :: rest := by
  obtain ⟨first, elements, hpieces, hne, -⟩ := h.pieces
  obtain ⟨next, others, rfl⟩ := List.exists_cons_of_ne_nil hne
  have hname : ['.'].intercalate (name.toList.splitOn '.') = name.toList :=
    List.intercalate_splitOn '.'
  rw [hpieces, List.intercalate_cons_cons] at hname
  exact ⟨_, hname.symm⟩

theorem checkUnique_eq_ok_iff :
    checkUnique name = .ok () ↔ name = busItself ∨ IsConnection name := by
  constructor
  · intro h
    rcases isUniqueName_of_checkUnique h with hcolon | hbus
    · obtain ⟨rest, hname⟩ := List.head?_eq_some_iff.mp hcolon
      exact .inr ((checkUnique_colon hname).mp h)
    · exact .inl hbus
  · rintro (rfl | hconnection)
    · decide +kernel
    · obtain ⟨rest, hname⟩ := hconnection.exists_toList_eq
      exact (checkUnique_colon hname).mpr hconnection

/-- The name of the bus itself is a well-known name as well. -/
theorem isDotted_busItself : IsDotted isBusNameChar busItself :=
  checkWellKnown_eq_ok_iff.mp (by decide +kernel)

theorem exists_senderName_iff :
    (∃ sender, SenderName.ofText name = .ok sender) ↔ IsBusName name := by
  have hchecks : (∃ sender, SenderName.ofText name = .ok sender) ↔
      checkUnique name = .ok () ∨ checkWellKnown name = .ok () := by
    unfold SenderName.ofText
    rcases checkUnique name with fault | _
    · rcases checkWellKnown name with fault | _
      · simp
      · simp
    · simp
  rw [hchecks, checkUnique_eq_ok_iff, checkWellKnown_eq_ok_iff]
  constructor
  · rintro ((rfl | hconnection) | hdotted)
    · exact .inr isDotted_busItself
    · exact .inl hconnection
    · exact .inr hdotted
  · rintro (hconnection | hdotted)
    · exact .inl (.inr hconnection)
    · exact .inr hdotted

/-! ## Object paths -/

theorem lt_of_isWordChar {c : Char} (h : isWordChar c = true) : c.toNat < 128 := by
  have hbounds : ((decide (c.val ≥ 'A'.val ∧ c.val ≤ 'Z'.val) ||
      decide (c.val ≥ 'a'.val) && decide (c.val ≤ 'z'.val)) ||
      decide (c.val ≥ '0'.val) && decide (c.val ≤ '9'.val) || c == '_') = true := h
  simp only [Bool.or_eq_true, Bool.and_eq_true, decide_eq_true_eq, beq_iff_eq,
    UInt32.le_iff_toNat_le] at hbounds
  rcases hbounds with ((⟨-, hle⟩ | ⟨-, hle⟩) | ⟨-, hle⟩) | rfl
  · exact Nat.lt_of_le_of_lt hle (by decide)
  · exact Nat.lt_of_le_of_lt hle (by decide)
  · exact Nat.lt_of_le_of_lt hle (by decide)
  · decide

theorem toNat_charOfByte : ∀ b, (charOfByte b).toNat = b.toNat := by
  refine Web.forall_byte ?_
  decide +kernel

theorem charOfByte_ofNat {c : Char} (h : c.toNat < 128) :
    charOfByte (UInt8.ofNat c.toNat) = c := by
  have hsame : c.toNat % 256 = c.toNat := Nat.mod_eq_of_lt (Nat.lt_trans h (by decide))
  simp [charOfByte, hsame]

theorem utf8EncodeChar_of_lt {c : Char} (h : c.toNat < 128) :
    String.utf8EncodeChar c = [UInt8.ofNat c.toNat] := by
  rw [String.utf8EncodeChar]
  exact if_pos (Nat.le_of_lt_succ h)

theorem utf8EncodeChar_of_le {c : Char} (h : 128 ≤ c.toNat) :
    ∃ b bytes, String.utf8EncodeChar c = b :: bytes ∧ 128 ≤ b.toNat := by
  have hlong : ¬ c.val.toNat ≤ 127 := Nat.not_le.mpr h
  simp only [String.utf8EncodeChar, if_neg hlong]
  split
  · refine ⟨_, _, rfl, ?_⟩
    simp
    omega
  · split
    · refine ⟨_, _, rfl, ?_⟩
      simp
      omega
    · refine ⟨_, _, rfl, ?_⟩
      simp
      omega

/-- The first byte of a character other than a slash is no slash, and is one
of an element where the character is. -/
theorem exists_utf8EncodeChar_eq {c : Char} (hc : c ≠ '/') :
    ∃ b bytes, String.utf8EncodeChar c = b :: bytes ∧ b ≠ 47 ∧
      isWordChar (charOfByte b) = isWordChar c ∧
      (isWordChar c = true → bytes = []) := by
  by_cases hsmall : c.toNat < 128
  · have hbyte := charOfByte_ofNat hsmall
    refine ⟨_, _, utf8EncodeChar_of_lt hsmall, ?_, by rw [hbyte], fun _ => rfl⟩
    intro hslash
    apply hc
    rw [← hbyte, hslash]
    rfl
  · obtain ⟨b, bytes, hencoded, hlarge⟩ := utf8EncodeChar_of_le (Nat.not_lt.mp hsmall)
    have hword : isWordChar c = false := by
      rw [Bool.eq_false_iff]
      intro hword
      exact hsmall (lt_of_isWordChar hword)
    refine ⟨b, bytes, hencoded, ?_, ?_, by simp [hword]⟩
    · rintro rfl
      exact absurd hlarge (by decide)
    · rw [hword, Bool.eq_false_iff]
      intro hbyte
      have hlt := lt_of_isWordChar hbyte
      rw [toNat_charOfByte] at hlt
      exact absurd hlarge (Nat.not_le.mpr hlt)

/-- A character other than a slash is read as one of an element. -/
theorem checkPathBytes_encoded {c : Char} (hc : c ≠ '/') (afterSlash : Bool)
    (rest : List UInt8) :
    checkPathBytes afterSlash (String.utf8EncodeChar c ++ rest) = .ok () ↔
      isWordChar c = true ∧ checkPathBytes false rest = .ok () := by
  obtain ⟨b, bytes, hencoded, hslash, hbyte, hsingle⟩ := exists_utf8EncodeChar_eq hc
  rw [hencoded, List.cons_append, checkPathBytes, if_neg hslash, hbyte]
  by_cases hword : isWordChar c = true
  · simp [hword, hsingle]
  · simp [hword]

theorem checkPathBytes_slash (afterSlash : Bool) (rest : List UInt8) :
    checkPathBytes afterSlash (String.utf8EncodeChar '/' ++ rest) = .ok () ↔
      afterSlash = false ∧ rest ≠ [] ∧ checkPathBytes true rest = .ok () := by
  have hslash : String.utf8EncodeChar '/' = [47] := by decide
  rw [hslash, List.singleton_append, checkPathBytes, if_pos rfl]
  by_cases hafter : afterSlash = true
  · simp [hafter]
  · by_cases hrest : rest = []
    · simp [hafter, hrest]
    · simp [hafter, hrest]

theorem checkPathBytes_inside {e : List Char} (he : '/' ∉ e) (rest : List UInt8) :
    checkPathBytes false (e.flatMap String.utf8EncodeChar ++ rest) = .ok () ↔
      (∀ c ∈ e, isWordChar c = true) ∧ checkPathBytes false rest = .ok () := by
  induction e with
  | nil => simp
  | cons c e ih =>
      rw [List.mem_cons, not_or] at he
      rw [List.flatMap_cons, List.append_assoc,
        checkPathBytes_encoded (Ne.symm he.1), ih he.2, List.forall_mem_cons,
        and_assoc]

theorem checkPathBytes_fresh {e : List Char} (he : '/' ∉ e) (hne : e ≠ [])
    (rest : List UInt8) :
    checkPathBytes true (e.flatMap String.utf8EncodeChar ++ rest) = .ok () ↔
      (∀ c ∈ e, isWordChar c = true) ∧ checkPathBytes false rest = .ok () := by
  obtain ⟨c, e, rfl⟩ := List.exists_cons_of_ne_nil hne
  rw [List.mem_cons, not_or] at he
  rw [List.flatMap_cons, List.append_assoc, checkPathBytes_encoded (Ne.symm he.1),
    checkPathBytes_inside he.2, List.forall_mem_cons, and_assoc]

/-- Elements are read one after the other, unless there is nothing at all. -/
theorem checkPathBytes_eq_ok_iff (cs : List Char) :
    checkPathBytes true (cs.flatMap String.utf8EncodeChar) = .ok () ↔
      cs = [] ∨ ∀ element ∈ cs.splitOn '/',
        element ≠ [] ∧ ∀ c ∈ element, isWordChar c = true := by
  induction cs using Text.pieces_induction '/' with
  | last e he =>
      rw [List.splitOn_eq_singleton he, List.forall_mem_singleton]
      by_cases hne : e = []
      · simp [hne, checkPathBytes]
      · have hfresh := checkPathBytes_fresh he hne []
        rw [List.append_nil] at hfresh
        rw [hfresh]
        simp [hne, checkPathBytes]
  | more e rest he ih =>
      rw [List.splitOn_append_cons_self_of_not_mem he, List.forall_mem_cons,
        List.flatMap_append, List.flatMap_cons]
      by_cases hne : e = []
      · rw [hne, List.flatMap_nil, List.nil_append, checkPathBytes_slash]
        simp
      · have hfilled : (∀ element ∈ rest.splitOn '/', element ≠ [] ∧
            ∀ c ∈ element, isWordChar c = true) → rest ≠ [] := by
          rintro h rfl
          exact (h [] (List.mem_singleton_self [])).1 rfl
        have hbytes : rest.flatMap String.utf8EncodeChar = [] ↔ rest = [] := by
          rcases rest with _ | ⟨c, rest⟩
          · simp
          · simp [String.utf8EncodeChar_ne_nil]
        rw [checkPathBytes_fresh he hne, checkPathBytes_slash, ih, Ne, hbytes]
        constructor
        · rintro ⟨hchars, -, hrest, hempty | helements⟩
          · exact absurd hempty hrest
          · exact .inr ⟨⟨hne, hchars⟩, helements⟩
        · rintro (hempty | ⟨⟨-, hchars⟩, helements⟩)
          · simp at hempty
          · exact ⟨hchars, rfl, hfilled helements, .inr helements⟩

theorem toUTF8_toList (s : String) :
    s.toUTF8.toList = s.toList.flatMap String.utf8EncodeChar := by
  have hbytes : (String.ofList s.toList).toByteArray = s.toList.utf8Encode :=
    String.toByteArray_ofList
  rw [String.ofList_toList] at hbytes
  rw [Web.byteArray_toList, String.toUTF8_eq_toByteArray, hbytes, List.utf8Encode,
    List.data_toByteArray]

theorem checkObjectPath_eq_ok_iff :
    checkObjectPath path = .ok () ↔ IsObjectPath path := by
  unfold checkObjectPath IsObjectPath
  rw [toUTF8_toList]
  rcases path.toList with _ | ⟨c, rest⟩
  · simp
  · by_cases hslash : c = '/'
    · have hencoded : String.utf8EncodeChar '/' = [47] := by decide
      rw [hslash, List.flatMap_cons, hencoded]
      simp [checkPathBytes_eq_ok_iff]
    · obtain ⟨b, bytes, hencoded, hbyte, -⟩ := exists_utf8EncodeChar_eq hslash
      rw [List.flatMap_cons, hencoded]
      simp [hbyte, hslash]

/-! ## Signs that are in no name -/

/-- A text without commas and quotes. -/
def Unquoted (s : String) : Prop :=
  ∀ c ∈ s.toList, c ≠ ',' ∧ c ≠ '\''

theorem unquoted_iff {s : String} :
    Unquoted s ↔ s.toList.all (fun c => c != ',' && c != '\'') = true := by
  simp [Unquoted]

instance (s : String) : Decidable (Unquoted s) :=
  decidable_of_iff _ unquoted_iff.symm

theorem ne_of_isBusNameChar {c : Char} (h : isBusNameChar c = true) :
    c ≠ ',' ∧ c ≠ '\'' := by
  constructor
  · rintro rfl
    exact absurd h (by decide)
  · rintro rfl
    exact absurd h (by decide)

theorem isBusNameChar_of_isWordChar {c : Char} (h : isWordChar c = true) :
    isBusNameChar c = true := by
  simp [isBusNameChar, h]

theorem IsMemberName.unquoted (h : IsMemberName name) : Unquoted name := by
  intro c hc
  exact ne_of_isBusNameChar (isBusNameChar_of_isWordChar (h.chars c hc))

theorem IsDotted.unquoted (h : IsDotted allowed name)
    (hallowed : ∀ c, allowed c = true → isBusNameChar c = true) :
    Unquoted name := by
  intro c hc
  rcases Text.eq_or_exists_mem_splitOn '.' hc with rfl | ⟨e, he, hmem⟩
  · decide
  · exact ne_of_isBusNameChar (hallowed c ((h.elements.elements e he).chars c hmem))

theorem IsConnection.unquoted (h : IsConnection name) : Unquoted name := by
  obtain ⟨first, elements, hpieces, -, hfirst, helements⟩ := h.pieces
  intro c hc
  rcases Text.eq_or_exists_mem_splitOn '.' hc with rfl | ⟨e, he, hmem⟩
  · decide
  · rw [hpieces, List.mem_cons] at he
    rcases he with rfl | he
    · rcases List.mem_cons.mp hmem with rfl | hmem
      · decide
      · exact ne_of_isBusNameChar (hfirst c hmem)
    · exact ne_of_isBusNameChar ((helements.elements e he).chars c hmem)

theorem IsBusName.unquoted (h : IsBusName name) : Unquoted name := by
  rcases h with hconnection | hdotted
  · exact hconnection.unquoted
  · exact hdotted.unquoted fun _ => id

theorem IsObjectPath.unquoted (h : IsObjectPath path) : Unquoted path := by
  obtain ⟨rest, hpath, hrest⟩ := h
  intro c hc
  rw [hpath, List.mem_cons] at hc
  rcases hc with rfl | hc
  · decide
  · rcases hrest with rfl | helements
    · cases hc
    · rcases Text.eq_or_exists_mem_splitOn '/' hc with rfl | ⟨e, he, hmem⟩
      · decide
      · have hword := (helements e he).2 c hmem
        exact ne_of_isBusNameChar (isBusNameChar_of_isWordChar hword)

end ScrobbleRelay.Bus
