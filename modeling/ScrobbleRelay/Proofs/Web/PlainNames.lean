import ScrobbleRelay.Proofs.Text.PlainTexts
import ScrobbleRelay.Proofs.Web.Address

/-!
# Plain names of hosts

A name of ASCII without capitals is its own form, if none of its labels is one
that writes letters beyond ASCII: its characters stand for themselves, nothing
in it is composed, its labels are sound and written in ASCII already, and none
of its letters is written from right to left.  A text with such a host is an
address.  The tables of characters are far too large to be evaluated, so each
is only looked at as far as it speaks of ASCII.
-/

namespace ScrobbleRelay.Web.Domain

open Text (IsPlain)

/-- A plain character that is no capital. -/
def IsSmall (c : Char) : Prop := IsPlain c ∧ ¬ (65 ≤ c.toNat ∧ c.toNat < 91)

instance : DecidablePred IsSmall :=
  fun c => inferInstanceAs (Decidable ((0 < c.toNat ∧ c.toNat < 128) ∧ _))

/-! ## What the tables hold -/

/-- The first runs: before the capitals characters stand for themselves, the
capitals for small letters, and the rest of ASCII for itself again. -/
theorem exists_runs_eq : ∃ more,
    runs = ⟨65, .kept⟩ :: ⟨26, .raised 32⟩ :: ⟨37, .kept⟩ :: more := by
  obtain ⟨rest, hrest⟩ : ∃ rest, Text.Packed.numbers packedRuns =
      520 :: 211 :: 32 :: 296 :: rest := by
    rw [Text.Packed.numbers_eq]
    unfold packedRuns
    rw [Text.Packed.flatMap_toList_cons]
    exact ⟨_, rfl⟩
  rw [runs, hrest]
  exact ⟨_, rfl⟩

theorem ruleAt_of_small {c : Char} (hc : IsSmall c) :
    ∃ place, ruleAt runs c.toNat = (.kept, place) := by
  obtain ⟨⟨-, hplain⟩, hsmall⟩ := hc
  obtain ⟨more, hruns⟩ := exists_runs_eq
  rw [hruns, ruleAt]
  by_cases hfirst : c.toNat < 65
  · exact ⟨_, if_pos hfirst⟩
  · rw [if_neg hfirst, ruleAt, if_neg (by simp; omega), ruleAt,
      if_pos (by simp; omega)]
    exact ⟨_, rfl⟩

theorem mapped?_of_small {c : Char} (hc : IsSmall c) :
    mapped? c = some [c] := by
  obtain ⟨place, hrule⟩ := ruleAt_of_small hc
  rw [mapped?, hrule]
  simp [Rule.apply]

theorem directionOf_plain {c : Char} (hc : IsPlain c) :
    (directionOf c).isRightToLeft = false := by
  have htable : ∀ n < 128, (Direction.all.getD
      (Text.Packed.valueOf directionTable n) .other).isRightToLeft = false := by
    rw [directionTable, Text.Packed.ranges, Text.Packed.numbers_eq]
    unfold packedDirections
    repeat rw [Text.Packed.flatMap_toList_cons]
    decide +kernel
  exact htable c.toNat hc.2

theorem le_first_of_mem_markRangesFrom {start : Nat} {numbers : List Nat}
    {range : Text.Packed.Range} (h : range ∈ markRangesFrom start numbers) :
    start + numbers.headD 0 ≤ range.first := by
  induction start, numbers using markRangesFrom.induct with
  | case1 start gap length rest next ih =>
      rw [markRangesFrom, List.mem_cons] at h
      rcases h with rfl | h
      · exact Nat.le_refl _
      · have hnext := ih h
        simp only [next, List.headD_cons] at hnext ⊢
        omega
  | case2 start numbers hshort =>
      rw [markRangesFrom] at h
      · cases h
      · exact hshort

theorem headD_marks : 128 ≤ (Text.Packed.numbers packedMarks).headD 0 := by
  rw [Text.Packed.numbers_eq]
  unfold packedMarks
  rw [Text.Packed.flatMap_toList_cons]
  decide +kernel

theorem isMark_of_plain {c : Char} (hc : IsPlain c) : isMark c = false := by
  have hvalue : Text.Packed.valueOf markTable c.toNat = 0 := by
    apply Text.Packed.valueOf_eq_zero
    intro range hrange
    have hfirst := le_first_of_mem_markRangesFrom hrange
    have hmarks := headD_marks
    have hplain := hc.2
    omega
  rw [isMark, hvalue]
  rfl

/-! ## Labels -/

theorem joinersStand_of_plain {before label : List Char}
    (h : ∀ c ∈ label, IsPlain c) : joinersStand before label = true := by
  induction label generalizing before with
  | nil => rfl
  | cons c label ih =>
      obtain ⟨hc, hlabel⟩ := List.forall_mem_cons.mp h
      have hnon : c ≠ nonJoiner := by
        rintro rfl
        exact absurd hc.2 (by decide)
      have hjoin : c ≠ joiner := by
        rintro rfl
        exact absurd hc.2 (by decide)
      simp [joinersStand, hnon, hjoin, ih hlabel]

/-- A plain label that does not begin as the forms of other labels do is its
own form. -/
theorem ofChars?_of_plain {label : List Char} (h : ∀ c ∈ label, IsPlain c)
    (hform : ¬ asciiMark <+: label) :
    Label.ofChars? label = some ⟨label, label⟩ := by
  have hprefix : asciiMark.isPrefixOf label = false := by
    rw [Bool.eq_false_iff, Ne, List.isPrefixOf_iff_prefix]
    exact hform
  have hascii : label.all Punycode.isAscii = true := by
    rw [List.all_eq_true]
    intro c hc
    simpa [Punycode.isAscii] using (h c hc).2
  have hhead : label.head?.any isMark = false := by
    cases label with
    | nil => rfl
    | cons c label =>
        rw [List.head?_cons, Option.any_some]
        exact isMark_of_plain (h c List.mem_cons_self)
  have hsound : isSound label = true := by
    simp [isSound, hhead, joinersStand_of_plain h, hascii]
  simp [Label.ofChars?, hprefix, hascii, hsound]

theorem cutAtDots_eq_splitOn (cs : List Char) :
    cutAtDots cs = cs.splitOn '.' := by
  induction cs with
  | nil => rfl
  | cons c cs ih =>
      rw [cutAtDots, ih, List.splitOn_cons_eq_if_modifyHead]
      obtain ⟨first, others, hcut⟩ :=
        List.exists_cons_of_ne_nil (List.splitOn_ne_nil '.' cs)
      by_cases hc : c = '.'
      · simp [hcut, hc]
      · simp [hcut, hc]

theorem mem_of_mem_cutAtDots {cs label : List Char} {c : Char}
    (hlabel : label ∈ cutAtDots cs) (hc : c ∈ label) : c ∈ cs := by
  induction cs generalizing label with
  | nil =>
      obtain rfl := List.mem_singleton.mp hlabel
      cases hc
  | cons d cs ih =>
      rw [cutAtDots] at hlabel
      split at hlabel
      next first others hcut =>
        rw [hcut] at ih
        split at hlabel
        · rcases List.mem_cons.mp hlabel with rfl | hrest
          · cases hc
          · exact List.mem_cons_of_mem _ (ih hrest hc)
        · rcases List.mem_cons.mp hlabel with rfl | hrest
          · rcases List.mem_cons.mp hc with rfl | hfirst
            · exact List.mem_cons_self
            · exact List.mem_cons_of_mem _ (ih List.mem_cons_self hfirst)
          · exact List.mem_cons_of_mem _ (ih (List.mem_cons_of_mem _ hrest) hc)
      next =>
        obtain rfl := List.mem_singleton.mp hlabel
        rw [List.mem_singleton.mp hc]
        exact List.mem_cons_self

/-! ## Names -/

theorem mapM_mapped?_of_small {name : List Char}
    (h : ∀ c ∈ name, IsSmall c) :
    name.mapM mapped? = some (name.map fun c => [c]) := by
  induction name with
  | nil => rfl
  | cons c name ih =>
      obtain ⟨hc, hname⟩ := List.forall_mem_cons.mp h
      rw [List.mapM_cons, mapped?_of_small hc, ih hname]
      rfl

theorem mapM_ofChars?_of_plain {labels : List (List Char)}
    (h : ∀ label ∈ labels, (∀ c ∈ label, IsPlain c) ∧ ¬ asciiMark <+: label) :
    labels.mapM Label.ofChars? =
      some (labels.map fun label => ⟨label, label⟩) := by
  induction labels with
  | nil => rfl
  | cons label labels ih =>
      obtain ⟨⟨hplain, hform⟩, hlabels⟩ := List.forall_mem_cons.mp h
      rw [List.mapM_cons, ofChars?_of_plain hplain hform, ih hlabels]
      rfl

theorem agreesWithOrder_of_plain {labels : List (List Char)}
    (h : ∀ label ∈ labels, ∀ c ∈ label, IsPlain c) :
    agreesWithOrder labels = true := by
  have hnone : (labels.any fun label =>
      label.any fun c => (directionOf c).isRightToLeft) = false := by
    rw [List.any_eq_false]
    intro label hlabel
    rw [Bool.not_eq_true, List.any_eq_false]
    intro c hc
    rw [directionOf_plain (h label hlabel c hc)]
    exact Bool.false_ne_true
  rw [agreesWithOrder, hnone]
  rfl

theorem asciiName?_of_small {name : List Char} (h : ∀ c ∈ name, IsSmall c)
    (hforms : ∀ label ∈ cutAtDots name, ¬ asciiMark <+: label) :
    asciiName? name = some name := by
  have hplain : ∀ label ∈ cutAtDots name, ∀ c ∈ label, IsPlain c :=
    fun label hlabel c hc => (h c (mem_of_mem_cutAtDots hlabel hc)).1
  have hcomposed : Text.composed (name.map fun c => [c]).flatten = name := by
    rw [← List.flatMap_def, List.flatMap_singleton' name]
    exact Text.composed_of_plain fun c hc => (h c hc).1
  have hlabels := mapM_ofChars?_of_plain
    fun label hlabel => ⟨hplain label hlabel, hforms label hlabel⟩
  rw [asciiName?, mapM_mapped?_of_small h]
  simp only [Option.bind_eq_bind, Option.bind_some, hcomposed, hlabels]
  simp only [List.map_map, Function.comp_def, List.map_id',
    agreesWithOrder_of_plain hplain, if_true]
  rw [cutAtDots_eq_splitOn, List.intercalate_splitOn]

end ScrobbleRelay.Web.Domain

namespace ScrobbleRelay.Web

/-! ## Addresses with such hosts -/

/-- A host is what its name is in ASCII, if that can be the name of a host and
does not end in a number. -/
theorem hostOf?_of_name {c : Char} {rest host : List Char} {name : String}
    (hbracket : c ≠ '[')
    (htext : String.fromUTF8?
      (ByteArray.mk (percentBytes (c :: rest)).toArray) = some name)
    (hname : Domain.asciiName? name.toList = some host)
    (hsigns : (host.isEmpty || host.any isForbiddenInDomain) = false)
    (hnumber : endsInNumber host = false) :
    hostOf? true (c :: rest) = some host := by
  simp [hostOf?, hbracket, htext, hname, hsigns, hnumber]

theorem exists_withAuthority?_eq {scheme cs authority host : List Char}
    (query fragment : Option (List Char))
    (hspecial : isSpecial scheme = true)
    (hauthority : (cs.takeWhile fun c => !isSlash true c) = authority)
    (hne : authority ≠ [])
    (huser : splitUser authority = (none, authority))
    (hport : splitPort authority = (authority, none))
    (hhost : hostOf? true authority = some host) :
    ∃ u, withAuthority? scheme cs query fragment = some u := by
  simp [withAuthority?, hspecial, hauthority, hne, huser, hport, hhost,
    splitBackslash, portOf?]

theorem Url.ofText?_of_special {s : String} {scheme rest front : List Char}
    {query fragment : Option (List Char)}
    (hscheme : splitScheme? (cleaned s) = some (scheme, rest))
    (hspecial : isSpecial scheme = true)
    (hfragment : cutAt '#' rest = (rest, fragment))
    (hquery : cutAt '?' rest = (front, query)) :
    Url.ofText? s =
      withAuthority? scheme (front.dropWhile (isSlash true))
        (query.map (queryChars true))
        (fragment.map (percentChars fragmentSet)) := by
  simp [Url.ofText?, hscheme, hspecial, hfragment, hquery]

end ScrobbleRelay.Web
