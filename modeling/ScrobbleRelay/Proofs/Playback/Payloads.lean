import Mathlib.Tactic.ByContra
import ScrobbleRelay.Playback.Payload
import ScrobbleRelay.Proofs.Ends

/-!
# What payloads are accepted

A list of values encodes an event if it holds the number of the code, the
three texts, and the three numbers of the event, each number as a value of any
integer type.  Reading accepts exactly the encodings.

Every other list is refused with the first thing that is wrong with it.  What
can be wrong is said here by checks that look at the whole list, each on its
own; only their order is that of the reader.
-/

namespace ScrobbleRelay.Bus

/-- The number that a value of an integer type holds. -/
def Value.integer? : Value → Option Int
  | .byte n => some n.toNat
  | .int16 n => some n.toInt
  | .uint16 n => some n.toNat
  | .int32 n => some n.toInt
  | .uint32 n => some n.toNat
  | .int64 n => some n.toInt
  | .uint64 n => some n.toNat
  | _ => none

end ScrobbleRelay.Bus

namespace ScrobbleRelay.Playback

open Bus (Value)

def EventCode.number : EventCode → Nat
  | seek => 0
  | next => 1
  | prev => 2
  | stop => 3
  | sortedEnter => 4
  | playlistEnter => 5
  | treeEnter => 6
  | autoNext => 7

/-- The lists of values that say what an event says. -/
inductive Event.EncodedAs (e : Event) : List Value → Prop
  | intro {code trackNumber duration position : Value}
      (hcode : code.integer? = some (e.code.number : Int))
      (htrackNumber : trackNumber.integer? = some e.trackNumber.toInt)
      (hduration : duration.integer? = some e.durationSecs.toInt)
      (hposition : position.integer? = some e.position.toInt) :
      EncodedAs e
        [code, .text e.artist, .text e.track, .text e.album, trackNumber,
          duration, position]

/-! ## What can be wrong with a list of values -/

/-- Something to look at in a payload. -/
inductive Check
  | count
  | number (field : Field)
  | code
  | text (field : Field)

/-- The order in which payloads are looked at. -/
def Check.order : List Check :=
  [.count, .number .code, .code, .text .artist, .text .track, .text .album,
    .number .trackNumber, .number .duration, .number .position]

/-- What a check finds wrong with a list of values, in words. -/
inductive Check.Finds (fields : List Value) : Check → String → Prop
  | count (other : fields.length ≠ 7) :
      Finds fields .count s!"expected 7 fields, got {fields.length}"
  | type {field : Field} {v : Value} (here : fields[field.index]? = some v)
      (other : v.integer? = none) :
      Finds fields (.number field)
        (s!"{field.label} (field {field.index})" ++
          " must be an integer, got signature " ++ v.typeText)
  | range {field : Field} {v : Value} {n : Int}
      (here : fields[field.index]? = some v) (number : v.integer? = some n)
      (large : ∀ m : Int64, m.toInt ≠ n) :
      Finds fields (.number field)
        (s!"{field.label} (field {field.index})" ++
          " out of range: " ++ toString n)
  | code {v : Value} {n : Int} (here : fields[0]? = some v)
      (number : v.integer? = some n)
      (unknown : ∀ code : EventCode, (code.number : Int) ≠ n) :
      Finds fields .code s!"unknown event code {n}"
  | text {field : Field} {v : Value} (here : fields[field.index]? = some v)
      (other : ∀ s, v ≠ .text s) :
      Finds fields (.text field)
        (s!"{field.label} (field {field.index})" ++
          " must be a string, got signature " ++ v.typeText)

/-- What the first check finds that finds anything. -/
def FirstFound (fields : List Value) (checks : List Check) (words : String) :
    Prop :=
  ∃ passed check rest, checks = passed ++ check :: rest ∧
    check.Finds fields words ∧
    ∀ earlier ∈ passed, ∀ other, ¬ earlier.Finds fields other

variable {fields : List Value} {checks : List Check} {check : Check}
  {words : String}

theorem not_firstFound_nil : ¬ FirstFound fields [] words := by
  rintro ⟨passed, check, rest, hsplit, -⟩
  simp at hsplit

theorem firstFound_cons_iff :
    FirstFound fields (check :: checks) words ↔
      check.Finds fields words ∨
        (∀ other, ¬ check.Finds fields other) ∧
          FirstFound fields checks words := by
  constructor
  · rintro ⟨passed, found, rest, hsplit, hfound, hpassed⟩
    rcases List.cons_eq_append_iff.mp hsplit with
      ⟨rfl, hhead⟩ | ⟨others, rfl, htail⟩
    · obtain ⟨rfl, -⟩ := List.cons.inj hhead
      exact .inl hfound
    · right
      constructor
      · exact hpassed check List.mem_cons_self
      · refine ⟨others, found, rest, htail, hfound, ?_⟩
        intro earlier hmem
        exact hpassed earlier (List.mem_cons_of_mem check hmem)
  · rintro (hfound | ⟨hnothing, passed, found, rest, rfl, hfound, hpassed⟩)
    · exact ⟨[], check, checks, rfl, hfound, by simp⟩
    · refine ⟨check :: passed, found, rest, rfl, hfound, ?_⟩
      intro earlier hmem
      rcases List.mem_cons.mp hmem with rfl | hmem
      · exact hnothing
      · exact hpassed earlier hmem

/-! ## Reading fails with what is found first -/

/-- A reader refuses with the given reason. -/
def Refused {α : Type} (x : Except PayloadError α) (words : String) : Prop :=
  ∃ e, x = .error e ∧ e.reason = words

theorem not_refused_ok {α : Type} (a : α) :
    ¬ Refused (.ok a : Except PayloadError α) words := by
  rintro ⟨e, h, -⟩
  cases h

theorem refused_error_iff {α : Type} {e : PayloadError} :
    Refused (.error e : Except PayloadError α) words ↔ e.reason = words := by
  constructor
  · rintro ⟨e', h, hwords⟩
    obtain rfl := Except.error.inj h
    exact hwords
  · intro h
    exact ⟨e, rfl, h⟩

/-- Where the first step of a reader refuses what a check finds, and the rest
of it what the later checks find first, the whole refuses what is found
first. -/
theorem refused_bind_iff {α β : Type} {x : Except PayloadError α}
    {f : α → Except PayloadError β}
    (hx : ∀ words, Refused x words ↔ check.Finds fields words)
    (hf : ∀ a, x = .ok a →
      (Refused (f a) words ↔ FirstFound fields checks words)) :
    Refused (x >>= f) words ↔ FirstFound fields (check :: checks) words := by
  rw [firstFound_cons_iff]
  rcases x with e | a
  · have hfound : check.Finds fields e.reason :=
      (hx e.reason).mp ⟨e, rfl, rfl⟩
    have hwhole : Refused (Except.error e >>= f) words ↔ e.reason = words :=
      refused_error_iff
    rw [hwhole, ← hx, refused_error_iff]
    constructor
    · exact .inl
    · rintro (hwords | ⟨hnothing, -⟩)
      · exact hwords
      · exact absurd hfound (hnothing e.reason)
  · have hnothing : ∀ other, ¬ check.Finds fields other := by
      intro other hother
      exact not_refused_ok a ((hx other).mpr hother)
    have hwhole : (Except.ok a >>= f : Except PayloadError β) = f a := rfl
    rw [hwhole, hf a rfl]
    constructor
    · intro h
      exact .inr ⟨hnothing, h⟩
    · rintro (hfound | ⟨-, h⟩)
      · exact absurd hfound (hnothing words)
      · exact h

/-! ## The fields one by one -/

theorem Int64.ofInt_eq_iff {n : Int} (hlow : -9223372036854775808 ≤ n)
    (hhigh : n < 9223372036854775808) (m : Int64) :
    Int64.ofInt n = m ↔ n = m.toInt := by
  constructor
  · rintro rfl
    rw [Int64.toInt_ofInt_of_le hlow hhigh]
  · rintro rfl
    exact Int64.ofInt_toInt m

theorem integerField_eq_ok_iff {field : Field} {v : Value} {m : Int64} :
    integerField field v = .ok m ↔ v.integer? = some m.toInt := by
  cases v with
  | byte n =>
      have := n.toNat_lt
      simp only [integerField, Value.integer?, ← Int64.ofInt_eq_ofNat,
        Except.ok.injEq, Option.some.injEq]
      exact Int64.ofInt_eq_iff (by omega) (by omega) m
  | uint16 n =>
      have := n.toNat_lt
      simp only [integerField, Value.integer?, ← Int64.ofInt_eq_ofNat,
        Except.ok.injEq, Option.some.injEq]
      exact Int64.ofInt_eq_iff (by omega) (by omega) m
  | uint32 n =>
      have := n.toNat_lt
      simp only [integerField, Value.integer?, ← Int64.ofInt_eq_ofNat,
        Except.ok.injEq, Option.some.injEq]
      exact Int64.ofInt_eq_iff (by omega) (by omega) m
  | int16 n =>
      have hlow := n.le_toInt
      have hhigh := n.toInt_lt
      simp only [integerField, Value.integer?, Except.ok.injEq,
        Option.some.injEq]
      exact Int64.ofInt_eq_iff (by omega) (by omega) m
  | int32 n =>
      have hlow := n.le_toInt
      have hhigh := n.toInt_lt
      simp only [integerField, Value.integer?, Except.ok.injEq,
        Option.some.injEq]
      exact Int64.ofInt_eq_iff (by omega) (by omega) m
  | int64 n => simp [integerField, Value.integer?, Int64.toInt_inj]
  | uint64 n =>
      by_cases hfits : n.toNat < 0x8000000000000000
      · simp only [integerField, if_pos hfits, Value.integer?,
          ← Int64.ofInt_eq_ofNat, Except.ok.injEq, Option.some.injEq]
        exact Int64.ofInt_eq_iff (by omega) (by omega) m
      · have hhigh := m.toInt_lt
        simp only [integerField, if_neg hfits, Value.integer?, reduceCtorEq,
          Option.some.injEq, false_iff]
        omega
  | _ => simp [integerField, Value.integer?]

theorem integerField_of_integer?_eq_none {field : Field} {v : Value}
    (h : v.integer? = none) :
    integerField field v = .error (.notAnInteger field v.typeText) := by
  cases v <;> first | rfl | simp [Value.integer?] at h

/-- Only a number that is not below the range of the fields can be outside of
it. -/
theorem integerField_of_large {field : Field} {v : Value} {n : Int}
    (hnumber : v.integer? = some n) (hlarge : ∀ m : Int64, m.toInt ≠ n) :
    ∃ k : Nat, n = k ∧ integerField field v = .error (.outOfRange field k) := by
  rcases hread : integerField field v with e | m
  · cases v with
    | uint64 k =>
        refine ⟨k.toNat, ?_, ?_⟩
        · simpa [Value.integer?] using hnumber.symm
        · by_cases hfits : k.toNat < 0x8000000000000000
          · simp [integerField, hfits] at hread
          · rw [← hread]
            simp [integerField, hfits]
    | _ => simp [Value.integer?, integerField] at hnumber hread
  · have hm := integerField_eq_ok_iff.mp hread
    rw [hnumber] at hm
    exact absurd (Option.some.inj hm).symm (hlarge m)

theorem refused_integerField_iff {field : Field} {v : Value}
    (here : fields[field.index]? = some v) (words : String) :
    Refused (integerField field v) words ↔
      (Check.number field).Finds fields words := by
  constructor
  · intro h
    rcases hnumber : v.integer? with _ | n
    · rw [integerField_of_integer?_eq_none hnumber, refused_error_iff] at h
      rw [← h]
      exact .type here hnumber
    · by_cases hfits : ∃ m : Int64, m.toInt = n
      · obtain ⟨m, rfl⟩ := hfits
        rw [integerField_eq_ok_iff.mpr hnumber] at h
        exact absurd h (not_refused_ok m)
      · have hlarge : ∀ m : Int64, m.toInt ≠ n := not_exists.mp hfits
        obtain ⟨k, rfl, hread⟩ := integerField_of_large hnumber hlarge
        rw [hread, refused_error_iff] at h
        rw [← h]
        exact .range here hnumber hlarge
  · rintro (_ | ⟨here', hnumber⟩ | ⟨here', hnumber, hlarge⟩)
    · obtain rfl := Option.some.inj (here.symm.trans here')
      rw [integerField_of_integer?_eq_none hnumber, refused_error_iff]
      rfl
    · obtain rfl := Option.some.inj (here.symm.trans here')
      obtain ⟨k, rfl, hread⟩ := integerField_of_large hnumber hlarge
      rw [hread, refused_error_iff]
      rfl

theorem textField_eq_ok_iff {field : Field} {v : Value} {s : String} :
    textField field v = .ok s ↔ v = .text s := by
  cases v <;> simp [textField]

theorem refused_textField_iff {field : Field} {v : Value}
    (here : fields[field.index]? = some v) (words : String) :
    Refused (textField field v) words ↔
      (Check.text field).Finds fields words := by
  by_cases htext : ∃ s, v = .text s
  · obtain ⟨s, rfl⟩ := htext
    constructor
    · intro h
      exact absurd h (not_refused_ok s)
    · rintro (_ | _ | _ | _ | ⟨here', hother⟩)
      obtain rfl := Option.some.inj (here.symm.trans here')
      exact absurd rfl (hother s)
  · have hother : ∀ s, v ≠ .text s := not_exists.mp htext
    have hread : textField field v = .error (.notAText field v.typeText) := by
      cases v <;> first | rfl | exact absurd rfl (hother _)
    rw [hread, refused_error_iff]
    constructor
    · rintro rfl
      exact .text here hother
    · rintro (_ | _ | _ | _ | ⟨here', -⟩)
      obtain rfl := Option.some.inj (here.symm.trans here')
      rfl

theorem EventCode.ofInt?_eq_some_iff {n : Int} {code : EventCode} :
    EventCode.ofInt? n = some code ↔ (code.number : Int) = n := by
  have hall : EventCode.all[code.number]? = some code := by
    cases code <;> rfl
  unfold EventCode.ofInt?
  by_cases hneg : n < 0
  · rw [if_pos hneg]
    constructor
    · intro h
      cases h
    · intro h
      omega
  · rw [if_neg hneg]
    constructor
    · intro h
      have hplace : code.number = n.toNat := by
        have hlt : code.number < EventCode.all.length :=
          (List.getElem?_eq_some_iff.mp hall).1
        exact (List.getElem?_inj hlt (by decide)).mp (hall.trans h.symm)
      omega
    · rintro rfl
      simpa using hall

theorem codeOfInt_eq_ok_iff {n : Int} {code : EventCode} :
    codeOfInt n = .ok code ↔ (code.number : Int) = n := by
  rw [← EventCode.ofInt?_eq_some_iff, codeOfInt]
  cases EventCode.ofInt? n <;> simp

theorem refused_codeOfInt_iff {v : Value} {n : Int}
    (here : fields[0]? = some v) (hnumber : v.integer? = some n)
    (words : String) :
    Refused (codeOfInt n) words ↔ Check.code.Finds fields words := by
  by_cases hknown : ∃ code : EventCode, (code.number : Int) = n
  · obtain ⟨code, hcode⟩ := hknown
    rw [codeOfInt_eq_ok_iff.mpr hcode]
    constructor
    · intro h
      exact absurd h (not_refused_ok code)
    · rintro (_ | _ | _ | ⟨here', hnumber', hunknown⟩)
      obtain rfl := Option.some.inj (here.symm.trans here')
      obtain rfl := Option.some.inj (hnumber.symm.trans hnumber')
      exact absurd hcode (hunknown code)
  · have hunknown : ∀ code : EventCode, (code.number : Int) ≠ n :=
      not_exists.mp hknown
    have hread : codeOfInt n = .error (.unknownCode n) := by
      rcases hcode : codeOfInt n with e | code
      · unfold codeOfInt at hcode
        split at hcode
        · cases hcode
        · exact hcode.symm
      · exact absurd (codeOfInt_eq_ok_iff.mp hcode) (hunknown code)
    rw [hread, refused_error_iff]
    constructor
    · rintro rfl
      exact .code here hnumber hunknown
    · rintro (_ | _ | _ | ⟨here', hnumber', -⟩)
      obtain rfl := Option.some.inj (here.symm.trans here')
      obtain rfl := Option.some.inj (hnumber.symm.trans hnumber')
      rfl

/-! ## Whole payloads -/

theorem exists_seven (h : fields.length = 7) :
    ∃ code artist track album trackNumber duration position,
      fields =
        [code, artist, track, album, trackNumber, duration, position] := by
  rcases fields with
    _ | ⟨code, _ | ⟨artist, _ | ⟨track, _ | ⟨album, _ | ⟨trackNumber,
      _ | ⟨duration, _ | ⟨position, _ | ⟨more, rest⟩⟩⟩⟩⟩⟩⟩⟩
  all_goals simp at h
  exact ⟨code, artist, track, album, trackNumber, duration, position, rfl⟩

theorem ofFields_of_length_ne (h : fields.length ≠ 7) :
    Event.ofFields fields = .error (.wrongCount fields.length) := by
  unfold Event.ofFields
  split
  · simp at h
  · rfl

theorem ofFields_eq_ok_iff {e : Event} :
    Event.ofFields fields = .ok e ↔ e.EncodedAs fields := by
  constructor
  · intro h
    have hlength : fields.length = 7 := by
      by_contra hne
      rw [ofFields_of_length_ne hne] at h
      cases h
    obtain ⟨code, artist, track, album, trackNumber, duration, position, rfl⟩ :=
      exists_seven hlength
    simp only [Event.ofFields, bind_eq_ok_iff, integerField_eq_ok_iff,
      codeOfInt_eq_ok_iff, textField_eq_ok_iff] at h
    obtain ⟨number, hnumber, known, hknown, _, rfl, _, rfl, _, rfl, _,
      htrackNumber, _, hduration, _, hposition, hevent⟩ := h
    obtain rfl := Except.ok.inj hevent
    have hcode : code.integer? = some (known.number : Int) :=
      hnumber.trans (congrArg some hknown.symm)
    exact .intro hcode htrackNumber hduration hposition
  · rintro ⟨hcode, htrackNumber, hduration, hposition⟩
    have hsmall : (e.code.number : Int) = (Int64.ofNat e.code.number).toInt := by
      cases e.code <;> rfl
    simp only [Event.ofFields, bind_eq_ok_iff, integerField_eq_ok_iff,
      codeOfInt_eq_ok_iff, textField_eq_ok_iff]
    exact ⟨_, hsmall ▸ hcode, e.code, hsmall, _, rfl, _, rfl, _, rfl, _,
      htrackNumber, _, hduration, _, hposition, rfl⟩

theorem refused_ofFields_iff :
    Refused (Event.ofFields fields) words ↔
      FirstFound fields Check.order words := by
  by_cases hlength : fields.length = 7
  · obtain ⟨code, artist, track, album, trackNumber, duration, position, rfl⟩ :=
      exists_seven hlength
    rw [Check.order, firstFound_cons_iff]
    have hcount : ∀ other, ¬ Check.count.Finds
        [code, artist, track, album, trackNumber, duration, position] other := by
      rintro _ (hother | _)
      exact hother rfl
    simp only [hcount, not_false_eq_true, implies_true, false_or, true_and]
    unfold Event.ofFields
    apply refused_bind_iff (refused_integerField_iff rfl)
    intro number hnumber
    apply refused_bind_iff
      (refused_codeOfInt_iff rfl (integerField_eq_ok_iff.mp hnumber))
    intro known _
    apply refused_bind_iff (refused_textField_iff rfl)
    intro artistText _
    apply refused_bind_iff (refused_textField_iff rfl)
    intro trackText _
    apply refused_bind_iff (refused_textField_iff rfl)
    intro albumText _
    apply refused_bind_iff (refused_integerField_iff rfl)
    intro first _
    apply refused_bind_iff (refused_integerField_iff rfl)
    intro second _
    apply refused_bind_iff (refused_integerField_iff rfl)
    intro third _
    exact iff_of_false (not_refused_ok _) not_firstFound_nil
  · rw [ofFields_of_length_ne hlength, refused_error_iff, Check.order,
      firstFound_cons_iff]
    have hcount : Check.count.Finds fields s!"expected 7 fields, got {fields.length}" :=
      .count hlength
    constructor
    · rintro rfl
      exact .inl hcount
    · rintro (hfound | ⟨hnothing, -⟩)
      · cases hfound
        rfl
      · exact absurd hcount (hnothing _)

/-! ## Messages -/

theorem length_typeText_of_integer? {v : Value} {n : Int}
    (h : v.integer? = some n) : v.typeText.length = 1 := by
  cases v <;> first
    | (rw [Value.typeText]; rfl)
    | simp [Value.integer?] at h

theorem Event.EncodedAs.length_payloadSignature {e : Event}
    (h : e.EncodedAs fields) : (payloadSignature fields).length = 9 := by
  obtain ⟨hcode, htrackNumber, hduration, hposition⟩ := h
  simp only [payloadSignature, Value.typeText, Value.typeTexts,
    String.length_append, length_typeText_of_integer? hcode,
    length_typeText_of_integer? htrackNumber,
    length_typeText_of_integer? hduration,
    length_typeText_of_integer? hposition]
  rfl

theorem ofBody_eq_ok_iff {body : List Value} {e : Event} :
    Event.ofBody body = .ok e ↔ Event.ofFields (payloadOfBody body) = .ok e := by
  rcases body with _ | ⟨first, rest⟩
  · simp [Event.ofBody, payloadOfBody, Event.ofFields]
  · simp only [Event.ofBody]
    constructor
    · intro h
      split at h
      · cases h
      · exact h
    · intro h
      have hshort := (ofFields_eq_ok_iff.mp h).length_payloadSignature
      rw [if_neg (by rw [hshort]; decide)]
      exact h

theorem payloadOfBody_eq_self {body : List Value}
    (h : ∀ fields, body ≠ [.struct fields]) : payloadOfBody body = body := by
  unfold payloadOfBody
  split
  · exact absurd rfl (h _)
  · rfl

theorem not_encodedAs_struct {e : Event} {inner rest : List Value} :
    ¬ e.EncodedAs (.struct inner :: rest) := by
  rintro ⟨hcode, -⟩
  simp [Value.integer?] at hcode

/-- Reading a list of values gives an event exactly where the list encodes
that event, and any other list is refused with the first thing that is found
wrong with it.  A message is read as its only argument where that is a
structure, and otherwise as its arguments, none of which begins with a
structure. -/
theorem payloads_are_read_exactly :
    (∀ fields e, Event.ofFields fields = .ok e ↔ e.EncodedAs fields) ∧
    (∀ fields words,
      (∃ err, Event.ofFields fields = .error err ∧ err.message = words) ↔
        ∃ reason, FirstFound fields Check.order reason ∧
          words = "invalid NowPlaying payload: " ++ reason) ∧
    ∀ body e, Event.ofBody body = .ok e ↔
      (∃ fields, body = [.struct fields] ∧ Event.ofFields fields = .ok e) ∨
        (∀ fields, body.head? ≠ some (.struct fields)) ∧
          Event.ofFields body = .ok e := by
  refine ⟨fun fields e => ofFields_eq_ok_iff, ?_, ?_⟩
  · intro fields words
    constructor
    · rintro ⟨err, hread, rfl⟩
      exact ⟨err.reason, refused_ofFields_iff.mp ⟨err, hread, rfl⟩, rfl⟩
    · rintro ⟨reason, hfound, rfl⟩
      obtain ⟨err, hread, rfl⟩ := refused_ofFields_iff.mpr hfound
      exact ⟨err, hread, rfl⟩
  · intro body e
    rw [ofBody_eq_ok_iff]
    constructor
    · intro h
      by_cases hsingle : ∃ fields, body = [.struct fields]
      · obtain ⟨fields, rfl⟩ := hsingle
        exact .inl ⟨fields, rfl, h⟩
      · rw [payloadOfBody_eq_self (not_exists.mp hsingle)] at h
        refine .inr ⟨?_, h⟩
        intro fields hhead
        obtain ⟨rest, rfl⟩ := List.head?_eq_some_iff.mp hhead
        exact not_encodedAs_struct (ofFields_eq_ok_iff.mp h)
    · rintro (⟨fields, rfl, h⟩ | ⟨hhead, h⟩)
      · exact h
      · rw [payloadOfBody_eq_self]
        · exact h
        · rintro fields rfl
          exact hhead fields rfl

end ScrobbleRelay.Playback
