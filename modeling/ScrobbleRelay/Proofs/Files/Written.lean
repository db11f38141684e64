import ScrobbleRelay.Files.Basic
import ScrobbleRelay.Proofs.Ends

/-!
# Files that are written can be read

Writing a file puts it at a place where no directory was.  Every directory
that a path leads through is therefore still there, so the same path leads to
the file afterwards, and reading it gives what was written.
-/

namespace ScrobbleRelay.Files

variable {fs : Files} {place : Place} {path : String} {bytes : ByteArray}

/-- What is at a place after something was put there, or elsewhere. -/
theorem at?_put (fs : Files) {place : Place} (hplace : place ≠ [])
    (entry : Entry) (other : Place) :
    (fs.put place entry).at? other =
      if other = place then some entry else fs.at? other := by
  cases other with
  | nil => simp [at?, Ne.symm hplace]
  | cons name above =>
      by_cases hsame : name :: above = place
      · simp [at?, put, hsame]
      · have hother : (name :: above == place) = false := beq_false_of_ne hsame
        simp only [at?, put, List.lookup_cons, hother, if_neg hsame]

/-- A part of a path leads on to a directory only. -/
theorem enter_eq_ok_iff {start end_ : Place} {part : String} :
    fs.enter start part = .ok end_ ↔
      (part = "." ∧ end_ = start) ∨
      (part ≠ "." ∧ part = ".." ∧ end_ = start.tail) ∨
      (part ≠ "." ∧ part ≠ ".." ∧ part.utf8ByteSize ≤ greatestName ∧
        fs.at? (part :: start) = some .directory ∧ end_ = part :: start) := by
  unfold enter child?
  by_cases hdot : part = "."
  · simp [hdot, eq_comm]
  · by_cases hdots : part = ".."
    · simp [hdots, eq_comm]
    · by_cases hlong : greatestName < part.utf8ByteSize
      · simp [hdot, hdots, hlong, Nat.not_le.mpr hlong]
      · have hshort : part.utf8ByteSize ≤ greatestName := Nat.not_lt.mp hlong
        cases hentry : fs.at? (part :: start) with
        | none => simp [hdot, hdots, hlong]
        | some entry =>
            cases entry with
            | file content => simp [hdot, hdots, hlong]
            | directory => simp [hdot, hdots, hlong, hshort, eq_comm]

/-- Where every directory of one file system is one of another, the parts of a
path lead where they led. -/
theorem foldlM_enter_of_directories {after : Files} {start end_ : Place}
    {parts : List String}
    (hstay : ∀ place, fs.at? place = some .directory →
      after.at? place = some .directory)
    (h : parts.foldlM fs.enter start = .ok end_) :
    parts.foldlM after.enter start = .ok end_ := by
  induction parts generalizing start with
  | nil => exact h
  | cons part parts ih =>
      rw [List.foldlM_cons, bind_eq_ok_iff] at h ⊢
      obtain ⟨next, hnext, hrest⟩ := h
      refine ⟨next, ?_, ih hrest⟩
      rw [enter_eq_ok_iff] at hnext ⊢
      rcases hnext with hdot | hdots | ⟨hdot, hdots, hshort, hentry, hend⟩
      · exact .inl hdot
      · exact .inr (.inl hdots)
      · exact .inr (.inr ⟨hdot, hdots, hshort, hstay _ hentry, hend⟩)

/-- A path ends at a name where its last part is one and the parts before it
lead to a directory. -/
theorem target_eq_name_iff {above : Place} {last : String} :
    fs.target path = .ok (.name above last) ↔
      checkPath path = .ok () ∧
      (partsOf path).dropLast.foldlM fs.enter (fs.start path) = .ok above ∧
      (partsOf path).getLast? = some last ∧ last ≠ "." ∧ last ≠ ".." := by
  simp only [Files.target, bind_eq_ok_iff]
  constructor
  · rintro ⟨⟨⟩, hcheck, place, hplace, htarget⟩
    refine ⟨hcheck, ?_⟩
    cases hlast : (partsOf path).getLast? with
    | none =>
        rw [hlast] at htarget
        cases htarget
    | some part =>
        simp only [hlast] at htarget
        by_cases hdots : (part = "." || part = "..") = true
        · rw [if_pos hdots, bind_eq_ok_iff] at htarget
          obtain ⟨end_, -, hend⟩ := htarget
          cases hend
        · rw [if_neg hdots] at htarget
          cases htarget
          simp only [Bool.or_eq_true, decide_eq_true_eq, not_or] at hdots
          exact ⟨hplace, rfl, hdots⟩
  · rintro ⟨hcheck, hplace, hlast, hdot, hdots⟩
    refine ⟨(), hcheck, above, hplace, ?_⟩
    simp [hlast, hdot, hdots]
    rfl

/-- Where every directory of one file system is one of another, and the working
directory is the same, a path that could be followed ends where it ended. -/
theorem target_of_directories {after : Files} {end_ : Target}
    (hhere : after.here = fs.here)
    (hstay : ∀ place, fs.at? place = some .directory →
      after.at? place = some .directory)
    (htarget : fs.target path = .ok end_) : after.target path = .ok end_ := by
  have hstart : after.start path = fs.start path := by
    rw [Files.start, Files.start, hhere]
  simp only [Files.target, bind_eq_ok_iff, hstart] at htarget ⊢
  obtain ⟨⟨⟩, hcheck, place, hplace, hlast⟩ := htarget
  refine ⟨(), hcheck, place, foldlM_enter_of_directories hstay hplace, ?_⟩
  rcases hpart : (partsOf path).getLast? with _ | part
  · simpa only [hpart] using hlast
  · simp only [hpart] at hlast ⊢
    by_cases hdots : (part = "." || part = "..") = true
    · rw [if_pos hdots, bind_eq_ok_iff] at hlast ⊢
      obtain ⟨end_, hend, hok⟩ := hlast
      have hwalk : [part].foldlM fs.enter place = .ok end_ := by
        simpa using hend
      have hafter := foldlM_enter_of_directories hstay hwalk
      exact ⟨end_, by simpa using hafter, hok⟩
    · rw [if_neg hdots] at hlast ⊢
      exact hlast

theorem child?_eq_ok_iff {last : String} {entry : Option Entry} :
    fs.child? place last = .ok entry ↔
      last.utf8ByteSize ≤ greatestName ∧ entry = fs.at? (last :: place) := by
  unfold child?
  by_cases hlong : greatestName < last.utf8ByteSize
  · simp [hlong, Nat.not_le.mpr hlong]
  · simp [hlong, Nat.not_lt.mp hlong, eq_comm]

theorem fileSpot_eq_ok (h : fs.fileSpot path = .ok place) :
    ∃ above last, place = last :: above ∧ fs.at? place ≠ some .directory ∧
      fs.target path = .ok (.name above last) ∧
      last.utf8ByteSize ≤ greatestName ∧ endsInSlash path = false := by
  obtain ⟨target, htarget, hname⟩ := bind_eq_ok_iff.mp h
  cases target with
  | directory above => cases hname
  | name above last =>
      simp only at hname
      by_cases hslash : endsInSlash path = true
      · rw [if_pos hslash] at hname
        cases hname
      · rw [if_neg hslash] at hname
        obtain ⟨entry, hentry, hplace⟩ := bind_eq_ok_iff.mp hname
        obtain ⟨hshort, rfl⟩ := child?_eq_ok_iff.mp hentry
        split at hplace
        · cases hplace
        · next hfree =>
            cases hplace
            exact ⟨above, last, rfl, hfree, htarget, hshort, by simpa using hslash⟩

/-- A directory can be made at a name where nothing is. -/
theorem freeSpot_eq_ok (h : fs.freeSpot path = .ok place) :
    ∃ above last, place = last :: above ∧ fs.at? place = none := by
  obtain ⟨target, -, hname⟩ := bind_eq_ok_iff.mp h
  cases target with
  | directory above => cases hname
  | name above last =>
      simp only [bind_eq_ok_iff, child?_eq_ok_iff] at hname
      obtain ⟨child, ⟨-, hchild⟩, hplace⟩ := hname
      cases child with
      | some found => cases hplace
      | none =>
          cases hplace
          exact ⟨above, last, rfl, hchild.symm⟩

/-- A path leads to the file that was put where it can be written. -/
theorem find_of_fileSpot {after : Files} (h : fs.fileSpot path = .ok place)
    (hhere : after.here = fs.here)
    (hstay : ∀ other, fs.at? other = some .directory →
      after.at? other = some .directory)
    (hfile : after.at? place = some (.file bytes)) :
    after.find path = .ok (.file bytes) := by
  obtain ⟨above, last, rfl, -, htarget, hshort, hslash⟩ := fileSpot_eq_ok h
  rw [Files.find, bind_eq_ok_iff]
  refine ⟨_, target_of_directories hhere hstay htarget, ?_⟩
  simp only [bind_eq_ok_iff, child?_eq_ok_iff]
  refine ⟨_, ⟨hshort, rfl⟩, ?_⟩
  simp only [hfile, hslash]
  rfl

/-- Reading a file with the bytes of a text gives the text. -/
theorem read_of_find {text : String}
    (h : fs.find path = .ok (.file text.toUTF8)) : fs.read path = .ok text := by
  have htext : String.fromUTF8? text.toUTF8 = some text :=
    dif_pos text.isValidUTF8
  rw [Files.read, bind_eq_ok_iff]
  refine ⟨_, h, ?_⟩
  simp only [htext]
  rfl

theorem isThere_of_read {text : String} (h : fs.read path = .ok text) :
    fs.isThere path = true := by
  obtain ⟨entry, hfind, -⟩ := bind_eq_ok_iff.mp h
  rw [Files.isThere, hfind]
  rfl

end ScrobbleRelay.Files
