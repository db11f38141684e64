import Mathlib.Order.Defs.Unbundled
import ScrobbleRelay.Proofs.Files.Written

/-!
# Files that are left alone

The place that a path names can be told from its parts alone: where the path
can be followed at all, it leads there.  An operation spares all files but
those at some paths if every other place has the file that it had, or still
has none, and every directory stays one.
-/

namespace ScrobbleRelay.Files

variable {fs after : Files} {path : String} {paths : List String}

/-! ## The place of a path -/

/-- The place that a part of a path names, seen from another place. -/
def onward (place : Place) (part : String) : Place :=
  if part = "." then place else if part = ".." then place.tail else part :: place

/-- The place that a path names, seen from the working directory. -/
def placeOf (here : Place) (path : String) : Place :=
  (partsOf path).foldl onward (if isAbsolute path then [] else here)

theorem enter_onward {place next : Place} {part : String}
    (h : fs.enter place part = .ok next) : next = onward place part := by
  rcases enter_eq_ok_iff.mp h with
    ⟨hdot, hnext⟩ | ⟨hdot, hdots, hnext⟩ | ⟨hdot, hdots, -, -, hnext⟩
  · rw [hnext, onward, if_pos hdot]
  · rw [hnext, onward, if_neg hdot, if_pos hdots]
  · rw [hnext, onward, if_neg hdot, if_neg hdots]

theorem foldlM_enter_onward {place end_ : Place} {parts : List String}
    (h : parts.foldlM fs.enter place = .ok end_) :
    end_ = parts.foldl onward place := by
  induction parts generalizing place with
  | nil => exact (Except.ok.inj h).symm
  | cons part parts ih =>
      rw [List.foldlM_cons, bind_eq_ok_iff] at h
      obtain ⟨next, hnext, hrest⟩ := h
      rw [List.foldl_cons, ← enter_onward hnext]
      exact ih hrest

theorem placeOf_of_target {above : Place} {last : String}
    (h : fs.target path = .ok (.name above last)) :
    placeOf fs.here path = last :: above := by
  obtain ⟨-, habove, hlast, hdot, hdots⟩ := target_eq_name_iff.mp h
  obtain ⟨firsts, hparts⟩ := List.getLast?_eq_some_iff.mp hlast
  rw [hparts, List.dropLast_concat] at habove
  have hplace := foldlM_enter_onward habove
  rw [Files.start] at hplace
  rw [placeOf, hparts, List.foldl_append, ← hplace, List.foldl_cons,
    List.foldl_nil, onward, if_neg hdot, if_neg hdots]

/-! ## What is spared -/

/-- The bytes of the file at a place, if there is one. -/
def fileAt? (fs : Files) (place : Place) : Option ByteArray :=
  match fs.at? place with
  | some (.file bytes) => some bytes
  | _ => none

theorem fileAt?_put (fs : Files) {place : Place} (hplace : place ≠ [])
    (entry : Entry) {other : Place} (hother : other ≠ place) :
    (fs.put place entry).fileAt? other = fs.fileAt? other := by
  rw [fileAt?, fileAt?, at?_put fs hplace, if_neg hother]

/-- One file system has the files of another one and no others, but perhaps at
some paths, and all its directories. -/
structure Spares (paths : List String) (fs after : Files) : Prop where
  here : after.here = fs.here
  directories : ∀ place, fs.at? place = some .directory →
    after.at? place = some .directory
  files : ∀ place, (∀ path ∈ paths, place ≠ placeOf fs.here path) →
    after.fileAt? place = fs.fileAt? place

instance : Std.Refl (Spares paths) where
  refl _ := ⟨rfl, fun _ h => h, fun _ _ => rfl⟩

instance : IsTrans Files (Spares paths) where
  trans fs middle after first second := by
    refine ⟨second.here.trans first.here, ?_, ?_⟩
    · intro place hplace
      exact second.directories place (first.directories place hplace)
    · intro place hplace
      have hsecond := second.files place
      rw [first.here] at hsecond
      exact (hsecond hplace).trans (first.files place hplace)

theorem Spares.mono {more : List String} (h : Spares paths fs after)
    (hmore : paths ⊆ more) : Spares more fs after where
  here := h.here
  directories := h.directories
  files place hplace := h.files place fun path hpath => hplace path (hmore hpath)

/-- A path leads to a file where it ends at a name that has one, with no slash
after it. -/
theorem find_file_iff {bytes : ByteArray} :
    fs.find path = .ok (.file bytes) ↔
      ∃ above last, fs.target path = .ok (.name above last) ∧
        last.utf8ByteSize ≤ greatestName ∧ endsInSlash path = false ∧
        fs.at? (last :: above) = some (.file bytes) := by
  rw [Files.find, bind_eq_ok_iff]
  constructor
  · rintro ⟨end_, htarget, hentry⟩
    cases end_ with
    | directory place => cases hentry
    | name above last =>
        simp only [bind_eq_ok_iff, child?_eq_ok_iff] at hentry
        obtain ⟨child, ⟨hshort, rfl⟩, hentry⟩ := hentry
        refine ⟨above, last, htarget, hshort, ?_⟩
        split at hentry
        · cases hentry
        · cases hentry
        · next content hchild =>
            split at hentry
            · cases hentry
            · next hslash =>
                cases hentry
                exact ⟨by simpa using hslash, hchild⟩
  · rintro ⟨above, last, htarget, hshort, hslash, hfile⟩
    refine ⟨_, htarget, ?_⟩
    simp only [bind_eq_ok_iff, child?_eq_ok_iff]
    refine ⟨_, ⟨hshort, rfl⟩, ?_⟩
    simp only [hfile, hslash]
    rfl

theorem fileAt?_eq_some_iff {place : Place} {bytes : ByteArray} :
    fs.fileAt? place = some bytes ↔ fs.at? place = some (.file bytes) := by
  unfold fileAt?
  split
  · next content hfile => simp [hfile]
  · next hnone =>
      constructor
      · intro h
        cases h
      · intro h
        exact absurd h (hnone bytes)

/-- A path that is not among the ones named leads to the file that it led to. -/
theorem Spares.find_file (h : Spares paths fs after) {bytes : ByteArray}
    (hother : ∀ named ∈ paths, placeOf fs.here path ≠ placeOf fs.here named)
    (hfind : fs.find path = .ok (.file bytes)) :
    after.find path = .ok (.file bytes) := by
  obtain ⟨above, last, htarget, hshort, hslash, hfile⟩ := find_file_iff.mp hfind
  have htarget' := target_of_directories h.here h.directories htarget
  have hsame : after.fileAt? (last :: above) = fs.fileAt? (last :: above) := by
    apply h.files
    rwa [placeOf_of_target htarget] at hother
  refine find_file_iff.mpr ⟨above, last, htarget', hshort, hslash, ?_⟩
  rw [← fileAt?_eq_some_iff] at hfile ⊢
  rw [hsame, hfile]

/-! ## Changes of one place -/

theorem Spares.put {place : Place} {entry : Entry} (hplace : place ≠ [])
    (hfree : fs.at? place ≠ some .directory)
    (hfiles : (∀ path ∈ paths, place ≠ placeOf fs.here path) →
      (fs.put place entry).fileAt? place = fs.fileAt? place) :
    Spares paths fs (fs.put place entry) where
  here := rfl
  directories other hother := by
    have hne : other ≠ place := by
      rintro rfl
      exact hfree hother
    rw [at?_put fs hplace, if_neg hne]
    exact hother
  files other hother := by
    by_cases hsame : other = place
    · subst hsame
      exact hfiles hother
    · exact fileAt?_put fs hplace entry hsame

theorem Spares.put_directory {spot : Place} (h : fs.freeSpot path = .ok spot) :
    Spares paths fs (fs.put spot .directory) := by
  obtain ⟨above, last, rfl, hfree⟩ := freeSpot_eq_ok h
  apply Spares.put (by simp) (by simp [hfree])
  intro _
  rw [fileAt?, fileAt?, at?_put fs (by simp), if_pos rfl, hfree]

theorem Spares.put_file {above : Place} {last : String}
    (hplace : placeOf fs.here path = last :: above)
    (hfree : fs.at? (last :: above) ≠ some .directory) (bytes : ByteArray) :
    Spares [path] fs (fs.put (last :: above) (.file bytes)) := by
  apply Spares.put (by simp) hfree
  intro hother
  exact absurd hplace.symm (hother path (by simp))

end ScrobbleRelay.Files
