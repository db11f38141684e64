import ScrobbleRelay.Proofs.Files.Spared
import ScrobbleRelay.Proofs.Leads

/-!
# What changes leave

A device may refuse any change that the tree allows, and a file that was
opened may be left with the first of its bytes.  Making directories leaves
every file as it was, whatever the device does.  `Writing` says how a task can
go that writes a file last: the file holds the bytes, or the device failed and
it holds a beginning of them, or no file has changed.
-/

namespace ScrobbleRelay.Files

variable {fs made after : Files} {path : String} {bytes part : ByteArray}
  {spot : Place} {paths : List String}

/-- The file system when the next fault is past. -/
def next (fs : Files) : Files := { fs with faults := fs.faults.tail }

theorem next_spares (fs : Files) (paths : List String) :
    fs.Spares paths fs.next :=
  ⟨rfl, fun _ h => h, fun _ _ => rfl⟩

theorem nextFault_ends (fs : Files) :
    nextFault.Ends fs (.done fs.faults.head?.join) fs.next :=
  ⟨rfl, rfl⟩

theorem of_nextFault_bind {rest : Option Fault → Task FileError Files Unit}
    {ending : Ending FileError Unit}
    (h : (nextFault >>= rest).Ends fs ending after) :
    (rest fs.faults.head?.join).Ends fs.next ending after :=
  h

/-- Something is made at a place, or the device refuses. -/
theorem make_ends {entry : Entry} {ending : Ending FileError Unit}
    (h : (make spot entry).Ends fs ending after) :
    (ending = .done () ∧ after = fs.next.put spot entry) ∨
      (∃ cause, ending = .failed (.device cause)) ∧ after = fs.next := by
  have hmake := of_nextFault_bind h
  split at hmake
  · obtain ⟨rfl, rfl⟩ := hmake
    exact .inl ⟨rfl, rfl⟩
  · obtain ⟨rfl, rfl⟩ := hmake
    exact .inr ⟨⟨_, rfl⟩, rfl⟩

/-- Bytes that a longer text begins with. -/
def Begins (part whole : ByteArray) : Prop :=
  ∃ taken < whole.size, part = whole.extract 0 taken

/-- A file is given its bytes, or a beginning of them where the device
fails. -/
theorem fill_ends {ending : Ending FileError Unit}
    (h : (fill spot bytes).Ends fs ending after) :
    ∃ part, after = fs.next.put spot (.file part) ∧
      ((ending = .done () ∧ part = bytes) ∨
        (∃ cause, ending = .failed (.device cause)) ∧ Begins part bytes) := by
  have hfill := of_nextFault_bind h
  split at hfill
  · obtain ⟨rfl, rfl⟩ := hfill
    exact ⟨bytes, rfl, .inl ⟨rfl, rfl⟩⟩
  · split at hfill
    · next hshort =>
        obtain ⟨rfl, rfl⟩ := Task.Ends.of_change_bind hfill
        exact ⟨_, rfl, .inr ⟨⟨_, rfl⟩, _, hshort, rfl⟩⟩
    · obtain ⟨rfl, rfl⟩ := hfill
      exact ⟨bytes, rfl, .inl ⟨rfl, rfl⟩⟩

/-! ## Making directories -/

theorem makeDirectory_spares (path : String) :
    (makeDirectory path).Leads (Spares paths) := by
  intro fs
  have hends : (makeDirectory path).Ends fs _ _ := ⟨rfl, rfl⟩
  generalize ((makeDirectory path).run fs).world = after at hends ⊢
  have hmake := Task.Ends.of_world_bind hends
  split at hmake
  · next spot hspot =>
      have hput : fs.next.Spares paths (fs.next.put spot .directory) :=
        .put_directory hspot
      rcases make_ends hmake with ⟨-, rfl⟩ | ⟨-, rfl⟩
      · exact IsTrans.trans _ _ _ (fs.next_spares paths) hput
      · exact fs.next_spares paths
  · split at hmake
    · obtain ⟨-, rfl⟩ := hmake
      exact Std.Refl.refl fs
    · obtain ⟨-, rfl⟩ := hmake
      exact Std.Refl.refl fs

theorem makeDirectoriesFrom_spares (above : Nat) (path : String) :
    (makeDirectoriesFrom above path).Leads (Spares paths) := by
  induction above using Nat.strongRecOn generalizing path with
  | ind above ih =>
      rw [makeDirectoriesFrom.eq_def]
      split
      · exact .pure _
      · refine Task.Leads.bind (makeDirectory_spares path).caught ?_
        intro result
        split
        · exact .pure _
        · split
          · next above parent hparent =>
              have habove := ih above (Nat.lt_succ_self above) parent
              exact habove.bind fun _ => makeDirectory_spares path
          · exact .fail _
        · exact .fail _

/-- Making directories leaves every file, whether it is done or not. -/
theorem makeDirectories_spares (path : String) :
    (makeDirectories path).Leads (Spares paths) :=
  makeDirectoriesFrom_spares _ path

/-! ## Writing -/

/-- How a task that writes a file can end, where the failure of the device
while the file takes its bytes is told in the given way. -/
inductive Writing {ε : Type} (path : String) (bytes : ByteArray)
    (told : DeviceError → ε) (fs : Files) : Ending ε Unit → Files → Prop
  | done {after : Files} (spares : fs.Spares [path] after)
      (holds : after.find path = .ok (.file bytes)) :
      Writing path bytes told fs (.done ()) after
  | broken {cause : DeviceError} {part : ByteArray} {after : Files}
      (spares : fs.Spares [path] after) (begins : Begins part bytes)
      (holds : after.find path = .ok (.file part)) :
      Writing path bytes told fs (.failed (told cause)) after
  | spared {ending : Ending ε Unit} {after : Files} (stops : ending ≠ .done ())
      (spares : fs.Spares [] after) : Writing path bytes told fs ending after

namespace Writing

variable {ε δ : Type} {told : DeviceError → ε} {ending : Ending ε Unit}

theorem spares_path (h : Writing path bytes told fs ending after) :
    fs.Spares [path] after := by
  cases h with
  | done spares => exact spares
  | broken spares => exact spares
  | spared _ spares => exact spares.mono (by simp)

/-- Where no file has changed before, it went like that from the start. -/
theorem after_spares (hfirst : fs.Spares [] made)
    (h : Writing path bytes told made ending after) :
    Writing path bytes told fs ending after := by
  have hpath : fs.Spares [path] made := hfirst.mono (by simp)
  cases h with
  | done spares holds => exact .done (IsTrans.trans _ _ _ hpath spares) holds
  | broken spares begins holds =>
      exact .broken (IsTrans.trans _ _ _ hpath spares) begins holds
  | spared stops spares =>
      exact .spared stops (IsTrans.trans _ _ _ hfirst spares)

theorem mapError (f : ε → δ) (h : Writing path bytes told fs ending after) :
    Writing path bytes (fun cause => f (told cause)) fs (ending.mapError f)
      after := by
  cases h with
  | done spares holds => exact .done spares holds
  | broken spares begins holds => exact .broken spares begins holds
  | spared stops spares =>
      refine .spared ?_ spares
      cases ending with
      | done value => exact absurd rfl stops
      | failed error => simp [Ending.mapError]
      | crashed => simp [Ending.mapError]

theorem find_of_done (h : Writing path bytes told fs (.done ()) after) :
    after.find path = .ok (.file bytes) := by
  cases h with
  | done _ holds => exact holds
  | spared stops => exact absurd rfl stops

/-- A task that is not done has changed no file, or the device failed and the
file at the path holds a beginning of the bytes. -/
theorem not_done (h : Writing path bytes told fs ending after)
    (hnot : ending ≠ .done ()) :
    fs.Spares [] after ∨ ∃ cause part, ending = .failed (told cause) ∧
      Begins part bytes ∧ after.find path = .ok (.file part) := by
  cases h with
  | done => exact absurd rfl hnot
  | broken _ begins holds => exact .inr ⟨_, _, rfl, begins, holds⟩
  | spared _ spares => exact .inl spares

end Writing

/-- A file that was opened at the place of its path takes the bytes there. -/
theorem fill_writing {opened : Files} {ending : Ending FileError Unit}
    (hspot : fs.fileSpot path = .ok spot) (hopened : fs.Spares [path] opened)
    (hfree : opened.at? spot ≠ some .directory)
    (h : (fill spot bytes).Ends opened ending after) :
    Writing path bytes FileError.device fs ending after := by
  obtain ⟨above, last, rfl, -, htarget, -⟩ := fileSpot_eq_ok hspot
  obtain ⟨part, rfl, hpart⟩ := fill_ends h
  have hplace : placeOf opened.next.here path = last :: above := by
    rw [← placeOf_of_target htarget, ← hopened.here]
    rfl
  have hput : opened.next.Spares [path]
      (opened.next.put (last :: above) (.file part)) :=
    .put_file hplace hfree part
  have hspares : fs.Spares [path]
      (opened.next.put (last :: above) (.file part)) :=
    IsTrans.trans _ _ _ hopened
      (IsTrans.trans _ _ _ (opened.next_spares [path]) hput)
  have hholds : (opened.next.put (last :: above) (.file part)).find path =
      .ok (.file part) := by
    apply find_of_fileSpot hspot hspares.here hspares.directories
    rw [at?_put _ (by simp), if_pos rfl]
  rcases hpart with ⟨rfl, rfl⟩ | ⟨⟨cause, rfl⟩, hbegins⟩
  · exact .done hspares hholds
  · exact .broken hspares hbegins hholds

/-- A file that can be written is opened and then given its bytes. -/
theorem write_ends {ending : Ending FileError Unit}
    (hspot : fs.fileSpot path = .ok spot)
    (h : (make spot (.file .empty) >>= fun _ => fill spot bytes).Ends fs ending
      after) : (write path bytes).Ends fs ending after := by
  refine .bind (.world fs) ?_
  rw [hspot]
  exact h

/-- A file that was opened keeps what it took before the device failed. -/
theorem write_broken {taken : Nat} {cause : DeviceError}
    {faults : List (Option Fault)} (hspot : fs.fileSpot path = .ok spot)
    (hfaults : fs.faults = none :: some ⟨taken, cause⟩ :: faults)
    (hshort : taken < bytes.size) :
    ∃ after, (write path bytes).Ends fs (.failed (.device cause)) after ∧
      after.at? spot = some (.file (bytes.extract 0 taken)) := by
  obtain ⟨above, last, rfl, -⟩ := fileSpot_eq_ok hspot
  let opened := fs.next.put (last :: above) (.file .empty)
  have hmade : (make (last :: above) (.file .empty)).Ends fs (.done ()) opened := by
    refine .bind (nextFault_ends fs) ?_
    rw [hfaults]
    exact .change _ _
  have hfilled : (fill (last :: above) bytes).Ends opened (.failed (.device cause))
      (opened.next.put (last :: above) (.file (bytes.extract 0 taken))) := by
    refine .bind (nextFault_ends opened) ?_
    have hfault : opened.faults.head?.join = some ⟨taken, cause⟩ := by
      simp [opened, next, put, hfaults]
    rw [hfault]
    simp only [hshort]
    exact .bind (.change _ _) (.fail _ _)
  refine ⟨_, write_ends hspot (hmade.bind hfilled), ?_⟩
  rw [at?_put _ (by simp), if_pos rfl]

/-- A file is written, or it holds a beginning of the bytes, or no file has
changed. -/
theorem write_writing {ending : Ending FileError Unit}
    (h : (write path bytes).Ends fs ending after) :
    Writing path bytes FileError.device fs ending after := by
  have hrest := Task.Ends.of_world_bind h
  cases hspot : fs.fileSpot path with
  | error e =>
      rw [hspot] at hrest
      have hfail : (Task.fail e : Task FileError Files Unit).Ends fs ending
          after := hrest
      obtain ⟨rfl, rfl⟩ := hfail
      exact .spared (by simp) (Std.Refl.refl fs)
  | ok spot =>
      rw [hspot] at hrest
      have hopen : (make spot (.file .empty) >>= fun _ => fill spot bytes).Ends
          fs ending after := hrest
      obtain ⟨above, last, rfl, hfree, htarget, -⟩ := fileSpot_eq_ok hspot
      have hplace : placeOf fs.next.here path = last :: above :=
        placeOf_of_target htarget
      have hopened : fs.next.Spares [path]
          (fs.next.put (last :: above) (.file .empty)) :=
        .put_file hplace hfree _
      rcases hopen.of_bind_or_stops with
        ⟨_, opened, hmade, hfill⟩ | ⟨first, hmade, hnot, hstops⟩
      · rcases make_ends hmade with ⟨-, rfl⟩ | ⟨⟨_, hfailed⟩, -⟩
        · apply fill_writing hspot
            (IsTrans.trans _ _ _ (fs.next_spares _) hopened) _ hfill
          rw [at?_put _ (by simp), if_pos rfl]
          simp
        · cases hfailed
      · rcases make_ends hmade with ⟨hdone, -⟩ | ⟨-, rfl⟩
        · exact absurd hdone (hnot ())
        · exact .spared (hstops ()) (fs.next_spares [])

end ScrobbleRelay.Files
