import ScrobbleRelay.Proofs.Files.Spared
import ScrobbleRelay.Proofs.Settings.Stored

/-!
# Loading and saving with care

A settings file that is there is only read.  Where none is, the default
settings are saved and found again by the next load.  No other file is changed
by loading or saving, after whatever else was done to the files before.  Where
that fails no file is changed at all, unless the device fails while the file
takes its bytes: then it holds a beginning of them.
-/

namespace ScrobbleRelay.Settings

variable {s : Settings} {path : String} {fs after : Files}
  {ending : Ending LoadError Settings}

theorem load_ends_of_missing (hmissing : fs.isThere path = false)
    (h : (load path).Ends fs ending after) :
    ∃ saved, (Settings.default.save path).Ends fs saved after ∧
      ending = (saved.mapError LoadError.unsaved).map fun _ => Settings.default := by
  have hsave : (do
      (Settings.default.save path).mapError LoadError.unsaved
      pure Settings.default : Task LoadError Files Settings).Ends fs ending after := by
    have hrest := Task.Ends.of_world_bind h
    rw [if_neg (by simp [hmissing])] at hrest
    exact hrest
  obtain ⟨told, htold, rfl⟩ := hsave.of_bind_value fun _ w => .pure _ w
  obtain ⟨saved, hsaved, rfl⟩ := htold.of_mapError
  exact ⟨saved, hsaved, rfl⟩

/-- Loading changes no file but the one at the path. -/
theorem load_spares (h : (load path).Ends fs ending after) :
    fs.Spares [path] after := by
  by_cases hthere : fs.isThere path = true
  · rw [← h.2, load_of_isThere hthere]
    exact Std.Refl.refl fs
  · obtain ⟨saved, hsaved, -⟩ := load_ends_of_missing (by simpa using hthere) h
    exact (save_writing hsaved).spares_path

/-- Loading that fails changes no file, or the device failed while the default
settings were written, and the file holds a beginning of their text. -/
theorem load_not_done (h : (load path).Ends fs ending after)
    (hnot : ∀ s, ending ≠ .done s) :
    fs.Spares [] after ∨
      ∃ cause part, ending = .failed (.unsaved (.file (.device cause))) ∧
        Files.Begins part Settings.default.text.toUTF8 ∧
        after.find path = .ok (.file part) := by
  by_cases hthere : fs.isThere path = true
  · rw [← h.2, load_of_isThere hthere]
    exact .inl (Std.Refl.refl fs)
  · obtain ⟨saved, hsaved, hending⟩ :=
      load_ends_of_missing (by simpa using hthere) h
    have hunsaved : saved ≠ .done () := by
      rintro rfl
      exact hnot _ hending
    rcases (save_writing hsaved).not_done hunsaved with
      hspares | ⟨cause, part, rfl, hbegins, hholds⟩
    · exact .inl hspares
    · exact .inr ⟨cause, part, hending, hbegins, hholds⟩

/-- After loading is done, the file at the path holds a text of the settings. -/
theorem read_of_load (h : (load path).Ends fs (.done s) after) :
    ∃ text, after.read path = .ok text ∧ ofText text = .ok s := by
  by_cases hthere : fs.isThere path = true
  · obtain rfl : fs = after := by
      rw [← h.2, load_of_isThere hthere]
    have hexisting : (loadExisting path).Ends fs (.done s) fs := by
      have hrest := Task.Ends.of_world_bind h
      rwa [if_pos hthere] at hrest
    exact (loadExisting_done hexisting).1
  · obtain ⟨saved, hsaved, hending⟩ :=
      load_ends_of_missing (by simpa using hthere) h
    cases saved with
    | done value =>
        cases hending
        have hfind := (save_writing hsaved).find_of_done
        exact ⟨_, Files.read_of_find hfind, ofText_text _⟩
    | failed error => cases hending
    | crashed => cases hending

/-- How loading and saving at a path treat the files. -/
structure Careful (path : String) (fs : Files) : Prop where
  /-- A file, or whatever else is there, is only looked at. -/
  still : fs.isThere path = true → ((load path).run fs).world = fs
  /-- Valid settings are loaded from a text of them. -/
  found : ∀ text s, fs.read path = .ok text → ofText text = .ok s →
    (s.validate : Task Invalid Files Unit).Ends fs (.done ()) fs →
    (load path).Ends fs (.done s) fs
  /-- What was loaded is in the file, valid, and loaded again. -/
  lasting : ∀ s after, (load path).Ends fs (.done s) after →
    (∃ text, after.read path = .ok text ∧ ofText text = .ok s) ∧
    (s.validate : Task Invalid Files Unit).Ends after (.done ()) after ∧
    (load path).Ends after (.done s) after
  loads : fs.Spares [path] ((load path).run fs).world
  saves : ∀ s : Settings, fs.Spares [path] ((s.save path).run fs).world
  /-- A path to another file still leads to it, with the same bytes. -/
  others : ∀ other bytes,
    Files.placeOf fs.here other ≠ Files.placeOf fs.here path →
    fs.find other = .ok (.file bytes) →
    ((load path).run fs).world.find other = .ok (.file bytes) ∧
    ∀ s : Settings, ((s.save path).run fs).world.find other = .ok (.file bytes)
  /-- Loading that ends otherwise leaves every file, unless the device fails
  while the default settings are written. -/
  unloaded : ∀ ending after, (load path).Ends fs ending after →
    (∀ s, ending ≠ .done s) →
    fs.Spares [] after ∨
      ∃ cause part, ending = .failed (.unsaved (.file (.device cause))) ∧
        Files.Begins part Settings.default.text.toUTF8 ∧
        after.find path = .ok (.file part)
  /-- Saving that ends otherwise leaves every file, unless the device fails
  while the settings are written. -/
  unsaved : ∀ (s : Settings) ending after, (s.save path).Ends fs ending after →
    ending ≠ .done () →
    fs.Spares [] after ∨
      ∃ cause part, ending = .failed (.file (.device cause)) ∧
        Files.Begins part s.text.toUTF8 ∧ after.find path = .ok (.file part)

theorem careful (path : String) (fs : Files) : Careful path fs where
  still := load_of_isThere
  found text s hread htext hvalid :=
    load_of_read (valid_of_validate hvalid) hread htext
  lasting s after h := by
    obtain ⟨text, hread, htext⟩ := read_of_load h
    have hvalid := valid_of_load h
    exact ⟨⟨text, hread, htext⟩, validate_of_valid hvalid after,
      load_of_read hvalid hread htext⟩
  loads := load_spares ⟨rfl, rfl⟩
  saves _ := (save_writing ⟨rfl, rfl⟩).spares_path
  others other bytes hother hfind := by
    have hplaces : ∀ named ∈ [path],
        Files.placeOf fs.here other ≠ Files.placeOf fs.here named := by
      simpa using hother
    refine ⟨(load_spares ⟨rfl, rfl⟩).find_file hplaces hfind, ?_⟩
    intro s
    have hspares : fs.Spares [path] ((s.save path).run fs).world :=
      (save_writing ⟨rfl, rfl⟩).spares_path
    exact hspares.find_file hplaces hfind
  unloaded _ _ := load_not_done
  unsaved _ _ _ h hnot := (save_writing h).not_done hnot

/-! ## Sequences of changes -/

/-- What is done to files: by others, or by loading and saving settings. -/
inductive Deed where
  | write (path : String) (bytes : ByteArray)
  | makeDirectories (path : String)
  | load (path : String)
  | save (s : Settings) (path : String)

/-- The files after a deed, however it ends. -/
def Deed.perform (fs : Files) : Deed → Files
  | .write path bytes => ((Files.write path bytes).run fs).world
  | .makeDirectories path => ((Files.makeDirectories path).run fs).world
  | .load path => ((Settings.load path).run fs).world
  | .save s path => ((s.save path).run fs).world

/-- The paths at which a deed may change a file. -/
def Deed.paths : Deed → List String
  | .write path _ => [path]
  | .makeDirectories _ => []
  | .load path => [path]
  | .save _ path => [path]

theorem Deed.perform_spares (deed : Deed) (fs : Files) :
    fs.Spares deed.paths (deed.perform fs) := by
  cases deed with
  | write path bytes => exact (Files.write_writing ⟨rfl, rfl⟩).spares_path
  | makeDirectories path => exact Files.makeDirectories_spares path fs
  | load path => exact load_spares ⟨rfl, rfl⟩
  | save s path => exact (save_writing ⟨rfl, rfl⟩).spares_path

/-- The files after a sequence of deeds. -/
def performed (deeds : List Deed) (fs : Files) : Files :=
  deeds.foldl Deed.perform fs

/-- A sequence of deeds spares the files at all paths that none of them names. -/
theorem performed_spares (deeds : List Deed) (fs : Files) :
    fs.Spares (deeds.flatMap Deed.paths) (performed deeds fs) := by
  induction deeds generalizing fs with
  | nil => exact Std.Refl.refl fs
  | cons deed deeds ih =>
      have hfirst := (deed.perform_spares fs).mono
        (List.subset_append_left deed.paths (deeds.flatMap Deed.paths))
      have hrest := (ih (deed.perform fs)).mono
        (List.subset_append_right deed.paths (deeds.flatMap Deed.paths))
      exact IsTrans.trans _ _ _ hfirst hrest

/-- After any sequence of deeds, all files are spared but those at the paths
that were named, and loading and saving at any path are careful. -/
theorem careful_after_deeds (start : Files) (deeds : List Deed) (path : String) :
    start.Spares (deeds.flatMap Deed.paths) (performed deeds start) ∧
      Careful path (performed deeds start) :=
  ⟨performed_spares deeds start, careful path (performed deeds start)⟩

/-- Where nothing was, the default settings are loaded, and then loaded from
the file that was made for them. -/
theorem empty_default_lasts : ∃ after,
    (load "s").Ends Files.empty (.done Settings.default) after ∧
    (load "s").Ends after (.done Settings.default) after ∧
    Files.empty.Spares ["s"] after := by
  obtain ⟨after, hsave⟩ := save_s Settings.default
  have hload := load_of_missing isThere_s hsave
  have hcareful := (careful_after_deeds Files.empty [] "s").2
  refine ⟨after, hload, (hcareful.lasting _ _ hload).2.2, ?_⟩
  have hspares : Files.empty.Spares ["s"] ((load "s").run Files.empty).world :=
    hcareful.loads
  rwa [hload.2] at hspares

/-- A file system whose device lets a file be opened, but is full. -/
def fullDevice (entries : List (Files.Place × Files.Entry)) : Files :=
  ⟨entries, [], [none, some ⟨0, .full⟩]⟩

theorem headingChars_busPart_ne_nil (s : BusSettings) :
    (busPart s).headingChars ≠ [] := by
  have hbracket : "[".toList ≠ [] := by decide +kernel
  have hheading : (busPart s).headingChars =
      "[".toList ++ Toml.nameChars "bus" ++ "]\n".toList :=
    if_neg (by simp [busPart])
  rw [hheading]
  intro hempty
  have hfirst := (List.append_eq_nil_iff.mp hempty).1
  exact hbracket (List.append_eq_nil_iff.mp hfirst).1

/-- The text of any settings has a heading at least. -/
theorem text_size_pos (s : Settings) : 0 < s.text.toUTF8.size := by
  have hparts : ∃ rest, s.sheet.parts = busPart s.bus :: rest := ⟨_, rfl⟩
  have hchars : s.sheet.chars ≠ [] := by
    intro hempty
    obtain ⟨rest, hrest⟩ := hparts
    obtain ⟨-, hpart⟩ := List.append_eq_nil_iff.mp hempty
    rw [hrest, Toml.partsChars] at hpart
    have hfirst := (List.append_eq_nil_iff.mp hpart).1
    have hchars := (List.append_eq_nil_iff.mp hfirst).2
    exact headingChars_busPart_ne_nil s.bus (List.append_eq_nil_iff.mp hchars).1
  have htext : s.text ≠ "" := by
    intro hempty
    have hlist := congrArg String.toList hempty
    rw [text, Toml.Sheet.text, String.toList_ofList] at hlist
    exact hchars hlist
  exact Nat.pos_of_ne_zero (mt String.utf8ByteSize_eq_zero_iff.mp htext)

theorem save_fullDevice (s : Settings)
    (entries : List (Files.Place × Files.Entry))
    (hfree : (fullDevice entries).at? ["s"] ≠ some .directory) :
    ∃ after, (s.save "s").Ends (fullDevice entries)
        (.failed (.file (.device .full))) after ∧
      after.fileAt? ["s"] = some .empty := by
  obtain ⟨after, hwrite, hfile⟩ := Files.write_broken
    (fileSpot_s rfl hfree) rfl s.text_size_pos
  refine ⟨after, save_s_of_write hwrite, ?_⟩
  rw [Files.fileAt?_eq_some_iff, hfile, ByteArray.extract_same]

/-- A full device with a file on it. -/
def keptFile : Files :=
  fullDevice [(["s"], .file Settings.default.text.toUTF8)]

theorem save_keptFile (s : Settings) :
    ∃ after, (s.save "s").Ends keptFile (.failed (.file (.device .full))) after ∧
      after.fileAt? ["s"] = some .empty :=
  save_fullDevice s _ (by simp [fullDevice, Files.at?])

/-- On a full device, loading from where nothing is leaves a new file, and
saving empties the file that was there. -/
theorem fullDevice_spoils_file :
    (∃ after, (load "s").Ends (fullDevice [])
        (.failed (.unsaved (.file (.device .full)))) after ∧
      (fullDevice []).fileAt? ["s"] = none ∧
      after.fileAt? ["s"] = some .empty) ∧
    ∃ after, (Settings.default.save "s").Ends keptFile
        (.failed (.file (.device .full))) after ∧
      keptFile.fileAt? ["s"] = some Settings.default.text.toUTF8 ∧
      after.fileAt? ["s"] = some .empty ∧
      0 < Settings.default.text.toUTF8.size := by
  constructor
  · obtain ⟨after, hsave, hempty⟩ := save_fullDevice Settings.default []
      (by simp [fullDevice, Files.at?])
    have hthere : (fullDevice []).isThere "s" = false := by
      rw [Files.isThere, Files.find, target_s rfl]
      rfl
    refine ⟨after, .bind (.world _) ?_, rfl, hempty⟩
    rw [if_neg (by simp [hthere])]
    exact .bind (.log _ _ _ _) (hsave.mapError LoadError.unsaved).bind_failed
  · obtain ⟨after, hsave, hempty⟩ := save_keptFile Settings.default
    exact ⟨after, hsave, rfl, hempty, Settings.default.text_size_pos⟩

end ScrobbleRelay.Settings
