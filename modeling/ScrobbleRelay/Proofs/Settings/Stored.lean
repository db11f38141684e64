import ScrobbleRelay.Proofs.Settings.Saved

/-!
# What loading leaves

Loading from a file changes nothing, and what is loaded is valid.  Where no
file is, the default settings are loaded if they can be saved.
-/

namespace ScrobbleRelay.Settings

open Files (FileError)

variable {s : Settings} {path : String} {fs after : Files}

theorem validate_leads {σ : Type} {R : σ → σ → Prop} [Std.Refl R]
    (s : Settings) : (s.validate : Task Invalid σ Unit).Leads R :=
  .of_yields s.validate_yields

theorem valid_of_validate {σ : Type} {w w' : σ}
    (h : (s.validate : Task Invalid σ Unit).Ends w (.done ()) w') : s.Valid := by
  have hyields := s.validate_yields w
  cases hbus : s.bus.validate with
  | error e =>
      rw [hbus] at hyields
      obtain ⟨e, hfailed, -⟩ := hyields
      cases hfailed.symm.trans h.1
  | ok verdict =>
      cases hservices : s.validateServices with
      | error e =>
          rw [hbus, hservices] at hyields
          obtain ⟨e, hfailed, -⟩ := hyields
          cases hfailed.symm.trans h.1
      | ok verdict => exact ⟨hbus, hservices⟩

theorem validate_of_valid {σ : Type} (h : s.Valid) (w : σ) :
    (s.validate : Task Invalid σ Unit).Ends w (.done ()) w := by
  have hyields := s.validate_yields w
  rw [h.1, h.2] at hyields
  exact hyields

theorem validateServices_eq_ok_iff (s : Settings) :
    s.validateServices = .ok () ↔
      (∀ account, s.activeAudioscrobbler = some account →
        account.validate = .ok ()) ∧
      (∀ account, s.activeLastfm = some account →
        account.validate = .ok ()) ∧
      validateEach s.activeListenbrainz = .ok () := by
  unfold validateServices
  cases s.activeAudioscrobbler <;> cases s.activeLastfm <;>
    simp [check_bind_eq_ok_iff]

/-- Reading a settings file leaves the files as they are. -/
theorem loadExisting_leads (path : String) : (loadExisting path).Leads Eq := by
  refine Task.Leads.bind .world ?_
  intro fs
  refine Task.Leads.bind (.ofExcept _) ?_
  intro content
  refine Task.Leads.bind (.ofExcept _) ?_
  intro settings
  refine Task.Leads.bind ((validate_leads settings).mapError _) ?_
  intro _
  exact .pure settings

/-- Where a path leads to something, loading leaves the files as they are. -/
theorem load_of_isThere (hthere : fs.isThere path = true) :
    ((load path).run fs).world = fs := by
  have hworld :
      ((load path).run fs).world = ((loadExisting path).run fs).world := by
    rw [load, Task.run_bind]
    simp only [Task.run_world, if_pos hthere]
  rw [hworld]
  exact (loadExisting_leads path fs).symm

theorem default_valid : Settings.default.Valid := by
  constructor <;> rfl

/-- The file that settings were read from holds a text of them, and they are
valid. -/
theorem loadExisting_done (h : (loadExisting path).Ends fs (.done s) after) :
    (∃ text, fs.read path = .ok text ∧ ofText text = .ok s) ∧ s.Valid := by
  obtain ⟨text, _, htext, hrest⟩ := h.of_world_bind.of_bind_done
  obtain ⟨settings, _, hsettings, hrest⟩ := hrest.of_bind_done
  obtain ⟨⟨⟩, _, hvalid, hpure⟩ := hrest.of_bind_done
  obtain rfl : settings = s := by
    cases hpure.1
    rfl
  have hread := mapError_eq_ok_iff.mp htext.of_ofExcept_done.1
  have hparsed := mapError_eq_ok_iff.mp hsettings.of_ofExcept_done.1
  exact ⟨⟨text, hread, hparsed⟩, valid_of_validate hvalid.of_mapError_done⟩

theorem valid_of_load (h : (load path).Ends fs (.done s) after) : s.Valid := by
  have hload := h.of_world_bind
  split at hload
  · exact (loadExisting_done hload).2
  · obtain ⟨_, _, -, hrest⟩ := hload.of_bind_done
    obtain ⟨_, _, -, hpure⟩ := hrest.of_bind_done
    cases hpure.1
    exact default_valid

/-- Where nothing is, the default settings are loaded if they are saved. -/
theorem load_of_missing (hmissing : fs.isThere path = false)
    (h : (Settings.default.save path).Ends fs (.done ()) after) :
    (load path).Ends fs (.done Settings.default) after := by
  refine .bind (.world fs) ?_
  rw [if_neg (by simp [hmissing])]
  exact .bind (.log _ _ _ _) ((h.mapError LoadError.unsaved).bind (.pure _ _))

/-- Where a file holds a text of valid settings, these are loaded. -/
theorem load_of_read {text : String} (hvalid : s.Valid)
    (hread : fs.read path = .ok text) (htext : ofText text = .ok s) :
    (load path).Ends fs (.done s) fs := by
  apply load_ends_of_text (Files.isThere_of_read hread) hread htext
  exact ((validate_of_valid hvalid fs).mapError _).bind (.pure s fs)

theorem load_of_find (hvalid : s.Valid)
    (h : fs.find path = .ok (.file s.text.toUTF8)) :
    (load path).Ends fs (.done s) fs :=
  load_of_read hvalid (Files.read_of_find h) (ofText_text s)

end ScrobbleRelay.Settings
