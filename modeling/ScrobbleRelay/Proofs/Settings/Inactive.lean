import ScrobbleRelay.Proofs.Service.Turns
import ScrobbleRelay.Service.Selection
import ScrobbleRelay.Settings.Validate

/-!
# Switched-off sections

Validation, the building of services and the submissions that follow look at
the subscription and at the sections that are switched on, and at nothing
else.  So two settings that agree on those behave alike, whatever their other
sections say, and in particular settings behave like themselves without their
switched-off sections.
-/

namespace ScrobbleRelay.Settings

open Service (Submitter Turn)
open Service.Audioscrobbler (Uplink)

/-- Two settings that ask for the same signals and have the same sections
switched on. -/
structure AgreeOnActive (s t : Settings) : Prop where
  bus : s.bus = t.bus
  audioscrobbler : s.activeAudioscrobbler = t.activeAudioscrobbler
  lastfm : s.activeLastfm = t.activeLastfm
  listenbrainz : s.activeListenbrainz = t.activeListenbrainz

theorem agreeOnActive_withoutInactive (s : Settings) :
    s.AgreeOnActive s.withoutInactive where
  bus := rfl
  audioscrobbler := by
    simp [withoutInactive, activeAudioscrobbler, Option.filter_filter]
  lastfm := by
    simp [withoutInactive, activeLastfm, Option.filter_filter]
  listenbrainz := by
    simp [withoutInactive, activeListenbrainz]

/-- The turns of the services of settings on scrobbles, where they can be
built. -/
def submissions (s : Settings) (uplink : Uplink) (scrobbles : List Scrobble) :
    List (Turn Uplink) :=
  let built := (Service.ofSettings s).run uplink
  match built.ending with
  | .done submitter => submitter.turns scrobbles built.world
  | .failed _ => []
  | .crashed => []

/-- Two settings that cannot be told apart by validating them, by building
their services, or by submitting scrobbles to these. -/
structure BehaveAlike (s t : Settings) : Prop where
  /-- Validation has the same verdict and writes the same lines. -/
  validated : ∀ {σ : Type} (w : σ),
    (s.validate : Task Invalid σ Unit).run w = t.validate.run w
  /-- Building has the same ending, makes the same requests and writes the same
  lines; the services have the same name. -/
  built : ∀ uplink,
    (Submitter.name <$> Service.ofSettings s).run uplink =
      (Submitter.name <$> Service.ofSettings t).run uplink
  /-- Every submission ends alike, makes the same requests and writes the same
  lines. -/
  submitted : ∀ uplink scrobbles,
    s.submissions uplink scrobbles = t.submissions uplink scrobbles

namespace AgreeOnActive

variable {s t : Settings}

theorem anyActive_eq (h : s.AgreeOnActive t) : s.anyActive = t.anyActive := by
  unfold anyActive
  rw [h.audioscrobbler, h.lastfm, h.listenbrainz]

theorem validateServices_eq (h : s.AgreeOnActive t) :
    s.validateServices = t.validateServices := by
  unfold validateServices
  rw [h.audioscrobbler, h.lastfm, h.listenbrainz]

theorem validate_eq {σ : Type} (h : s.AgreeOnActive t) :
    (s.validate : Task Invalid σ Unit) = t.validate := by
  unfold validate
  rw [h.bus, h.anyActive_eq, h.validateServices_eq]

theorem ofSettings_eq (h : s.AgreeOnActive t) :
    Service.ofSettings s = Service.ofSettings t := by
  have hselect : Service.select s = Service.select t := by
    unfold Service.select
    rw [h.audioscrobbler, h.lastfm, h.listenbrainz]
  unfold Service.ofSettings
  rw [hselect]

theorem behaveAlike (h : s.AgreeOnActive t) : s.BehaveAlike t where
  validated w := by rw [h.validate_eq]
  built uplink := by rw [h.ofSettings_eq]
  submitted uplink scrobbles := by
    unfold submissions
    rw [h.ofSettings_eq]

end AgreeOnActive

/-- Settings behave like themselves without their switched-off sections, and
like any settings that differ from them in such sections alone. -/
theorem inactive_sections_are_inert (s : Settings) :
    s.BehaveAlike s.withoutInactive ∧
    ∀ t : Settings, s.AgreeOnActive t → s.BehaveAlike t := by
  constructor
  · exact s.agreeOnActive_withoutInactive.behaveAlike
  · intro t hagree
    exact hagree.behaveAlike

/-- The default settings with other words in the sections that are switched
off: an unusable address, an odd name and no credentials. -/
def oddlyDefault : Settings :=
  { Settings.default with
    lastfm := some ⟨false, "", "odd", ""⟩
    listenbrainz :=
      [⟨false, "\n\"", "", "not an address"⟩, ⟨false, "", "\x00", ""⟩] }

theorem oddlyDefault_behaves_like_default :
    Settings.default.AgreeOnActive oddlyDefault ∧
    Settings.default.BehaveAlike oddlyDefault := by
  have hagree : Settings.default.AgreeOnActive oddlyDefault := by
    constructor <;> rfl
  exact ⟨hagree, (inactive_sections_are_inert Settings.default).2 _ hagree⟩

end ScrobbleRelay.Settings
