import ScrobbleRelay.Proofs.Service.Submissions
import ScrobbleRelay.Proofs.Time.Stamps
import ScrobbleRelay.Proofs.Web.JsonTexts

/-!
# What the services are told

Each protocol has its own words for a scrobble: a form with a civil date, a
signed form with a number of seconds, a value of JSON.  Each is read here as a
server would read it, by the names of its fields alone, and for each the body
that is sent reads as the scrobble itself: artist, title, album and second.
-/

namespace ScrobbleRelay

/-- What a service learns of a scrobble; a track of no album has an empty
one. -/
structure Told where
  artist : String
  title : String
  album : String
  second : Int
  deriving Repr, DecidableEq

def Scrobble.told (s : Scrobble) : Told :=
  ⟨s.artist, s.title, s.album, s.playedAt.seconds⟩

/-- A scrobble whose time all services can tell: from 1970 on and outside of
leap seconds. -/
def Scrobble.Tellable (s : Scrobble) : Prop :=
  0 ≤ s.playedAt.seconds ∧ s.playedAt.nanos < 1000000000

namespace Service

open Settings (AudioscrobblerSettings LastfmSettings)
open Web (Json)

/-! ## Fields of a form -/

/-- The values that a form gives to a name. -/
def valuesOf (name : String) (pairs : List (String × String)) : List String :=
  (pairs.filter fun p => p.1 == name).map Prod.snd

def only? (name : String) (pairs : List (String × String)) : Option String :=
  match valuesOf name pairs with
  | [value] => some value
  | _ => none

/-- The value of a name that may be missing, and then counts as empty, but is
not empty where it is given. -/
def optional? (name : String) (pairs : List (String × String)) : Option String :=
  match valuesOf name pairs with
  | [] => some ""
  | [value] => if value.isEmpty then none else some value
  | _ => none

theorem valuesOf_perm {name : String} {pairs others : List (String × String)}
    (h : pairs.Perm others) : (valuesOf name pairs).Perm (valuesOf name others) :=
  (h.filter _).map _

/-- The order of the pairs makes no difference to the only value of a name. -/
theorem only?_of_perm {name value : String} {pairs others : List (String × String)}
    (h : pairs.Perm others) (hvalue : valuesOf name others = [value]) :
    only? name pairs = some value := by
  have hvalues : valuesOf name pairs = [value] := by
    apply List.perm_singleton.mp
    rw [← hvalue]
    exact valuesOf_perm h
  rw [only?, hvalues]

theorem optional?_of_perm {name value : String}
    {pairs others : List (String × String)} (h : pairs.Perm others)
    (hvalue : valuesOf name others = if value.isEmpty then [] else [value]) :
    optional? name pairs = some value := by
  have hperm : (valuesOf name pairs).Perm (valuesOf name others) := valuesOf_perm h
  rw [hvalue] at hperm
  by_cases hempty : value.isEmpty = true
  · rw [if_pos hempty] at hperm
    obtain rfl : value = "" := by simpa using hempty
    rw [optional?, hperm.eq_nil]
  · rw [if_neg hempty] at hperm
    rw [optional?, List.perm_singleton.mp hperm]
    simp only [if_neg hempty]

/-! ## Audioscrobbler -/

namespace Audioscrobbler

/-- The scrobble that a submission form tells about. -/
def told? (body : String) : Option Told := do
  let pairs ← Web.readPairs? body
  let artist ← only? "a[0]" pairs
  let title ← only? "t[0]" pairs
  let album ← only? "b[0]" pairs
  let time ← only? "i[0]" pairs
  let stamp ← Time.Stamp.ofText? time
  return ⟨artist, title, album, stamp.toSeconds⟩

/-- A submission tells about its scrobble, in whatever session it is made. -/
theorem told?_submissionBody (account : AudioscrobblerSettings)
    (session : Session) {scrobble : Scrobble} (h : scrobble.Tellable) :
    told? (submissionBody account session scrobble) = some scrobble.told := by
  have hleap : scrobble.playedAt.inLeapSecond = false := by
    simpa [Time.Instant.inLeapSecond] using h.2
  have hsecond := scrobble.playedAt.toSeconds_stamp
  rw [hleap] at hsecond
  simp only [told?, submissionBody, Web.readPairs?_formText]
  simp [only?, valuesOf, submissionForm, Scrobble.datePlayed, Scrobble.told,
    Time.Instant.ofText?_text, hsecond]

end Audioscrobbler

/-! ## Last.fm -/

namespace Lastfm

/-- The scrobble that the form of a call tells about. -/
def told? (body : String) : Option Told := do
  let pairs ← Web.readPairs? body
  let operation ← only? "method" pairs
  let artist ← only? "artist" pairs
  let title ← only? "track" pairs
  let album ← optional? "album" pairs
  let time ← only? "timestamp" pairs
  let second ← Text.natOfDigits? time.toList
  if operation = "track.scrobble" then
    return ⟨artist, title, album, (second : Int)⟩
  else none

theorem signed_perm (secret operation : String)
    (parameters : List (String × String)) :
    (signed secret operation parameters).Perm
      (("api_sig", signature secret (("method", operation) :: parameters)) ::
        ("method", operation) :: parameters) :=
  sorted_perm _

theorem valuesOf_submission (account : LastfmSettings) (scrobble : Scrobble)
    (signature : String) :
    let pairs := ("api_sig", signature) :: ("method", "track.scrobble") ::
      submissionParameters account scrobble
    valuesOf "method" pairs = ["track.scrobble"] ∧
    valuesOf "artist" pairs = [scrobble.artist] ∧
    valuesOf "track" pairs = [scrobble.title] ∧
    valuesOf "album" pairs =
      (if scrobble.album.isEmpty then [] else [scrobble.album]) ∧
    valuesOf "timestamp" pairs = [toString scrobble.playedAt.seconds.toNat] := by
  by_cases hempty : scrobble.album.isEmpty = true
  · simp [valuesOf, submissionParameters, scrobbleParameters, Scrobble.album?,
      hempty]
  · simp [valuesOf, submissionParameters, scrobbleParameters, Scrobble.album?,
      hempty]

/-- A call tells about its scrobble, with or without an album. -/
theorem told?_scrobbleBody (account : LastfmSettings) {scrobble : Scrobble}
    (h : scrobble.Tellable) :
    told? (scrobbleBody account scrobble) = some scrobble.told := by
  have hperm := signed_perm account.apiSecret "track.scrobble"
    (submissionParameters account scrobble)
  obtain ⟨hoperation, hartist, htitle, halbum, htime⟩ :=
    valuesOf_submission account scrobble
      (signature account.apiSecret
        (("method", "track.scrobble") :: submissionParameters account scrobble))
  have hsecond : ((scrobble.playedAt.seconds.toNat : Nat) : Int) =
      scrobble.playedAt.seconds := Int.toNat_of_nonneg h.1
  simp only [told?, scrobbleBody, callBody, Web.readPairs?_formText,
    Option.bind_eq_bind, Option.bind_some, only?_of_perm hperm hoperation,
    only?_of_perm hperm hartist, only?_of_perm hperm htitle,
    optional?_of_perm hperm halbum, only?_of_perm hperm htime,
    Text.natOfDigits?_toString, if_pos, hsecond]
  rfl

end Lastfm

/-! ## ListenBrainz -/

namespace Listenbrainz

/-- The name of a release that may be missing, and then counts as empty, but
is not empty where it is given. -/
def release? (about : Json) : Option String :=
  match about.field? "release_name" with
  | none => some ""
  | some name => name.string?.bind fun text =>
    if text.isEmpty then none else some text

/-- A number in plain digits. -/
def second? : Json → Option Nat
  | .number written => Text.natOfDigits? written.toList
  | _ => none

def listen? (submission : Json) : Option Json :=
  match submission.field? "payload" with
  | some (.array [listen]) => some listen
  | _ => none

/-- The scrobble that a submission in JSON tells about. -/
def told? (body : String) : Option Told := do
  let listen ← listen? (← Json.ofText? body)
  let second ← (listen.field? "listened_at").bind second?
  let about ← listen.field? "track_metadata"
  let artist ← (about.field? "artist_name").bind (·.string?)
  let title ← (about.field? "track_name").bind (·.string?)
  let album ← release? about
  return ⟨artist, title, album, (second : Int)⟩

theorem second?_number (n : Nat) :
    second? (.number (toString n)) = some n :=
  Text.natOfDigits?_toString n

/-- What a submission says about the track. -/
def metadata (scrobble : Scrobble) : Json :=
  .object ([("artist_name", .string scrobble.artist),
      ("track_name", .string scrobble.title)] ++
    (scrobble.album?.map fun name => ("release_name", Json.string name)).toList)

theorem metadata_reads (scrobble : Scrobble) (depth : Nat) :
    (metadata scrobble).Reads (depth + 2) := by
  apply Json.Reads.object
  intro field hfield
  obtain ⟨text, htext⟩ : ∃ text, field.2 = .string text := by
    cases halbum : scrobble.album? with
    | none =>
        simp [halbum] at hfield
        rcases hfield with rfl | rfl <;> exact ⟨_, rfl⟩
    | some album =>
        simp [halbum] at hfield
        rcases hfield with rfl | rfl | rfl <;> exact ⟨_, rfl⟩
  exact htext ▸ .string depth text

theorem release?_metadata (scrobble : Scrobble) :
    release? (metadata scrobble) = some scrobble.album := by
  have hname : (metadata scrobble).field? "release_name" =
      scrobble.album?.map .string := by
    rw [metadata]
    cases scrobble.album? with
    | none => rfl
    | some album => rfl
  rw [release?, hname, Scrobble.album?]
  by_cases hempty : scrobble.album = ""
  · simp [hempty]
  · simp [hempty, Json.string?]

def listened (scrobble : Scrobble) : Json :=
  .object [("listened_at", .number (toString scrobble.playedAt.seconds.toNat)),
    ("track_metadata", metadata scrobble)]

theorem submission_eq {scrobble : Scrobble} (h : scrobble.Tellable) :
    submission scrobble =
      .object [("listen_type", .string "import"),
        ("payload", .array [listened scrobble])] := by
  have hsecond : toString scrobble.playedAt.seconds =
      toString scrobble.playedAt.seconds.toNat := by
    rw [← Int.toNat_of_nonneg h.1]
    rfl
  rw [listened, ← hsecond]
  rfl

theorem submission_reads {scrobble : Scrobble} (h : scrobble.Tellable) :
    (submission scrobble).Reads 128 := by
  have hlistened : (listened scrobble).Reads 126 := by
    apply Json.Reads.object
    rw [List.forall_mem_cons, List.forall_mem_singleton]
    exact ⟨.number _ _, metadata_reads scrobble _⟩
  rw [submission_eq h]
  apply Json.Reads.object
  rw [List.forall_mem_cons, List.forall_mem_singleton]
  exact ⟨.string _ _, .array (List.forall_mem_singleton.mpr hlistened)⟩

/-- A submission tells about its scrobble, with or without an album. -/
theorem told?_submission {scrobble : Scrobble} (h : scrobble.Tellable) :
    told? (submission scrobble).text = some scrobble.told := by
  have hsecond : ((scrobble.playedAt.seconds.toNat : Nat) : Int) =
      scrobble.playedAt.seconds := Int.toNat_of_nonneg h.1
  have hlisten : listen? (submission scrobble) = some (listened scrobble) := by
    rw [submission_eq h]
    rfl
  have htime : ((listened scrobble).field? "listened_at").bind second? =
      some scrobble.playedAt.seconds.toNat := second?_number _
  have habout : (listened scrobble).field? "track_metadata" =
      some (metadata scrobble) := rfl
  have hartist : ((metadata scrobble).field? "artist_name").bind (·.string?) =
      some scrobble.artist := rfl
  have htitle : ((metadata scrobble).field? "track_name").bind (·.string?) =
      some scrobble.title := rfl
  simp only [told?, (submission_reads h).ofText?_text, Option.bind_eq_bind,
    Option.bind_some, hlisten, htime, habout, hartist, htitle,
    release?_metadata, hsecond]
  rfl

end Listenbrainz

end Service

end ScrobbleRelay
