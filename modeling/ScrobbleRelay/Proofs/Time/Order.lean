import Mathlib.Data.String.Basic
import ScrobbleRelay.Proofs.Text.Fields
import ScrobbleRelay.Proofs.Time.Stamps
import ScrobbleRelay.Scrobble

/-!
# The order of time and of its texts

Dates are ordered by year, month and day, and this is the order of their days;
stamps are ordered by date, hour, minute and second, and a later stamp never
stands for an earlier second.  In years of four digits the text of a stamp is
made of fields of fixed width, so its texts are ordered as the stamps are.

A leap second and the first second of the next minute stand for the same
number of seconds.  The order of stamps tells them apart, which is why texts
are compared through stamps and not through seconds alone.
-/

namespace ScrobbleRelay.Time

open Text (HasShape padded)

/-! ## Dates -/

/-- One date comes before another one: by year, by month, or by day. -/
def Date.Before (d e : Date) : Prop :=
  d.year < e.year ∨ d.year = e.year ∧
    (d.month < e.month ∨ d.month = e.month ∧ d.day < e.day)

namespace Date

theorem daysBeforeMonth_succ (year : Int) {month : Nat} (hfirst : 1 ≤ month) :
    daysBeforeMonth year (month + 1) =
      daysBeforeMonth year month + daysInMonth year month := by
  obtain ⟨before, rfl⟩ := Nat.exists_eq_add_of_le' hfirst
  simp [daysBeforeMonth, List.range_succ]

theorem daysBeforeMonth_add_le (year : Int) {month later : Nat}
    (hfirst : 1 ≤ month) (hlt : month < later) :
    daysBeforeMonth year month + daysInMonth year month ≤
      daysBeforeMonth year later := by
  induction later, hlt using Nat.le_induction with
  | base => rw [daysBeforeMonth_succ year hfirst]
  | succ later hlt ih =>
      rw [daysBeforeMonth_succ year (by omega)]
      omega

theorem Valid.day_le {d : Date} (h : d.Valid) :
    daysBeforeMonth d.year d.month + d.day ≤
      365 + (if isLeap d.year then 1 else 0) := by
  obtain ⟨hfirst, hlast, -, hday⟩ := h
  by_cases hdecember : d.month = 12
  · have hbefore := daysBeforeMonth_eq d.year 12 (by decide) (by decide)
    rw [hdecember] at hday ⊢
    simp [daysInMonth] at hday
    rw [hbefore, if_neg (by decide)]
    omega
  · have hbefore := daysBeforeMonth_add_le d.year hfirst
      (show d.month < 12 by omega)
    have hdecember := daysBeforeMonth_eq d.year 12 (by decide) (by decide)
    rw [if_neg (by decide)] at hdecember
    omega

theorem daysBeforeYear_mono {first last : Int} (h : first ≤ last) :
    daysBeforeYear first ≤ daysBeforeYear last := by
  unfold daysBeforeYear
  omega

theorem Before.toDays_lt {d e : Date} (hd : d.Valid) (he : e.Valid)
    (h : d.Before e) : d.toDays < e.toDays := by
  have hfirst : 1 ≤ e.day := he.2.2.1
  unfold toDays
  rcases h with hyear | ⟨hyear, hmonth | ⟨hmonth, hday⟩⟩
  · have hend := hd.day_le
    have hnext : daysBeforeYear (d.year + 1) ≤ daysBeforeYear e.year :=
      daysBeforeYear_mono hyear
    rw [daysBeforeYear_succ] at hnext
    by_cases hleap : isLeap d.year = true
    · rw [if_pos hleap] at hend hnext
      omega
    · rw [if_neg hleap] at hend hnext
      omega
  · have hbefore := daysBeforeMonth_add_le d.year hd.1 hmonth
    have hday : d.day ≤ daysInMonth d.year d.month := hd.2.2.2
    rw [← hyear]
    omega
  · rw [← hyear, ← hmonth]
    omega

end Date

/-! ## Stamps -/

/-- One stamp comes before another one: by date, or by the time of day. -/
def Stamp.Before (s t : Stamp) : Prop :=
  s.date.Before t.date ∨ s.date = t.date ∧
    (s.hour < t.hour ∨ s.hour = t.hour ∧
      (s.minute < t.minute ∨ s.minute = t.minute ∧ s.second < t.second))

namespace Stamp

variable {s t : Stamp}

/-- A stamp before another one stands for no later second, and for an earlier
one unless it is a leap second. -/
theorem Before.toSeconds_le (hs : s.Valid) (ht : t.Valid) (h : s.Before t) :
    s.toSeconds ≤ t.toSeconds ∧ (s.second < 60 → s.toSeconds < t.toSeconds) := by
  obtain ⟨hdate, hhour, hminute, hsecond⟩ := hs
  unfold toSeconds
  rcases h with hbefore | ⟨hsame, htime⟩
  · have hdays := hbefore.toDays_lt hdate ht.1
    omega
  · rw [hsame]
    omega

theorem Before.irrefl (h : s.Before s) : False := by
  unfold Before Date.Before at h
  omega

theorem yearText_of_four {year : Int} (h : 0 ≤ year ∧ year ≤ 9999) :
    yearText year = padded 4 year.toNat :=
  if_pos h

/-- Each field of a stamp fits the digits that it is written with. -/
theorem Valid.fields_lt (h : s.Valid)
    (hyear : 0 ≤ s.date.year ∧ s.date.year ≤ 9999) :
    s.date.year.toNat < 10 ^ (3 + 1) ∧ s.date.month < 10 ^ (1 + 1) ∧
      s.date.day < 10 ^ (1 + 1) ∧ s.hour < 10 ^ (1 + 1) ∧
      s.minute < 10 ^ (1 + 1) ∧ s.second < 10 ^ (1 + 1) := by
  obtain ⟨⟨-, hmonth, -, hday⟩, hhour, hminute, hsecond⟩ := h
  have hlongest : daysInMonth s.date.year s.date.month ≤ 31 := by
    unfold daysInMonth
    split
    · split <;> omega
    · split <;> omega
  refine ⟨?_, ?_, ?_, ?_, ?_, ?_⟩ <;> omega

/-- The texts of stamps in years of four digits are ordered as the stamps
are. -/
theorem text_lt_text_iff (hs : s.Valid) (ht : t.Valid)
    (hyear : 0 ≤ s.date.year ∧ s.date.year ≤ 9999)
    (hyear' : 0 ≤ t.date.year ∧ t.date.year ≤ 9999) :
    s.text < t.text ↔ s.Before t := by
  obtain ⟨hy, hmo, hd, hh, hmi, hse⟩ := hs.fields_lt hyear
  obtain ⟨hy', hmo', hd', hh', hmi', hse'⟩ := ht.fields_lt hyear'
  have hyears : s.date.year.toNat < t.date.year.toNat ↔
      s.date.year < t.date.year := by omega
  have hyearsEq : s.date.year.toNat = t.date.year.toNat ↔
      s.date.year = t.date.year := by omega
  have hdates : s.date = t.date ↔ s.date.year = t.date.year ∧
      s.date.month = t.date.month ∧ s.date.day = t.date.day := by
    rw [Date.mk.injEq]
  rw [String.lt_iff_toList_lt, toList_text, toList_text, yearText_of_four hyear,
    yearText_of_four hyear', Text.field_lt_field_iff hy hy',
    Text.field_lt_field_iff hmo hmo', Text.field_lt_field_iff hd hd',
    Text.field_lt_field_iff hh hh', Text.field_lt_field_iff hmi hmi',
    Text.padded_lt_padded_iff hse hse', hyears, hyearsEq, Before, Date.Before,
    hdates]
  simp only [and_or_left, or_assoc, and_assoc]

theorem hasShape_text (h : s.Valid)
    (hyear : 0 ≤ s.date.year ∧ s.date.year ≤ 9999) :
    HasShape "YYYY-MM-DD HH:MM:SS" s.text := by
  obtain ⟨hy, hmo, hd, hh, hmi, hse⟩ := h.fields_lt hyear
  have hshape : "YYYY-MM-DD HH:MM:SS".toList =
      ['Y', 'Y', 'Y', 'Y'] ++ '-' :: (['M', 'M'] ++ '-' :: (['D', 'D'] ++
      ' ' :: (['H', 'H'] ++ ':' :: (['M', 'M'] ++ ':' :: ['S', 'S'])))) := by
    rfl
  rw [HasShape, hshape, toList_text, yearText_of_four hyear]
  refine Text.forall₂_fits_field (by decide) rfl hy rfl ?_
  refine Text.forall₂_fits_field (by decide) rfl hmo rfl ?_
  refine Text.forall₂_fits_field (by decide) rfl hd rfl ?_
  refine Text.forall₂_fits_field (by decide) rfl hh rfl ?_
  refine Text.forall₂_fits_field (by decide) rfl hmi rfl ?_
  exact Text.forall₂_fits_padded (by decide) rfl hse

end Stamp

/-! ## Instants -/

/-- One instant is not after another one: by seconds, and by nanoseconds within
a second, those of a leap second being the last ones. -/
instance : LE Instant where
  le t u := t.seconds < u.seconds ∨ t.seconds = u.seconds ∧ t.nanos ≤ u.nanos

namespace Instant

/-- The instants whose year is written with four digits and no sign. -/
def InFourDigits (t : Instant) : Prop := 0 ≤ t.date.year ∧ t.date.year ≤ 9999

/-- A text tells an instant: it is a stamp of the calendar and of the clock,
and the seconds of that stamp are those of the instant.  A leap second is
counted after the second that it follows, and has the number sixty where this
is the last one of its minute. -/
def ToldBy (t : Instant) (text : String) : Prop :=
  ∃ s, Stamp.ofText? text = some s ∧ s.Valid ∧
    (t.inLeapSecond = false → s.second < 60 ∧ s.toSeconds = t.seconds) ∧
    (t.inLeapSecond = true → s.toSeconds = t.seconds + 1 ∧
      (t.seconds % 60 = 59 → s.second = 60))

variable {t u : Instant}

theorem second_lt_sixty (h : t.inLeapSecond = false) : t.stamp.second < 60 := by
  have hsecond : t.secondOfDay % 60 < 60 := Nat.mod_lt _ (by decide)
  simpa [stamp, h] using hsecond

theorem second_eq_sixty (hleap : t.inLeapSecond = true)
    (hminute : t.seconds % 60 = 59) : t.stamp.second = 60 := by
  have hsecond : t.secondOfDay % 60 = 59 := by
    unfold secondOfDay
    omega
  simp [stamp, hleap, hsecond]

theorem toldBy_text (t : Instant) : t.ToldBy t.text := by
  have hseconds := t.toSeconds_stamp
  refine ⟨t.stamp, t.ofText?_text, t.valid_stamp, ?_, ?_⟩
  · intro hplain
    rw [hplain] at hseconds
    exact ⟨second_lt_sixty hplain, by simpa using hseconds⟩
  · intro hleap
    rw [hleap] at hseconds
    exact ⟨hseconds, second_eq_sixty hleap⟩

/-- The stamp of an instant hangs on its second, and on whether that is a leap
second. -/
theorem stamp_congr (hseconds : t.seconds = u.seconds)
    (hleap : t.inLeapSecond = u.inLeapSecond) : t.stamp = u.stamp := by
  simp only [stamp, date, secondOfDay, hseconds, hleap]

theorem toSeconds_stamp_mono (h : t ≤ u) :
    t.stamp.toSeconds ≤ u.stamp.toSeconds := by
  rw [toSeconds_stamp, toSeconds_stamp]
  rcases h with hless | ⟨heq, hnanos⟩
  · split <;> split <;> omega
  · have hleap : t.inLeapSecond = true → u.inLeapSecond = true := by
      simp only [inLeapSecond, decide_eq_true_eq]
      omega
    rw [heq]
    by_cases ht : t.inLeapSecond = true
    · rw [if_pos ht, if_pos (hleap ht)]
    · rw [if_neg ht]
      split <;> omega

/-- The stamp of an instant does not come before that of an earlier one. -/
theorem not_before_of_le (h : t ≤ u) : ¬ u.stamp.Before t.stamp := by
  intro hbefore
  have hle := toSeconds_stamp_mono h
  obtain ⟨hge, hlt⟩ := hbefore.toSeconds_le u.valid_stamp t.valid_stamp
  have hleap : u.inLeapSecond = true := by
    by_contra hplain
    have hless := hlt (second_lt_sixty (by simpa using hplain))
    omega
  rw [toSeconds_stamp, toSeconds_stamp, if_pos hleap] at hge
  have hsame : t.seconds = u.seconds ∧ t.inLeapSecond = true := by
    have hseconds : t.seconds ≤ u.seconds := by
      rcases h with hless | ⟨heq, -⟩
      · omega
      · omega
    by_cases hleap' : t.inLeapSecond = true
    · rw [if_pos hleap'] at hge
      exact ⟨by omega, hleap'⟩
    · rw [if_neg hleap'] at hge
      omega
  rw [stamp_congr hsame.1 (hsame.2.trans hleap.symm)] at hbefore
  exact hbefore.irrefl

/-- In years of four digits, the text of a later instant is no smaller. -/
theorem text_le_text (ht : t.InFourDigits) (hu : u.InFourDigits) (h : t ≤ u) :
    t.text ≤ u.text := by
  have hnot : ¬ u.text < t.text := by
    rw [text, text,
      Stamp.text_lt_text_iff u.valid_stamp t.valid_stamp hu ht]
    exact not_before_of_le h
  exact String.not_lt.mp hnot

/-- Outside of leap seconds, instants with one text lie in one second. -/
theorem text_eq_text_iff (ht : t.inLeapSecond = false)
    (hu : u.inLeapSecond = false) : t.text = u.text ↔ t.seconds = u.seconds := by
  constructor
  · intro h
    have hread := t.ofText?_text
    rw [h, ofText?_text] at hread
    have hstamp : u.stamp = t.stamp := Option.some.inj hread
    have hseconds := t.toSeconds_stamp
    rw [← hstamp, toSeconds_stamp, ht, hu] at hseconds
    simpa using hseconds.symm
  · intro h
    rw [text, text, stamp_congr h (ht.trans hu.symm)]

end Instant

end ScrobbleRelay.Time

/-! ## The time of a scrobble -/

namespace ScrobbleRelay.Scrobble

open Text (HasShape)

/-- The date that is sent with a scrobble is a real one and stands for the
second in which the track was played, in every year.  In years of four digits
it has the usual shape and grows with the time; outside of leap seconds it
tells seconds apart, and nothing finer. -/
theorem datePlayed_tells_time (s : Scrobble) :
    s.playedAt.ToldBy s.datePlayed ∧
    (s.playedAt.InFourDigits → HasShape "YYYY-MM-DD HH:MM:SS" s.datePlayed) ∧
    (∀ other : Scrobble,
      s.playedAt.InFourDigits → other.playedAt.InFourDigits →
        s.playedAt ≤ other.playedAt → s.datePlayed ≤ other.datePlayed) ∧
    ∀ other : Scrobble,
      s.playedAt.inLeapSecond = false → other.playedAt.inLeapSecond = false →
        (s.datePlayed = other.datePlayed ↔
          s.playedAt.seconds = other.playedAt.seconds) := by
  refine ⟨s.playedAt.toldBy_text, ?_, ?_, ?_⟩
  · intro hyear
    exact Time.Stamp.hasShape_text s.playedAt.valid_stamp hyear
  · intro other hyear hyear' hle
    exact Time.Instant.text_le_text hyear hyear' hle
  · intro other hplain hplain'
    exact Time.Instant.text_eq_text_iff hplain hplain'

/-- A track that was over in the last leap second of the year 2016. -/
def leapScrobble : Scrobble :=
  ⟨"Artist", "Title", 245, ⟨1483228799, 1500000000⟩, "Album", ""⟩

/-- A track that was over right after that leap second. -/
def newYearScrobble : Scrobble :=
  { leapScrobble with playedAt := ⟨1483228800, 0⟩ }

/-- A track that was over at the end of the same second. -/
def lateScrobble : Scrobble :=
  { leapScrobble with playedAt := ⟨1483228800, 999999999⟩ }

/-- The leap second has a text of its own, before that of the second after it,
which has one text from its beginning to its end. -/
theorem leapScrobble_before_new_year :
    leapScrobble.datePlayed = "2016-12-31 23:59:60" ∧
    newYearScrobble.datePlayed = "2017-01-01 00:00:00" ∧
    leapScrobble.playedAt.ToldBy leapScrobble.datePlayed ∧
    HasShape "YYYY-MM-DD HH:MM:SS" leapScrobble.datePlayed ∧
    leapScrobble.datePlayed ≤ newYearScrobble.datePlayed ∧
    newYearScrobble.datePlayed = lateScrobble.datePlayed := by
  have hyear : leapScrobble.playedAt.InFourDigits := by
    constructor <;> decide +kernel
  have hyear' : newYearScrobble.playedAt.InFourDigits := by
    constructor <;> decide +kernel
  have hle : leapScrobble.playedAt ≤ newYearScrobble.playedAt :=
    .inl (by decide)
  obtain ⟨htold, hshape, hmono, -⟩ := datePlayed_tells_time leapScrobble
  have hsame :=
    (datePlayed_tells_time newYearScrobble).2.2.2 lateScrobble rfl rfl
  exact ⟨by decide +kernel, by decide +kernel, htold, hshape hyear,
    hmono newYearScrobble hyear hyear' hle, hsame.mpr rfl⟩

end ScrobbleRelay.Scrobble
