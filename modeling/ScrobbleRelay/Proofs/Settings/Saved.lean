import ScrobbleRelay.Proofs.Files.Changes
import ScrobbleRelay.Proofs.Toml.Sheets
import ScrobbleRelay.Proofs.Toml.Tables
import ScrobbleRelay.Settings.Store

/-!
# Saved settings can be loaded

The text of any settings is a document whose table has one entry for each
section, and reading its entries gives the same settings: whatever a text
holds, whichever sections and filters are left out, and however many accounts
there are.
-/

namespace ScrobbleRelay.Settings

open Toml (Document Entries Part Table Value)

/-! ## Sections -/

theorem busSettings_ofValue_values (s : BusSettings) :
    BusSettings.ofValue (.table (busPart s).values) = .ok s := by
  obtain ⟨signalName, interface, path, sender⟩ := s
  cases interface <;> cases path <;> cases sender <;> rfl

theorem audioscrobblerSettings_ofValue_values (s : AudioscrobblerSettings) :
    AudioscrobblerSettings.ofValue (.table (audioscrobblerPart s).values) =
      .ok s :=
  rfl

theorem lastfmSettings_ofValue_values (s : LastfmSettings) :
    LastfmSettings.ofValue (.table (lastfmPart s).values) = .ok s :=
  rfl

theorem listenbrainzSettings_ofValue_values (s : ListenbrainzSettings) :
    ListenbrainzSettings.ofValue (.table (listenbrainzPart s).values) = .ok s :=
  rfl

/-- An array with the table of each account is read as the accounts. -/
theorem listenbrainzOfValue_values (accounts : List ListenbrainzSettings) :
    listenbrainzOfValue
        (.array (accounts.map fun s => .table (listenbrainzPart s).values)) =
      .ok accounts := by
  simp only [listenbrainzOfValue]
  generalize 0 = i
  induction accounts generalizing i with
  | nil => rfl
  | cons s accounts ih =>
      simp only [List.map_cons, List.zipIdx_cons, List.mapM_cons,
        listenbrainzSettings_ofValue_values, ih]
      rfl

theorem busPart_distinct (s : BusSettings) : (busPart s).Distinct := by
  obtain ⟨signalName, interface, path, sender⟩ := s
  cases interface <;> cases path <;> cases sender <;>
    simp [Part.Distinct, busPart, optionalEntry, textEntry]

theorem audioscrobblerPart_distinct (s : AudioscrobblerSettings) :
    (audioscrobblerPart s).Distinct := by
  simp [Part.Distinct, audioscrobblerPart, textEntry, flagEntry]

theorem lastfmPart_distinct (s : LastfmSettings) : (lastfmPart s).Distinct := by
  simp [Part.Distinct, lastfmPart, textEntry, flagEntry]

theorem listenbrainzPart_distinct (s : ListenbrainzSettings) :
    (listenbrainzPart s).Distinct := by
  simp [Part.Distinct, listenbrainzPart, textEntry, flagEntry]

/-! ## The table of a settings file -/

/-- The sections with a heading of their own. -/
def tableParts (s : Settings) : List Part :=
  [busPart s.bus] ++ (s.audioscrobbler.map audioscrobblerPart).toList ++
    (s.lastfm.map lastfmPart).toList

/-- The entries of a settings file: an empty list of accounts comes first, any
other comes last. -/
def entries (s : Settings) : Entries :=
  let tables := s.tableParts.map fun p => (p.name, Value.table p.values)
  let accounts := s.listenbrainz.map fun a => Value.table (listenbrainzPart a).values
  if s.listenbrainz.isEmpty then ("listenbrainz", .array []) :: tables
  else tables ++ [("listenbrainz", .array accounts)]

theorem tableParts_distinct (s : Settings) :
    ∀ p ∈ s.tableParts, p.isElement = false ∧ p.Distinct := by
  intro p hp
  simp only [tableParts, List.mem_append, List.mem_singleton,
    Option.mem_toList, Option.map_eq_some_iff] at hp
  rcases hp with (rfl | ⟨account, -, rfl⟩) | ⟨account, -, rfl⟩
  · exact ⟨rfl, busPart_distinct _⟩
  · exact ⟨rfl, audioscrobblerPart_distinct _⟩
  · exact ⟨rfl, lastfmPart_distinct _⟩

/-- No section has the name of another one, or that of the accounts. -/
theorem tableParts_names (s : Settings) :
    ("listenbrainz" :: s.tableParts.map (·.name)).Nodup := by
  unfold tableParts
  cases s.audioscrobbler <;> cases s.lastfm <;>
    simp [busPart, audioscrobblerPart, lastfmPart]

/-- The document of settings means the table of their sections. -/
theorem entries?_document (s : Settings) :
    s.sheet.document.entries? = some s.entries := by
  have hsections :
      s.sheet.document.sections =
        s.tableParts.map Part.asSection ++
          (s.listenbrainz.map listenbrainzPart).map Part.asSection := by
    simp [sheet, Toml.Sheet.document, tableParts]
  by_cases hnone : s.listenbrainz = []
  · have hlines :
        Table.assignAll s.sheet.document.assignments [] =
          some [("listenbrainz", .value (.array []))] := by
      simp only [sheet, hnone]
      rfl
    have htables := Table.addSections_tables s.tableParts
      (t := [("listenbrainz", .value (.array []))]) s.tableParts_distinct
      s.tableParts_names
    rw [Document.entries?, hsections]
    simp [hlines, htables, hnone, entries, Table.meaning, Toml.Node.meaning]
  · have hlines :
        Table.assignAll s.sheet.document.assignments [] = some [] := by
      simp only [sheet, List.isEmpty_eq_false_iff.mpr hnone]
      rfl
    obtain ⟨hnew, hnames⟩ := List.nodup_cons.mp s.tableParts_names
    have htables := Table.addSections_tables s.tableParts (t := [])
      s.tableParts_distinct hnames
    have harray := Table.addSections_array "listenbrainz"
      (s.listenbrainz.map listenbrainzPart)
      (t := s.tableParts.map fun p => (p.name, .table .heading p.nodes))
      (by
        intro p hp
        obtain ⟨account, -, rfl⟩ := List.mem_map.mp hp
        exact ⟨rfl, rfl, listenbrainzPart_distinct account⟩)
      (by simpa [Table.names, Function.comp_def] using hnew)
      (by simpa using hnone)
    have hfold :
        s.sheet.document.sections.foldlM Table.addSection [] =
          some ((s.tableParts.map fun p => (p.name, .table .heading p.nodes)) ++
            [("listenbrainz",
              .elements ((s.listenbrainz.map listenbrainzPart).map Part.nodes))]) := by
      rw [hsections, List.foldlM_append, htables]
      exact harray
    rw [Document.entries?, hlines]
    simp only [Option.bind_eq_bind, Option.bind_some, hfold, Table.meaning_append,
      Table.meaning_map_table, Table.meaning, Toml.Node.meaning,
      Table.meanings_map_nodes]
    simp [entries, hnone, Function.comp_def]

/-! ## Reading the table back -/

theorem withEntry_bus (s : Settings) (bus : BusSettings) :
    s.withEntry ("bus", .table (busPart bus).values) = .ok { s with bus } := by
  simp only [withEntry, withValue, if_true, busSettings_ofValue_values]
  rfl

theorem withEntry_audioscrobbler
    (s : Settings) (account : AudioscrobblerSettings) :
    s.withEntry ("audioscrobbler", .table (audioscrobblerPart account).values) =
      .ok { s with audioscrobbler := some account } := by
  simp only [withEntry, withValue, String.reduceEq, if_false, if_true,
    audioscrobblerSettings_ofValue_values]
  rfl

theorem withEntry_lastfm (s : Settings) (account : LastfmSettings) :
    s.withEntry ("lastfm", .table (lastfmPart account).values) =
      .ok { s with lastfm := some account } := by
  simp only [withEntry, withValue, String.reduceEq, if_false, if_true,
    lastfmSettings_ofValue_values]
  rfl

theorem withEntry_listenbrainz
    (s : Settings) (accounts : List ListenbrainzSettings) :
    s.withEntry ("listenbrainz",
        .array (accounts.map fun a => .table (listenbrainzPart a).values)) =
      .ok { s with listenbrainz := accounts } := by
  simp only [withEntry, withValue, String.reduceEq, if_false, if_true,
    listenbrainzOfValue_values]
  rfl

/-- A section that may be left out is read back, if it is whenever it is
there. -/
theorem foldlM_withEntry_optional
    {α : Type} (part : α → Part) (read : Option α → Settings)
    (hsome : ∀ a, (read none).withEntry ((part a).name, .table (part a).values) =
      .ok (read (some a)))
    (section? : Option α) :
    ((section?.map part).toList.map fun p =>
        (p.name, Value.table p.values)).foldlM withEntry (read none) =
      .ok (read section?) := by
  cases section? with
  | none => rfl
  | some a =>
      rw [Option.map_some, Option.toList_some, List.map_singleton,
        List.foldlM_cons, bind_eq_ok_iff]
      exact ⟨_, hsome a, rfl⟩

/-- The sections are read back, whatever the accounts are so far. -/
theorem foldlM_withEntry_tables
    (s : Settings) (accounts : List ListenbrainzSettings) :
    (s.tableParts.map fun p => (p.name, Value.table p.values)).foldlM withEntry
        { initial with listenbrainz := accounts } =
      .ok { s with listenbrainz := accounts } := by
  obtain ⟨bus, audioscrobbler, lastfm, listenbrainz⟩ := s
  have haudioscrobbler :=
    foldlM_withEntry_optional audioscrobblerPart
      (fun account? => ⟨bus, account?, none, accounts⟩)
      (withEntry_audioscrobbler _) audioscrobbler
  have hlastfm :=
    foldlM_withEntry_optional lastfmPart
      (fun account? => ⟨bus, audioscrobbler, account?, accounts⟩)
      (withEntry_lastfm _) lastfm
  rw [tableParts, List.append_assoc, List.map_append, List.map_append,
    List.map_singleton, List.singleton_append, List.foldlM_cons]
  simp only [List.foldlM_append, bind_eq_ok_iff]
  exact ⟨_, withEntry_bus _ bus, _, haudioscrobbler, hlastfm⟩

theorem ofEntries_entries (s : Settings) : ofEntries s.entries = .ok s := by
  have htables := s.foldlM_withEntry_tables []
  by_cases hnone : s.listenbrainz = []
  · have hfirst :
        initial.withEntry ("listenbrainz", .array []) =
          .ok { initial with listenbrainz := [] } :=
      withEntry_listenbrainz initial []
    have hentries :
        s.entries = ("listenbrainz", .array []) ::
          s.tableParts.map fun p => (p.name, Value.table p.values) := by
      simp [entries, hnone]
    rw [hentries, ofEntries, List.foldlM_cons, hfirst, ← hnone]
    rw [← hnone] at htables
    exact htables
  · have hlast :=
      withEntry_listenbrainz { s with listenbrainz := [] } s.listenbrainz
    have hentries :
        s.entries =
          (s.tableParts.map fun p => (p.name, Value.table p.values)) ++
            [("listenbrainz", .array
              (s.listenbrainz.map fun a => .table (listenbrainzPart a).values))] := by
      simp [entries, hnone]
    rw [hentries, ofEntries, List.foldlM_append, bind_eq_ok_iff]
    refine ⟨_, htables, ?_⟩
    rw [List.foldlM_cons, bind_eq_ok_iff]
    exact ⟨_, hlast, rfl⟩

theorem ofText_text (s : Settings) : ofText s.text = .ok s := by
  have hdocument := Document.ofText?_text s.sheet
  have hentries : Entries.ofText? s.text = some s.entries := by
    rw [Entries.ofText?, text, hdocument]
    exact s.entries?_document
  rw [ofText, hentries]
  simp only [s.ofEntries_entries]
  rfl

/-! ## The file -/

theorem write_log_writing {bytes : ByteArray} {path : String} {fs after : Files}
    {ending : Ending SaveError Unit}
    (h : (do
      (Files.write path bytes).mapError SaveError.file
      Task.log .info .settings ("Config saved to " ++ Text.quoted path) :
        Task SaveError Files Unit).Ends fs ending after) :
    Files.Writing path bytes (fun cause => SaveError.file (.device cause)) fs
      ending after := by
  obtain ⟨told, htold, rfl⟩ := h.of_bind_value fun _ w => .log _ _ _ w
  obtain ⟨written, hwritten, rfl⟩ := htold.of_mapError
  rw [Ending.map_unit]
  exact (Files.write_writing hwritten).mapError SaveError.file

/-- Saving writes the text of the settings, or fails and leaves the files, or
fails and leaves a beginning of the text. -/
theorem save_writing {s : Settings} {path : String} {fs after : Files}
    {ending : Ending SaveError Unit} (h : (s.save path).Ends fs ending after) :
    Files.Writing path s.text.toUTF8
      (fun cause => SaveError.file (.device cause)) fs ending after := by
  unfold save at h
  cases hparent : Files.parent? path with
  | none =>
      rw [hparent] at h
      exact write_log_writing h
  | some parent =>
      rw [hparent] at h
      have hmade : fs.Spares [] ((Files.makeDirectories parent).run fs).world :=
        Files.makeDirectories_spares parent fs
      rcases h.of_bind_or_stops with
        ⟨_, made, ⟨-, rfl⟩, hwrite⟩ | ⟨first, ⟨-, rfl⟩, -, hstops⟩
      · exact (write_log_writing hwrite).after_spares hmade
      · exact .spared (hstops ()) hmade

theorem validate_yields {σ : Type} (s : Settings) (w : σ) :
    (s.validate : Task Invalid σ Unit).Yields w
      (s.bus.validate.toOption.bind fun _ => s.validateServices.toOption) w := by
  unfold validate
  apply Task.Yields.bind (Task.Yields.ofExcept _ w)
  intro _
  split
  · exact .log_bind _ _ _ (Task.Yields.ofExcept _ w)
  · exact Task.Yields.ofExcept _ w

/-- Where a file holds a text of settings, loading it is validating them. -/
theorem load_ends_of_text {s : Settings} {path text : String} {fs : Files}
    {ending : Ending LoadError Settings} (hthere : fs.isThere path = true)
    (hread : fs.read path = .ok text) (htext : ofText text = .ok s)
    (h : (do
      s.validate.mapError LoadError.invalid
      return s : Task LoadError Files Settings).Ends fs ending fs) :
    (load path).Ends fs ending fs := by
  have hcontent :
      (Task.ofExcept ((fs.read path).mapError (LoadError.unread path)) :
        Task LoadError Files String).Ends fs (.done text) fs := by
    rw [hread]
    exact ⟨rfl, rfl⟩
  have hsettings :
      (Task.ofExcept ((ofText text).mapError (LoadError.unfit path text)) :
        Task LoadError Files Settings).Ends fs (.done s) fs := by
    rw [htext]
    exact ⟨rfl, rfl⟩
  have hexisting : (loadExisting path).Ends fs ending fs :=
    .bind (.world fs) (hcontent.bind (hsettings.bind h))
  refine .bind (.world fs) ?_
  rw [if_pos hthere]
  exact hexisting

theorem load_ends {s : Settings} {path : String} {fs : Files}
    {ending : Ending LoadError Settings} (hthere : fs.isThere path = true)
    (hread : fs.read path = .ok s.text)
    (h : (do
      s.validate.mapError LoadError.invalid
      return s : Task LoadError Files Settings).Ends fs ending fs) :
    (load path).Ends fs ending fs :=
  load_ends_of_text hthere hread (ofText_text s) h

/-- The text of any settings is read back as exactly these settings.  Where
they were saved to a path, loading the path gives them back if they are valid,
and otherwise fails with the error of their validation; in both cases the
files stay as they are. -/
theorem load_after_save (s : Settings) (path : String) (fs : Files) :
    ofText s.text = .ok s ∧
    ∀ after, (s.save path).Ends fs (.done ()) after →
      ((s.validate : Task Invalid Files Unit).Ends after (.done ()) after ∧
        (load path).Ends after (.done s) after) ∨
      ∃ e, (s.validate : Task Invalid Files Unit).Ends after (.failed e) after ∧
        (load path).Ends after (.failed (.invalid e)) after := by
  refine ⟨ofText_text s, ?_⟩
  intro after hsave
  have hread := Files.read_of_find (save_writing hsave).find_of_done
  have hthere := Files.isThere_of_read hread
  have hvalidate := s.validate_yields after
  cases hverdict : s.bus.validate.toOption.bind fun _ =>
      s.validateServices.toOption with
  | some verdict =>
      rw [hverdict] at hvalidate
      have hvalid :
          (s.validate : Task Invalid Files Unit).Ends after (.done ()) after :=
        hvalidate
      left
      refine ⟨hvalid, load_ends hthere hread ?_⟩
      exact (hvalid.mapError LoadError.invalid).bind (.pure s after)
  | none =>
      rw [hverdict] at hvalidate
      obtain ⟨e, hfailed⟩ := hvalidate
      right
      refine ⟨e, hfailed, load_ends hthere hread ?_⟩
      exact (Task.Ends.mapError LoadError.invalid hfailed).bind_failed

/-- Settings with quotes, a backslash and line breaks in their texts. -/
def quotedSettings : Settings :=
  { Settings.default with
    lastfm := none
    listenbrainz :=
      [{ enabled := true
         name := "\"\"\"both\"\"\" and '''both'''"
         token := "back\\slash\r\nbreak\""
         apiUrl := publicListenbrainzUrl }] }

theorem partsOf_s : Files.partsOf "s" = ["s"] := by
  have hsplit : "s".splitOn "/" = ["s"] := by
    rw [String.splitOn, if_neg (by decide), String.splitOnAux,
      if_neg (by decide +kernel), if_neg (by decide +kernel),
      String.splitOnAux, if_pos (by decide +kernel)]
    decide +kernel
  rw [Files.partsOf, hsplit]
  decide +kernel

theorem checkPath_s : Files.checkPath "s" = .ok () := by
  have hnul : "s".contains '\x00' = false := by
    rw [String.contains_char_eq]
    decide +kernel
  rw [Files.checkPath, hnul]
  rfl

theorem target_s {fs : Files} (hhere : fs.here = []) :
    fs.target "s" = .ok (.name [] "s") := by
  have hstart : fs.start "s" = [] := by
    rw [Files.start, if_neg (by decide +kernel), hhere]
  rw [Files.target_eq_name_iff, partsOf_s, hstart]
  exact ⟨checkPath_s, rfl, rfl, by decide, by decide⟩

theorem isThere_s : Files.empty.isThere "s" = false := by
  rw [Files.isThere, Files.find, target_s rfl]
  rfl

theorem fileSpot_s {fs : Files} (hhere : fs.here = [])
    (hfree : fs.at? ["s"] ≠ some .directory) :
    fs.fileSpot "s" = .ok ["s"] := by
  have hslash : Files.endsInSlash "s" = false := by
    decide +kernel
  have hchild : fs.child? [] "s" = .ok (fs.at? ["s"]) := by
    rw [Files.child?_eq_ok_iff]
    exact ⟨by decide, rfl⟩
  rw [Files.fileSpot, bind_eq_ok_iff]
  refine ⟨_, target_s hhere, ?_⟩
  simp only [hslash, hchild]
  cases hentry : fs.at? ["s"] with
  | none => rfl
  | some entry =>
      cases entry with
      | file bytes => rfl
      | directory => exact absurd hentry hfree

theorem save_s_of_write {s : Settings} {fs after : Files}
    {ending : Ending Files.FileError Unit}
    (h : (Files.write "s" s.text.toUTF8).Ends fs ending after) :
    (s.save "s").Ends fs (ending.mapError SaveError.file) after := by
  have hparent : Files.parent? "s" = some "" := by
    rw [Files.parent?, Files.stepsOf, partsOf_s]
    decide +kernel
  have hdirectories :
      ((Files.makeDirectories "").mapError SaveError.directory).Ends fs
        (.done ()) fs := by
    rw [Files.makeDirectories, Files.makeDirectoriesFrom.eq_def,
      if_pos (by decide)]
    exact ⟨rfl, rfl⟩
  have hwrite := h.mapError SaveError.file
  unfold save
  rw [hparent]
  refine hdirectories.bind ?_
  cases ending with
  | done value => exact hwrite.bind (.log _ _ _ _)
  | failed error => exact hwrite.bind_failed
  | crashed => exact hwrite.bind_crashed

/-- Any settings can be saved under the name `s` where nothing is yet. -/
theorem save_s (s : Settings) :
    ∃ after, (s.save "s").Ends Files.empty (.done ()) after := by
  have hspot : Files.empty.fileSpot "s" = .ok ["s"] :=
    fileSpot_s rfl (by simp [Files.empty, Files.at?])
  exact ⟨_, save_s_of_write (Files.write_ends hspot ⟨rfl, rfl⟩)⟩

/-- Settings with every kind of string are given back by the file that they
were saved to. -/
theorem quotedSettings_load_after_save :
    ∃ after,
      (quotedSettings.save "s").Ends Files.empty (.done ()) after ∧
      (load "s").Ends after (.done quotedSettings) after := by
  obtain ⟨after, hsave⟩ := save_s quotedSettings
  refine ⟨after, hsave, ?_⟩
  have hall := load_after_save quotedSettings "s" Files.empty
  rcases hall.2 after hsave with ⟨-, hload⟩ | ⟨e, hinvalid, -⟩
  · exact hload
  · have hvalid :
        ((quotedSettings.validate : Task Invalid Files Unit).run after).ending =
          .done () := by
      rfl
    cases hvalid.symm.trans hinvalid.1

end ScrobbleRelay.Settings
