import ScrobbleRelay.Files.Basic
import ScrobbleRelay.Settings.Document
import ScrobbleRelay.Settings.Validate

/-!
# The settings file

Settings are saved as the text of a document, and the directories above the file are made first.
Loading reads and validates them; where no file is, the default settings are saved and used, and
these are not validated.
-/

namespace ScrobbleRelay.Settings

open Files (FileError)

def fileName : String := "cmus_scrobbler.conf"

/-- The directory for settings of a user: the one that is given, if it is absolute, else the one
below the home directory, if there is one. -/
def directory? (home settingsDirectory : Option String) : Option String :=
  (settingsDirectory.filter Files.isAbsolute).or (home.map (Files.join · ".config"))

def filePath? (home settingsDirectory : Option String) : Option String :=
  (directory? home settingsDirectory).map (Files.join · fileName)

/-- Why settings were not saved. -/
inductive SaveError
  | directory (cause : FileError)
  | file (cause : FileError)
  deriving Repr, DecidableEq

def SaveError.failure : SaveError → Failure
  | directory cause => ⟨"Failed to create config directory", [cause.message]⟩
  | file cause => ⟨"Failed to write config file", [cause.message]⟩

/-- Why settings were not loaded. -/
inductive LoadError
  | unread (path : String) (cause : FileError)
  | unfit (path text : String) (cause : TextFault)
  | invalid (cause : Invalid)
  | unsaved (cause : SaveError)
  deriving Repr

/-- The opening words for a settings file whose text was refused. -/
def unfitMessage (path : String) : String := "Failed to parse config file " ++ Text.quoted path

def LoadError.failure : LoadError → Failure
  | unread path cause => ⟨"Failed to read config file " ++ Text.quoted path, [cause.message]⟩
  | unfit path text cause => ⟨unfitMessage path, [cause.report text]⟩
  | invalid cause => cause.failure
  | unsaved cause => cause.failure

end ScrobbleRelay.Settings

namespace ScrobbleRelay.Settings

/-- Save settings to a file. -/
def save (s : Settings) (path : String) : Task SaveError Files Unit := do
  match Files.parent? path with
  | some parent => (Files.makeDirectories parent).mapError SaveError.directory
  | none => pure ()
  (Files.write path s.text.toUTF8).mapError SaveError.file
  Task.log .info .settings ("Config saved to " ++ Text.quoted path)

/-- The settings that a file holds, if they are valid. -/
def loadExisting (path : String) : Task LoadError Files Settings := do
  let fs ← Task.world
  let content ← Task.ofExcept ((fs.read path).mapError (LoadError.unread path))
  let settings ← Task.ofExcept ((ofText content).mapError (LoadError.unfit path content))
  settings.validate.mapError LoadError.invalid
  return settings

/-- Load settings from a file, or save the default ones where no file is. -/
def load (path : String) : Task LoadError Files Settings := do
  let fs ← Task.world
  if fs.isThere path then loadExisting path
  else
    Task.log .info .settings
      ("Config file not found, creating default at " ++ Text.quoted path)
    (Settings.default.save path).mapError LoadError.unsaved
    return Settings.default

end ScrobbleRelay.Settings
