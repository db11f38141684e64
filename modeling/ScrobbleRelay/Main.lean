import ScrobbleRelay.Program

/-!
# The command line program

Reads the arguments, the environment, the settings file and, for a login, what is typed; runs the
program on them; and carries out what the run decided: it writes the settings file if the run
changed it, prints what the run printed, and exits with its code.  The bus and the network are
worlds of their own that this program is not connected to.
-/

namespace ScrobbleRelay.Main

open Log (Line)
open Program (Surroundings World Outcome)

/-- The bytes of a file, if it can be read. -/
def bytesAt? (path : String) : IO (Option ByteArray) := do
  try
    return some (← IO.FS.readBinFile path)
  catch _ => return none

/-- The files of a run: the settings file, where there is one, and the directories above it. -/
def filesAt (path : String) : IO Files := do
  match ← bytesAt? path with
  | none => return Files.empty
  | some bytes =>
    let made := match Files.parent? path with
      | some parent => ((Files.makeDirectories parent).run Files.empty).world
      | none => Files.empty
    return ((Files.write path bytes).run made).world

/-- Everything that is typed, for a login; nothing is waited for otherwise. -/
def typed (arguments : List String) : IO (List UInt8) := do
  match CommandLine.parse arguments with
  | .ok options =>
    if options.authLastfm then
      let bytes ← (← IO.getStdin).readToEnd
      return bytes.toUTF8.toList
    else return []
  | .error _ => return []

/-- Carry out a change of the settings file. -/
def keep (path : String) (before after : Files) : IO Unit := do
  match after.read path with
  | .error _ => pure ()
  | .ok text =>
    if (before.read path).toOption != some text then
      if let some parent := Files.parent? path then
        if !parent.isEmpty then IO.FS.createDirAll parent
      IO.FS.writeFile path text

def shown (line : Line) : String :=
  s!"[{line.level.label} {line.origin.fullName}] {line.text}"

end ScrobbleRelay.Main

open ScrobbleRelay in
def main (arguments : List String) : IO UInt32 := do
  let surroundings : Program.Surroundings :=
    { home := (← IO.getEnv "HOME").filter fun home => !home.isEmpty
      settingsDirectory := ← IO.getEnv "XDG_CONFIG_HOME"
      logSpecification := ← IO.getEnv "RUST_LOG"
      signals := []
      stop := .closed
      clock := fun _ => ⟨0, 0⟩ }
  let path? := (CommandLine.parse arguments).toOption.bind (Program.settingsPath? surroundings)
  let files ← path?.elim (pure Files.empty) Main.filesAt
  let world : Program.World :=
    { files
      console := ⟨← Main.typed arguments, ""⟩
      uplink := ⟨⟨false, [], []⟩, none⟩
      bus := none }
  let outcome := Program.run surroundings arguments world
  path?.forM (Main.keep · files outcome.world.files)
  IO.print outcome.world.console.printed
  for line in outcome.reader ++ outcome.worker do
    IO.eprintln (Main.shown line)
  for line in outcome.complaints do
    IO.eprintln line
  return outcome.exit.toUInt32
