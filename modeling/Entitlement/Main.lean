import Entitlement.Command.Run
import Entitlement.Database.Recorded
import Entitlement.Json.Reader
import Std.Time.DateTime.Timestamp

/-! # The program

The program runs one command with the settings of its environment. The database is not
connected to: its answers are read from standard input, one in JSON on each line, in the
order of the statements. The cache starts out empty. -/

namespace Entitlement.Program

def environment : IO Environment := do
  let content ← IO.FS.readBinFile "/proc/self/environ"
  return ⟨content.data.toList.splitOnP (· = 0)⟩

/-- What lies at a path that cannot be read. A folder that cannot be listed counts as locked. -/
def lockedAt (path : String) : IO FolderEntry := do
  try
    let _ ← IO.FS.readBinFile (path ++ "/.")
    return .lockedFolder
  catch
    | .permissionDenied .. => return .lockedFolder
    | _ => return .lockedFile

def entryAt (path : String) : IO (Option FolderEntry) := do
  try
    return some (.file (← IO.FS.readBinFile path).data.toList)
  catch
    | .noFileOrDirectory .. => return none
    -- The system tells folders that are read from files that are walked through by this number.
    | .inappropriateType _ 21 _ => return some .folder
    | .inappropriateType .. => return none
    | _ => return some (← lockedAt path)

def pathsTo (path : String) : List String :=
  let names := Way.namesOf path
  (List.range names.length).map fun count => String.intercalate "/" (names.take (count + 1))

def folderOf (paths : List String) : IO Folder := do
  let entries ← (paths.flatMap pathsTo).mapM fun path => do
    return (← entryAt path).map (path, ·)
  return Folder.ofPaths (entries.filterMap id)

def settingsPaths (environment : Environment) (path : Option String) : List String :=
  path.toList ++ (environment.lookup Run.pathVariable).toList ++ SettingsSource.searchPaths

partial def readAnswers (input : IO.FS.Stream) : IO (List Database.Answer) := do
  let line ← input.getLine
  if line.isEmpty then
    return []
  let rest ← readAnswers input
  match (Json.read? line).bind Database.Answer.ofJson? with
  | some answer => return answer :: rest
  | none => return rest

def ambient : IO Ambient := do
  let time ← Std.Time.Timestamp.now
  let bytes ← IO.getRandomBytes 16
  let start := bytes.foldl (fun number byte => 256 * number + byte.toNat) 0
  let now : Instant := ⟨time.val.second.val, time.val.nano.val.toNat⟩
  return ⟨fun _ => now, 0, fun made => Uuid.random (start + made), 0⟩

def site (environment : Environment) (path : Option String) : IO Site := do
  let folder ← folderOf (settingsPaths environment path)
  let answers ← readAnswers (← IO.getStdin)
  return {
    folder, environment
    database := fun _ => some (Database.Server.ofAnswers answers [])
    cacheServer := fun _ => some ⟨[], fun _ _ => false, []⟩
    ambient := ← ambient
    uptime := (← IO.monoMsNow) / 1000 }

def report (run : Run) : IO UInt32 := do
  match run.outcome with
  | .ok success => IO.println success.output
  | .error failure => IO.eprintln failure.report
  return .ofNat run.exitStatus

end Entitlement.Program

open Entitlement in
def main (arguments : List String) : IO UInt32 := do
  let environment ← Program.environment
  match Arguments.read (Run.presetOf environment) arguments with
  | .ok (path, command) =>
      Program.report (Run.ofCommand (← Program.site environment path) path command)
  | .error fault =>
      if fault.exitStatus = 0 then IO.print ArgumentFault.usage
      else IO.eprint ArgumentFault.usage
      return .ofNat fault.exitStatus
