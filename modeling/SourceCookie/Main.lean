import SourceCookie.Daemon

/-!
The command line of the daemon. The one argument is the path of the settings.
-/

namespace SourceCookie.Main

def readSettings (folder path : String) : IO (Option SettingsFile) := do
  try
    return some ⟨SettingsFile.nameFrom folder path, ← IO.FS.readFile path⟩
  catch _ => return none

def readEnvironment : IO (List (String × String)) := do
  try
    let text ← IO.FS.readFile "/proc/self/environ"
    return (text.splitOn "\x00").filterMap fun entry =>
      match entry.splitOn "=" with
      | name :: value :: more => some (name, "=".intercalate (value :: more))
      | _ => none
  catch _ => return []

end SourceCookie.Main

open SourceCookie in
def main (arguments : List String) : IO UInt32 := do
  let path := arguments.headD Daemon.defaultPath
  let folder := (← IO.currentDir).toString
  let exact ← Main.readSettings folder path
  let typed ← Main.readSettings folder (SettingsFile.typedPath path)
  let files (p : String) : Option SettingsFile := if p = path then exact else typed
  let env ← Main.readEnvironment
  let loaded := Config.load files folder path env
  let report := Daemon.start .unprivileged path loaded (env.lookup "RUST_LOG")
  for record in report.records do
    IO.println (record.line report.style)
  (← IO.getStderr).putStr report.errorText
  return report.exitCode.toUInt32
