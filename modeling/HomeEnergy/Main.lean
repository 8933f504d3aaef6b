import HomeEnergy.Service.Report
import HomeEnergy.Settings.Environment
import Std.Time.DateTime.Timestamp

/-!
# The command line

Reads the arguments, the environment and the settings, runs the service as far as it gets without
transports to devices, and prints its log and its complaint.
-/

namespace HomeEnergy.Service

/-- The environment, if the system shows it. -/
def environment : IO (List (String × String)) := do
  try return Environment.ofBlock (← IO.FS.readBinFile "/proc/self/environ") catch _ => return []

/-- The content of a file, if it can be read. -/
def content? (path : String) : IO (Option String) := do
  try return some (← IO.FS.readFile path) catch _ => return none

/-- The time. -/
def now : IO Timestamp := do
  let t ← Std.Time.Timestamp.now
  return .ofNanos t.toNanosecondsSinceUnixEpoch.val.toNat

/-- Write the log to its file. -/
def keep (a : Arguments) (lines : List String) (time : Timestamp) : IO Unit := do
  match a.logDir, logStem? a with
  | some dir, some stem =>
    IO.FS.createDirAll dir
    let file ← IO.FS.Handle.mk (stem ++ (time.stamp.take 10).toString) .append
    for line in lines do file.putStrLn line
  | _, _ => return

end HomeEnergy.Service

open HomeEnergy in
def main (line : List String) : IO UInt32 := do
  let environment ← Service.environment
  let a := Arguments.read line environment
  let known := match a with
    | .ok a => a
    | .error _ => {}
  let r := Service.report a (← Service.content? known.config) environment
    fun _ => ([], .error "no transport to devices is built in")
  for text in r.answer do IO.println text
  if let .error f := a then
    if !f.isAnswer then IO.eprintln ("error: " ++ f.name)
  let time ← Service.now
  for entry in r.lines do IO.println (entry.line time known.jsonLogs !known.noColor)
  if r.isLogged then Service.keep known (r.lines.map (·.line time known.jsonLogs false)) time
  if let some complaint := r.complaint then IO.eprintln complaint
  return r.exit.toUInt32
