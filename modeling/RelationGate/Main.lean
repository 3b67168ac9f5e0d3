import RelationGate.Daemon.Service
import Std.Time.DateTime.Timestamp

/-!
# The command line

Reads the files that the daemon asks for, writes what it reports, and, if it goes on to listen,
answers the calls on standard input, one a line, until the input ends.
-/

namespace RelationGate

open Daemon

/-- Reads a file. -/
def readFile (path : String) : IO (Except FileFault (List UInt8)) := do
  try
    return .ok (← IO.FS.readBinFile path).toList
  catch
    | .noFileOrDirectory .. => return .error .notFound
    | .permissionDenied .. => return .error .denied
    | _ => return .error .isDirectory

/-- Reads some files. -/
def readFiles (paths : List String) : IO Files := do
  let found ← paths.mapM fun path => return (path, ← readFile path)
  return fun path => (found.lookup path).getD (.error .notFound)

/-- Reads the files that a start needs. -/
def filesFor (a : Arguments) : IO Files := do
  readFiles (a.paths (← readFiles [a.configPath]))

/-- The moment and the random bits with which a daemon begins. -/
def newOrigin : IO Origin := do
  let now ← Std.Time.Timestamp.now
  return { moment := now.toMillisecondsSinceUnixEpoch.val.toNat, random := ← IO.rand 0 (Uuid.randomBound - 1) }

/-- Answers the lines of the standard input. -/
partial def serveLines (s : Service) (w : World) : IO Unit := do
  let line ← (← IO.getStdin).getLine
  if line.isEmpty then return
  let (lines, w) := s.answer w line
  lines.forM IO.println
  (← IO.getStdout).flush
  serveLines s w

/-- Writes what is seen of a start; gives the status if the program ends with it. -/
def write (r : Report) : IO (Option UInt32) := do
  r.output.forM IO.println
  IO.eprint r.errors
  return r.status.map UInt32.ofNat

end RelationGate

open RelationGate Daemon in
/-- Runs the daemon. -/
def main (arguments : List String) : IO UInt32 := do
  match Command.ofArguments arguments with
  | .ok (.run a) =>
    let startup := start (← filesFor a) a
    let status ← write startup.report
    match startup.outcome with
    | .error _ => return status.getD 1
    | .ok service =>
      serveLines service (service.world (← newOrigin))
      service.closing.forM IO.println
      return 0
  | _ => return (← write (report (fun _ => .error .notFound) arguments)).getD 2
