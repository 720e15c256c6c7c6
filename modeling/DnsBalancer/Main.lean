import DnsBalancer.Balancer.Queries
import DnsBalancer.StartUp

/-!
# The command line

Starts up from a settings file, named by the first argument. What is wrong with the
start goes to the error stream; a start that succeeds shows the status of every backend.
-/
namespace DnsBalancer

/-- The content of one file. -/
def readOne (path : String) : IO (String × Except ReadFault ByteArray) := do
  try
    return (path, .ok (← IO.FS.readBinFile path))
  catch
    | .noFileOrDirectory .. => return (path, .error .missing)
    | _ => return (path, .error .isDirectory)

/-- The content of files, looked up by name. -/
def readAll (paths : List String) : IO ReadFile := do
  let contents ← paths.mapM readOne
  return fun path => (contents.lookup path).getD (.error .missing)

/-- Our own variables of the environment. -/
def readEnvironment : IO (List (String × String)) :=
  Settings.names.filterMapM fun name => do
    let full := Text.asciiUpper (Settings.mark ++ name)
    return (← IO.getEnv full).map (full, ·)

def refuse (fault : StartFault) : IO UInt32 := do
  IO.eprintln ("Error: " ++ fault.message)
  return 1

end DnsBalancer

open DnsBalancer in
def main (arguments : List String) : IO UInt32 := do
  let path := arguments.head?.getD Balancer.defaultSettings
  match Settings.load (← readAll [path]) path (← readEnvironment) with
  | .error fault => refuse fault
  | .ok settings =>
    match Balancer.ofSettings (← readAll settings.files) settings with
    | .error fault => refuse fault
    | .ok b =>
      for r in b.start.zones.allRecords do
        IO.println r.fqdn
        r.backends.forM fun x => IO.println ("  " ++ x.summary)
      return 0
