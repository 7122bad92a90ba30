import BlockScript.Catalog.Published
import BlockScript.CommandLine

/-!
# The command line

Here actions are answered by the real computer. The program does not reach the network itself: the
files of published assets come from the cache, a directory in the home of the user, and what is not
there is drawn by a stand-in or left out.
-/

namespace BlockScript

namespace Computer

/-- What is said of a file that cannot be read or written. -/
def faultOf (path : String) : IO.Error → Fault
  | .inappropriateType .. => .isDirectory (Value.quotedString path)
  | _ => .missingFile (Value.quotedString path)

/-- Does something with a file, and says what is wrong if it cannot be done. -/
def guarded {α : Type} (path : String) (act : IO α) : IO (Except Fault α) := do
  try
    let x ← act
    pure (.ok x)
  catch e => pure (.error (faultOf path e))

def answer : (r : Request) → IO r.Answer
  | .present path => do
    match ← guarded path (IO.FS.Handle.mk path .read) with
    | .ok _ => pure true
    | .error _ => pure false
  | .read path => guarded path do
    let b ← IO.FS.readBinFile path
    pure b.toList
  | .write path contents =>
    guarded path (IO.FS.writeBinFile path (ByteArray.mk contents.toArray))
  | .makeDirectory path => guarded path (IO.FS.createDirAll path)
  | .fetch _ => pure .broken
  | .pause seconds => IO.sleep (1000 * seconds).toUInt32
  | .print line => IO.println line
  | .workingDirectory => do
    let here ← IO.currentDir
    pure here.toString

def perform {α : Type} : Action α → IO (Except Fault α)
  | .done r => pure r
  | .ask request next => do
    let a ← answer request
    perform (next a)

/-- The published assets, with the cache in the home of the user. -/
def resources : IO Resources := do
  let home ← IO.getEnv "HOME"
  pure { catalog := Catalog.published,
         cache := home.getD "." ++ "/.scratch_transpiler/asset_cache" }

end Computer

end BlockScript

open BlockScript in
/-- Follows the command line and ends with its exit code. -/
def main (args : List String) : IO UInt32 := do
  let r ← Computer.resources
  match ← Computer.perform (CommandLine.follow r args) with
  | .ok outcome =>
    unless outcome.complaint.isEmpty do IO.eprintln outcome.complaint
    pure (outcome.exit.getD 0).toUInt32
  | .error e =>
    IO.eprintln e.message
    pure 1
