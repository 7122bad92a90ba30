import BlockScript.Listing.Project
import BlockScript.Project.Assembly
import BlockScript.Project.File
import BlockScript.Project.Merge

/-!
# From programs to project files and back

The operations on whole files: a program becomes a project file next to it, a project file becomes a
program, and a project file goes through a program and back without losing its assets.
-/

namespace BlockScript

namespace ProjectFile

def beforeLastDot (path : String) : String :=
  let backwards := path.toList.reverse
  let tail := backwards.takeWhile (· != '.')
  if tail.length = backwards.length then path
  else String.ofList (backwards.drop (tail.length + 1)).reverse

def toProgram (path : String) : Action String := do
  let b ← description path
  Action.lift (do
    let v ← Json.readBytes b
    Listing.ofProject v)

/-- Writes the program for a project file, and returns its path. -/
def convert (path : String) (output : Option String) : Action String := do
  let out := output.getD (beforeLastDot path ++ ".py")
  let program ← toProgram path
  Action.writeText out program
  Action.print ("Converted: " ++ path ++ " -> " ++ out)
  pure out

/-- Turns a project file into a program and back, and returns the path of the new project file. The
program is written too if a path for it is given. -/
def roundTrip (r : Option Resources) (path : String) (output program : Option String) :
    Action String := do
  let out := output.getD (beforeLastDot path ++ "_roundtrip.sb3")
  let code ← toProgram path
  match program with
  | some p =>
    Action.writeText p code
    Action.print ("  Intermediate: " ++ p)
  | none => pure ()
  let (assembly, _) ← Assembly.ofSource r .null 0 code
  let text ← Action.lift (assembly.text (.indented 2))
  let first ← project path
  let merged ← Action.lift (do
    let new ← Json.read text
    let merged ← Merge.merge first new
    Json.write .compact merged)
  save r merged out (some path) []
  Action.print ("Round-trip: " ++ path ++ " -> " ++ out)
  pure out

/-- Compiles a program in a file to a project file. Assets are looked for in the base directory. -/
def compileFile (r : Option Resources) (input output base : String) : Action Unit := do
  let code ← Action.readText input
  let (assembly, _) ← Assembly.ofSource r (.str base) 0 code
  let text ← Action.lift (assembly.text (.indented 2))
  save r text output none assembly.assets

/-- Compiles the program in a file to a project file with the same name, or with another one. -/
def compileBeside (r : Option Resources) (file output : Option String) : Action Unit := do
  match file with
  | none => throw .noSourceFile
  | some f =>
    let here ← Action.workingDirectory
    let path := Path.resolve (Path.ofText here) (Path.ofText f)
    let out ← match output with
      | some o => pure o
      | none => Action.lift ((path.withExtension ".sb3").map (·.text))
    compileFile r path.text out path.parent.text

end ProjectFile

end BlockScript
