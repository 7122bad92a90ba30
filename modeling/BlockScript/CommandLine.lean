import BlockScript.CommandLine.Arguments
import BlockScript.CommandLine.Reference
import BlockScript.Project.Convert

/-!
# Commands

What can be asked for on a command line: to compile a program, to print a project file as a program,
to do one after the other, to show the reference of blocks, or to tell what is in a project file.
-/

namespace BlockScript

/-- What is asked for. -/
inductive CommandLine where
  | compile (input : String) (output : Option String)
  | print (input : String) (output : Option String)
  | roundTrip (input : String) (output program : Option String)
  | showBlocks (chapter : Option String)
  | inform (input : String)

namespace CommandLine

open Arguments (Options Refusal)

/-! ### Reading a command line -/

def helpOptions : Options := [("-h", .help), ("--help", .help)]

def named (name : String) (args : List String) : Except Refusal CommandLine := do
  match name with
  | "py2sb3" =>
    match ← Arguments.parse helpOptions [false, true] args with
    | (some input :: output :: _, _) => .ok (.compile input output)
    | _ => .error .misuse
  | "sb32py" =>
    match ← Arguments.parse helpOptions [false, true] args with
    | (some input :: output :: _, _) => .ok (.print input output)
    | _ => .error .misuse
  | "roundtrip" =>
    match ← Arguments.parse (helpOptions ++ [("--py", .value)]) [false, true] args with
    | (some input :: output :: _, program) => .ok (.roundTrip input output program)
    | _ => .error .misuse
  | "blocks" =>
    match ← Arguments.parse helpOptions [true] args with
    | (chapter :: _, _) => .ok (.showBlocks chapter)
    | _ => .error .misuse
  | "info" =>
    match ← Arguments.parse helpOptions [false] args with
    | (some input :: _, _) => .ok (.inform input)
    | _ => .error .misuse
  | _ => .error .misuse

/-- The command on a command line. A line without a command asks for help; `leftOver` says whether
an option was met that does not exist. -/
def parseFrom (leftOver : Bool) : List String → Except Refusal CommandLine
  | [] => .error (if leftOver then .misuse else .help)
  | s :: rest =>
    if s = "--" then .error .misuse
    else do
      match ← Arguments.markOf helpOptions s with
      | .option name _ joined => .error (Arguments.askForHelp helpOptions name joined)
      | .unknown => parseFrom true rest
      | _ =>
        let c ← named s rest
        if leftOver then .error .misuse else .ok c

def parse (args : List String) : Except Refusal CommandLine := parseFrom false args

/-! ### Following commands -/

/-- A text that is there and not empty. -/
def filled? : Option String → Option String
  | some s => if s.isEmpty then none else some s
  | none => none

def runCompile (r : Resources) (input : String) (output : Option String) : Action Unit := do
  let path := Path.ofText input
  let out ← match filled? output with
    | some o => pure o
    | none => Action.lift ((path.withExtension ".sb3").map (·.text))
  let here ← Action.workingDirectory
  let base := (Path.resolve (Path.ofText here) path.parent).text
  Action.print ("Converting: " ++ path.text ++ " -> " ++ out)
  ProjectFile.compileFile (some r) path.text out base

def countSprites : List Value → Except Fault Nat
  | [] => .ok 0
  | t :: rest => do
    let stage ← t.get "isStage"
    let n ← countSprites rest
    .ok (if stage.truthy then n else n + 1)

def targetLine (t : Value) : Except Fault String := do
  let name ← t.key "name"
  let stage ← t.getD "isStage" (.bool false)
  let costumes ← (← t.getD "costumes" (.list [])).size
  let sounds ← (← t.getD "sounds" (.list [])).size
  let blocks ← (← t.getD "blocks" (.dict [])).size
  let text ← name.text
  .ok ("  " ++ (if stage.truthy then "[Stage]" else "[Sprite]") ++ " " ++ text ++ ": " ++
    toString costumes ++ " costumes, " ++ toString sounds ++ " sounds, " ++ toString blocks ++
    " blocks")

/-- Tells what is in a project file. -/
def runInform (input : String) : Action Unit := do
  let project ← ProjectFile.project input
  Action.print ("File: " ++ input)
  let targets ← Action.lift (do
    let v ← project.key "targets"
    v.iterate)
  let count ← Action.lift (countSprites targets)
  Action.print ("Sprites: " ++ toString count)
  let _ ← Action.each (fun t => do
    let line ← Action.lift (targetLine t)
    Action.print line) targets
  pure ()

/-- Does what is asked for. -/
def run (r : Resources) : CommandLine → Action Unit
  | compile input output => runCompile r input output
  | print input output => do
    let _ ← ProjectFile.convert input output
    pure ()
  | roundTrip input output program => do
    let _ ← ProjectFile.roundTrip (some r) input output (filled? program)
    pure ()
  | showBlocks chapter => do
    let _ ← Action.each Action.print (Reference.shownLines (filled? chapter))
    pure ()
  | inform input => runInform input

/-! ### The end of a command -/

/-- How a command ends: the code it exits with, if it exits before its end, and what it complains
of. -/
structure Outcome where
  exit : Option Nat
  complaint : String

def complaintOf (e : Fault) : String :=
  match e with
  | .missingFile _ | .missingAsset _ _ => "Error: File not found - " ++ e.message
  | _ => "Error: " ++ e.message

def follow (r : Resources) (args : List String) : Action Outcome := do
  match parse args with
  | .error .help => pure ⟨some 0, ""⟩
  | .error .misuse => pure ⟨some 2, ""⟩
  | .ok c =>
    match ← Action.attempt (c.run r) with
    | .error e => pure ⟨some 1, complaintOf e⟩
    | .ok () =>
      match c with
      | .showBlocks _ => pure ⟨some 0, ""⟩
      | _ => pure ⟨none, ""⟩

end CommandLine

end BlockScript
