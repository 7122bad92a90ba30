import BlockScript.Script.Expression
import BlockScript.Script.Hat
import BlockScript.Script.Settings

/-!
# Statements

What the statements of a program make in a workspace. A statement list becomes a list of steps,
`Build.sequence` carries them out one after the other, and `Build.substack` does so inside a block
of its own. A class is a sprite: its methods are scripts or procedures.
-/

namespace BlockScript

namespace Build

def sequence (steps : List (Build Unit)) : Build Unit := steps.forM id

/-- Steps one after the other, noting the first block that the script gets; that block hangs under
the given one. -/
def substackFrom (parent : Id) (first : Option Id) : List (Build Unit) → Build (Option Id)
  | [] => pure first
  | step :: rest => do
    step
    match first, (← get).previous with
    | none, some id =>
      setParent (some id) parent
      substackFrom parent (some id) rest
    | _, _ => substackFrom parent first rest

/-- Carries out the body of a block as a script of its own, and gives its first block. -/
def substack (parent : Id) (steps : List (Build Unit)) : Build (Option Id) := do
  let saved := (← get).previous
  setPrevious none
  let first ← substackFrom parent none steps
  setPrevious saved
  pure first

def plugBody (id : Id) (input : String) (steps : List (Build Unit)) : Build Unit := do
  match ← substack id steps with
  | some first => setInput id input (.block first)
  | none => pure ()

/-! ### Assignments -/

/-- The first value of a variable that is assigned: a number or a text if that is what is assigned,
else zero. -/
def initialOf : Operand → Value
  | .value (.str s) => .str s
  | .value v => if v.isNumber then v else .int 0
  | _ => .int 0

/-- Sets a variable. -/
def assign (name : String) (value : Meaning) : Build Unit := do
  let o ← value.operand
  let variableId ← variableNamed name (initialOf o)
  let id ← statement "data_setvariableto"
  let i ← plug o (some id)
  setInputs id [("VALUE", i)]
  update id fun b => { b with fields := [("VARIABLE", .named name variableId)] }

/-- What a variable changes by when an operand is taken away: a number is negated, a block is taken
from zero, anything else is left as it is. -/
def plugNegated (id : Id) : Operand → Build Input
  | .block b => do
    let difference ← reporter "operator_subtract"
    setInput difference "NUM1" (.literal (.number "0"))
    setInput difference "NUM2" (.reporter b coveredNumber)
    setParent b difference
    pure (.reporter (some difference) coveredNumber)
  | .value v => plug (.value (v.negated?.getD v)) (some id)
  | o => plug o (some id)

/-- Changes a variable. Only sums and differences have a block. -/
def change (name : String) (op : Program.BinaryOp) (value : Meaning) : Build Unit := do
  let o ← value.operand
  let variableId ← variableNamed name (.int 0)
  let finish (id : Id) (i : Input) : Build Unit := do
    setInputs id [("VALUE", i)]
    update id fun b => { b with fields := [("VARIABLE", .named name variableId)] }
  match op with
  | .add =>
    let id ← statement "data_changevariableby"
    let i ← plug o (some id)
    finish id i
  | .sub =>
    let id ← statement "data_changevariableby"
    let i ← plugNegated id o
    finish id i
  | _ => pure ()

/-! ### Loops and branches -/

def repeatLoop (times : Build Operand) (body : List (Build Unit)) : Build Unit := do
  let o ← times
  let i ← plug o none
  let id ← create "control_repeat" .stack [("TIMES", i)]
  plugBody id "SUBSTACK" body
  setPrevious (some id)

/-- A loop without an end. Nothing can follow it. -/
def foreverLoop (body : List (Build Unit)) : Build Unit := do
  let id ← statement "control_forever"
  plugBody id "SUBSTACK" body
  setPrevious none

def conditionLoop (test : Meaning) (body : List (Build Unit)) : Build Unit := do
  let id ← statement "control_repeat_until"
  let condition ← test.condition
  plugCondition id "CONDITION" condition
  plugBody id "SUBSTACK" body
  setPrevious (some id)

/-- A branch, with or without an alternative. -/
def branch (test : Meaning) (body orelse : List (Build Unit)) : Build Unit := do
  let condition ← test.condition
  let id ← statement "control_if"
  plugCondition id "CONDITION" condition
  plugBody id "SUBSTACK" body
  if orelse.isEmpty then pure ()
  else
    update id fun b => { b with opcode := "control_if_else" }
    plugBody id "SUBSTACK2" orelse
  setPrevious (some id)

/-! ### Procedures -/

/-- The identifiers of some arguments. -/
def freshFor : List String → Build (List Id)
  | [] => pure []
  | _ :: rest => do
    let id ← fresh
    let ids ← freshFor rest
    pure (id :: ids)

def procedureName (method : String) : String := Text.replace method "define_" ""

def argumentNames (params : Program.Params) : List String := params.names.filter (· != "self")

/-- Announces a procedure, so that it can be called before it is compiled. -/
def announce (method : String) (params : Program.Params) : Build Unit := do
  let name := procedureName method
  let names := argumentNames params
  let ids ← freshFor names
  modify fun w =>
    { w with
      procedures := w.procedures.set name
        { proccode := Procedure.codeOf name names, argumentIds := ids, argumentNames := names } }

/-- The header of a procedure: as announced, else made from the parameters of its method. -/
def procedureHeader (method : String) (params : Program.Params) : Build Procedure := do
  let name := procedureName method
  let make : Build Procedure := do
    let names := argumentNames params
    let ids ← freshFor names
    pure { proccode := Procedure.codeOf name names, argumentIds := ids, argumentNames := names }
  match (← get).procedures.find? name with
  | some p => if p.definition.isNone then pure p else make
  | none => make

def prototypeInputs (prototype : Id) : List (String × Id) → Build (Table Input)
  | [] => pure []
  | (name, argumentId) :: rest => do
    let id ← fresh
    put id
      { opcode := "argument_reporter_string_number"
        parent := some prototype
        fields := [("VALUE", .word name)]
        shadow := true }
    let inputs ← prototypeInputs prototype rest
    pure ((argumentId, .menu id) :: inputs)

/-- Defines a procedure: its definition, its prototype with the parameters, and its script. -/
def define (method : String) (params : Program.Params) (body : List (Build Unit)) :
    Build Unit := do
  let p ← procedureHeader method params
  let definition ← fresh
  let prototype ← fresh
  let inputs ← prototypeInputs prototype (p.argumentNames.zip p.argumentIds)
  put prototype
    { opcode := "procedures_prototype"
      parent := some definition
      inputs
      shadow := true
      mutation := some
        { proccode := p.proccode
          argumentIds := p.argumentIds
          argumentNames := some p.argumentNames } }
  let count := (← get).procedures.length
  put definition
    { opcode := "procedures_definition"
      inputs := [("custom_block", .menu prototype)]
      topLevel := true
      position := some (0, Int.ofNat count * 200) }
  modify fun w =>
    { w with
      procedures :=
        w.procedures.set (procedureName method)
          { p with definition := some (definition, prototype) }
      hat := some definition
      previous := some definition
      arguments := p.argumentNames }
  sequence body
  modify fun w => { w with arguments := [] }
  endScript

/-! ### Sprites -/

def script (hat : Hat) (body : List (Build Unit)) : Build Unit := do
  startScript hat
  sequence body
  endScript

/-- Whether a method is a procedure: it is neither an event nor internal. -/
def isProcedure (method : String) : Bool :=
  (Text.after? "when_" method).isNone && (Text.after? "__" method).isNone

def method (name : String) (params : Program.Params) (body : List (Build Unit)) : Build Unit :=
  match Hat.ofName? name with
  | some hat => script hat body
  | none => if isProcedure name then define name params body else pure ()

/-- Announces the procedures among the members of a class. -/
def announceAll : List Program.Stmt → Build Unit
  | [] => pure ()
  | .functionDef name params _ _ :: rest => do
    if isProcedure name then announce name params
    announceAll rest
  | _ :: rest => announceAll rest

/-- A sprite: its procedures are announced, then its methods compiled, in a workspace of its own.
The lists of the sprite and the sounds it uses are not put back. -/
def sprite (name : String) (settings : Option SpriteSettings) (members : List Program.Stmt)
    (methods : List (Build Unit)) : Build Unit := do
  let saved ← get
  set { saved with
    blocks := []
    vars := []
    scopes := saved.scopes ++ [[]]
    procedures := []
    arguments := []
    soundsUsed := []
    previous := none
    hat := none }
  announceAll members
  sequence methods
  modify fun w =>
    let draft : Draft :=
      { name
        blocks := w.blocks
        vars := w.vars
        scope := w.scope
        broadcasts := w.broadcasts
        soundsUsed := w.soundsUsed
        settings }
    { w with
      blocks := saved.blocks
      vars := saved.vars
      previous := saved.previous
      hat := saved.hat
      procedures := saved.procedures
      drafts := w.drafts ++ [draft] }

end Build

namespace Program

open Build

/-- The count of a loop: the first argument of `range`, else ten. -/
def Expr.times : Expr → Build Operand
  | .call (.name "range") (count :: _) _ => count.meaning.operand
  | _ => pure (.value (.int 10))

mutual

/-- What a statement makes. -/
def Stmt.visit : Stmt → Build Unit
  | .expr e => e.meaning.effect
  | .assign targets value =>
    match targets with
    | .name n :: _ => Build.assign n value.meaning
    | _ => pure ()
  | .augAssign target op value =>
    match target with
    | .name n => change n op value.meaning
    | _ => pure ()
  | .forLoop _ iter body _ => repeatLoop iter.times (visits body)
  | .whileLoop test body _ =>
    match test with
    | .const (.bool true) => foreverLoop (visits body)
    | _ => conditionLoop test.meaning (visits body)
  | .conditional test body orelse => branch test.meaning (visits body) (visits orelse)
  | .functionDef name params body trailer =>
    if Hat.isNumbered "when_flag_clicked" name then script .flag (visits body)
    else do
      (meanings params.parts).forM (·.effect)
      sequence (visits body)
      (meanings trailer).forM (·.effect)
  | .classDef name decorators body =>
    sprite name (spriteSettings? decorators) body (methods body)
  | .other parts => sequence (visitParts parts)
termination_by structural s => s

/-- What each of several statements makes. -/
def visits : List Stmt → List (Build Unit)
  | [] => []
  | s :: rest => s.visit :: visits rest
termination_by structural ss => ss

/-- What a member of a class makes: only functions count. -/
def Stmt.visitMember : Stmt → Build Unit
  | .functionDef name params body _ => Build.method name params (visits body)
  | _ => pure ()
termination_by structural s => s

/-- What each member of a class makes. -/
def methods : List Stmt → List (Build Unit)
  | [] => []
  | s :: rest => s.visitMember :: methods rest
termination_by structural ss => ss

def Part.visit : Part → Build Unit
  | .expr e => e.meaning.effect
  | .stmt s => s.visit
termination_by structural p => p

def visitParts : List Part → List (Build Unit)
  | [] => []
  | p :: rest => p.visit :: visitParts rest
termination_by structural ps => ps

end

end Program

end BlockScript
