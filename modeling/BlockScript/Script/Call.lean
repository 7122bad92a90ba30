import BlockScript.Block.Vocabulary
import BlockScript.Script.Operand

/-!
# Calls

What a call makes. The arguments are given by their meanings, so that a command decides itself
which arguments it evaluates, in which order, and whether as operands or as a condition.
`Command.perform` does this for the commands of the vocabulary; `Build.call` also knows the
procedures of the sprite and their arguments. Both give the block of a command that has a value.
-/

namespace BlockScript

/-- What an expression means in each of its roles. -/
structure Meaning where
  /-- The expression as an argument. -/
  operand : Build Operand
  /-- The block of the expression as a condition, if it makes one. -/
  condition : Build (Option Id)
  /-- The expression as a statement of its own. -/
  effect : Build Unit

namespace Build

/-- Evaluates and plugs arguments in turn, as long as there are both inputs and arguments. -/
def plugInTurn (parent : Id) : List String → List Meaning → Build (Table Input)
  | name :: names, arg :: args => do
    let o ← arg.operand
    let i ← plug o (some parent)
    let inputs ← plugInTurn parent names args
    pure ((name, i) :: inputs)
  | _, _ => pure []

/-- Plugs a condition, if there is one, into an input of a block. -/
def plugCondition (id : Id) (input : String) (condition : Option Id) : Build Unit :=
  match condition with
  | some c => do
    setInput id input (.block c)
    setParent (some c) id
  | none => pure ()

def setChoice (id : Id) : Option (String × String) → Build Unit
  | some (field, value) => setField id field (.word value)
  | none => pure ()

def plugMenu (id : Id) (input opcode text : String) : Build Unit := do
  let menuId ← menu opcode input (.str text) (some id)
  setInput id input (.menu menuId)

def setColors (id : Id) : List (String × Operand) → Build Unit
  | [] => pure ()
  | (input, o) :: rest => do
    let t ← lift o.text
    setInput id input (.literal (.color t))
    setColors id rest

end Build

namespace Command

open Build

/-- A statement with a menu. A block or a variable takes the place of the menu. -/
def performTarget (opcode input menuOpcode : String) (kind : TargetKind) (args : List Meaning) :
    Build Unit := do
  let id ← statement opcode
  match args with
  | [] => pure ()
  | arg :: _ =>
    match ← arg.operand with
    | .block b =>
      setParent b id
      setInput id input (.reporter b (.text ""))
    | .name n =>
      let variableId ← Build.variableNamed n (.int 0)
      setInput id input (.embedded (.variableName n variableId) (.text ""))
    | .value v =>
      match v, kind with
      | .str s, .place => plugMenu id input menuOpcode (placeName s)
      | .str s, .sound =>
        useSound s
        plugMenu id input menuOpcode s
      | v, _ =>
        let t ← lift v.text
        plugMenu id input menuOpcode t

/-- Gliding to a place: the time, then the place. -/
def performGlide (opcode time input menuOpcode : String) (args : List Meaning) : Build Unit := do
  let id ← statement opcode
  match args with
  | [] => pure ()
  | secs :: rest =>
    let o ← secs.operand
    let i ← plug o (some id)
    setInput id time i
    match rest with
    | [] => pure ()
    | place :: _ =>
      let o ← place.operand
      let t ← match o.string? with
        | some s => pure (placeName s)
        | none => lift o.text
      plugMenu id input menuOpcode t

/-- A choice written in capitals, then an input. -/
def performAdjustment (opcode field input : String) (args : List Meaning) : Build Unit := do
  let id ← statement opcode
  match args with
  | [] => pure ()
  | choice :: rest =>
    let o ← choice.operand
    let value := match o.string? with
      | some s => .str (Text.upper s)
      | none => o.toValue
    setField id field { value }
    match rest with
    | [] => pure ()
    | amount :: _ =>
      let o ← amount.operand
      let i ← plug o (some id)
      setInputs id [(input, i)]

/-- A random number; with one limit the other is one. -/
def performRandom (args : List Meaning) : Build (Option Id) := do
  let id ← Build.reporter "operator_random"
  match args with
  | [] => pure ()
  | [limit] =>
    let i ← plug (.value (.int 1)) (some id)
    let o ← limit.operand
    let j ← plug o (some id)
    setInputs id [("FROM", i), ("TO", j)]
  | low :: high :: _ =>
    let a ← low.operand
    let b ← high.operand
    let inputs ← plugAll id [("FROM", a), ("TO", b)]
    setInputs id inputs
  pure (some id)

/-- A block that works on a list. Nothing is made unless the list is named by a constant. -/
def performList (opcode : String) (isReporter : Bool) (arity listArg : Nat)
    (inputs : List (String × Nat)) (args : List Meaning) : Build (Option Id) := do
  if args.length < arity then pure none
  else
    let os ← (args.take arity).mapM (·.operand)
    match os[listArg]?.bind Operand.string? with
    | none => pure none
    | some name =>
      let listId ← listNamed name (.list [])
      let id ← create opcode (if isReporter then .reporter else .stack) []
      let filled ← plugAll id (inputs.map fun (input, n) => (input, os[n]?.getD .zero))
      setInputs id filled
      setField id "LIST" (.named name listId)
      pure (if isReporter then some id else none)

/-- A property of another sprite: both have to be named, each by a constant. -/
def performProperty (args : List Meaning) : Build (Option Id) := do
  let id ← Build.reporter "sensing_of"
  match args with
  | property :: owner :: _ =>
    let p ← property.operand
    let o ← owner.operand
    match p.string? with
    | some s => setField id "PROPERTY" (.word s)
    | none => pure ()
    match o.string? with
    | some s =>
      let menuId ← menu "sensing_of_object_menu" "OBJECT" (.str s) (some id)
      setInput id "OBJECT" (.menu menuId)
    | none => pure ()
  | _ => pure ()
  pure (some id)

def perform (args : List Meaning) : Command → Build (Option Id)
  | reporter opcode choice => do
    let id ← Build.reporter opcode
    setChoice id choice
    pure (some id)
  | action opcode inputs => do
    let id ← statement opcode
    let filled ← plugInTurn id inputs args
    setInputs id filled
    pure none
  | adjustment opcode field input => do
    performAdjustment opcode field input args
    pure none
  | target opcode input menuOpcode kind => do
    performTarget opcode input menuOpcode kind args
    pure none
  | glide opcode time input menuOpcode => do
    performGlide opcode time input menuOpcode args
    pure none
  | option opcode field => do
    let id ← statement opcode
    match args with
    | [] => pure ()
    | arg :: _ =>
      match (← arg.operand).string? with
      | some s => setField id field (.word s)
      | none => pure ()
    pure none
  | broadcast opcode => do
    match args with
    | [] => pure ()
    | arg :: _ =>
      match (← arg.operand).string? with
      | some message =>
        let messageId ← messageNamed message
        let id ← statement opcode
        setInput id "BROADCAST_INPUT" (.literal (.messageName message messageId))
      | none => pure ()
    pure none
  | sensor opcode input menuOpcode names ignoreCase => do
    let id ← Build.reporter opcode
    match args with
    | [] => pure ()
    | arg :: _ =>
      match (← arg.operand).string? with
      | some s =>
        let key := if ignoreCase then Text.lower s else s
        plugMenu id input menuOpcode ((names.find? key).getD s)
      | none => pure ()
    pure (some id)
  | colors opcode inputs => do
    let id ← Build.reporter opcode
    if args.length ≥ inputs.length then
      let os ← (args.take inputs.length).mapM (·.operand)
      setColors id (inputs.zip os)
    pure (some id)
  | random => performRandom args
  | operation opcode choice inputs => do
    let id ← Build.reporter opcode
    setChoice id choice
    if args.length ≥ inputs.length then
      let os ← (args.take inputs.length).mapM (·.operand)
      let filled ← plugAll id (inputs.zip os)
      setInputs id filled
    pure (some id)
  | list opcode isReporter arity listArg inputs =>
    performList opcode isReporter arity listArg inputs args
  | variableNamed opcode => do
    match args with
    | [] => pure ()
    | arg :: _ =>
      match (← arg.operand).string? with
      | some name =>
        let variableId ← Build.variableNamed name (.int 0)
        let id ← statement opcode
        setField id "VARIABLE" (.named name variableId)
      | none => pure ()
    pure none
  | propertyOf => performProperty args
  | waitUntil => do
    let id ← statement "control_wait_until"
    match args with
    | [] => pure ()
    | arg :: _ =>
      let condition ← arg.condition
      plugCondition id "CONDITION" condition
    pure none

end Command

namespace Build

/-- A call of a procedure. Arguments beyond its parameters are dropped. -/
def callProcedure (p : Procedure) (args : List Operand) : Build Id := do
  let id ← statement "procedures_call"
  let inputs ← plugAll id (p.argumentIds.zip args)
  setInputs id inputs
  update id fun b =>
    { b with mutation := some { proccode := p.proccode, argumentIds := p.argumentIds } }
  pure id

/-- A block that reads an argument of the procedure at hand. -/
def argumentReporter (name : String) : Build Id := do
  let id ← fresh
  put id { opcode := "argument_reporter_string_number", fields := [("VALUE", .word name)] }
  pure id

/-- A call of a function by its name: a command, a procedure, or the name of an argument. Any other
name makes nothing. -/
def call (name : String) (args : List Meaning) : Build (Option Id) := do
  match Command.ofName? name with
  | some command => command.perform args
  | none =>
    let w ← get
    match w.procedures.find? name with
    | some p =>
      let os ← args.mapM (·.operand)
      let _ ← callProcedure p os
      pure none
    | none =>
      if w.arguments.contains name then
        let id ← argumentReporter name
        pure (some id)
      else pure none

end Build

end BlockScript
