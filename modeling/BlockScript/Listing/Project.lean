import BlockScript.Listing.Script

/-!
# Listings of projects

A project reads as a program: the variables and lists of the stage, then a class for every sprite
with its variables, its lists, and a method for every script that an event or a procedure starts.

A `Printer` remembers the procedures of the sprite it wrote last. They are noted one by one while a
sprite is read, so they remain if the sprite turns out to be malformed.
-/

namespace BlockScript

/-- A procedure as it is noted: its name, the names of its arguments and its definition. -/
structure NotedProcedure where
  name : String
  argumentNames : Value
  definition : String

/-- What remains of writing a listing. -/
structure Printer where
  procedures : Table NotedProcedure := []
  /-- Whether a method was written. -/
  begun : Bool := false

namespace Listing

/-- A step of writing a listing. -/
abbrev Print := ExceptT Fault (StateM Printer)

def Print.lift {α : Type} : Except Fault α → Print α
  | .ok a => pure a
  | .error e => throw e

/-- What a step gives, and the printer after it. -/
def Print.run {α : Type} (p : Print α) (s : Printer) : Except Fault α × Printer :=
  StateT.run (ExceptT.run p) s

/-! ### Procedures -/

def prototypeMutation? (blocks definition : Value) : Except Fault (Option Value) := do
  let inputs ← definition.getD "inputs" (.dict [])
  let data ← inputs.getD "custom_block" (.list [])
  if (← data.size) < 2 then .ok none
  else
    let id ← data.nth 1
    let prototype ← blockOf blocks id
    let mutation ← prototype.getD "mutation" (.dict [])
    .ok (some mutation)

def noteProcedure (blocks : Value) (id : String) (block : Value) : Print Unit := do
  let opcode ← Print.lift (block.get "opcode")
  match opcode with
  | .str "procedures_definition" =>
    match ← Print.lift (prototypeMutation? blocks block) with
    | none => pure ()
    | some mutation =>
      let words ← Print.lift (procedureWords mutation)
      match words with
      | [] => pure ()
      | name :: _ =>
        let code ← Print.lift (mutation.getD "proccode" (.str ""))
        let names ← Print.lift (mutation.getD "argumentnames" (.str "[]"))
        modify fun s =>
          { s with
            procedures := s.procedures.set (code.string?.getD "")
              { name, argumentNames := jsonList names, definition := id } }
  | _ => pure ()

/-! ### Methods -/

def hatOpcodes : List String :=
  ["event_whenflagclicked", "event_whenkeypressed", "event_whenthisspriteclicked",
    "event_whenbackdropswitchesto", "event_whengreaterthan", "event_whenbroadcastreceived",
    "control_start_as_clone", "procedures_definition"]

def isHat (block : Value) : Except Fault Bool :=
  match block with
  | .dict _ => do
    let top ← block.get "topLevel"
    if top.truthy then
      let opcode ← block.get "opcode"
      match opcode with
      | .str s => .ok (hatOpcodes.contains s)
      | v =>
        if v.hashable then .ok false
        else .error (.wrongType ("unhashable type: '" ++ v.typeName ++ "'"))
    else .ok false
  | _ => .ok false

def hats (blocks : Value) : Except Fault (List String) := do
  let es ← blocks.entries
  let ids ← es.mapM fun (id, b) => do
    let hat ← isHat b
    .ok (if hat then some id else none)
  .ok (ids.filterMap id)

def keyText (key : String) : String :=
  Text.replace (Text.replace (Text.lower key) " arrow" "") " " "_"

/-- The name of the method for a script; it is empty for events without a method. -/
def methodName (blocks hat : Value) : Except Fault String := do
  let opcode ← hat.getD "opcode" (.str "")
  let fields ← hat.getD "fields" (.dict [])
  match opcode with
  | .str "event_whenflagclicked" => .ok "when_flag_clicked"
  | .str "event_whenkeypressed" =>
    let key ← fieldText fields (.str "KEY_OPTION")
    .ok ("when_key_" ++ keyText key)
  | .str "event_whenthisspriteclicked" => .ok "when_clicked"
  | .str "event_whenbroadcastreceived" =>
    let message ← fieldText fields (.str "BROADCAST_OPTION")
    .ok ("when_broadcast_" ++ identifier message)
  | .str "control_start_as_clone" => .ok "when_i_start_as_clone"
  | .str "procedures_definition" =>
    match ← prototypeMutation? blocks hat with
    | none => .ok "define_custom"
    | some mutation =>
      match ← procedureWords mutation with
      | [] => .ok "define_custom"
      | name :: _ => .ok ("define_" ++ name)
  | _ => .ok ""

/-- The parameters of the method for a script, as the project has them. -/
def methodParams (blocks hat : Value) : Except Fault Value := do
  let opcode ← hat.getD "opcode" (.str "")
  match opcode with
  | .str "procedures_definition" =>
    match ← prototypeMutation? blocks hat with
    | none => .ok (.list [])
    | some mutation =>
      let names ← mutation.getD "argumentnames" (.str "[]")
      .ok (jsonList names)
  | _ => .ok (.list [])

def textsFrom (position : Nat) : List Value → Except Fault (List String)
  | [] => .ok []
  | .str s :: rest => do
    let ts ← textsFrom (position + 1) rest
    .ok (s :: ts)
  | v :: _ =>
    .error (.wrongType ("sequence item " ++ toString position ++ ": expected str instance, " ++
      v.typeName ++ " found"))

def joinTexts (v : Value) : Except Fault String :=
  match v.iterate with
  | .ok items => do
    let ts ← textsFrom 0 items
    .ok (String.intercalate ", " ts)
  | .error _ => .error (.wrongType "can only join an iterable")

/-- A script as a method; it is empty if its event has no method. -/
def script (blocks hatId : Value) : Print String := do
  let hat ← Print.lift (blockOf blocks hatId)
  let name ← Print.lift (methodName blocks hat)
  if name.isEmpty then pure ""
  else
    let params ← Print.lift (methodParams blocks hat)
    modify fun s => { s with begun := true }
    let header ← Print.lift (do
      if params.truthy then
        let names ← joinTexts params
        .ok ("    def " ++ name ++ "(self, " ++ names ++ "):")
      else .ok ("    def " ++ name ++ "(self):"))
    let next ← Print.lift (hat.get "next")
    let body ← Print.lift (if next.truthy then chain blocks next 2 else .ok [])
    let body := if body.isEmpty then ["        pass"] else body
    pure (String.intercalate "\n" (header :: body))

/-! ### Sprites and projects -/

/-- Lines for variables or lists, each with its name and a text for its value. -/
def declarations (pad : String) (show? : Value → Except Fault String) (v : Value) :
    Except Fault (List String) := do
  let es ← v.entries
  let lines ← es.mapM fun (_, data) =>
    match data.pair? with
    | some (name, value) => do
      let n ← identifierOf name
      let t ← show? value
      .ok (some (pad ++ n ++ " = " ++ t))
    | none => .ok none
  .ok (lines.filterMap id)

def declarationsIfAny (pad : String) (show? : Value → Except Fault String) (v : Value) :
    Except Fault (List String) :=
  if v.truthy then declarations pad show? v else .ok []

/-- The methods of a sprite. -/
def scripts (blocks : Value) : List String → Print (List String)
  | [] => pure []
  | id :: rest => do
    let t ← script blocks (.str id)
    let ts ← scripts blocks rest
    pure (if t.isEmpty then ts else t :: ts)

def sprite (target : Value) : Print String := do
  let name ← Print.lift (target.getD "name" (.str "Sprite"))
  let className ← Print.lift (identifierOf name)
  let blocks ← Print.lift (target.getD "blocks" (.dict []))
  let vars ← Print.lift (target.getD "variables" (.dict []))
  let lists ← Print.lift (target.getD "lists" (.dict []))
  modify fun s => { s with procedures := [] }
  let es ← Print.lift blocks.entries
  es.forM fun (id, b) => noteProcedure blocks id b
  let vs ← Print.lift (declarationsIfAny "    " valueText vars)
  let ls ← Print.lift (declarationsIfAny "    " Value.text lists)
  let gap := if vars.truthy || lists.truthy then [""] else []
  let hatIds ← Print.lift (hats blocks)
  let methods ← if hatIds.isEmpty then pure ["    pass"] else scripts blocks hatIds
  pure (String.intercalate "\n" (("class " ++ className ++ ":") :: vs ++ ls ++ gap ++ methods))

def isStage (target : Value) : Except Fault Bool := do
  let v ← target.get "isStage"
  .ok v.truthy

/-- The first stage among some targets. -/
def stage? : List Value → Except Fault (Option Value)
  | [] => .ok none
  | t :: rest => do
    if ← isStage t then .ok (some t) else stage? rest

/-- Lines for what belongs to all sprites, with a heading and a blank line. -/
def globals (heading : String) (show? : Value → Except Fault String) (v : Value) :
    Except Fault (List String) :=
  if v.truthy then do
    let lines ← declarations "" show? v
    .ok (heading :: lines ++ [""])
  else .ok []

/-- The classes of the sprites, each followed by a blank line. -/
def sprites : List Value → Print (List String)
  | [] => pure []
  | t :: rest => do
    if ← Print.lift (isStage t) then sprites rest
    else
      let text ← sprite t
      let more ← sprites rest
      pure (text :: "" :: more)

/-- The first lines of every listing. -/
def heading : List String :=
  ["\"\"\"", "Scratch project converted to Python", "\"\"\"", "", "from scratch.dsl import *", ""]

def project (p : Value) : Print String := do
  let targets ← Print.lift (p.getD "targets" (.list []))
  let ts ← Print.lift targets.iterate
  let global ← Print.lift (do
    match ← stage? ts with
    | none => .ok []
    | some stage =>
      let vars ← stage.getD "variables" (.dict [])
      let lists ← stage.getD "lists" (.dict [])
      let vs ← globals "# Global variables" valueText vars
      let ls ← globals "# Global lists" Value.text lists
      .ok (vs ++ ls))
  let classes ← sprites ts
  pure (String.intercalate "\n" (heading ++ global ++ classes))

end Listing

def Listing.ofProject (p : Value) : Except Fault String := ((Listing.project p).run {}).1

end BlockScript
