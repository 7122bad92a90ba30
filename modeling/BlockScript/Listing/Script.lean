import BlockScript.Json.Read
import BlockScript.Listing.Name
import BlockScript.Listing.Phrase
import BlockScript.Text.Case

/-!
# Listings of scripts

The lines of a listing for a script of blocks. The blocks are data of a project file, so every step
can find something other than it expects.

`Listing.reporter` writes a block with a value as an expression and `Listing.chain` writes a block
and all that follow it as lines. Both follow references from block to block. On a project without
circles a path of references meets no block twice, so a bound of one more than the number of blocks
is never reached; on a circle it is, and the answer is a fault.
-/

namespace BlockScript

namespace Listing

/-- How the block of an identifier is written as an expression. -/
abbrev Plugged := String → Except Fault String

/-! ### Inputs and fields -/

/-- The second item of the list that fills an input. -/
def inputContent? (inputs name : Value) : Except Fault (Option Value) := do
  if ← inputs.contains name then
    let data ← inputs.item name
    .ok (data.pair?.map Prod.snd)
  else .ok none

def inputText (plugged : Plugged) (inputs name : Value) : Except Fault String := do
  match ← inputContent? inputs name with
  | none => .ok "0"
  | some (.str id) => plugged id
  | some (.list l) => literalText (.list l)
  | some v => v.text

def conditionText (plugged : Plugged) (inputs name : Value) : Except Fault String := do
  match ← inputContent? inputs name with
  | some (.str id) => plugged id
  | _ => .ok "True"

/-- The first block of a body. -/
def bodyId? (inputs name : Value) : Except Fault (Option String) := do
  match ← inputContent? inputs name with
  | some (.str id) => .ok (some id)
  | _ => .ok none

/-- What is chosen in a field; nothing is the empty text. -/
def fieldText (fields name : Value) : Except Fault String := do
  if ← fields.contains name then
    match ← fields.item name with
    | .list (v :: _) => v.text
    | _ => .ok ""
  else .ok ""

/-! ### Expressions -/

/-- What stands at a place of a call; a place can be left out. -/
def slotText (plugged : Plugged) (inputs fields : Value) : Slot → Except Fault (Option String)
  | .input name => do
    let t ← inputText plugged inputs (.str name)
    .ok (some t)
  | .inputOr name other => do
    let present ← inputs.contains (.str name)
    let t ← inputText plugged inputs (.str (if present then name else other))
    .ok (some t)
  | .condition name => do
    let t ← conditionText plugged inputs (.str name)
    .ok (some t)
  | .word field => do
    let t ← fieldText fields (.str field)
    .ok (some (between t))
  | .lowered field => do
    let t ← fieldText fields (.str field)
    .ok (some (between (Text.lower t)))
  | .wordIfAny field => do
    let t ← fieldText fields (.str field)
    .ok (if t.isEmpty then none else some (between t))

def callText (plugged : Plugged) (inputs fields : Value) (function : String) (slots : List Slot) :
    Except Fault String := do
  let args ← slots.mapM (slotText plugged inputs fields)
  .ok (function ++ "(" ++ String.intercalate ", " (args.filterMap id) ++ ")")

/-- The first of several fields that is not empty. -/
def firstField (fields : Value) : List String → Except Fault String
  | [] => .ok ""
  | [name] => fieldText fields (.str name)
  | name :: rest => do
    let t ← fieldText fields (.str name)
    if t.isEmpty then firstField fields rest else .ok t

def phraseText (plugged : Plugged) (inputs fields : Value) : Phrase → Except Fault String
  | .operator left symbol right bracketed => do
    let a ← inputText plugged inputs (.str left)
    let b ← inputText plugged inputs (.str right)
    let t := a ++ " " ++ symbol ++ " " ++ b
    .ok (if bracketed then "(" ++ t ++ ")" else t)
  | .negation input => do
    let a ← inputText plugged inputs (.str input)
    .ok ("not " ++ a)
  | .call function slots => callText plugged inputs fields function slots
  | .name field => do
    let t ← fieldText fields (.str field)
    .ok (identifier t)
  | .namedCall field names input => do
    let f ← fieldText fields (.str field)
    let a ← inputText plugged inputs (.str input)
    .ok ((names.find? f).getD f ++ "(" ++ a ++ ")")
  | .choice field names other => do
    let f ← fieldText fields (.str field)
    .ok ((names.find? f).getD other ++ "()")
  | .menu names values => do
    let t ← firstField fields names
    .ok (between ((values.find? t).getD t))

/-- The block of an identifier: an object without entries if there is none. -/
def blockOf (blocks id : Value) : Except Fault Value := blocks.lookupD id (.dict [])

/-- A block with a value as an expression. What is no object counts as zero, and an unknown block is
only named. -/
def reporterOf (plugged : Plugged) (block : Value) : Except Fault String :=
  match block with
  | .dict _ => do
    let opcode ← block.getD "opcode" (.str "")
    let inputs ← block.getD "inputs" (.dict [])
    let fields ← block.getD "fields" (.dict [])
    match opcode.string?.bind reporters.find? with
    | some p => phraseText plugged inputs fields p
    | none =>
      let t ← opcode.text
      .ok ("/* " ++ t ++ " */")
  | _ => .ok "0"

/-- The block of an identifier as an expression, following at most so many references. -/
def reporterWithin (blocks : Value) : Nat → Plugged
  | 0, _ => .error .endless
  | fuel + 1, id => do
    let block ← blockOf blocks (.str id)
    reporterOf (reporterWithin blocks fuel) block

def bound (blocks : Value) : Nat :=
  match blocks with
  | .dict es => es.length + 1
  | _ => 1

def reporter (blocks : Value) : Plugged := reporterWithin blocks (bound blocks)

/-! ### Lines -/

/-- The blanks before a line. -/
def margin (indent : Int) : String := String.ofList (List.replicate (4 * indent.toNat) ' ')

/-- How the script that starts with a block is written at an indentation. -/
abbrev Chained := Value → Int → Except Fault (List String)

def withBody (chained : Chained) (inputs : Value) (input header : String) (indent : Int) :
    Except Fault (List String) := do
  match ← bodyId? inputs (.str input) with
  | some id =>
    if id.isEmpty then .ok [margin indent ++ header, margin indent ++ "    pass"]
    else
      let body ← chained (.str id) (indent + 1)
      .ok ((margin indent ++ header) :: body)
  | none => .ok [margin indent ++ header, margin indent ++ "    pass"]

/-- Text that may be JSON; anything else counts as an empty list. -/
def jsonList (v : Value) : Value :=
  match v with
  | .str s =>
    match Json.read s with
    | .ok w => w
    | .error _ => .list []
  | _ => .list []

def procedureWords (mutation : Value) : Except Fault (List String) := do
  let code ← mutation.getD "proccode" (.str "")
  let t ← code.asText "split"
  .ok ((Text.words t.toList).map String.ofList)

def procedureArguments (plugged : Plugged) (inputs : Value) : List Value →
    Except Fault (List String)
  | [] => .ok []
  | id :: rest => do
    if ← inputs.contains id then
      let t ← inputText plugged inputs id
      let ts ← procedureArguments plugged inputs rest
      .ok (t :: ts)
    else procedureArguments plugged inputs rest

/-- A call of a procedure; it has no line if the procedure has no name. -/
def procedureCall (plugged : Plugged) (block inputs : Value) (indent : Int) :
    Except Fault (List String) := do
  let mutation ← block.getD "mutation" (.dict [])
  match ← procedureWords mutation with
  | [] => .ok []
  | name :: _ =>
    let idsText ← mutation.getD "argumentids" (.str "[]")
    let ids ← (jsonList idsText).iterate
    let args ← procedureArguments plugged inputs ids
    .ok [margin indent ++ name ++ "(" ++ String.intercalate ", " args ++ ")"]

def blockLines (plugged : Plugged) (chained : Chained) (block : Value) (indent : Int) :
    Except Fault (List String) := do
  let opcode ← block.getD "opcode" (.str "")
  let inputs ← block.getD "inputs" (.dict [])
  let fields ← block.getD "fields" (.dict [])
  let assignment (symbol : String) : Except Fault (List String) := do
    let name ← fieldText fields (.str "VARIABLE")
    let value ← inputText plugged inputs (.str "VALUE")
    .ok [margin indent ++ identifier name ++ " " ++ symbol ++ " " ++ value]
  match opcode with
  | .str "control_forever" => withBody chained inputs "SUBSTACK" "while True:" indent
  | .str "control_repeat" =>
    let times ← inputText plugged inputs (.str "TIMES")
    withBody chained inputs "SUBSTACK" ("for i in range(" ++ times ++ "):") indent
  | .str "control_repeat_until" =>
    let c ← conditionText plugged inputs (.str "CONDITION")
    withBody chained inputs "SUBSTACK" ("while not (" ++ c ++ "):") indent
  | .str "control_if" =>
    let c ← conditionText plugged inputs (.str "CONDITION")
    withBody chained inputs "SUBSTACK" ("if " ++ c ++ ":") indent
  | .str "control_if_else" =>
    let c ← conditionText plugged inputs (.str "CONDITION")
    let first ← withBody chained inputs "SUBSTACK" ("if " ++ c ++ ":") indent
    let second ← withBody chained inputs "SUBSTACK2" "else:" indent
    .ok (first ++ second)
  | .str "data_setvariableto" => assignment "="
  | .str "data_changevariableby" => assignment "+="
  | .str "procedures_call" => procedureCall plugged block inputs indent
  | .str code =>
    match statements.find? code with
    | some call =>
      let t ← callText plugged inputs fields call.function call.slots
      .ok [margin indent ++ t]
    | none => .ok [margin indent ++ "# Unknown: " ++ code]
  | v =>
    if v.hashable then do
      let t ← v.text
      .ok [margin indent ++ "# Unknown: " ++ t]
    else .error (.wrongType ("unhashable type: '" ++ v.typeName ++ "'"))

/-- The lines of a script, following at most so many references. -/
def chainWithin (blocks : Value) : Nat → Chained
  | 0, _, _ => .error .endless
  | fuel + 1, id, indent => do
    if !id.truthy then .ok []
    else
      let block ← blockOf blocks id
      match block with
      | .dict _ =>
        let lines ← blockLines (reporter blocks) (chainWithin blocks fuel) block indent
        let next ← block.get "next"
        if next.truthy then
          let rest ← chainWithin blocks fuel next indent
          .ok (lines ++ rest)
        else .ok lines
      | _ => .ok []

def chain (blocks : Value) : Chained := chainWithin blocks (bound blocks)

def block (blocks : Value) (b : Value) (indent : Int) : Except Fault (List String) :=
  blockLines (reporter blocks) (chain blocks) b indent

end Listing

end BlockScript
