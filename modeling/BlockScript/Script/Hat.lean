import BlockScript.Block.Vocabulary
import BlockScript.Text.Edit
import BlockScript.Workspace

/-!
# Hats

The name of a method says when its script starts. `Hat.ofName?` reads the event from the name, and
`Build.startScript` makes the block for it.
-/

namespace BlockScript

/-- The event that starts a script. -/
inductive Hat where
  | flag
  | key (name : String)
  | clone
  | clicked
  | backdrop (name : String)
  | message (name : String)
  /-- The loudness or the timer exceeds a limit, given by its text. -/
  | exceeds (what limit : String)

namespace Hat

/-- Whether a name is the given one, perhaps with a number after it. -/
def isNumbered (base name : String) : Bool :=
  name == base ||
    match Text.after? (base ++ "_") name with
    | some rest => Text.isDigits rest
    | none => false

def spaced (name : String) : String :=
  String.ofList (name.toList.map fun c => if c = '_' then ' ' else c)

/-- The text of the limit of the loudness: a whole number, or ten if it cannot be read. -/
def wholeLimit (s : String) : String :=
  match Numeral.int? s with
  | some i => toString i
  | none => "10"

/-- The text of the limit of the timer: a number with a point, or ten if it cannot be read. -/
def realLimit (s : String) : String :=
  match Numeral.float? s with
  | some x => x.text
  | none => "10"

def ofName? (name : String) : Option Hat :=
  if isNumbered "when_flag_clicked" name then some .flag
  else if let some rest := Text.after? "when_key_" name then some (.key (Command.keyName rest))
  else if isNumbered "when_i_start_as_clone" name then some .clone
  else if isNumbered "when_clicked" name then some .clicked
  else if let some rest := Text.after? "when_backdrop_" name then some (.backdrop (spaced rest))
  else if let some rest := Text.after? "when_broadcast_" name then some (.message (spaced rest))
  else if let some rest := Text.after? "when_loudness_gt_" name then
    some (.exceeds "LOUDNESS" (wholeLimit rest))
  else if let some rest := Text.after? "when_timer_gt_" name then
    some (.exceeds "TIMER" (realLimit rest))
  else none

end Hat

namespace Build

def startScript : Hat → Build Unit
  | .flag => do
    let _ ← create "event_whenflagclicked" .hat []
  | .key name => do
    let id ← create "event_whenkeypressed" .hat []
    setField id "KEY_OPTION" (.word name)
  | .clone => do
    let _ ← create "control_start_as_clone" .hat []
  | .clicked => do
    let _ ← create "event_whenthisspriteclicked" .hat []
  | .backdrop name => do
    let id ← create "event_whenbackdropswitchesto" .hat []
    setField id "BACKDROP" (.word name)
  | .message name => do
    let messageId ← messageNamed name
    let id ← create "event_whenbroadcastreceived" .hat []
    setField id "BROADCAST_OPTION" (.named name messageId)
  | .exceeds what limit => do
    let id ← create "event_whengreaterthan" .hat []
    setField id "WHENGREATERTHANMENU" (.word what)
    setInput id "VALUE" (.literal (.number limit))

end Build

end BlockScript
