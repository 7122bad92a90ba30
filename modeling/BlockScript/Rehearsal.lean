import BlockScript.Rehearsal.Vocabulary

/-!
# Rehearsals

A rehearsal runs the declarations of a program as they stand: costumes, sounds and backdrops become
things with attributes, `sprite` gives the settings of a sprite, and `configure_stage` replaces the
settings of the stage, which are the only thing that a rehearsal remembers.
-/

namespace BlockScript

namespace Rehearsal

/-! ### Signatures of declarations -/

def needed (name : String) : Parameter Item := { name := name }

def usual (name : String) (v : Value) : Parameter Item :=
  { name := name, fallback := some (.plain v) }

def named (name : String) : Parameter Item :=
  { name := name, fallback := some (.plain .null), byName := true }

def costumeSignature : Signature Item :=
  [needed "name", usual "file_path" .null, named "svg_string", named "rotation_center_x",
    named "rotation_center_y"]

def soundSignature : Signature Item :=
  [needed "name", needed "file_path", named "rate", named "sample_count"]

def backdropSignature : Signature Item :=
  [needed "name", usual "file_path" .null, named "svg_string"]

def spriteSignature : Signature Item :=
  [usual "costumes" .null, usual "sounds" .null, usual "x" (.int 0), usual "y" (.int 0),
    usual "size" (.int 100), usual "direction" (.int 90),
    usual "rotation_style" (.str "all around"),
    usual "visible" (.bool true), usual "draggable" (.bool false)]

def backdropsSignature : Signature Item := [usual "backdrops" .null]

def stageSignature : Signature Item :=
  [usual "backdrops" .null, usual "sounds" .null, usual "tempo" (.int 60),
    usual "volume" (.int 100)]

/-! ### Declarations -/

def attributes (s : Signature Item) (values : List Item) : List (String × Item) :=
  (s.map (·.name)).zip values

def withoutGaps (names : List String) (entries : List (String × Item)) : List (String × Item) :=
  entries.map fun (k, i) => (k, if names.contains k then i.orEmpty else i)

/-- Something that is shown needs a file or a drawing. -/
def shown (entries : List (String × Item)) : Except Fault (List (String × Item)) :=
  let missing (key : String) : Bool := (Table.find? entries key).all (·.isNothing)
  if missing "file_path" && missing "svg_string" then
    .error (.badValue "Must provide either file_path or svg_string")
  else .ok entries

def costume (args : List Item) (kwargs : Table Item) : Except Fault Item := do
  let values ← Signature.bind costumeSignature args kwargs
  let entries ← shown (attributes costumeSignature values)
  .ok (.object "Costume" entries)

def sound (args : List Item) (kwargs : Table Item) : Except Fault Item := do
  let values ← Signature.bind soundSignature args kwargs
  .ok (.object "Sound" (attributes soundSignature values))

def backdrop (args : List Item) (kwargs : Table Item) : Except Fault Item := do
  let values ← Signature.bind backdropSignature args kwargs
  let entries ← shown (attributes backdropSignature values)
  .ok (.object "Backdrop" entries)

def spriteSettings (args : List Item) (kwargs : Table Item) : Except Fault Item := do
  let values ← Signature.bind spriteSignature args kwargs
  .ok (.object "SpriteConfig"
    (withoutGaps ["costumes", "sounds"] (attributes spriteSignature values)))

def backdropSettings (args : List Item) (kwargs : Table Item) : Except Fault Item := do
  let values ← Signature.bind backdropsSignature args kwargs
  .ok (.object "BackdropConfig"
    (withoutGaps ["backdrops"] (attributes backdropsSignature values)))

def stageSettings (args : List Item) (kwargs : Table Item) : Except Fault Item := do
  let values ← Signature.bind stageSignature args kwargs
  .ok (.record (withoutGaps ["backdrops", "sounds"] (attributes stageSignature values)))

def declaration? : String → Option (List Item → Table Item → Except Fault Item)
  | "Costume" => some costume
  | "Sound" => some sound
  | "Backdrop" => some backdrop
  | "SpriteConfig" => some spriteSettings
  | "sprite" => some spriteSettings
  | "BackdropConfig" => some backdropSettings
  | _ => none

/-! ### Calls -/

/-- What a call answers, and the settings of the stage afterwards. -/
def call (stage : Item) (name : String) (args : List Item) (kwargs : Table Item) :
    Except Fault Item × Item :=
  if name = "configure_stage" then
    match stageSettings args kwargs with
    | .ok settings => (.ok (.plain .null), settings)
    | .error e => (.error e, stage)
  else if name = "get_stage_config" then
    match Signature.bind [] args kwargs with
    | .ok _ => (.ok stage, stage)
    | .error e => (.error e, stage)
  else match declaration? name with
    | some declare => (declare args kwargs, stage)
    | none =>
      match Stub.all.find? name with
      | some stub => (Signature.bind stub.signature args kwargs >>= stub.answer, stage)
      | none => (.error (.wrongType (Value.quotedString name ++ " is not callable")), stage)

end Rehearsal

end BlockScript
