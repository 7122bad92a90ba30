import BlockScript.Rehearsal.Item
import BlockScript.Signature

/-!
# The blocks in a rehearsal

When a program is run without a project its blocks do nothing. A block that reports something has a
fixed answer, except for the few that can be worked out from what they are given.
-/

namespace BlockScript

/-- What a call takes, and what it answers. -/
structure Stub where
  signature : Signature Item
  answer : List Item → Except Fault Item

namespace Stub

def parameters (names : List String) : Signature Item := names.map fun n => { name := n }

def fixed (name : String) (names : List String) (v : Value) : String × Stub :=
  (name, ⟨parameters names, fun _ => .ok (.plain v)⟩)

/-- A block without an answer. -/
def silent (name : String) (names : List String) : String × Stub := fixed name names .null

/-- A block without an answer that needs not be given anything. -/
def optional (name parameter fallback : String) : String × Stub :=
  (name, ⟨[{ name := parameter, fallback := some (.plain (.str fallback)) }],
    fun _ => .ok (.plain .null)⟩)

/-! ### Blocks by category -/

def motionCalls : List (String × Stub) := [
  silent "move" ["steps"], silent "turn_right" ["degrees"], silent "turn_left" ["degrees"],
  silent "go_to" ["target"], silent "go_to_xy" ["x", "y"], silent "glide_to" ["secs", "target"],
  silent "glide_to_xy" ["secs", "x", "y"], silent "point_in_direction" ["direction"],
  silent "point_towards" ["target"], silent "change_x" ["dx"], silent "set_x" ["x"],
  silent "change_y" ["dy"], silent "set_y" ["y"], silent "if_on_edge_bounce" [],
  silent "set_rotation_style" ["style"], fixed "x_position" [] (.int 0),
  fixed "y_position" [] (.int 0), fixed "direction" [] (.int 90)]

def looksCalls : List (String × Stub) := [
  silent "say" ["message"], silent "say_for_secs" ["message", "secs"], silent "think" ["message"],
  silent "think_for_secs" ["message", "secs"], silent "switch_costume" ["costume"],
  silent "next_costume" [], silent "switch_backdrop" ["backdrop"], silent "next_backdrop" [],
  silent "change_size" ["amount"], silent "set_size" ["size"],
  silent "change_effect" ["effect", "amount"], silent "set_effect" ["effect", "value"],
  silent "clear_effects" [], silent "show" [], silent "hide" [], silent "go_to_layer" ["layer"],
  silent "change_layer" ["direction", "layers"], fixed "costume_number" [] (.int 1),
  fixed "costume_name" [] (.str ""), fixed "backdrop_number" [] (.int 1),
  fixed "backdrop_name" [] (.str ""), fixed "size" [] (.int 100)]

def soundCalls : List (String × Stub) := [
  silent "play_sound" ["sound"], silent "play_sound_until_done" ["sound"],
  silent "stop_all_sounds" [], silent "change_volume" ["amount"], silent "set_volume" ["volume"],
  fixed "volume" [] (.int 100), silent "change_effect_sound" ["effect", "amount"],
  silent "set_effect_sound" ["effect", "value"], silent "clear_sound_effects" []]

def eventsCalls : List (String × Stub) := [
  silent "broadcast" ["message"], silent "broadcast_and_wait" ["message"]]

def controlCalls : List (String × Stub) := [
  silent "wait" ["secs"], silent "wait_until" ["condition"], optional "stop" "what" "all",
  optional "create_clone" "target" "myself", silent "delete_this_clone" []]

def sensingCalls : List (String × Stub) := [
  fixed "touching" ["target"] (.bool false), fixed "touching_color" ["color"] (.bool false),
  fixed "color_touching_color" ["color1", "color2"] (.bool false),
  fixed "distance_to" ["target"] (.int 0), silent "ask" ["question"], fixed "answer" [] (.str ""),
  fixed "key_pressed" ["key"] (.bool false), fixed "mouse_down" [] (.bool false),
  fixed "mouse_x" [] (.int 0), fixed "mouse_y" [] (.int 0), silent "set_drag_mode" ["mode"],
  fixed "loudness" [] (.int 0), fixed "timer" [] (.int 0), silent "reset_timer" [],
  fixed "property_of" ["property", "target"] (.int 0), fixed "current" ["unit"] (.int 0),
  fixed "days_since_2000" [] (.int 0), fixed "username" [] (.str "")]

def operatorsCalls : List (String × Stub) := [
  fixed "pick_random" ["from_val", "to_val"] (.int 0),
  fixed "letter_of" ["index", "string"] (.str ""),
  fixed "contains" ["string", "substring"] (.bool false), fixed "mod" ["a", "b"] (.int 0),
  fixed "math_op" ["op", "n"] (.int 0)]

def variablesCalls : List (String × Stub) := [
  silent "set_variable" ["name", "value"], silent "change_variable" ["name", "amount"],
  silent "show_variable" ["name"], silent "hide_variable" ["name"]]

def listsCalls : List (String × Stub) := [
  silent "add_to_list" ["item", "list_name"], silent "delete_of_list" ["index", "list_name"],
  silent "delete_all_of_list" ["list_name"],
  silent "insert_at_list" ["item", "index", "list_name"],
  silent "replace_item_of_list" ["index", "list_name", "value"],
  fixed "item_of_list" ["index", "list_name"] (.str ""),
  fixed "index_in_list" ["item", "list_name"] (.int 0),
  fixed "length_of_list" ["list_name"] (.int 0),
  fixed "list_contains" ["list_name", "item"] (.bool false), silent "show_list" ["list_name"],
  silent "hide_list" ["list_name"]]

def penCalls : List (String × Stub) := [
  silent "erase_all" [], silent "stamp" [], silent "pen_down" [], silent "pen_up" [],
  silent "set_pen_color" ["color"], silent "change_pen_param" ["param", "amount"],
  silent "set_pen_param" ["param", "value"], silent "change_pen_size" ["amount"],
  silent "set_pen_size" ["size"]]

def musicCalls : List (String × Stub) := [
  silent "play_drum" ["drum", "beats"], silent "rest" ["beats"],
  silent "play_note" ["note", "beats"], silent "set_instrument" ["instrument"],
  silent "set_tempo" ["tempo"], silent "change_tempo" ["amount"], fixed "tempo" [] (.int 60)]

/-! ### Blocks that can be worked out -/

/-- The texts of two things, one after the other. -/
def joined : List Item → Except Fault Item
  | [a, b] => do
    let s ← a.toValue.text
    let t ← b.toValue.text
    .ok (.plain (.str (s ++ t)))
  | _ => .ok (.plain .null)

/-- The length of a text; anything else has none. -/
def lengthOf : List Item → Except Fault Item
  | [.plain (.str s)] => .ok (.plain (.int s.length))
  | _ => .ok (.plain (.int 0))

/-- A number rounded to an integer, a half to the even side. -/
def rounded : List Item → Except Fault Item
  | [i] =>
    match i.toValue.integer?, i.toValue with
    | some n, _ => .ok (.plain (.int n))
    | none, .float x =>
      match x.round? with
      | some n => .ok (.plain (.int n))
      | none =>
        if x.isNaN then .error (.badValue "cannot convert float NaN to integer")
        else .error (.overflow "cannot convert float infinity to integer")
    | none, v =>
      .error (.wrongType ("type " ++ v.typeName ++ " doesn't define __round__ method"))
  | _ => .ok (.plain .null)

def computed : List (String × Stub) := [
  ("join", ⟨parameters ["str1", "str2"], joined⟩), ("length_of", ⟨parameters ["string"], lengthOf⟩),
  ("round_num", ⟨parameters ["n"], rounded⟩)]

/-- All blocks. -/
def all : Table Stub :=
  motionCalls ++ looksCalls ++ soundCalls ++ eventsCalls ++ controlCalls ++ sensingCalls ++
    operatorsCalls ++ variablesCalls ++ listsCalls ++ penCalls ++ musicCalls ++ computed

end Stub

end BlockScript
