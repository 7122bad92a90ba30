import BlockScript.Table
import BlockScript.Text.Case

/-!
# The vocabulary

The functions that a script can call, and what kind of block each of them makes. A `Command` says
how the arguments of a call become the inputs and fields of its block; `Command.ofName?` is the
table of all commands.
-/

namespace BlockScript

/-- What the argument of a command with a menu names. -/
inductive TargetKind where
  | place
  /-- A sound, which the sprite then has to own. -/
  | sound
  /-- Anything else: the name is taken as it is. -/
  | plain
deriving DecidableEq

/-- How a call becomes a block. -/
inductive Command where
  /-- A block with a value and no inputs, perhaps with a fixed choice. -/
  | reporter (opcode : String) (choice : Option (String × String))
  /-- A statement whose inputs are filled by the arguments in turn. -/
  | action (opcode : String) (inputs : List String)
  /-- A statement with a choice, written in capitals, and an input. -/
  | adjustment (opcode field input : String)
  | target (opcode input menu : String) (kind : TargetKind)
  | glide (opcode time input menu : String)
  /-- A statement with a choice. -/
  | option (opcode field : String)
  /-- A statement that sends a message. -/
  | broadcast (opcode : String)
  /-- A block with a value and a menu; the table has other names, compared as they are or in lower
  case. -/
  | sensor (opcode input menu : String) (names : Table String) (ignoreCase : Bool)
  | colors (opcode : String) (inputs : List String)
  /-- A random number between two limits, or between one and a limit. -/
  | random
  /-- A block with a value, perhaps with a fixed choice, which needs all of its arguments. -/
  | operation (opcode : String) (choice : Option (String × String)) (inputs : List String)
  /-- A block that works on a list: the number of its arguments, which of them names the list, and
  which inputs the others fill. -/
  | list (opcode : String) (isReporter : Bool) (arity listArg : Nat)
      (inputs : List (String × Nat))
  | variableNamed (opcode : String)
  | propertyOf
  | waitUntil

namespace Command

/-! ### Names of things -/

def keyNames : Table String :=
  [("space", "space"), ("up", "up arrow"), ("down", "down arrow"), ("left", "left arrow"),
    ("right", "right arrow"), ("any", "any")]

def keyName (key : String) : String := (keyNames.find? key).getD key

def placeNames : Table String :=
  [("random", "_random_"), ("random_position", "_random_"), ("mouse", "_mouse_"),
    ("mouse_pointer", "_mouse_")]

/-- The place that a name stands for, whatever its case. -/
def placeName (name : String) : String := (placeNames.find? (Text.lower name)).getD name

/-! ### The table -/

/-- Blocks with a value and no arguments. -/
def reporters : Table Command :=
  [("x_position", .reporter "motion_xposition" none),
    ("y_position", .reporter "motion_yposition" none),
    ("direction", .reporter "motion_direction" none),
    ("size", .reporter "looks_size" none),
    ("mouse_x", .reporter "sensing_mousex" none),
    ("mouse_y", .reporter "sensing_mousey" none),
    ("loudness", .reporter "sensing_loudness" none),
    ("timer", .reporter "sensing_timer" none),
    ("days_since_2000", .reporter "sensing_dayssince2000" none),
    ("username", .reporter "sensing_username" none),
    ("answer", .reporter "sensing_answer" none),
    ("volume", .reporter "sound_volume" none),
    ("mouse_down", .reporter "sensing_mousedown" none),
    ("costume_number", .reporter "looks_costumenumbername" (some ("NUMBER_NAME", "number"))),
    ("costume_name", .reporter "looks_costumenumbername" (some ("NUMBER_NAME", "name"))),
    ("backdrop_number", .reporter "looks_backdropnumbername" (some ("NUMBER_NAME", "number"))),
    ("backdrop_name", .reporter "looks_backdropnumbername" (some ("NUMBER_NAME", "name"))),
    ("current_year", .reporter "sensing_current" (some ("CURRENTMENU", "YEAR"))),
    ("current_month", .reporter "sensing_current" (some ("CURRENTMENU", "MONTH"))),
    ("current_date", .reporter "sensing_current" (some ("CURRENTMENU", "DATE"))),
    ("current_day", .reporter "sensing_current" (some ("CURRENTMENU", "DAYOFWEEK"))),
    ("current_hour", .reporter "sensing_current" (some ("CURRENTMENU", "HOUR"))),
    ("current_minute", .reporter "sensing_current" (some ("CURRENTMENU", "MINUTE"))),
    ("current_second", .reporter "sensing_current" (some ("CURRENTMENU", "SECOND")))]

/-- Statements with inputs only. -/
def actions : Table Command :=
  [("move", .action "motion_movesteps" ["STEPS"]),
    ("turn_right", .action "motion_turnright" ["DEGREES"]),
    ("turn_left", .action "motion_turnleft" ["DEGREES"]),
    ("point_in_direction", .action "motion_pointindirection" ["DIRECTION"]),
    ("change_x", .action "motion_changexby" ["DX"]),
    ("set_x", .action "motion_setx" ["X"]),
    ("change_y", .action "motion_changeyby" ["DY"]),
    ("set_y", .action "motion_sety" ["Y"]),
    ("say", .action "looks_say" ["MESSAGE"]),
    ("think", .action "looks_think" ["MESSAGE"]),
    ("change_size", .action "looks_changesizeby" ["CHANGE"]),
    ("set_size", .action "looks_setsizeto" ["SIZE"]),
    ("wait", .action "control_wait" ["DURATION"]),
    ("change_volume", .action "sound_changevolumeby" ["VOLUME"]),
    ("set_volume", .action "sound_setvolumeto" ["VOLUME"]),
    ("change_tempo", .action "music_changeTempo" ["TEMPO"]),
    ("set_tempo", .action "music_setTempo" ["TEMPO"]),
    ("ask", .action "sensing_askandwait" ["QUESTION"]),
    ("set_drag_mode", .action "sensing_setdragmode" ["DRAG_MODE"]),
    ("go_to_xy", .action "motion_gotoxy" ["X", "Y"]),
    ("glide_to_xy", .action "motion_glidesecstoxy" ["SECS", "X", "Y"]),
    ("say_for_secs", .action "looks_sayforsecs" ["MESSAGE", "SECS"]),
    ("think_for_secs", .action "looks_thinkforsecs" ["MESSAGE", "SECS"]),
    ("create_clone_of", .action "control_create_clone_of" ["CLONE_OPTION"]),
    ("reset_timer", .action "sensing_resettimer" []),
    ("if_on_edge_bounce", .action "motion_ifonedgebounce" []),
    ("next_costume", .action "looks_nextcostume" []),
    ("next_backdrop", .action "looks_nextbackdrop" []),
    ("clear_effects", .action "looks_cleargraphiceffects" []),
    ("show", .action "looks_show" []),
    ("hide", .action "looks_hide" []),
    ("delete_this_clone", .action "control_delete_this_clone" []),
    ("stop_all_sounds", .action "sound_stopallsounds" []),
    ("clear_sound_effects", .action "sound_cleareffects" [])]

/-- Statements with a choice, a menu or a message. -/
def choices : Table Command :=
  [("change_effect", .adjustment "looks_changeeffectby" "EFFECT" "CHANGE"),
    ("set_effect", .adjustment "looks_seteffectto" "EFFECT" "VALUE"),
    ("change_layer", .adjustment "looks_goforwardbackwardlayers" "FORWARD_BACKWARD" "NUM"),
    ("change_sound_effect", .adjustment "sound_changeeffectby" "EFFECT" "VALUE"),
    ("set_sound_effect", .adjustment "sound_seteffectto" "EFFECT" "VALUE"),
    ("go_to", .target "motion_goto" "TO" "motion_goto_menu" .place),
    ("glide_to", .glide "motion_glideto" "SECS" "TO" "motion_glideto_menu"),
    ("point_towards", .target "motion_pointtowards" "TOWARDS" "motion_pointtowards_menu" .place),
    ("switch_costume", .target "looks_switchcostumeto" "COSTUME" "looks_costume" .plain),
    ("switch_backdrop", .target "looks_switchbackdropto" "BACKDROP" "looks_backdrops" .plain),
    ("play_sound", .target "sound_play" "SOUND_MENU" "sound_sounds_menu" .sound),
    ("start_sound", .target "sound_play" "SOUND_MENU" "sound_sounds_menu" .sound),
    ("play_sound_until_done",
      .target "sound_playuntildone" "SOUND_MENU" "sound_sounds_menu" .sound),
    ("create_clone",
      .target "control_create_clone_of" "CLONE_OPTION" "control_create_clone_of_menu" .plain),
    ("set_rotation_style", .option "motion_setrotationstyle" "STYLE"),
    ("go_to_layer", .option "looks_gotofrontback" "FRONT_BACK"),
    ("stop", .option "control_stop" "STOP_OPTION"),
    ("broadcast", .broadcast "event_broadcast"),
    ("broadcast_and_wait", .broadcast "event_broadcastandwait")]

def sensors : Table Command :=
  [("key_pressed",
      .sensor "sensing_keypressed" "KEY_OPTION" "sensing_keyoptions" keyNames false),
    ("touching",
      .sensor "sensing_touchingobject" "TOUCHINGOBJECTMENU" "sensing_touchingobjectmenu"
        [("mouse", "_mouse_"), ("edge", "_edge_")] true),
    ("touching_color", .colors "sensing_touchingcolor" ["COLOR"]),
    ("distance_to",
      .sensor "sensing_distanceto" "DISTANCETOMENU" "sensing_distancetomenu"
        [("mouse", "_mouse_")] true),
    ("color_touching_color", .colors "sensing_coloristouchingcolor" ["COLOR", "COLOR2"]),
    ("property_of", .propertyOf),
    ("wait_until", .waitUntil)]

/-- A function of one number, by its name on the block. -/
def mathOp (name : String) : Command :=
  .operation "operator_mathop" (some ("OPERATOR", name)) ["NUM"]

def operators : Table Command :=
  [("pick_random", .random),
    ("random", .random),
    ("abs", mathOp "abs"),
    ("floor", mathOp "floor"),
    ("ceiling", mathOp "ceiling"),
    ("sqrt", mathOp "sqrt"),
    ("sin", mathOp "sin"),
    ("cos", mathOp "cos"),
    ("tan", mathOp "tan"),
    ("asin", mathOp "asin"),
    ("acos", mathOp "acos"),
    ("atan", mathOp "atan"),
    ("ln", mathOp "ln"),
    ("log", mathOp "log"),
    ("e_pow", mathOp "e ^"),
    ("ten_pow", mathOp "10 ^"),
    ("join", .operation "operator_join" none ["STRING1", "STRING2"]),
    ("letter_of", .operation "operator_letter_of" none ["LETTER", "STRING"]),
    ("length", .operation "operator_length" none ["STRING"]),
    ("contains", .operation "operator_contains" none ["STRING1", "STRING2"]),
    ("round", .operation "operator_round" none ["NUM"])]

/-- Lists and variables. -/
def dataCommands : Table Command :=
  [("add_to_list", .list "data_addtolist" false 2 1 [("ITEM", 0)]),
    ("delete_of_list", .list "data_deleteoflist" false 2 1 [("INDEX", 0)]),
    ("delete_all_of_list", .list "data_deletealloflist" false 1 0 []),
    ("insert_at_list", .list "data_insertatlist" false 3 2 [("ITEM", 1), ("INDEX", 0)]),
    ("replace_item_of_list",
      .list "data_replaceitemoflist" false 3 2 [("INDEX", 0), ("ITEM", 1)]),
    ("item_of_list", .list "data_itemoflist" true 2 1 [("INDEX", 0)]),
    ("item_num_of_list", .list "data_itemnumoflist" true 2 1 [("ITEM", 0)]),
    ("length_of_list", .list "data_lengthoflist" true 1 0 []),
    ("list_contains", .list "data_listcontainsitem" true 2 0 [("ITEM", 1)]),
    ("show_list", .list "data_showlist" false 1 0 []),
    ("hide_list", .list "data_hidelist" false 1 0 []),
    ("show_variable", .variableNamed "data_showvariable"),
    ("hide_variable", .variableNamed "data_hidevariable")]

def all : Table Command := reporters ++ actions ++ choices ++ sensors ++ operators ++ dataCommands

def ofName? (name : String) : Option Command := all.find? name

end Command

end BlockScript
