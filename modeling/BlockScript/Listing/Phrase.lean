import BlockScript.Table

/-!
# Phrases

How blocks read in a listing. Most blocks are calls of a function; a `Slot` says what stands at
each place between the brackets, from the first to the last. The table `reporters` is for blocks
with a value, `statements` for the blocks of a script, by opcode.
-/

namespace BlockScript

namespace Listing

/-- What stands at a place of a call. -/
inductive Slot where
  | input (name : String)
  /-- The value of the first input if it is present, else that of the second. -/
  | inputOr (name other : String)
  | condition (name : String)
  | word (field : String)
  /-- A field between quotes, in lower case. -/
  | lowered (field : String)
  /-- A field between quotes, left out if it is empty. -/
  | wordIfAny (field : String)

/-- How a block with a value reads. -/
inductive Phrase where
  | operator (left symbol right : String) (bracketed : Bool)
  | negation (input : String)
  | call (function : String) (slots : List Slot)
  | name (field : String)
  /-- A function that is named by a field; the table has the functions with another name. -/
  | namedCall (field : String) (names : Table String) (input : String)
  /-- A function without arguments that is chosen by a field, with one for all other choices. -/
  | choice (field : String) (names : Table String) (other : String)
  /-- A menu: the first field that is not empty, between quotes; the table has the values that read
  differently. -/
  | menu (fields : List String) (names : Table String)

/-- A function without arguments. -/
def Phrase.function (name : String) : Phrase := .call name []

def Phrase.ofInputs (name : String) (inputs : List String) : Phrase :=
  .call name (inputs.map .input)

/-- The functions of `operator_mathop` that have another name in a listing. -/
def mathNames : Table String :=
  [("e ^", "exp"), ("e^", "exp"), ("10 ^", "pow10"), ("10^", "pow10")]

def timeNames : Table String :=
  [("YEAR", "current_year"), ("MONTH", "current_month"), ("DATE", "current_date"),
    ("DAYOFWEEK", "current_day"), ("HOUR", "current_hour"), ("MINUTE", "current_minute"),
    ("SECOND", "current_second")]

def placeMenu : Phrase := .menu ["TO", "TOWARDS"] [("_random_", "random"), ("_mouse_", "mouse")]

/-- Blocks with a value. -/
def reporters : Table Phrase :=
  [("data_variable", .name "VARIABLE"),
    ("argument_reporter_string_number", .name "VALUE"),
    ("operator_add", .operator "NUM1" "+" "NUM2" true),
    ("operator_subtract", .operator "NUM1" "-" "NUM2" true),
    ("operator_multiply", .operator "NUM1" "*" "NUM2" true),
    ("operator_divide", .operator "NUM1" "/" "NUM2" true),
    ("operator_mod", .operator "NUM1" "%" "NUM2" true),
    ("operator_gt", .operator "OPERAND1" ">" "OPERAND2" false),
    ("operator_lt", .operator "OPERAND1" "<" "OPERAND2" false),
    ("operator_equals", .operator "OPERAND1" "==" "OPERAND2" false),
    ("operator_and", .operator "OPERAND1" "and" "OPERAND2" true),
    ("operator_or", .operator "OPERAND1" "or" "OPERAND2" true),
    ("operator_not", .negation "OPERAND"),
    ("operator_random", .ofInputs "pick_random" ["FROM", "TO"]),
    ("operator_mathop", .namedCall "OPERATOR" mathNames "NUM"),
    ("operator_round", .ofInputs "round" ["NUM"]),
    ("operator_join", .ofInputs "join" ["STRING1", "STRING2"]),
    ("operator_letter_of", .ofInputs "letter_of" ["LETTER", "STRING"]),
    ("operator_length", .ofInputs "length" ["STRING"]),
    ("operator_contains", .ofInputs "contains" ["STRING1", "STRING2"]),
    ("sensing_touchingobject", .ofInputs "touching" ["TOUCHINGOBJECTMENU"]),
    ("sensing_touchingcolor", .ofInputs "touching_color" ["COLOR"]),
    ("sensing_coloristouchingcolor", .ofInputs "color_touching_color" ["COLOR", "COLOR2"]),
    ("sensing_keypressed", .ofInputs "key_pressed" ["KEY_OPTION"]),
    ("sensing_mousedown", .function "mouse_down"),
    ("sensing_mousex", .function "mouse_x"),
    ("sensing_mousey", .function "mouse_y"),
    ("sensing_distanceto", .ofInputs "distance_to" ["DISTANCETOMENU"]),
    ("sensing_answer", .function "answer"),
    ("sensing_loudness", .function "loudness"),
    ("sensing_timer", .function "timer"),
    ("sensing_dayssince2000", .function "days_since_2000"),
    ("sensing_username", .function "username"),
    ("sensing_current", .choice "CURRENTMENU" timeNames "current_year"),
    ("sensing_of", .call "property_of" [.word "PROPERTY", .input "OBJECT"]),
    ("motion_xposition", .function "x_position"),
    ("motion_yposition", .function "y_position"),
    ("motion_direction", .function "direction"),
    ("looks_costumenumbername",
      .choice "NUMBER_NAME" [("name", "costume_name")] "costume_number"),
    ("looks_backdropnumbername",
      .choice "NUMBER_NAME" [("name", "backdrop_name")] "backdrop_number"),
    ("looks_size", .function "size"),
    ("sound_volume", .function "volume"),
    ("data_itemoflist", .call "item_of_list" [.input "INDEX", .word "LIST"]),
    ("data_lengthoflist", .call "length_of_list" [.word "LIST"]),
    ("data_itemnumoflist", .call "item_num_of_list" [.input "ITEM", .word "LIST"]),
    ("data_listcontainsitem", .call "list_contains" [.word "LIST", .input "ITEM"]),
    ("motion_goto_menu", placeMenu),
    ("motion_glideto_menu", placeMenu),
    ("motion_pointtowards_menu", placeMenu),
    ("sensing_touchingobjectmenu",
      .menu ["TOUCHINGOBJECTMENU"] [("_mouse_", "mouse"), ("_edge_", "edge")]),
    ("sensing_distancetomenu", .menu ["DISTANCETOMENU"] [("_mouse_", "mouse")]),
    ("sensing_keyoptions", .menu ["KEY_OPTION"] []),
    ("sound_sounds_menu", .menu ["SOUND_MENU"] []),
    ("looks_costume", .menu ["COSTUME"] []),
    ("looks_backdrops", .menu ["BACKDROP"] []),
    ("control_create_clone_of_menu", .menu ["CLONE_OPTION"] [("_myself_", "myself")]),
    ("sensing_of_object_menu", .menu ["OBJECT"] [])]

/-- A call in a script: a function and what stands between its brackets. -/
structure Call where
  function : String
  slots : List Slot

def callOf (function : String) (inputs : List String) : Call := ⟨function, inputs.map .input⟩

def callWith (function : String) (fields inputs : List String) : Call :=
  ⟨function, fields.map .wordIfAny ++ inputs.map .input⟩

/-- The blocks of a script, other than those that contain other blocks, set variables or call
procedures. Blocks with a value can stand there too; they read as calls. -/
def statements : Table Call :=
  [("motion_movesteps", callOf "move" ["STEPS"]),
    ("motion_turnright", callOf "turn_right" ["DEGREES"]),
    ("motion_turnleft", callOf "turn_left" ["DEGREES"]),
    ("motion_goto", callOf "go_to" ["TO"]),
    ("motion_gotoxy", callOf "go_to_xy" ["X", "Y"]),
    ("motion_glideto", callOf "glide_to" ["SECS", "TO"]),
    ("motion_glidesecstoxy", callOf "glide_to_xy" ["SECS", "X", "Y"]),
    ("motion_pointindirection", callOf "point_in_direction" ["DIRECTION"]),
    ("motion_pointtowards", callOf "point_towards" ["TOWARDS"]),
    ("motion_changexby", callOf "change_x" ["DX"]),
    ("motion_setx", callOf "set_x" ["X"]),
    ("motion_changeyby", callOf "change_y" ["DY"]),
    ("motion_sety", callOf "set_y" ["Y"]),
    ("motion_ifonedgebounce", callOf "if_on_edge_bounce" []),
    ("motion_setrotationstyle", callWith "set_rotation_style" ["STYLE"] []),
    ("motion_xposition", callOf "x_position" []),
    ("motion_yposition", callOf "y_position" []),
    ("motion_direction", callOf "direction" []),
    ("looks_sayforsecs", callOf "say_for_secs" ["MESSAGE", "SECS"]),
    ("looks_say", callOf "say" ["MESSAGE"]),
    ("looks_thinkforsecs", callOf "think_for_secs" ["MESSAGE", "SECS"]),
    ("looks_think", callOf "think" ["MESSAGE"]),
    ("looks_switchcostumeto", callOf "switch_costume" ["COSTUME"]),
    ("looks_nextcostume", callOf "next_costume" []),
    ("looks_switchbackdropto", callOf "switch_backdrop" ["BACKDROP"]),
    ("looks_nextbackdrop", callOf "next_backdrop" []),
    ("looks_changesizeby", callOf "change_size" ["CHANGE"]),
    ("looks_setsizeto", callOf "set_size" ["SIZE"]),
    ("looks_changeeffectby", ⟨"change_effect", [.lowered "EFFECT", .inputOr "CHANGE" "VALUE"]⟩),
    ("looks_seteffectto", ⟨"set_effect", [.lowered "EFFECT", .inputOr "CHANGE" "VALUE"]⟩),
    ("looks_cleargraphiceffects", callOf "clear_effects" []),
    ("looks_show", callOf "show" []),
    ("looks_hide", callOf "hide" []),
    ("looks_gotofrontback", ⟨"go_to_layer", [.word "FRONT_BACK"]⟩),
    ("looks_goforwardbackwardlayers",
      ⟨"change_layer", [.lowered "FORWARD_BACKWARD", .input "NUM"]⟩),
    ("looks_costumenumbername", callOf "costume_number" []),
    ("looks_backdropnumbername", callOf "backdrop_number" []),
    ("looks_size", callOf "size" []),
    ("sound_playuntildone", callOf "play_sound_until_done" ["SOUND_MENU"]),
    ("sound_play", callOf "play_sound" ["SOUND_MENU"]),
    ("sound_stopallsounds", callOf "stop_all_sounds" []),
    ("sound_changeeffectby", ⟨"change_sound_effect", [.lowered "EFFECT", .input "VALUE"]⟩),
    ("sound_seteffectto", ⟨"set_sound_effect", [.lowered "EFFECT", .input "VALUE"]⟩),
    ("sound_cleareffects", callOf "clear_sound_effects" []),
    ("sound_changevolumeby", callOf "change_volume" ["VOLUME"]),
    ("sound_setvolumeto", callOf "set_volume" ["VOLUME"]),
    ("sound_volume", callOf "volume" []),
    ("event_whenflagclicked", callOf "when_flag_clicked" []),
    ("event_whenkeypressed", callWith "when_key_" ["KEY_OPTION"] []),
    ("event_whenthisspriteclicked", callOf "when_clicked" []),
    ("event_whenbackdropswitchesto", callWith "when_backdrop_" ["BACKDROP"] []),
    ("event_whengreaterthan",
      callWith "when_greater_than" ["WHENGREATERTHANMENU"] ["VALUE"]),
    ("event_whenbroadcastreceived", callWith "when_broadcast_" ["BROADCAST_OPTION"] []),
    ("event_broadcast", callOf "broadcast" ["BROADCAST_INPUT"]),
    ("event_broadcastandwait", callOf "broadcast_and_wait" ["BROADCAST_INPUT"]),
    ("control_wait", callOf "wait" ["DURATION"]),
    ("control_wait_until", ⟨"wait_until", [.condition "CONDITION"]⟩),
    ("control_stop", ⟨"stop", [.word "STOP_OPTION"]⟩),
    ("control_start_as_clone", callOf "when_i_start_as_clone" []),
    ("control_create_clone_of", callOf "create_clone" ["CLONE_OPTION"]),
    ("control_delete_this_clone", callOf "delete_this_clone" []),
    ("sensing_touchingobject", callOf "touching" ["TOUCHINGOBJECTMENU"]),
    ("sensing_touchingcolor", callOf "touching_color" ["COLOR"]),
    ("sensing_coloristouchingcolor", callOf "color_touching_color" ["COLOR", "COLOR2"]),
    ("sensing_distanceto", callOf "distance_to" ["DISTANCETOMENU"]),
    ("sensing_askandwait", callOf "ask" ["QUESTION"]),
    ("sensing_answer", callOf "answer" []),
    ("sensing_keypressed", callOf "key_pressed" ["KEY_OPTION"]),
    ("sensing_mousedown", callOf "mouse_down" []),
    ("sensing_mousex", callOf "mouse_x" []),
    ("sensing_mousey", callOf "mouse_y" []),
    ("sensing_setdragmode", callWith "set_drag_mode" ["DRAG_MODE"] []),
    ("sensing_loudness", callOf "loudness" []),
    ("sensing_timer", callOf "timer" []),
    ("sensing_resettimer", callOf "reset_timer" []),
    ("sensing_of", ⟨"property_of", [.word "PROPERTY", .input "OBJECT"]⟩),
    ("sensing_current", callWith "current_" ["CURRENTMENU"] []),
    ("sensing_dayssince2000", callOf "days_since_2000" []),
    ("sensing_username", callOf "username" []),
    ("operator_add", callOf "+" ["NUM1", "NUM2"]),
    ("operator_subtract", callOf "-" ["NUM1", "NUM2"]),
    ("operator_multiply", callOf "*" ["NUM1", "NUM2"]),
    ("operator_divide", callOf "/" ["NUM1", "NUM2"]),
    ("operator_random", callOf "pick_random" ["FROM", "TO"]),
    ("operator_gt", callOf ">" ["OPERAND1", "OPERAND2"]),
    ("operator_lt", callOf "<" ["OPERAND1", "OPERAND2"]),
    ("operator_equals", callOf "==" ["OPERAND1", "OPERAND2"]),
    ("operator_and", callOf "and" ["OPERAND1", "OPERAND2"]),
    ("operator_or", callOf "or" ["OPERAND1", "OPERAND2"]),
    ("operator_not", callOf "not" ["OPERAND"]),
    ("operator_join", callOf "join" ["STRING1", "STRING2"]),
    ("operator_letter_of", callOf "letter_of" ["LETTER", "STRING"]),
    ("operator_length", callOf "length" ["STRING"]),
    ("operator_contains", callOf "contains" ["STRING1", "STRING2"]),
    ("operator_mod", callOf "%" ["NUM1", "NUM2"]),
    ("operator_round", callOf "round" ["NUM"]),
    ("operator_mathop", callOf "mathop" ["NUM"]),
    ("data_showvariable", callWith "show_variable" ["VARIABLE"] []),
    ("data_hidevariable", callWith "hide_variable" ["VARIABLE"] []),
    ("data_variable", callOf "variable" []),
    ("data_addtolist", ⟨"add_to_list", [.input "ITEM", .word "LIST"]⟩),
    ("data_deleteoflist", ⟨"delete_of_list", [.input "INDEX", .word "LIST"]⟩),
    ("data_deletealloflist", ⟨"delete_all_of_list", [.word "LIST"]⟩),
    ("data_insertatlist", ⟨"insert_at_list", [.input "INDEX", .input "ITEM", .word "LIST"]⟩),
    ("data_replaceitemoflist",
      ⟨"replace_item_of_list", [.input "INDEX", .input "ITEM", .word "LIST"]⟩),
    ("data_itemoflist", callWith "item_of_list" ["LIST"] ["INDEX"]),
    ("data_itemnumoflist", callWith "item_num_of_list" ["LIST"] ["ITEM"]),
    ("data_lengthoflist", callWith "length_of_list" ["LIST"] []),
    ("data_listcontainsitem", callWith "list_contains" ["LIST"] ["ITEM"]),
    ("data_showlist", ⟨"show_list", [.word "LIST"]⟩),
    ("data_hidelist", ⟨"hide_list", [.word "LIST"]⟩),
    ("procedures_definition", callOf "define_" [])]

end Listing

end BlockScript
