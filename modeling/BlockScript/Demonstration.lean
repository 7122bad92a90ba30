import BlockScript.Project.Assembly

/-!
# A demonstration

Shows a program with two sprites that uses most kinds of blocks, and the project it becomes together
with its assets. The pair of the two is shown as a constant, and it is handed on as it is; a pair is
no project, so the demonstration ends there.
-/

namespace BlockScript

namespace Demonstration

def program : String :=
  "\n" ++
  "class Cat:\n" ++
  "    def when_flag_clicked(self):\n" ++
  "        # Control - wait\n" ++
  "        wait(1)\n" ++
  "        say(\"Hello! I'm the cat!\")\n" ++
  "        \n" ++
  "        # Variables\n" ++
  "        score = 0\n" ++
  "        \n" ++
  "        # Forever loop with sensing\n" ++
  "        while True:\n" ++
  "            # Boolean conditions\n" ++
  "            if key_pressed(\"space\"):\n" ++
  "                change_y(10)\n" ++
  "            if touching(\"edge\"):\n" ++
  "                set_y(0)\n" ++
  "            if mouse_down():\n" ++
  "                go_to_xy(mouse_x(), mouse_y())\n" ++
  "    \n" ++
  "    def when_key_space(self):\n" ++
  "        # Play sound and broadcast\n" ++
  "        play_sound(\"Meow\")\n" ++
  "        broadcast(\"jumped\")\n" ++
  "    \n" ++
  "    def when_broadcast_game_over(self):\n" ++
  "        # Math operators\n" ++
  "        final_score = score + random(1, 10)\n" ++
  "        say_for_secs(join(\"Final: \", final_score), 2)\n" ++
  "        stop(\"all\")\n" ++
  "\n" ++
  "class Dog:\n" ++
  "    def when_flag_clicked(self):\n" ++
  "        say(\"Woof!\")\n" ++
  "        \n" ++
  "        # List operations\n" ++
  "        delete_all_of_list(\"inventory\")\n" ++
  "        add_to_list(\"bone\", \"inventory\")\n" ++
  "        add_to_list(\"ball\", \"inventory\")\n" ++
  "        \n" ++
  "        # Repeat loop\n" ++
  "        for i in range(3):\n" ++
  "            move(50)\n" ++
  "            wait(0.5)\n" ++
  "            turn_right(120)\n" ++
  "        \n" ++
  "        # Conditional with multiple conditions\n" ++
  "        if touching(\"Cat\") and not key_pressed(\"escape\"):\n" ++
  "            say(\"Found the cat!\")\n" ++
  "            broadcast(\"game_over\")\n" ++
  "    \n" ++
  "    def when_i_start_as_clone(self):\n" ++
  "        show()\n" ++
  "        glide_to_xy(2, random(-200, 200), random(-150, 150))\n" ++
  "        wait(1)\n" ++
  "        delete_this_clone()\n" ++
  "    \n" ++
  "    def when_clicked(self):\n" ++
  "        create_clone(\"myself\")\n"

/-- A line of forty dashes. -/
def rule : String := String.ofList (List.replicate 40 '-')

/-- A line of sixty equals signs. -/
def doubleRule : String := String.ofList (List.replicate 60 '=')

/-- Shows the program and its project. -/
def run (r : Option Resources) : Action Unit := do
  Action.print doubleRule
  Action.print "Python to Scratch 3.0 Transpiler - Full Feature Demo"
  Action.print doubleRule
  Action.print "\nInput Python code:"
  Action.print rule
  Action.print program
  Action.print rule
  let (assembly, _) ← Assembly.ofSource r .null 0 program
  let text ← Action.lift (assembly.text (.indented 2))
  let assets := Value.dict (assembly.assets.map fun (name, b) => (name, .bytes b))
  let shown ← Action.lift (Value.tuple [.str text, assets]).text
  Action.print "\nOutput project.json (truncated):"
  Action.print rule
  Action.print shown
  Action.print rule
  throw (.wrongType "the JSON object must be str, bytes or bytearray, not tuple")

end Demonstration

end BlockScript
