import BlockScript.Fault
import BlockScript.Text.Class
import BlockScript.Text.Edit

/-!
# Arguments of a command

The arguments of a command are plain ones, which are taken in order, and options, which start with a
dash. Options can be shortened as long as they can be told apart, an equals sign can stand before
their value, and after the argument `--` everything is plain.

Plain arguments are taken as soon as they are met. So an argument that may be missing is settled by
the first option that follows the one before it: in `first --option value second`, nothing is left
that could take `second`.
-/

namespace BlockScript

namespace Arguments

/-- What an option does. -/
inductive Effect where
  | help
  | value
deriving DecidableEq

abbrev Options := List (String × Effect)

/-- How a value is joined to its option: directly, or with an equals sign. -/
structure Joined where
  byEquals : Bool
  text : String

/-- What an argument is. -/
inductive Mark where
  | plain
  /-- The argument `--`. -/
  | divider
  | option (name : String) (effect : Effect) (joined : Option Joined)
  | unknown

/-- Why there are no arguments to go on with. -/
inductive Refusal where
  | help
  | misuse
deriving DecidableEq

/-! ### Telling options from plain arguments -/

/-- A text before and after its first equals sign. -/
def atEquals (s : String) : String × Option String :=
  let cs := s.toList
  let before := cs.takeWhile (· != '=')
  if before.length = cs.length then (s, none)
  else (String.ofList before, some (String.ofList (cs.drop (before.length + 1))))

def isDigit (c : Char) : Bool := (Text.decimalValue? c).isSome

/-- Whether a text is a negative number: digits, of which some may stand before a point. -/
def isNegativeNumber (s : String) : Bool :=
  match s.toList with
  | '-' :: cs =>
    let whole := cs.takeWhile isDigit
    match cs.drop whole.length with
    | [] => !whole.isEmpty
    | '.' :: fraction => !fraction.isEmpty && fraction.all isDigit
    | _ => false
  | _ => false

/-- The options that an argument can mean if it is none as it stands. -/
def readings (options : Options) (s : String) : List Mark :=
  match s.toList with
  | '-' :: '-' :: _ =>
    let (name, value) := atEquals s
    options.filterMap fun (o, e) =>
      if Text.startsWith o name then some (.option o e (value.map (⟨true, ·⟩))) else none
  | '-' :: c :: rest =>
    options.filterMap fun (o, e) =>
      if o = String.ofList ['-', c] then some (.option o e (some ⟨false, String.ofList rest⟩))
      else none
  | _ => []

/-- What an argument is before any divider. -/
def markOf (options : Options) (s : String) : Except Refusal Mark :=
  if !Text.startsWith s "-" then .ok .plain
  else match options.lookup s, atEquals s with
    | some e, _ => .ok (.option s e none)
    | none, (name, value) =>
      if s = "-" then .ok .plain
      else match options.lookup name, value with
        | some e, some v => .ok (.option name e (some ⟨true, v⟩))
        | _, _ =>
          match readings options s with
          | [m] => .ok m
          | _ :: _ :: _ => .error .misuse
          | [] =>
            if isNegativeNumber s || Text.contains s " " then .ok .plain else .ok .unknown

/-- What all arguments are. -/
def marks (options : Options) : List String → Except Refusal (List (Mark × String))
  | [] => .ok []
  | s :: rest =>
    if s = "--" then .ok ((.divider, s) :: rest.map fun r => (.plain, r))
    else do
      let m ← markOf options s
      let others ← marks options rest
      .ok ((m, s) :: others)

/-! ### Taking arguments -/

/-- What has been taken: plain arguments in order, the value of the option that has one, and whether
something was left over. -/
structure Taken where
  values : List (Option String) := []
  option : Option String := none
  leftOver : Bool := false

def isDivider : Mark × String → Bool
  | (.divider, _) => true
  | _ => false

def isPlain : Mark × String → Bool
  | (.plain, _) => true
  | _ => false

def isOption (a : Mark × String) : Bool := !isDivider a && !isPlain a

/-- The arguments for one place with dividers around it, and the rest. -/
def takeOne (isOptional : Bool) (args : List (Mark × String)) :
    Option (List String × List (Mark × String)) :=
  let before := args.takeWhile isDivider
  let rest := args.drop before.length
  match rest with
  | a :: more =>
    if isPlain a then
      let after := more.takeWhile isDivider
      some ((before ++ a :: after).map (·.2), more.drop after.length)
    else if isOptional then some (before.map (·.2), rest)
    else none
  | [] => if isOptional then some (before.map (·.2), []) else none

/-- Fills as many places as possible. A place is given by whether it may stay empty. Returns what
was filled, the places and the arguments that are left. -/
def fill : List Bool → List (Mark × String) →
    List (Option String) × List Bool × List (Mark × String)
  | [], args => ([], [], args)
  | isOptional :: places, args =>
    match takeOne isOptional args with
    | none => ([], isOptional :: places, args)
    | some (texts, rest) =>
      let (values, places, rest) := fill places rest
      ((texts.erase "--").head? :: values, places, rest)

/-- What is done with a value that is joined to an option for help: one letter after the other is
read as an option again. -/
def afterHelp (options : Options) : List Char → Refusal
  | [] => .help
  | '-' :: _ => .misuse
  | c :: rest =>
    match options.lookup (String.ofList ['-', c]), rest with
    | some _, '=' :: _ => .misuse
    | some _, _ => afterHelp options rest
    | none, _ => .help

def askForHelp (options : Options) (name : String) : Option Joined → Refusal
  | none => .help
  | some j =>
    if j.byEquals || Text.startsWith name "--" || j.text.isEmpty then .misuse
    else afterHelp options j.text.toList

/-- Takes arguments until none are left. -/
def take (options : Options) :
    Nat → List Bool → Taken → List (Mark × String) → Except Refusal (List Bool × Taken)
  | 0, places, taken, _ => .ok (places, taken)
  | fuel + 1, places, taken, args =>
    if args.any isOption then
      match args with
      | (.option name effect joined, _) :: rest =>
        match effect, joined with
        | .help, joined => .error (askForHelp options name joined)
        | .value, some j =>
          take options fuel places { taken with option := some j.text } rest
        | .value, none =>
          match rest with
          | (.plain, v) :: more => take options fuel places { taken with option := some v } more
          | _ => .error .misuse
      | (.unknown, _) :: rest => take options fuel places { taken with leftOver := true } rest
      | _ =>
        let (values, places', rest) := fill places args
        if rest.length < args.length then
          take options fuel places' { taken with values := taken.values ++ values } rest
        else
          take options fuel places'
            { taken with values := taken.values ++ values, leftOver := true }
            (args.dropWhile (!isOption ·))
    else
      let (values, places, rest) := fill places args
      .ok (places,
        { taken with
          values := taken.values ++ values
          leftOver := taken.leftOver || !rest.isEmpty })

/-- The plain arguments of a command with the given places, and the value of its option. -/
def parse (options : Options) (places : List Bool) (args : List String) :
    Except Refusal (List (Option String) × Option String) := do
  let marked ← marks options args
  let (left, taken) ← take options (marked.length + 1) places {} marked
  if left.any (!·) || taken.leftOver then .error .misuse
  else .ok (taken.values, taken.option)

end Arguments

end BlockScript
