import BlockScript.Fault
import BlockScript.Table

/-!
# Signatures

What a call has to give: parameters with their names, some of them with a value to use if nothing is
given, some of them only by name. `Signature.bind` puts the arguments of a call in the places of the
parameters, or refuses the call.
-/

namespace BlockScript

/-- One thing that a call gives. -/
structure Parameter (α : Type) where
  name : String
  /-- What is used if nothing is given. -/
  fallback : Option α := none
  byName : Bool := false

/-- The parameters of a call in order; those given by name only come last. -/
abbrev Signature (α : Type) := List (Parameter α)

namespace Signature

variable {α : Type}

/-- The values of the parameters: what is given in order, else what is given by name, else the
fallback. -/
def fill : Signature α → List α → Table α → Except Fault (List α)
  | [], _, _ => .ok []
  | p :: rest, args, named => do
    let (value, args) ←
      match args, named.find? p.name, p.fallback with
      | _ :: _, some _, _ =>
        .error (.wrongType ("got multiple values for argument '" ++ p.name ++ "'"))
      | v :: args, none, _ => .ok (v, args)
      | [], some v, _ => .ok (v, [])
      | [], none, some v => .ok (v, [])
      | [], none, none => .error (.wrongType ("missing a required argument: '" ++ p.name ++ "'"))
    let values ← fill rest args named
    .ok (value :: values)

/-- The values of the parameters in a call. -/
def bind (s : Signature α) (args : List α) (named : Table α) : Except Fault (List α) :=
  if (s.filter (!·.byName)).length < args.length then
    .error (.wrongType "too many positional arguments")
  else match named.keys.find? fun k => s.all (·.name != k) with
    | some k => .error (.wrongType ("got an unexpected keyword argument '" ++ k ++ "'"))
    | none => fill s args named

end Signature

end BlockScript
