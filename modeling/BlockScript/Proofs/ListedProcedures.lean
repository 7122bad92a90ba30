import BlockScript.Proofs.HatNames
import BlockScript.Proofs.UsableNames

/-!
# Procedures in listings

The method of a procedure and the calls of the procedure are written by themselves, and meet in their
names: both take the first word of the code that definition and calls have in common
(`Listing.script_of_defines`, `Listing.blockLines_of_calls`).

They need not meet in anything else. Codes that differ only after their first words give methods of
the same name. And a call passes over the arguments for which it has no input, so that all later ones
move up: it has an argument for every parameter only if no input is missing
(`Listing.calls_match_iff`).
-/

namespace BlockScript

open Listing.Print String

namespace Listing

/-- The name of a procedure in a listing: the first word of its code. -/
def procedureName? (code : String) : Option String :=
  ((Text.words code.toList).map String.ofList).head?

/-- The block defines a procedure with the given code and parameters. -/
structure Defines (blocks hat : Value) (code : String) (names : List String) : Prop where
  opcode : hat.get "opcode" = .ok (.str "procedures_definition")
  prototype : ∃ mutation text, prototypeMutation? blocks hat = .ok (some mutation) ∧
    mutation.get "proccode" = .ok (.str code) ∧ mutation.get "argumentnames" = .ok (.str text) ∧
      Json.read text = .ok (.list (names.map .str))

/-- The block calls a procedure with the given code and arguments, some of which have inputs. -/
structure Calls (call : Value) (code : String) (ids : List String) (inputs : Table Value) :
    Prop where
  opcode : call.get "opcode" = .ok (.str "procedures_call")
  inputs : call.get "inputs" = .ok (.dict inputs)
  mutation : ∃ mutation text, call.get "mutation" = .ok mutation ∧
    mutation.get "proccode" = .ok (.str code) ∧ mutation.get "argumentids" = .ok (.str text) ∧
      Json.read text = .ok (.list (ids.map .str))

section Texts

variable {v : Value} {key s : String}

theorem getD_of_get_str (h : v.get key = .ok (.str s)) (other : Value) :
    v.getD key other = .ok (.str s) := getD_of_get h Value.noConfusion

/-- What can be asked for one key can be asked for every key. -/
theorem exists_getD {x : Value} (h : v.get key = .ok x) (other : String) (fallback : Value) :
    ∃ y, v.getD other fallback = .ok y := by
  cases v with
  | dict entries => exact ⟨_, rfl⟩
  | _ => cases h

theorem exists_procedureWords {code name : String} (h : v.get "proccode" = .ok (.str code))
    (hname : procedureName? code = some name) : ∃ rest, procedureWords v = .ok (name :: rest) := by
  obtain ⟨rest, hwords⟩ := List.head?_eq_some_iff.1 hname
  refine ⟨rest, ?_⟩
  rw [procedureWords, getD_of_get_str h, ← hwords]
  rfl

end Texts

/-! ### Definitions -/

section Definitions

variable {blocks hat : Value} {code name : String} {names : List String}

theorem Defines.methodName_eq (h : Defines blocks hat code names)
    (hname : procedureName? code = some name) : methodName blocks hat = .ok ("define_" ++ name) := by
  obtain ⟨mutation, text, hprototype, hcode, -⟩ := h.prototype
  obtain ⟨fields, hfields⟩ := exists_getD h.opcode "fields" (.dict [])
  obtain ⟨rest, hwords⟩ := exists_procedureWords hcode hname
  simp only [methodName, getD_of_get_str h.opcode, hfields, hprototype, hwords, bind, Except.bind]

theorem Defines.methodParams_eq (h : Defines blocks hat code names) :
    methodParams blocks hat = .ok (.list (names.map .str)) := by
  obtain ⟨mutation, text, hprototype, -, hnames, hread⟩ := h.prototype
  simp only [methodParams, getD_of_get_str h.opcode, hprototype, getD_of_get_str hnames, bind,
    Except.bind, jsonList, hread]

theorem joinTexts_str (names : List String) :
    joinTexts (.list (names.map .str)) = .ok (intercalate ", " names) := by
  have hiterate : (Value.list (names.map .str)).iterate = .ok (names.map .str) := rfl
  rw [joinTexts, hiterate]
  dsimp only
  rw [textsFrom_str]
  rfl

/-- **The method of a procedure** has its name and its parameters. -/
theorem script_of_defines (h : Defines blocks hat code names)
    (hname : procedureName? code = some name) {id next : Value} {body : List String}
    (hhat : blockOf blocks id = .ok hat) (hnext : hat.get "next" = .ok next)
    (hbody : (if next.truthy then chain blocks next 2 else .ok []) = .ok body) :
    Gives (script blocks id) (intercalate "\n"
      (("    def " ++ ("define_" ++ name) ++ "(" ++ intercalate ", " ("self" :: names) ++ "):")
        :: if body.isEmpty then ["        pass"] else body)) := by
  have hheader : (if (Value.list (names.map .str)).truthy then do
        let ts ← joinTexts (.list (names.map .str))
        .ok ("    def " ++ ("define_" ++ name) ++ "(self, " ++ ts ++ "):")
      else .ok ("    def " ++ ("define_" ++ name) ++ "(self):") : Except Fault String) =
      .ok ("    def " ++ ("define_" ++ name) ++ "(" ++
        intercalate ", " ("self" :: names) ++ "):") := by
    cases names with
    | nil =>
      have hself (s : String) : s ++ "(" ++ intercalate ", " ["self"] ++ "):" =
          s ++ "(self):" := by
        rw [append_assoc, append_assoc]
        rfl
      rw [hself]
      rfl
    | cons first rest =>
      have hself (s t : String) : s ++ "(" ++ ("self" ++ ", " ++ t) ++ "):" =
          s ++ "(self, " ++ t ++ "):" := by
        rw [show "(self, " = "(" ++ ("self" ++ ", ") by decide]
        simp only [append_assoc]
      have htexts := joinTexts_str (first :: rest)
      rw [intercalate_cons_cons, hself, htexts]
      rfl
  have hne : ¬("define_" ++ name).isEmpty := by simp
  refine gives_bind (gives_lift hhat) ?_
  refine gives_bind (gives_lift (h.methodName_eq hname)) ?_
  rw [if_neg hne]
  refine gives_bind (gives_lift h.methodParams_eq) ?_
  refine gives_bind (gives_modify _) ?_
  refine gives_bind (gives_lift hheader) ?_
  refine gives_bind (gives_lift hnext) ?_
  refine gives_bind (gives_lift hbody) ?_
  exact gives_pure _

end Definitions

/-! ### Calls -/

section Calls

variable {plugged : Plugged} {call : Value} {code name : String} {ids : List String}
  {inputs : Table Value}

/-- The arguments that are written are those that have inputs. -/
theorem procedureArguments_eq (plugged : Plugged) (inputs : Table Value) (ids : List String) :
    procedureArguments plugged (.dict inputs) (ids.map .str) =
      (ids.filter inputs.has).mapM fun id => inputText plugged (.dict inputs) (.str id) := by
  induction ids with
  | nil => rfl
  | cons id ids ih =>
    have hcontains : (Value.dict inputs).contains (.str id) = .ok (inputs.has id) := rfl
    rw [List.map_cons, procedureArguments, hcontains, ih, List.filter_cons]
    cases inputs.has id with
    | false => rfl
    | true =>
      rw [if_pos rfl, List.mapM_cons]
      rfl

/-- **A call of a procedure** has its name, and the values of the arguments that have inputs. -/
theorem blockLines_of_calls (h : Calls call code ids inputs)
    (hname : procedureName? code = some name) (plugged : Plugged) (chained : Chained)
    (indent : Int) :
    blockLines plugged chained call indent =
      ((ids.filter inputs.has).mapM fun id => inputText plugged (.dict inputs) (.str id)).map
        fun args => [margin indent ++ name ++ "(" ++ intercalate ", " args ++ ")"] := by
  obtain ⟨mutation, text, hmutation, hcode, hids, hread⟩ := h.mutation
  obtain ⟨fields, hfields⟩ := exists_getD h.opcode "fields" (.dict [])
  obtain ⟨rest, hwords⟩ := exists_procedureWords hcode hname
  have hmutation' : call.getD "mutation" (.dict []) = .ok mutation :=
    getD_of_get hmutation fun hnull => by rw [hnull] at hcode; cases hcode
  have hinputs : call.getD "inputs" (.dict []) = .ok (.dict inputs) :=
    getD_of_get h.inputs Value.noConfusion
  have hiterate : (Value.list (ids.map .str)).iterate = .ok (ids.map .str) := rfl
  simp only [blockLines, getD_of_get_str h.opcode, hinputs, hfields, procedureCall, hmutation',
    hwords, getD_of_get_str hids, jsonList, hread, hiterate, procedureArguments_eq, bind, Except.bind]
  cases (ids.filter inputs.has).mapM fun id => inputText plugged (.dict inputs) (.str id) <;> rfl

end Calls

/-- **Methods and calls of procedures.** The method and the calls of a procedure have the same name,
up to `define_`. Other methods have it too, namely those of procedures with the same first word. A call
has the values of the arguments with inputs, one for each parameter exactly if no input is missing. -/
theorem calls_match_iff {blocks hat call : Value} {code name : String} {names ids : List String}
    {inputs : Table Value} (hd : Defines blocks hat code names) (hc : Calls call code ids inputs)
    (hname : procedureName? code = some name) :
    (∀ id next body, blockOf blocks id = .ok hat → hat.get "next" = .ok next →
      (if next.truthy then chain blocks next 2 else .ok []) = .ok body →
      Print.Gives (script blocks id) (String.intercalate "\n"
        (("    def " ++ ("define_" ++ name) ++ "(" ++ String.intercalate ", " ("self" :: names) ++
          "):") :: if body.isEmpty then ["        pass"] else body))) ∧
    (∀ plugged chained indent, blockLines plugged chained call indent =
      ((ids.filter inputs.has).mapM fun id => inputText plugged (.dict inputs) (.str id)).map
        fun args => [margin indent ++ name ++ "(" ++ String.intercalate ", " args ++ ")"]) ∧
    (ids.length = names.length →
      ((ids.filter inputs.has).length = names.length ↔ ∀ id ∈ ids, inputs.has id = true)) ∧
    ∀ hat' code' names' name', Defines blocks hat' code' names' → procedureName? code' = some name' →
      (methodName blocks hat' = methodName blocks hat ↔ name' = name) := by
  refine ⟨fun id next body => script_of_defines hd hname, blockLines_of_calls hc hname,
    fun hlength => ?_, fun hat' code' names' name' hd' hname' => ?_⟩
  · rw [← hlength]
    exact List.length_filter_eq_length_iff
  · rw [hd.methodName_eq hname, hd'.methodName_eq hname', Except.ok.injEq, String.append_right_inj]

/-- A procedure with two parameters, and one with a code that starts with the same word. -/
def leapBlocks : Value :=
  .dict [("d", .dict [("opcode", .str "procedures_definition"), ("next", .null),
      ("inputs", .dict [("custom_block", .list [.int 1, .str "p"])])]),
    ("p", .dict [("mutation", .dict [("proccode", .str "leap %s %s"),
      ("argumentnames", .str "[\"high\", \"far\"]")])]),
    ("e", .dict [("opcode", .str "procedures_definition"), ("next", .null),
      ("inputs", .dict [("custom_block", .list [.int 1, .str "q"])])]),
    ("q", .dict [("mutation", .dict [("proccode", .str "leap back"),
      ("argumentnames", .str "[]")])])]

/-- A call of the procedure with the given inputs. -/
def leapCall (inputs : Table Value) : Value :=
  .dict [("opcode", .str "procedures_call"), ("inputs", .dict inputs),
    ("mutation", .dict [("proccode", .str "leap %s %s"), ("argumentids", .str "[\"a\", \"b\"]")])]

def highInput : String × Value := ("a", .list [.int 1, .list [.int 10, .str "4"]])

def farInput : String × Value := ("b", .list [.int 1, .list [.int 10, .str "5"]])

theorem leap_defined :
    ∃ hat, blockOf leapBlocks (.str "d") = .ok hat ∧ hat.get "next" = .ok .null ∧
      Defines leapBlocks hat "leap %s %s" ["high", "far"] :=
  ⟨_, rfl, rfl, rfl, _, _, rfl, rfl, rfl, rfl⟩

theorem leap_called (inputs : Table Value) :
    Calls (leapCall inputs) "leap %s %s" ["a", "b"] inputs :=
  ⟨rfl, rfl, _, _, rfl, rfl, rfl, rfl⟩

theorem calls_match_leap :
    Print.Gives (script leapBlocks (.str "d"))
        "    def define_leap(self, high, far):\n        pass" ∧
      block leapBlocks (leapCall [highInput, farInput]) 2 = .ok ["        leap(\"4\", \"5\")"] := by
  obtain ⟨hat, hhat, hnext, hd⟩ := leap_defined
  obtain ⟨hmethod, hcall, -⟩ := calls_match_iff hd (leap_called [highInput, farInput]) rfl
  exact ⟨hmethod _ _ [] hhat hnext rfl, (hcall _ _ 2).trans rfl⟩

/-- The call lacks its first argument, and the second one takes its place; the two methods have one
name. -/
theorem argument_lost_leap :
    block leapBlocks (leapCall [farInput]) 2 = .ok ["        leap(\"5\")"] ∧
      (blockOf leapBlocks (.str "e")).bind (methodName leapBlocks) =
        (blockOf leapBlocks (.str "d")).bind (methodName leapBlocks) := ⟨rfl, rfl⟩

end Listing

end BlockScript
