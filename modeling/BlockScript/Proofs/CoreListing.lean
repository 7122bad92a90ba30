import BlockScript.Listing.Project
import BlockScript.Proofs.CoreLayout
import BlockScript.Proofs.Lexing

/-!
# Listings of core scripts

The part of the core language that survives being listed, and how it is listed.

A term, a condition or an item is *plain* (`isPlain`) if it is written with the numbers, the names
in ASCII, the comparisons `<`, `>` and `==`, and the two commands `move` and `say`. Items that do
nothing leave no block behind, so a listing cannot show them. `Item.tidy` leaves them out, except
that a body without any other item keeps one of them.

`Term.shown`, `Cond.shown` and `Item.lines` write plain data as text. The main results say that this
is what a listing shows of a table in which the data lies (`Term.Fills`, `Cond.Stands`,
`Item.Chain`): `Cond.reporterWithin_of_stands` and `Item.listed_of_chain`. The references that
are followed on the way are never more than the blocks of the script, so the bound on them is not
reached.
-/

namespace BlockScript

open Program Core.Term List Option Table Target Text Value

namespace Core

/-! ### Plain data -/

/-- A name in ASCII that is not a keyword. -/
def isPlainName (s : String) : Bool := Token.isWord s.toList && !Token.keywords.contains s

/-- A command with one argument. -/
structure Verb where
  function : String
  opcode : String
  input : String

/-- The plain commands. -/
def verbs : List Verb := [⟨"move", "motion_movesteps", "STEPS"⟩, ⟨"say", "looks_say", "MESSAGE"⟩]

/-- The plain command with the given block. -/
def verb? (opcode : String) : Option Verb := verbs.find? (·.opcode == opcode)

def Term.isPlain : Term → Bool
  | text _ => false
  | number i => decide (Binary64.digitCount i.natAbs ≤ Numeral.maxDigits)
  | named x => isPlainName x
  | operation _ left right => left.isPlain && right.isPlain

def Cond.isPlain : Cond → Bool
  | compare r left right => !r.negated && left.isPlain && right.isPlain
  | both _ left right => left.isPlain && right.isPlain
  | not c => c.isPlain

/-- The arguments are those of a plain command: one, and a plain one. -/
def Verb.takes (v : Verb) (inputs : List String) : List Term → Bool
  | [t] => inputs == [v.input] && t.isPlain
  | _ => false

mutual

def Item.isPlain : Item → Bool
  | call opcode inputs args => (verb? opcode).any (·.takes inputs args)
  | assign x t => isPlainName x && t.isPlain
  | change x t => isPlainName x && t.isPlain
  | choice c body orelse => c.isPlain && Item.arePlain body && Item.arePlain orelse
  | loop times body => times.isPlain && Item.arePlain body
  | skip => true

def Item.arePlain : Script → Bool
  | [] => true
  | i :: rest => i.isPlain && Item.arePlain rest

end

/-- A class is plain if its name and its scripts are, and it has no settings. -/
def Class.isPlain (c : Class) : Bool :=
  isPlainName c.name && c.settings.isNone && c.methods.all (Item.arePlain ·.body)

/-! ### Leaving out what does nothing -/

/-- A body is never empty. -/
def Item.filled : Script → Script
  | [] => [skip]
  | is => is

mutual

/-- The item without the parts that do nothing. -/
def Item.tidy : Item → Item
  | choice c body orelse =>
    choice c (Item.filled (Item.tidies body))
      (if orelse.isEmpty then [] else Item.filled (Item.tidies orelse))
  | loop times body => loop times (Item.filled (Item.tidies body))
  | call opcode inputs args => call opcode inputs args
  | assign x t => assign x t
  | change x t => change x t
  | skip => skip

/-- The script without the items that do nothing. -/
def Item.tidies : Script → Script
  | [] => []
  | i :: rest => if i.isSkip then Item.tidies rest else i.tidy :: Item.tidies rest

end

def Method.tidy (m : Method) : Method := { m with body := Item.filled (Item.tidies m.body) }

def Class.tidy (c : Class) : Class := { c with methods := c.methods.map Method.tidy }

/-! ### The text of plain data -/

def Arith.symbol : Arith → String
  | add => "+"
  | sub => "-"
  | mul => "*"
  | div => "/"
  | mod => "%"

def Relation.symbol : Relation → String
  | lt => "<"
  | gt => ">"
  | eq => "=="
  | ne => "!="
  | le => "<="
  | ge => ">="

/-- The word between two conditions. -/
def joiner : BoolOp → String
  | .and => "and"
  | .or => "or"

/-- A term as a listing shows it. -/
def Term.shown : Term → String
  | text s => Listing.between s
  | number i => toString i
  | named x => x
  | operation op left right => "(" ++ (left.shown ++ " " ++ op.symbol ++ " " ++ right.shown) ++ ")"

/-- A condition as a listing shows it. -/
def Cond.shown : Cond → String
  | compare r left right => left.shown ++ " " ++ r.symbol ++ " " ++ right.shown
  | both op left right => "(" ++ (left.shown ++ " " ++ joiner op ++ " " ++ right.shown) ++ ")"
  | not c => "not " ++ c.shown

/-- The function that is called for a block. -/
def functionName (opcode : String) : String := ((verb? opcode).map Verb.function).getD ""

mutual

/-- The lines of an item at a level of indentation. -/
def Item.lines (j : Nat) : Item → List String
  | call opcode _ args =>
    [Listing.margin j ++
      (functionName opcode ++ "(" ++ String.intercalate ", " (args.map Term.shown) ++ ")")]
  | assign x t => [Listing.margin j ++ x ++ " " ++ "=" ++ " " ++ t.shown]
  | change x t => [Listing.margin j ++ x ++ " " ++ "+=" ++ " " ++ t.shown]
  | choice c body orelse =>
    (Listing.margin j ++ ("if " ++ c.shown ++ ":")) :: Item.allLines (j + 1) body ++
      (if orelse.isEmpty then []
      else (Listing.margin j ++ "else:") :: Item.allLines (j + 1) orelse)
  | loop times body =>
    (Listing.margin j ++ ("for i in range(" ++ times.shown ++ "):")) :: Item.allLines (j + 1) body
  | skip => [Listing.margin j ++ "pass"]

def Item.allLines (j : Nat) : Script → List String
  | [] => []
  | i :: rest => i.lines j ++ Item.allLines j rest

end

end Core

/-! ### Looking into the data of a block -/

theorem Table.find?_map {α β : Type} (f : α → β) (t : Table α) (k : String) :
    find? (t.map fun (k, v) => (k, f v)) k = (t.find? k).map f := by
  induction t with
  | nil => rfl
  | cons p rest ih =>
    rw [map_cons, find?, find?, ih]
    split <;> rfl

/-- The inputs of a block as data. -/
def Block.inputsValue (b : Block) : Value := .dict (b.inputs.map fun (k, i) => (k, i.toValue))

/-- The fields of a block as data. -/
def Block.fieldsValue (b : Block) : Value := .dict (b.fields.map fun (k, f) => (k, f.toValue))

/-- What an input is filled with. -/
def Input.content? (i : Input) : Option Value := i.toValue.pair?.map Prod.snd

namespace Listing

variable {t : Table Block} {plugged : Plugged} {b : Block} {id name : String} {i : Input}

theorem blockOf_blocksValue (h : t.find? id = some b) :
    blockOf (blocksValue t) (.str id) = .ok b.toValue := by
  have hfind := Table.find?_map Block.toValue t id
  rw [h] at hfind
  simp only [blockOf, blocksValue, lookupD, hashable, if_true, hfind,
    map_some, getD_some]

theorem inputContent?_inputsValue (b : Block) (name : String) :
    inputContent? b.inputsValue (.str name) = .ok ((b.inputs.find? name).bind Input.content?) := by
  have hfind := Table.find?_map Input.toValue b.inputs name
  cases h : b.inputs.find? name with
  | none =>
    rw [h] at hfind
    simp [inputContent?, Block.inputsValue, Value.contains, hashable, has, hfind,
      bind, Except.bind]
  | some i =>
    rw [h] at hfind
    simp [inputContent?, Block.inputsValue, Value.contains, hashable, has, hfind,
      item, bind, Except.bind, Input.content?]

theorem inputText_number {s : String} (h : b.inputs.find? name = some (.literal (.number s))) :
    inputText plugged b.inputsValue (.str name) = numberText (.str s) := by
  rw [inputText, inputContent?_inputsValue, h]
  rfl

theorem inputText_reporter {l : Literal}
    (h : b.inputs.find? name = some (.reporter (some id) l)) :
    inputText plugged b.inputsValue (.str name) = plugged id := by
  rw [inputText, inputContent?_inputsValue, h]
  rfl

theorem inputText_block (h : b.inputs.find? name = some (.block id)) :
    inputText plugged b.inputsValue (.str name) = plugged id := by
  rw [inputText, inputContent?_inputsValue, h]
  rfl

theorem conditionText_block (h : b.inputs.find? name = some (.block id)) :
    conditionText plugged b.inputsValue (.str name) = plugged id := by
  rw [conditionText, inputContent?_inputsValue, h]
  rfl

theorem bodyId?_block (h : b.inputs.find? name = some (.block id)) :
    bodyId? b.inputsValue (.str name) = .ok (some id) := by
  rw [bodyId?, inputContent?_inputsValue, h]
  rfl

theorem bodyId?_none (h : b.inputs.find? name = none) :
    bodyId? b.inputsValue (.str name) = .ok none := by
  rw [bodyId?, inputContent?_inputsValue, h]
  rfl

theorem contains_dot {s : String} (h : Text.contains s ".") : '.' ∈ s.toList := by
  have hinfix : ∀ cs : List Char, isInfix ['.'] cs → '.' ∈ cs := by
    intro cs
    induction cs with
    | nil => simp [isInfix]
    | cons c cs ih =>
      intro h
      simp only [isInfix, Bool.or_eq_true] at h
      rcases h with h | h
      · simp at h
        simp [← h]
      · exact .tail _ (ih h)
  exact hinfix _ h

/-- A whole number is written as it is. -/
theorem numberText_toString {i : Int} (h : Binary64.digitCount i.natAbs ≤ Numeral.maxDigits) :
    numberText (.str (toString i)) = .ok (toString i) := by
  have hdot : ¬Text.contains (toString i) "." := by
    intro hdot
    rcases Numeral.mem_toString (contains_dot hdot) with hd | hd <;> revert hd <;> decide
  have htext : integerText i = .ok (toString i) := by
    rw [integerText, if_neg (by omega)]
  simp only [numberText, Value.text, bind, Except.bind, if_neg hdot, wholeNumber?,
    Numeral.int?_toString h, htext]

/-- A plain name is an identifier as it is. -/
theorem identifier_of_isPlainName {x : String} (h : Core.isPlainName x) :
    identifier x = x := by
  rw [Core.isPlainName, Bool.and_eq_true] at h
  have hword := h.1
  cases hx : x.toList with
  | nil => simp [hx, Token.isWord] at hword
  | cons c cs =>
    rw [hx, Token.isWord, Bool.and_eq_true, List.all_eq_true] at hword
    obtain ⟨hdigit, hall⟩ := hword
    have hkeep : ∀ a ∈ c :: cs, (if isAlnum a then a else '_') = a := by
      intro a ha
      have hascii := Token.isAscii_of_isWordAscii (hall a ha)
      have hchar := hall a ha
      rw [Token.isWordAscii, Bool.or_eq_true] at hchar
      rcases hchar with hchar | hchar
      · rw [isAlnum, if_pos hascii, if_pos hchar]
      · rw [beq_iff_eq.1 hchar]
        exact ite_self _
    have hchars : identifierChars x.toList = c :: cs := by
      rw [identifierChars, hx]
      exact (map_congr_left hkeep).trans (List.map_id _)
    have hstart : isDigit c = false := by
      rw [isDigit, if_pos (Token.isAscii_of_isWordAscii (hall c (.head _)))]
      simpa using hdigit
    rw [identifier, hchars, closeIdentifier, if_neg (by simp [hstart]), ← hx, String.ofList_toList]

/-! ### Expressions -/

theorem reporterWithin_of_find? (h : t.find? id = some b) (fuel : Nat) :
    reporterWithin (blocksValue t) (fuel + 1) id =
      reporterOf (reporterWithin (blocksValue t) fuel) b.toValue := by
  rw [reporterWithin, blockOf_blocksValue h]
  rfl

theorem reporterOf_toValue {p : Phrase} (h : reporters.find? b.opcode = some p) :
    reporterOf plugged b.toValue = phraseText plugged b.inputsValue b.fieldsValue p := by
  unfold reporterOf Block.toValue
  dsimp only [Value.getD, bind, Except.bind]
  split
  · next q hq =>
    cases some.inj (h.symm.trans hq)
    rfl
  · next hnone => cases h.symm.trans hnone

end Listing

/-- A block up to its links. -/
theorem Table.At.exists_links {t : Table Block} {id : Id} {b : Block} (h : t.At id b) :
    ∃ next parent, t.find? id = some { b with next, parent } := by
  obtain ⟨b', hfind, hlike⟩ := h
  exact ⟨b'.next, b'.parent, hlike ▸ hfind⟩

namespace Core

open Listing

variable {t : Table Block} {vs : List Variable}

/-- **An input that holds a term is listed as the term.** -/
theorem Term.inputText_of_fills {e : Term} (he : e.isPlain) :
    ∀ {i : Input}, e.Fills t vs i → ∀ {b : Block} {name : String},
      b.inputs.find? name = some i → ∀ {fuel : Nat}, e.size ≤ fuel →
        inputText (reporterWithin (blocksValue t) fuel) b.inputsValue (.str name) =
          .ok e.shown := by
  induction e with
  | text s => simp [isPlain] at he
  | number k =>
    rintro i rfl b name hfind fuel -
    rw [inputText_number hfind]
    exact numberText_toString (of_decide_eq_true he)
  | named x =>
    rintro i ⟨id, rfl, v, hv, hname, hat⟩ b name hfind fuel hfuel
    obtain ⟨next, parent, hblock⟩ := hat.exists_links
    obtain ⟨fuel, rfl⟩ : ∃ k, fuel = k + 1 := ⟨fuel - 1, by rw [size] at hfuel; omega⟩
    rw [inputText_reporter hfind, reporterWithin_of_find? hblock, reporterOf_toValue rfl]
    change Except.ok (identifier x) = _
    rw [identifier_of_isPlainName he]
    rfl
  | operation op l r ihl ihr =>
    rintro i ⟨id, rfl, il, ir, hat, hl, hr⟩ b name hfind fuel hfuel
    rw [isPlain, Bool.and_eq_true] at he
    rw [size] at hfuel
    obtain ⟨next, parent, hblock⟩ := hat.exists_links
    obtain ⟨fuel, rfl⟩ : ∃ k, fuel = k + 1 := ⟨fuel - 1, by omega⟩
    have hphrase : reporters.find? op.opcode = some (.operator "NUM1" op.symbol "NUM2" true) := by
      cases op <;> rfl
    rw [inputText_reporter hfind, reporterWithin_of_find? hblock, reporterOf_toValue hphrase,
      phraseText, ihl he.1 hl rfl (by omega), ihr he.2 hr rfl (by omega)]
    rfl

/-- **The block of a condition is listed as the condition.** -/
theorem Cond.reporterWithin_of_stands {c : Cond} (hc : c.isPlain) :
    ∀ {id : Id}, c.Stands t vs id → ∀ {fuel : Nat}, c.size ≤ fuel →
      reporterWithin (blocksValue t) fuel id = .ok c.shown := by
  induction c with
  | compare r l r' =>
    rintro id ⟨base, il, ir, hbase, hat, hl, hr⟩ fuel hfuel
    simp only [isPlain, Bool.and_eq_true, Bool.not_eq_true'] at hc
    obtain ⟨⟨hr', hpl⟩, hpr⟩ := hc
    rw [size] at hfuel
    rw [hr', if_neg (by decide)] at hbase
    obtain ⟨next, parent, hblock⟩ := hat.exists_links
    obtain ⟨fuel, rfl⟩ : ∃ k, fuel = k + 1 := ⟨fuel - 1, by omega⟩
    have hphrase : reporters.find? r.opcode =
        some (.operator "OPERAND1" r.symbol "OPERAND2" false) := by
      cases r <;> first | rfl | cases hr'
    rw [hbase, reporterWithin_of_find? hblock, reporterOf_toValue hphrase, phraseText,
      inputText_of_fills hpl hl rfl (by omega), inputText_of_fills hpr hr rfl (by omega)]
    rfl
  | both op l r ihl ihr =>
    rintro id ⟨il, ir, hat, hl, hr⟩ fuel hfuel
    rw [isPlain, Bool.and_eq_true] at hc
    rw [size] at hfuel
    obtain ⟨next, parent, hblock⟩ := hat.exists_links
    obtain ⟨fuel, rfl⟩ : ∃ k, fuel = k + 1 := ⟨fuel - 1, by omega⟩
    have hphrase : reporters.find? op.opcode =
        some (.operator "OPERAND1" (joiner op) "OPERAND2" true) := by
      cases op <;> rfl
    rw [reporterWithin_of_find? hblock, reporterOf_toValue hphrase, phraseText,
      inputText_block rfl, inputText_block rfl, ihl hc.1 hl (by omega), ihr hc.2 hr (by omega)]
    rfl
  | not c ih =>
    rintro id ⟨d, hat, hd⟩ fuel hfuel
    rw [isPlain] at hc
    rw [size] at hfuel
    obtain ⟨next, parent, hblock⟩ := hat.exists_links
    obtain ⟨fuel, rfl⟩ : ∃ k, fuel = k + 1 := ⟨fuel - 1, by omega⟩
    rw [reporterWithin_of_find? hblock, reporterOf_toValue rfl, phraseText, inputText_block rfl,
      ih hc hd (by omega)]
    rfl

/-! ### Lines -/

theorem margin_succ (j : Nat) : margin (j + 1 : Nat) = margin j ++ "    " := by
  rw [← String.toList_inj, String.toList_append, margin, margin,
    String.toList_ofList, String.toList_ofList, Int.toNat_natCast, Int.toNat_natCast,
    show 4 * (j + 1) = 4 * j + 4 by omega, ← replicate_append_replicate]
  rfl

theorem verb?_cases {opcode : String} {v : Verb} (h : verb? opcode = some v) :
    opcode = v.opcode ∧ v ∈ verbs := by
  have hmem := mem_of_find?_eq_some h
  have hopcode := find?_some h
  exact ⟨(beq_iff_eq.1 hopcode).symm, hmem⟩

/-- A plain command has one argument. -/
theorem exists_verb {opcode : String} {inputs : List String} {args : List Term}
    (h : (Item.call opcode inputs args).isPlain) :
    ∃ v ∈ verbs, ∃ t : Term, opcode = v.opcode ∧ inputs = [v.input] ∧ args = [t] ∧
      functionName opcode = v.function ∧ t.isPlain := by
  rw [Item.isPlain, Option.any_eq_true] at h
  obtain ⟨v, hv, htakes⟩ := h
  obtain ⟨hopcode, hmem⟩ := verb?_cases hv
  match args, htakes with
  | [t], htakes =>
    rw [Verb.takes, Bool.and_eq_true, beq_iff_eq] at htakes
    exact ⟨v, hmem, t, hopcode, htakes.1, rfl, by rw [functionName, hv]; rfl, htakes.2⟩

theorem isEmpty_filled (is : Script) : (Item.filled is).isEmpty = false := by
  cases is <;> rfl

theorem filled_of_ne_nil {is : Script} (h : is ≠ []) : Item.filled is = is := by
  cases is with
  | nil => exact absurd rfl h
  | cons i is => rfl

/-- What a listing shows of a chain that is the script: nothing if there is no block, else its
lines. -/
def Item.Listed (t : Table Block) (fuel j : Nat) (is : Script) : Option Id → Prop
  | none => Item.tidies is = []
  | some id => id ≠ "" ∧ Item.tidies is ≠ [] ∧
      chainWithin (Target.blocksValue t) fuel (.str id) j =
        .ok (Item.allLines j (Item.tidies is))

/-- A body is listed under its header. -/
theorem Item.Listed.withBody {fuel j : Nat} {body : Script} {first : Option Id}
    (h : Listed t fuel (j + 1) body first) {b : Block} {input : String}
    (hinput : b.inputs.find? input = first.map .block) (header : String) :
    Listing.withBody (chainWithin (blocksValue t) fuel) b.inputsValue input header j =
      .ok ((margin j ++ header) :: allLines (j + 1) (filled (tidies body))) := by
  cases first with
  | none =>
    have hpass : margin j ++ "    pass" = margin (j + 1 : Nat) ++ "pass" := by
      rw [margin_succ, String.append_assoc]
      rfl
    rw [Listing.withBody, bodyId?_none hinput, h, hpass]
    rfl
  | some id =>
    obtain ⟨hid, hne, hchain⟩ := h
    rw [Listing.withBody, bodyId?_block hinput, filled_of_ne_nil hne]
    change (if id.isEmpty = true then _ else (chainWithin _ fuel (.str id) (j + 1)).bind _) = _
    rw [if_neg (by simpa using hid)]
    change (chainWithin _ fuel (.str id) ((j + 1 : Nat) : Int)).bind _ = _
    rw [hchain]
    rfl

theorem reporter_blocksValue (t : Table Block) :
    reporter (blocksValue t) = reporterWithin (blocksValue t) (t.length + 1) := by
  have hbound : bound (blocksValue t) = t.length + 1 := by
    change (t.map fun p => (p.1, p.2.toValue)).length + 1 = _
    rw [List.length_map]
  rw [reporter, hbound]

variable {plugged : Plugged} {chained : Chained} {b : Block} {id : Id}

theorem blockLines_call {v : Verb} (hv : v ∈ verbs) (hb : b.opcode = v.opcode) {shown : String}
    (hshown : inputText plugged b.inputsValue (.str v.input) = .ok shown) (j : Int) :
    blockLines plugged chained b.toValue j =
      .ok [margin j ++ (v.function ++ "(" ++ shown ++ ")")] := by
  have hlines : blockLines plugged chained b.toValue j =
      (callText plugged b.inputsValue b.fieldsValue v.function [.input v.input]).bind
        fun s => .ok [margin j ++ s] := by
    obtain ⟨opcode⟩ := b
    cases hb
    simp only [verbs, mem_cons, not_mem_nil, or_false] at hv
    rcases hv with rfl | rfl <;> rfl
  have hargs : [Slot.input v.input].mapM (slotText plugged b.inputsValue b.fieldsValue) =
      .ok [some shown] := by
    rw [mapM_cons, mapM_nil, slotText, hshown]
    rfl
  rw [hlines, callText, hargs]
  simp only [bind, Except.bind, filterMap_cons, filterMap_nil, id_eq,
    String.intercalate_singleton]

/-- The two statements that store a value in a variable. -/
theorem blockLines_store {opcode symbol : String} (hb : b.opcode = opcode)
    (hstore : opcode = "data_setvariableto" ∧ symbol = "=" ∨
      opcode = "data_changevariableby" ∧ symbol = "+=") {x shown : String} (hx : isPlainName x)
    (hfield : b.fields = [("VARIABLE", .named x id)])
    (hshown : inputText plugged b.inputsValue (.str "VALUE") = .ok shown) (j : Int) :
    blockLines plugged chained b.toValue j =
      .ok [margin j ++ x ++ " " ++ symbol ++ " " ++ shown] := by
  have hlines : blockLines plugged chained b.toValue j =
      (fieldText b.fieldsValue (.str "VARIABLE")).bind fun name =>
        (inputText plugged b.inputsValue (.str "VALUE")).bind fun value =>
          .ok [margin j ++ identifier name ++ " " ++ symbol ++ " " ++ value] := by
    obtain ⟨opcode'⟩ := b
    cases hb
    rcases hstore with ⟨rfl, rfl⟩ | ⟨rfl, rfl⟩ <;> rfl
  have hname : fieldText b.fieldsValue (.str "VARIABLE") = .ok x := by
    rw [Block.fieldsValue, hfield]
    rfl
  rw [hlines, hname, hshown]
  change Except.ok [margin j ++ identifier x ++ " " ++ symbol ++ " " ++ shown] = _
  rw [identifier_of_isPlainName hx]

variable {j : Int} {lines : List String}

theorem blockLines_if (hb : b.opcode = "control_if") {c : String}
    (hc : conditionText plugged b.inputsValue (.str "CONDITION") = .ok c)
    (hbody : withBody chained b.inputsValue "SUBSTACK" ("if " ++ c ++ ":") j = .ok lines) :
    blockLines plugged chained b.toValue j = .ok lines := by
  have hlines : blockLines plugged chained b.toValue j =
      (conditionText plugged b.inputsValue (.str "CONDITION")).bind fun c =>
        withBody chained b.inputsValue "SUBSTACK" ("if " ++ c ++ ":") j := by
    obtain ⟨opcode⟩ := b
    cases hb
    rfl
  rw [hlines, hc]
  exact hbody

theorem blockLines_if_else (hb : b.opcode = "control_if_else") {c : String}
    {first second : List String}
    (hc : conditionText plugged b.inputsValue (.str "CONDITION") = .ok c)
    (hfirst : withBody chained b.inputsValue "SUBSTACK" ("if " ++ c ++ ":") j = .ok first)
    (hsecond : withBody chained b.inputsValue "SUBSTACK2" "else:" j = .ok second) :
    blockLines plugged chained b.toValue j = .ok (first ++ second) := by
  have hlines : blockLines plugged chained b.toValue j =
      (conditionText plugged b.inputsValue (.str "CONDITION")).bind fun c =>
        (withBody chained b.inputsValue "SUBSTACK" ("if " ++ c ++ ":") j).bind fun first =>
          (withBody chained b.inputsValue "SUBSTACK2" "else:" j).bind fun second =>
            .ok (first ++ second) := by
    obtain ⟨opcode⟩ := b
    cases hb
    rfl
  rw [hlines, hc]
  change (withBody chained b.inputsValue "SUBSTACK" ("if " ++ c ++ ":") j).bind _ = _
  rw [hfirst, hsecond]
  rfl

theorem blockLines_repeat (hb : b.opcode = "control_repeat") {times : String}
    (htimes : inputText plugged b.inputsValue (.str "TIMES") = .ok times)
    (hbody : withBody chained b.inputsValue "SUBSTACK"
      ("for i in range(" ++ times ++ "):") j = .ok lines) :
    blockLines plugged chained b.toValue j = .ok lines := by
  have hlines : blockLines plugged chained b.toValue j =
      (inputText plugged b.inputsValue (.str "TIMES")).bind fun times =>
        withBody chained b.inputsValue "SUBSTACK" ("for i in range(" ++ times ++ "):") j := by
    obtain ⟨opcode⟩ := b
    cases hb
    rfl
  rw [hlines, htimes]
  exact hbody

/-- A step along a chain. -/
theorem chainWithin_of_find? {fuel : Nat} (hid : id ≠ "") (hb : t.find? id = some b)
    (hlines : blockLines (reporter (blocksValue t)) (chainWithin (blocksValue t) fuel)
      b.toValue j = .ok lines) : chainWithin (blocksValue t) (fuel + 1) (.str id) j =
      match b.next with
      | none => .ok lines
      | some next =>
        if next = "" then .ok lines
        else (chainWithin (blocksValue t) fuel (.str next) j).map (lines ++ ·) := by
  rw [chainWithin, if_neg (by simpa [truthy] using hid), blockOf_blocksValue hb]
  change (blockLines (reporter (blocksValue t)) (chainWithin (blocksValue t) fuel)
    b.toValue j).bind _ = _
  rw [hlines]
  have hnext : b.toValue.get "next" = .ok (Id.optionValue b.next) := rfl
  simp only [Except.bind, bind, hnext]
  cases b.next with
  | none => rfl
  | some next =>
    change (if (!next.isEmpty) = true then
      (chainWithin (blocksValue t) fuel (.str next) j).bind fun rest => .ok (lines ++ rest)
      else .ok lines) = _
    by_cases hempty : next = ""
    · rw [hempty]
      rfl
    · rw [if_pos (by simpa using hempty)]
      dsimp only
      rw [if_neg hempty]
      cases chainWithin (blocksValue t) fuel (.str next) j <;> rfl

theorem Item.size_pos {i : Item} (h : i.isSkip = false) : 0 < i.size := by
  cases i <;> first | (rw [size]; omega) | cases h

theorem ne_empty_of_find? (hkeys : "" ∉ t.keys) (h : t.find? id = some b) : id ≠ "" := by
  rintro rfl
  rw [find?_eq_none_iff.2 hkeys] at h
  cases h

mutual

/-- **A block that is an item is listed as the item.** -/
theorem Item.blockLines_of_lies (hkeys : "" ∉ t.keys) :
    ∀ {i : Item}, i.isPlain → i.isSkip = false → ∀ {id : Id} {b : Block},
      t.find? id = some b → i.Lies t vs id → ∀ {fuel : Nat}, i.size ≤ fuel + 1 →
        i.size ≤ t.length → ∀ j : Nat,
          blockLines (reporter (blocksValue t)) (chainWithin (blocksValue t) fuel)
            b.toValue j = .ok (i.tidy.lines j)
  | .call opcode inputs args, hi, _, id, b, hb, hlies, fuel, _, hsize, j => by
    rw [isPlain] at hi
    obtain ⟨v, hv, htakes⟩ := (Option.any_eq_true _ _).1 hi
    obtain ⟨rfl, hmem⟩ := verb?_cases hv
    rw [Verb.takes.eq_def] at htakes
    split at htakes
    · next e =>
      rw [Bool.and_eq_true, beq_iff_eq] at htakes
      obtain ⟨rfl, he⟩ := htakes
      rw [Lies] at hlies
      simp only [size, sizeInTurn] at hsize
      obtain ⟨filled, hat, i, rest, rfl, hfills, -⟩ := hlies
      obtain ⟨next, parent, hblock⟩ := hat.exists_links
      obtain rfl := some.inj (hb.symm.trans hblock)
      have hfind : Table.find? ((v.input, i) :: rest) v.input = some i := if_pos rfl
      rw [reporter_blocksValue, blockLines_call hmem rfl
        (inputText_of_fills he hfills hfind (by omega)) j, tidy, lines,
        functionName, hv, map_cons, map_nil, String.intercalate_singleton]
      rfl
    · cases htakes
  | .assign x e, hi, _, id, b, hb, hlies, fuel, _, hsize, j => by
    rw [isPlain, Bool.and_eq_true] at hi
    rw [Lies] at hlies
    rw [size] at hsize
    obtain ⟨v, -, -, i, hat, hfills⟩ := hlies
    obtain ⟨next, parent, hblock⟩ := hat.exists_links
    obtain rfl := some.inj (hb.symm.trans hblock)
    rw [reporter_blocksValue]
    exact blockLines_store rfl (.inl ⟨rfl, rfl⟩) hi.1 rfl
      (inputText_of_fills hi.2 hfills rfl (by omega)) j
  | .change x e, hi, _, id, b, hb, hlies, fuel, _, hsize, j => by
    rw [isPlain, Bool.and_eq_true] at hi
    rw [Lies] at hlies
    rw [size] at hsize
    obtain ⟨v, -, -, i, hat, hfills⟩ := hlies
    obtain ⟨next, parent, hblock⟩ := hat.exists_links
    obtain rfl := some.inj (hb.symm.trans hblock)
    rw [reporter_blocksValue]
    exact blockLines_store rfl (.inr ⟨rfl, rfl⟩) hi.1 rfl
      (inputText_of_fills hi.2 hfills rfl (by omega)) j
  | .choice c body orelse, hi, _, id, b, hb, hlies, fuel, hfuel, hsize, j => by
    simp only [isPlain, Bool.and_eq_true] at hi
    obtain ⟨⟨hc, hbody⟩, horelse⟩ := hi
    rw [Lies] at hlies
    rw [size] at hsize hfuel
    obtain ⟨d, first, second, hat, hd, hfirst, hsecond⟩ := hlies
    obtain ⟨next, parent, hblock⟩ := hat.exists_links
    obtain rfl := some.inj (hb.symm.trans hblock)
    have hbody' : Listed t fuel (j + 1) body first :=
      listed_of_chain hkeys hbody hfirst (by omega) (by omega) (j + 1)
    have horelse' : Listed t fuel (j + 1) orelse second :=
      listed_of_chain hkeys horelse hsecond (by omega) (by omega) (j + 1)
    have hcond : reporterWithin (blocksValue t) (t.length + 1) d = .ok c.shown :=
      Cond.reporterWithin_of_stands hc hd (by omega)
    rw [reporter_blocksValue, tidy, lines]
    cases orelse with
    | nil =>
      obtain rfl : second = none := hsecond
      rw [blockLines_if rfl ((conditionText_block rfl).trans hcond)
        (hbody'.withBody (by cases first <;> rfl) _)]
      simp
    | cons o os =>
      rw [blockLines_if_else rfl ((conditionText_block rfl).trans hcond)
        (hbody'.withBody (by cases first <;> cases second <;> rfl) _)
        (horelse'.withBody (by cases first <;> cases second <;> rfl) _)]
      simp only [isEmpty_cons, Bool.false_eq_true, if_false, isEmpty_filled]
  | .loop times body, hi, _, id, b, hb, hlies, fuel, hfuel, hsize, j => by
    rw [isPlain, Bool.and_eq_true] at hi
    rw [Lies] at hlies
    rw [size] at hsize hfuel
    obtain ⟨i, first, hat, htimes, hfirst⟩ := hlies
    obtain ⟨next, parent, hblock⟩ := hat.exists_links
    obtain rfl := some.inj (hb.symm.trans hblock)
    have hbody : Listed t fuel (j + 1) body first :=
      listed_of_chain hkeys hi.2 hfirst (by omega) (by omega) (j + 1)
    rw [reporter_blocksValue, blockLines_repeat rfl
      (inputText_of_fills hi.1 htimes rfl (by omega))
      (hbody.withBody (by cases first <;> rfl) _), tidy, lines]
  | .skip, _, hskip, _, _, _, _, _, _, _, _ => by
    cases hskip

/-- **A chain that is a script is listed as the script.** -/
theorem Item.listed_of_chain (hkeys : "" ∉ t.keys) :
    ∀ {is : Script}, arePlain is → ∀ {first : Option Id}, Chain t vs is first →
      ∀ {fuel : Nat}, sizes is ≤ fuel → sizes is ≤ t.length → ∀ j : Nat,
        Listed t fuel j is first
  | [], _, first, hchain, _, _, _, _ => by
    rw [Chain] at hchain
    rw [hchain]
    rfl
  | i :: rest, his, first, hchain, fuel, hfuel, hsize, j => by
    rw [arePlain, Bool.and_eq_true] at his
    rw [sizes] at hfuel hsize
    rw [Chain] at hchain
    split at hchain
    · next hskip =>
      have hrest : Listed t fuel j rest first :=
        listed_of_chain hkeys his.2 hchain (by omega) (by omega) j
      cases first <;> simpa only [Listed, tidies, hskip, if_true] using hrest
    · next hskip =>
      obtain ⟨id, b, rfl, hb, hlies, hrest⟩ := hchain
      have hskip : i.isSkip = false := by simpa using hskip
      have hid := ne_empty_of_find? hkeys hb
      have hpos : 0 < i.size := size_pos hskip
      obtain ⟨fuel, rfl⟩ : ∃ k, fuel = k + 1 := ⟨fuel - 1, by omega⟩
      have hlines : blockLines (reporter (blocksValue t))
          (chainWithin (blocksValue t) fuel) b.toValue j = .ok (i.tidy.lines j) :=
        blockLines_of_lies hkeys his.1 hskip hb hlies (by omega) (by omega) j
      have hnext : Listed t fuel j rest b.next :=
        listed_of_chain hkeys his.2 hrest (by omega) (by omega) j
      have htidies : tidies (i :: rest) = i.tidy :: tidies rest := by
        rw [tidies, if_neg (by simp [hskip])]
      refine ⟨hid, by rw [htidies]; exact cons_ne_nil _ _, ?_⟩
      rw [chainWithin_of_find? hid hb hlines, htidies, allLines]
      cases hb' : b.next with
      | none =>
        rw [hb'] at hnext
        have hnil : tidies rest = [] := hnext
        rw [hnil, allLines, append_nil]
      | some next =>
        rw [hb'] at hnext
        obtain ⟨hne, -, hchain⟩ := hnext
        dsimp only
        rw [if_neg hne, hchain]
        rfl

end

end Core

end BlockScript
