import BlockScript.Proofs.CallJoints

/-!
# Quiet expressions

An expression is *quiet* if no call in it makes a statement: the functions that it calls are commands
with a value, or have no meaning at all (`Program.Expr.isQuiet`). A quiet expression makes no
statement, and any other one makes statements that go on below each other
(`Program.Expr.meaning_passes`).
-/

namespace BlockScript

open Build List Meaning

namespace Program

mutual

/-- Whether no call in an expression makes a statement, where the given procedures are known. The
arguments of a function without a meaning are not looked at. -/
def Expr.isQuiet (K : List String) : Expr → Bool
  | .const _ => true
  | .name _ => true
  | .unary _ e => e.isQuiet K
  | .binary _ left right => left.isQuiet K && right.isQuiet K
  | .bool _ operands => areQuiet K operands
  | .compare left _ right _ => left.isQuiet K && right.isQuiet K
  | .call function args _ => function.functionName?.all (isQuietCall K) && areQuiet K args
  | .attribute owner _ => owner.isQuiet K
  | .subscript owner index => owner.isQuiet K && index.isQuiet K
  | .starred e => e.isQuiet K
  | .list items => areQuiet K items
  | .tuple items => areQuiet K items
  | .other parts => areQuiet K parts

def areQuiet (K : List String) : List Expr → Bool
  | [] => true
  | e :: es => e.isQuiet K && areQuiet K es

end

variable {K : List String} {loud : Prop}

mutual

theorem Expr.isQuiet_calls : ∀ e : Expr, e.isQuiet K → ∀ c ∈ e.calls, isQuietCall K c.1
  | .const _, _ => forall_mem_nil _
  | .name _, _ => forall_mem_nil _
  | .unary _ e, h => e.isQuiet_calls h
  | .binary _ left right, h => by
    rw [Expr.isQuiet, Bool.and_eq_true] at h
    exact forall_mem_append.2 ⟨left.isQuiet_calls h.1, right.isQuiet_calls h.2⟩
  | .bool _ operands, h => areQuiet_calls operands h
  | .compare left _ right _, h => by
    rw [Expr.isQuiet, Bool.and_eq_true] at h
    exact forall_mem_append.2 ⟨left.isQuiet_calls h.1, right.isQuiet_calls h.2⟩
  | .call function args _, h => by
    rw [Expr.isQuiet, Bool.and_eq_true] at h
    refine forall_mem_append.2 ⟨fun c hc => ?_, areQuiet_calls args h.2⟩
    obtain ⟨name, hname, rfl⟩ := Option.map_eq_some_iff.1 (Option.mem_toList.1 hc)
    rw [hname] at h
    exact h.1
  | .attribute owner _, h => owner.isQuiet_calls h
  | .subscript owner index, h => by
    rw [Expr.isQuiet, Bool.and_eq_true] at h
    exact forall_mem_append.2 ⟨owner.isQuiet_calls h.1, index.isQuiet_calls h.2⟩
  | .starred e, h => e.isQuiet_calls h
  | .list items, h => areQuiet_calls items h
  | .tuple items, h => areQuiet_calls items h
  | .other parts, h => areQuiet_calls parts h

theorem areQuiet_calls : ∀ es : List Expr, areQuiet K es → ∀ c ∈ callsIn es, isQuietCall K c.1
  | [], _ => forall_mem_nil _
  | e :: es, h => by
    rw [areQuiet, Bool.and_eq_true] at h
    exact forall_mem_append.2 ⟨e.isQuiet_calls h.1, areQuiet_calls es h.2⟩

end

/-- A call does as it should if it makes no statement or statements are allowed. -/
theorem callsMean_joints :
    (View.joints K loud).CallsMean fun name _ => loud ∨ isQuietCall K name := by
  intro name args hcall hargs w _
  have hargs : ∀ m ∈ args, m.Passes K loud := fun m hm => passes_iff.2 (hargs m hm)
  have hpass : Passes K loud [] (call name args) := by
    rcases hcall with hloud | hquiet
    · exact Goes.mono (proceeds_call name hargs) (fun _ => trivial) fun _ _ h => ⟨hloud, h.1⟩
    · exact passes_call hquiet hargs
  exact View.joints_passes hpass fun r _ _ => ⟨r, rfl⟩

/-- **Only loud expressions make statements.** -/
theorem Expr.meaning_passes (e : Expr) (h : loud ∨ e.isQuiet K) : e.meaning.Passes K loud :=
  passes_iff.2 ((View.joints_lawful K loud).meaning_means callsMean_joints e
    fun c hc => h.imp_right fun h => e.isQuiet_calls h c hc)

theorem meanings_pass (es : List Expr) (h : loud ∨ areQuiet K es) :
    ∀ m ∈ meanings es, m.Passes K loud := fun m hm =>
  passes_iff.2 ((View.joints_lawful K loud).meanings_mean callsMean_joints es
    (fun c hc => h.imp_right fun h => areQuiet_calls es h c hc) m hm)

/-- An expression that is a statement of its own: a call of a command, or a quiet one. -/
def Expr.isPlain (K : List String) : Expr → Bool
  | .call _ args _ => areQuiet K args
  | e => e.isQuiet K

/-- Whether an expression makes a statement for sure. -/
def Expr.isSure (K : List String) : Expr → Bool
  | .call function _ _ => function.functionName?.any (isSureCall K)
  | _ => false

theorem Expr.effect_proceeds (e : Expr) (h : loud ∨ e.isPlain K) :
    Proceeds K (e.isSure K = false) loud [] e.meaning.effect := by
  have hother (hsure : e.isSure K = false) (h : loud ∨ e.isQuiet K) :
      Proceeds K (e.isSure K = false) loud [] e.meaning.effect :=
    Goes.mono (e.meaning_passes h).effect.proceeds (fun _ => hsure) fun _ _ h => h
  cases e with
  | call function args keywords =>
    have hargs := meanings_pass args h
    change Proceeds K (function.functionName?.any (isSureCall K) = false) loud []
      (do let _ ← called function.functionName? (meanings args))
    cases function.functionName? with
    | none => exact Goes.mono (passes_pure _).proceeds (fun _ => rfl) fun _ _ h => h
    | some name => exact (proceeds_call name hargs).bind fun _ => passes_pure _
  | _ => exact hother rfl h

/-- The count of a loop is quiet. -/
def Expr.hasQuietCount (K : List String) : Expr → Bool
  | .call (.name "range") (count :: _) _ => count.isQuiet K
  | _ => true

theorem Expr.times_passes (e : Expr) (h : loud ∨ e.hasQuietCount K) :
    Passes K loud [] e.times := by
  unfold times
  unfold hasQuietCount at h
  split
  · exact (meaning_passes _ h).operand
  · exact passes_pure _

end Program

end BlockScript
