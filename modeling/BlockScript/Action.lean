import BlockScript.Bytes

/-!
# Actions

Reading and writing projects deals with files, a network and a screen. An `Action` says what to do
with them and does nothing by itself: it is a tree that is either finished, with a result or a
fault, or asks for one thing and goes on with the answer. Who answers is not part of it. The command
line answers from the real computer, and `Host` answers from a description of one, so that what an
action does can be stated and proved.
-/

namespace BlockScript

/-- What a server says when it is asked for a file. -/
inductive Reply where
  | contents (b : Bytes)
  /-- The file is refused with a number. -/
  | status (code : Int)
  /-- There is no server, or it does not speak. -/
  | broken

/-- One thing that an action can ask for. -/
inductive Request where
  | present (path : String)
  /-- The contents of a file. -/
  | read (path : String)
  /-- Replaces the contents of a file, which is created if necessary. -/
  | write (path : String) (contents : Bytes)
  | makeDirectory (path : String)
  /-- Asks a server for a file. -/
  | fetch (url : String)
  | pause (seconds : Nat)
  | print (line : String)
  | workingDirectory

def Request.Answer : Request → Type
  | present _ => Bool
  | read _ => Except Fault Bytes
  | write _ _ => Except Fault Unit
  | makeDirectory _ => Except Fault Unit
  | fetch _ => Reply
  | pause _ => Unit
  | print _ => Unit
  | workingDirectory => String

/-- Something to do that ends with a value or a fault. -/
inductive Action (α : Type) where
  | done (result : Except Fault α)
  | ask (request : Request) (next : request.Answer → Action α)

namespace Action

variable {α β : Type}

/-- Goes on with the result of a first action, whatever it is. -/
def andThen : Action α → (Except Fault α → Action β) → Action β
  | done r, f => f r
  | ask request next, f => ask request fun answer => andThen (next answer) f

/-- Goes on with the value of a first action; a fault ends both. -/
def bind (a : Action α) (f : α → Action β) : Action β :=
  a.andThen fun
    | .ok x => f x
    | .error e => done (.error e)

def attempt (a : Action α) : Action (Except Fault α) := a.andThen fun r => done (.ok r)

/-- Nothing to do but to fail or to return. -/
def lift (r : Except Fault α) : Action α := done r

instance : Monad Action where
  pure x := done (.ok x)
  bind := bind

instance : MonadExcept Fault Action where
  throw e := done (.error e)
  tryCatch a handler := a.andThen fun
    | .ok x => done (.ok x)
    | .error e => handler e

instance : MonadLift (Except Fault) Action where
  monadLift := lift

/-! ### Single requests -/

def present (path : String) : Action Bool := ask (.present path) fun b => done (.ok b)

def read (path : String) : Action Bytes := ask (.read path) fun r => done r

def write (path : String) (contents : Bytes) : Action Unit :=
  ask (.write path contents) fun r => done r

def makeDirectory (path : String) : Action Unit := ask (.makeDirectory path) fun r => done r

def fetch (url : String) : Action Reply := ask (.fetch url) fun r => done (.ok r)

def pause (seconds : Nat) : Action Unit := ask (.pause seconds) fun _ => done (.ok ())

def print (line : String) : Action Unit := ask (.print line) fun _ => done (.ok ())

def workingDirectory : Action String := ask .workingDirectory fun s => done (.ok s)

/-! ### Text files -/

/-- The ends of lines, however they are written, become line feeds. -/
def unifyLines : List Char → List Char
  | '\r' :: '\n' :: rest => '\n' :: unifyLines rest
  | '\r' :: rest => '\n' :: unifyLines rest
  | c :: rest => c :: unifyLines rest
  | [] => []

def readText (path : String) : Action String := do
  let b ← read path
  let s ← lift b.text
  pure (String.ofList (unifyLines s.toList))

def writeText (path text : String) : Action Unit := write path (Bytes.ofText text)

/-- Goes through a list and keeps the results. -/
def each (f : α → Action β) : List α → Action (List β)
  | [] => done (.ok [])
  | x :: rest => do
    let y ← f x
    let ys ← each f rest
    pure (y :: ys)

def fold {σ : Type} (f : σ → α → Action σ) : σ → List α → Action σ
  | s, [] => done (.ok s)
  | s, x :: rest => do
    let t ← f s x
    fold f t rest

end Action

end BlockScript
