import BlockScript.Action
import BlockScript.Path
import BlockScript.Text.Edit

/-!
# A computer, described

A `Host` holds files under the texts of their paths from the root, the directories that exist
without holding a file, and the replies that the network will give. It also keeps what has been seen
of an action from outside: the lines on the screen, the addresses that were asked for and the waits.

A path is followed part by part (`Host.place`). Every part but the last has to be a directory, so
`missing/../file` leads nowhere even if `file` exists.
-/

namespace BlockScript

/-- A computer with its files, its network and its screen. -/
structure Host where
  /-- The parts of the path of the working directory. -/
  here : List String
  files : Table Bytes := []
  directories : List String := []
  /-- What the network replies, request by request; afterwards it is broken. -/
  network : List Reply := []
  /-- The requests to the network and the waits. -/
  log : List Request := []
  printed : List String := []

/-- Where a path leads. -/
inductive Place where
  | file (path : String) (contents : Bytes)
  | directory
  /-- A name in a directory that nothing has. -/
  | vacant (path : String)
  /-- A directory on the way does not exist. -/
  | nowhere
  /-- A file stands on the way where a directory is needed. -/
  | blocked

namespace Host

/-- The reply to the request after the next `i` ones. -/
def reply (h : Host) (i : Nat) : Reply := h.network[i]?.getD .broken

/-- The addresses that were asked for. -/
def requests (h : Host) : List String :=
  h.log.filterMap fun
    | .fetch url => some url
    | _ => none

def pauses (h : Host) : List Nat :=
  h.log.filterMap fun
    | .pause seconds => some seconds
    | _ => none

def pathText (parts : List String) : String := "/" ++ String.intercalate "/" parts

/-- Whether there is a directory other than the root: one that was created, or one on the way to the
working directory or to a file. -/
def hasDirectory (h : Host) (path : String) : Bool :=
  h.directories.contains path ||
    ((pathText h.here ++ "/") :: h.files.keys).any (Text.startsWith · (path ++ "/"))

/-- Goes from a directory along the pieces of a path. -/
def follow (h : Host) : List String → List String → Place
  | _, [] => .directory
  | dir, piece :: rest =>
    if piece = "" ∨ piece = "." then follow h dir rest
    else if piece = ".." then follow h dir.dropLast rest
    else
      let parts := dir ++ [piece]
      let path := pathText parts
      match h.files.find? path with
      | some contents => if rest.isEmpty then .file path contents else .blocked
      | none =>
        if h.hasDirectory path then follow h parts rest
        else if rest.isEmpty then .vacant path
        else .nowhere

def place (h : Host) (path : String) : Place :=
  if path.isEmpty || path.toList.contains '\x00' then .nowhere
  else h.follow (if Path.startsAtRoot path then [] else h.here) (Path.pieces path)

def fault (path : String) : Place → Fault
  | .directory => .isDirectory (Value.quotedString path)
  | .blocked => .notDirectory (Value.quotedString path)
  | _ => .missingFile (Value.quotedString path)

/-- The answer to a request, and the computer afterwards. -/
def answer (h : Host) : (r : Request) → r.Answer × Host
  | .present path =>
    (match h.place path with
      | .file _ _ | .directory => true
      | _ => false, h)
  | .read path =>
    (match h.place path with
      | .file _ contents => .ok contents
      | p => .error (fault path p), h)
  | .write path contents =>
    match h.place path with
    | .file full _ | .vacant full => (.ok (), { h with files := h.files.set full contents })
    | p => (.error (fault path p), h)
  | .makeDirectory path =>
    match h.place path with
    | .vacant full => (.ok (), { h with directories := h.directories ++ [full] })
    | .directory => (.ok (), h)
    | p => (.error (fault path p), h)
  | .fetch url => (h.reply 0, { h with network := h.network.tail, log := h.log ++ [.fetch url] })
  | .pause seconds => ((), { h with log := h.log ++ [.pause seconds] })
  | .print line => ((), { h with printed := h.printed ++ [line] })
  | .workingDirectory => (pathText h.here, h)

end Host

namespace Action

variable {α β : Type}

/-- What an action results in on a computer, and the computer afterwards. -/
def run : Action α → Host → Except Fault α × Host
  | done r, h => (r, h)
  | ask request next, h =>
    let (answer, h) := h.answer request
    run (next answer) h

/-! ### Running actions one after the other -/

@[simp] theorem run_done (r : Except Fault α) (h : Host) : (done r).run h = (r, h) := rfl

@[simp] theorem run_pure (x : α) (h : Host) : (pure x : Action α).run h = (.ok x, h) := rfl

@[simp] theorem run_lift (r : Except Fault α) (h : Host) : (lift r).run h = (r, h) := rfl

theorem run_andThen (a : Action α) (f : Except Fault α → Action β) (h : Host) :
    (a.andThen f).run h = (f (a.run h).1).run (a.run h).2 := by
  induction a generalizing h with
  | done r => rfl
  | ask request next ih => exact ih _ _

theorem run_bind_of_ok {a : Action α} {f : α → Action β} {h h' : Host} {x : α}
    (ha : a.run h = (.ok x, h')) : (a >>= f).run h = (f x).run h' := by
  show (a.bind f).run h = _
  simp [bind, run_andThen, ha]

theorem run_bind_of_error {a : Action α} {f : α → Action β} {h h' : Host} {e : Fault}
    (ha : a.run h = (.error e, h')) : (a >>= f).run h = (.error e, h') := by
  show (a.bind f).run h = _
  simp [bind, run_andThen, ha]

theorem run_attempt (a : Action α) (h : Host) :
    a.attempt.run h = (.ok (a.run h).1, (a.run h).2) := by
  simp [attempt, run_andThen]

end Action

end BlockScript
