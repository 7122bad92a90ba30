import BlockScript.Catalog

/-!
# Fetching assets

The files of published assets are on two servers. A file is asked for at the first server a number
of times, with a wait between two attempts, and then at the second. A file that was fetched is kept
in a directory, the cache, and is never asked for again.
-/

namespace BlockScript

/-- What is at hand for published assets: their catalog and the directory of the cache. -/
structure Resources where
  catalog : Catalog
  cache : String

namespace Resources

/-- The addresses of a file, in the order in which they are tried. -/
def addresses (stored : String) : List String :=
  ["https://assets.scratch.mit.edu/internalapi/asset/" ++ stored ++ "/get/",
    "https://cdn.assets.scratch.mit.edu/internalapi/asset/" ++ stored ++ "/get/"]

/-- How often a file is asked for at one server. -/
def usualAttempts : Nat := 3

/-- The wait after a failed attempt that is not the last: a busy server gets more and more time. -/
def rest (verbose : Bool) (attempt : Nat) : Reply → Action Unit
  | .status 503 => do
    if verbose then
      Action.print ("    CDN returned 503, retrying in " ++ toString (Nat.pow 2 attempt) ++ "s...")
    Action.pause (Nat.pow 2 attempt)
  | _ => Action.pause 1

/-- Asks for a file at one address; `left` attempts are left after `attempt` of them. -/
def askAt (url : String) (verbose : Bool) : (attempt left : Nat) → Action (Option Bytes)
  | _, 0 => pure none
  | attempt, left + 1 => do
    match ← Action.fetch url with
    | .contents b => pure (some b)
    | reply =>
      if left ≠ 0 then rest verbose attempt reply
      askAt url verbose (attempt + 1) left

def askAll (attempts : Nat) (verbose : Bool) : List String → Action (Option Bytes)
  | [] => pure none
  | url :: others => do
    match ← askAt url verbose 0 attempts with
    | some b => pure (some b)
    | none => askAll attempts verbose others

/-- Fetches a file. -/
def download (stored : String) (attempts : Nat) (verbose : Bool) : Action (Option Bytes) :=
  askAll attempts verbose (addresses stored)

def cachePath (r : Resources) (stored : String) : String := Path.join r.cache stored

/-- Creates the cache if there is none. -/
def ensureCache (r : Resources) : Action Unit := do
  if ← Action.present r.cache then pure () else Action.makeDirectory r.cache

/-- The bytes of an asset: from the cache, or else fetched and kept. -/
def asset (r : Resources) (stored : String) (verbose : Bool) : Action (Option Bytes) := do
  r.ensureCache
  let path := r.cachePath stored
  if ← Action.present path then
    let b ← Action.read path
    pure (some b)
  else
    if verbose then Action.print ("  Downloading " ++ stored ++ "...")
    match ← download stored usualAttempts verbose with
    | some (b :: rest) =>
      Action.write path (b :: rest)
      pure (some (b :: rest))
    | _ =>
      if verbose then Action.print ("    Failed to download " ++ stored)
      pure none

/-- The text after the last dot. -/
def lastPiece (s : String) : String :=
  String.ofList (s.toList.reverse.takeWhile (· != '.')).reverse

def tuneFormat (v : Value) : Except Fault Value := do
  let stored ← v.getD "md5ext" (.str "")
  if ← stored.contains (.str ".") then
    let s ← stored.asText "split"
    .ok (.str (lastPiece s))
  else
    let given ← v.getD "dataFormat" (.str "")
    .ok (if given.truthy then given else .str "wav")

/-- Fetches a published sound into the cache, and says whether it is there. -/
def fetchTune (r : Resources) (name : Value) (verbose : Bool) : Action Bool := do
  match Catalog.filled? (← Action.lift (Catalog.entry? r.catalog.sounds name)) with
  | none =>
    if verbose then
      let t ← Action.lift name.text
      Action.print ("Sound '" ++ t ++ "' not found in sounds library")
    pure false
  | some v =>
    let assetId ← Action.lift (v.key "assetId")
    let format ← Action.lift (tuneFormat v)
    let stored ← Action.lift (Catalog.storedName assetId format)
    let found ← r.asset stored verbose
    pure found.isSome

/-- Fetches the assets in one list of a sprite, and says of each whether it is there. -/
def fetchListed (r : Resources) (verbose : Bool) (seen : Table Bool) (v : Value) :
    Action (Table Bool) := do
  let assetId ← Action.lift (v.key "assetId")
  let format ← Action.lift (v.key "dataFormat")
  let stored ← Action.lift (Catalog.storedName assetId format)
  let found ← r.asset stored verbose
  pure (seen.set stored found.isSome)

/-- Fetches all assets of a published sprite, and says of each whether it is there. -/
def fetchSprite (r : Resources) (name : Value) (verbose : Bool) : Action (Table Bool) := do
  match Catalog.filled? (← Action.lift (Catalog.entry? r.catalog.sprites name)) with
  | none =>
    if verbose then
      let t ← Action.lift name.text
      Action.print ("Sprite '" ++ t ++ "' not found in library")
    pure []
  | some v =>
    let costumes ← Action.lift (Catalog.listed v "costumes")
    let seen ← Action.fold (r.fetchListed verbose) [] costumes
    let sounds ← Action.lift (Catalog.listed v "sounds")
    Action.fold (r.fetchListed verbose) seen sounds

end Resources

end BlockScript
