import BlockScript.Asset.Load

/-!
# Drawings that are always at hand

A sprite without a costume is shown as a cat, and the stage without a backdrop is white. These
drawings, and two of a dog, come with the library, so that a project can be shown without fetching
anything. They also stand in for the published costumes of the same animals.
-/

namespace BlockScript

namespace Drawing

def catStanding : String :=
  "<svg xmlns=\"http://www.w3.org/2000/svg\" width=\"96\" height=\"100\">\n" ++
  "  <g fill=\"#FFAB19\" stroke=\"#D89400\" stroke-width=\"2\">\n" ++
  "    <ellipse cx=\"48\" cy=\"60\" rx=\"35\" ry=\"28\"/>\n" ++
  "    <ellipse cx=\"48\" cy=\"35\" rx=\"28\" ry=\"23\"/>\n" ++
  "    <polygon points=\"25,20 15,0 30,15\"/>\n" ++
  "    <polygon points=\"71,20 81,0 66,15\"/>\n" ++
  "  </g>\n" ++
  "  <g fill=\"white\">\n" ++
  "    <ellipse cx=\"38\" cy=\"32\" rx=\"8\" ry=\"10\"/>\n" ++
  "    <ellipse cx=\"58\" cy=\"32\" rx=\"8\" ry=\"10\"/>\n" ++
  "    <ellipse cx=\"48\" cy=\"55\" rx=\"18\" ry=\"12\"/>\n" ++
  "  </g>\n" ++
  "  <g fill=\"black\">\n" ++
  "    <circle cx=\"40\" cy=\"32\" r=\"4\"/>\n" ++
  "    <circle cx=\"56\" cy=\"32\" r=\"4\"/>\n" ++
  "    <ellipse cx=\"48\" cy=\"45\" rx=\"3\" ry=\"2\"/>\n" ++
  "  </g>\n" ++
  "  <path d=\"M48,47 Q48,52 43,55\" fill=\"none\" stroke=\"black\" stroke-width=\"1.5\"/>\n" ++
  "  <path d=\"M48,47 Q48,52 53,55\" fill=\"none\" stroke=\"black\" stroke-width=\"1.5\"/>\n" ++
  "  <g stroke=\"#D89400\" stroke-width=\"1.5\" fill=\"none\">\n" ++
  "    <path d=\"M20,40 L5,35\"/><path d=\"M20,45 L5,45\"/><path d=\"M20,50 L5,55\"/>\n" ++
  "    <path d=\"M76,40 L91,35\"/><path d=\"M76,45 L91,45\"/><path d=\"M76,50 L91,55\"/>\n" ++
  "  </g>\n" ++
  "</svg>"

def catWalking : String :=
  "<svg xmlns=\"http://www.w3.org/2000/svg\" width=\"96\" height=\"100\">\n" ++
  "  <g fill=\"#FFAB19\" stroke=\"#D89400\" stroke-width=\"2\">\n" ++
  "    <ellipse cx=\"48\" cy=\"58\" rx=\"32\" ry=\"30\"/>\n" ++
  "    <ellipse cx=\"48\" cy=\"32\" rx=\"26\" ry=\"22\"/>\n" ++
  "    <polygon points=\"28,18 20,0 32,14\"/>\n" ++
  "    <polygon points=\"68,18 76,0 64,14\"/>\n" ++
  "    <ellipse cx=\"22\" cy=\"70\" rx=\"10\" ry=\"16\" transform=\"rotate(-15 22 70)\"/>\n" ++
  "    <ellipse cx=\"74\" cy=\"70\" rx=\"10\" ry=\"16\" transform=\"rotate(15 74 70)\"/>\n" ++
  "  </g>\n" ++
  "  <g fill=\"white\">\n" ++
  "    <ellipse cx=\"38\" cy=\"30\" rx=\"8\" ry=\"10\"/>\n" ++
  "    <ellipse cx=\"58\" cy=\"30\" rx=\"8\" ry=\"10\"/>\n" ++
  "    <ellipse cx=\"48\" cy=\"52\" rx=\"16\" ry=\"11\"/>\n" ++
  "  </g>\n" ++
  "  <g fill=\"black\">\n" ++
  "    <circle cx=\"40\" cy=\"30\" r=\"4\"/>\n" ++
  "    <circle cx=\"56\" cy=\"30\" r=\"4\"/>\n" ++
  "    <ellipse cx=\"48\" cy=\"44\" rx=\"3\" ry=\"2\"/>\n" ++
  "  </g>\n" ++
  "  <path d=\"M48,46 Q48,50 43,52\" fill=\"none\" stroke=\"black\" stroke-width=\"1.5\"/>\n" ++
  "  <path d=\"M48,46 Q48,50 53,52\" fill=\"none\" stroke=\"black\" stroke-width=\"1.5\"/>\n" ++
  "  <g stroke=\"#D89400\" stroke-width=\"1.5\" fill=\"none\">\n" ++
  "    <path d=\"M20,38 L5,33\"/><path d=\"M20,43 L5,43\"/><path d=\"M20,48 L5,53\"/>\n" ++
  "    <path d=\"M76,38 L91,33\"/><path d=\"M76,43 L91,43\"/><path d=\"M76,48 L91,53\"/>\n" ++
  "  </g>\n" ++
  "</svg>"

def dogStanding : String :=
  "<svg xmlns=\"http://www.w3.org/2000/svg\" width=\"80\" height=\"90\">\n" ++
  "  <g fill=\"#A0522D\" stroke=\"#8B4513\" stroke-width=\"2\">\n" ++
  "    <ellipse cx=\"40\" cy=\"55\" rx=\"28\" ry=\"25\"/>\n" ++
  "    <ellipse cx=\"40\" cy=\"30\" rx=\"22\" ry=\"20\"/>\n" ++
  "    <ellipse cx=\"15\" cy=\"25\" rx=\"12\" ry=\"18\" transform=\"rotate(-20 15 25)\"/>\n" ++
  "    <ellipse cx=\"65\" cy=\"25\" rx=\"12\" ry=\"18\" transform=\"rotate(20 65 25)\"/>\n" ++
  "    <ellipse cx=\"40\" cy=\"85\" rx=\"8\" ry=\"5\"/>\n" ++
  "  </g>\n" ++
  "  <g fill=\"white\">\n" ++
  "    <ellipse cx=\"32\" cy=\"28\" rx=\"7\" ry=\"9\"/>\n" ++
  "    <ellipse cx=\"48\" cy=\"28\" rx=\"7\" ry=\"9\"/>\n" ++
  "    <ellipse cx=\"40\" cy=\"48\" rx=\"12\" ry=\"10\"/>\n" ++
  "  </g>\n" ++
  "  <g fill=\"black\">\n" ++
  "    <circle cx=\"34\" cy=\"28\" r=\"4\"/>\n" ++
  "    <circle cx=\"46\" cy=\"28\" r=\"4\"/>\n" ++
  "    <ellipse cx=\"40\" cy=\"40\" rx=\"5\" ry=\"4\"/>\n" ++
  "  </g>\n" ++
  "  <path d=\"M40,44 L40,50\" fill=\"none\" stroke=\"black\" stroke-width=\"1.5\"/>\n" ++
  "  <ellipse cx=\"40\" cy=\"52\" rx=\"8\" ry=\"4\" fill=\"#FF9999\" stroke=\"none\"/>\n" ++
  "  <path d=\"M32,56 Q40,62 48,56\" fill=\"none\" stroke=\"black\" stroke-width=\"1.5\"/>\n" ++
  "</svg>"

def dogWalking : String :=
  "<svg xmlns=\"http://www.w3.org/2000/svg\" width=\"90\" height=\"90\">\n" ++
  "  <g fill=\"#A0522D\" stroke=\"#8B4513\" stroke-width=\"2\">\n" ++
  "    <ellipse cx=\"45\" cy=\"55\" rx=\"30\" ry=\"25\"/>\n" ++
  "    <ellipse cx=\"45\" cy=\"30\" rx=\"24\" ry=\"20\"/>\n" ++
  "    <ellipse cx=\"18\" cy=\"22\" rx=\"14\" ry=\"16\" transform=\"rotate(-30 18 22)\"/>\n" ++
  "    <ellipse cx=\"72\" cy=\"22\" rx=\"14\" ry=\"16\" transform=\"rotate(30 72 22)\"/>\n" ++
  "    <ellipse cx=\"18\" cy=\"65\" rx=\"10\" ry=\"15\" transform=\"rotate(-10 18 65)\"/>\n" ++
  "    <ellipse cx=\"72\" cy=\"65\" rx=\"10\" ry=\"15\" transform=\"rotate(10 72 65)\"/>\n" ++
  "  </g>\n" ++
  "  <g fill=\"white\">\n" ++
  "    <ellipse cx=\"36\" cy=\"28\" rx=\"7\" ry=\"9\"/>\n" ++
  "    <ellipse cx=\"54\" cy=\"28\" rx=\"7\" ry=\"9\"/>\n" ++
  "    <ellipse cx=\"45\" cy=\"50\" rx=\"14\" ry=\"10\"/>\n" ++
  "  </g>\n" ++
  "  <g fill=\"black\">\n" ++
  "    <circle cx=\"38\" cy=\"28\" r=\"4\"/>\n" ++
  "    <circle cx=\"52\" cy=\"28\" r=\"4\"/>\n" ++
  "    <ellipse cx=\"45\" cy=\"42\" rx=\"5\" ry=\"4\"/>\n" ++
  "  </g>\n" ++
  "  <path d=\"M45,46 L45,52\" fill=\"none\" stroke=\"black\" stroke-width=\"1.5\"/>\n" ++
  "  <ellipse cx=\"45\" cy=\"54\" rx=\"10\" ry=\"5\" fill=\"#FF9999\" stroke=\"none\"/>\n" ++
  "  <path d=\"M35,58 Q45,66 55,58\" fill=\"none\" stroke=\"black\" stroke-width=\"1.5\"/>\n" ++
  "</svg>"

def whiteBackdrop : String :=
  "<svg xmlns=\"http://www.w3.org/2000/svg\" width=\"480\" height=\"360\">\n" ++
  "  <rect width=\"480\" height=\"360\" fill=\"white\"/>\n" ++
  "</svg>"

/-! ### Standing in for published assets -/

def standIns : Table String := [
  ("b7853f557e4426412e64bb3da6531a99", catStanding),
  ("e6ddc55a6ddd9cc9d84c0fa5ce29e6b8", catWalking),
  ("96b7d7f5c6a644b5b2317d62d5232827", dogStanding),
  ("fb35e307ffae1b0f6a0348e5b5f94ab1", dogWalking),
  ("cd21514d0531fdffb22204e0ec5ed84a", whiteBackdrop)]

def ownDrawings : Table String :=
  [catStanding, catWalking, whiteBackdrop].map fun s => (digestText s, s)

def forAsset? (assetId : String) : Option String :=
  match standIns.find? assetId with
  | some s => some s
  | none => ownDrawings.find? assetId

/-! ### Costumes and backdrops that are used if there are no others -/

def catCostumes : List Costume :=
  [Asset.picture (.str "cat-a") "svg" 1 (Bytes.ofText catStanding) (.int 48) (.int 50),
    Asset.picture (.str "cat-b") "svg" 1 (Bytes.ofText catWalking) (.int 46) (.int 53)]

def plainBackdrop : Costume :=
  { Asset.backdropPicture (.str "backdrop1") "svg" 1 (Bytes.ofText whiteBackdrop) with
    resolution := none }

end Drawing

end BlockScript
