import BlockScript.Catalog
import BlockScript.Catalog.Sprites1
import BlockScript.Catalog.Sprites2

/-!
# The published catalog

The catalog that comes with this library. Sprites and sounds are in alphabetical order of the
publisher, which decides between several names that contain the same part.
-/

namespace BlockScript

namespace Catalog

def publishedSprites : List SpriteRecord := sprites1 ++ sprites2

def published : Catalog where
  sprites := publishedSprites.map fun s => (s.name, s.toValue)
  sounds := publishedSounds.map fun s => (s.name, s.toValue)

end Catalog

end BlockScript
