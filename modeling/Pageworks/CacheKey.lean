import Pageworks.Import
import Pageworks.Document
import Pageworks.Project

/-!
# Cache keys

A unit depends on its document, the imports that govern it, the configuration, the mode and the
renderer.  The key of a document holds a fingerprint of each, and its digest stands for the key.

## Main definitions

* `CacheKey`: the parts of a key.
* `CacheKey.of`: the key of a document.
* `CacheKey.digest`: the digest of a key.
-/

namespace Pageworks

/-- What a generated unit depends on. -/
structure CacheKey where
  /-- The path of the document, with slashes. -/
  path : String
  /-- The fingerprint of the document's text. -/
  contentHash : String
  /-- The fingerprint of the configuration. -/
  configHash : String
  /-- The fingerprints of the imports, sorted, each once. -/
  importHashes : List String
  /-- How much is generated. -/
  mode : Mode
  /-- The name of the renderer. -/
  renderer : String
  deriving DecidableEq, Repr

namespace CacheKey

/-- The version of the generator's output. -/
def version : String := "1"

/-- The key of a document with the imports that govern it, in any order. -/
def of (d : Document) (config : ProjectConfig) (imports : List ImportEntry) (mode : Mode)
    (renderer : String) : CacheKey where
  path := Path.slashed d.path
  contentHash := d.contentHash
  configHash := config.fingerprint
  importHashes := Import.sortedSet (imports.map ImportEntry.fingerprint)
  mode := mode
  renderer := renderer

/-- The texts that the digest is made of. -/
def parts (k : CacheKey) : List String :=
  [version, k.path, k.contentHash, k.configHash] ++ k.importHashes ++ [k.mode.name, k.renderer]

/-- The digest of a key. -/
def digest (k : CacheKey) : String := Fingerprint.ofParts k.parts

end CacheKey

end Pageworks
