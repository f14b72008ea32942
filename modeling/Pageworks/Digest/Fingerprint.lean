import Pageworks.Digest.Sha256
import Pageworks.Text.Quoted

/-!
# Fingerprints

A text, or a sequence of texts, is identified by the digest of its bytes.  In a sequence a zero
byte ends each part, so that parts without a zero character can be told apart.

## Main definitions

* `Fingerprint.framed`: the bytes of a sequence of texts.
* `Fingerprint.ofBytes`: the digest in hexadecimal.
* `Fingerprint.ofText`, `Fingerprint.ofParts`: the fingerprint of a text and of a sequence.
-/

namespace Pageworks.Fingerprint

open Pageworks.Text

/-- The bytes of a text in UTF-8. -/
def bytesOf (s : String) : List UInt8 := s.toUTF8.toList

/-- The bytes of a sequence of texts, a zero byte after each. -/
def framed (parts : List String) : List UInt8 := parts.flatMap fun p => bytesOf p ++ [0]

/-- The digest of the bytes, in 64 hexadecimal digits. -/
def ofBytes (bs : List UInt8) : String :=
  String.ofList ((Sha256.digest bs).flatMap fun b => hexDigits 2 b.toNat)

/-- The fingerprint of a text. -/
def ofText (s : String) : String := ofBytes (bytesOf s)

/-- The fingerprint of a sequence of texts. -/
def ofParts (parts : List String) : String := ofBytes (framed parts)

end Pageworks.Fingerprint
