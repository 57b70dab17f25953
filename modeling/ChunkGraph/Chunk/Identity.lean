import ChunkGraph.Chunk.Basic
import ChunkGraph.Digest.Sha256
import ChunkGraph.Number.Decimal
import ChunkGraph.Path.Basic
import ChunkGraph.Text.Utf8

/-!
# Identities and fingerprints

The identity of a chunk is cut from the digest of its normalized path, its kind
and its qualified name, so it survives edits elsewhere in the file. The
fingerprint also covers the text and the place, so it changes whenever either
does. The texts that are digested have names of their own: what can be said
about identities is said about them.

## Main definitions

* `identityText`, `chunkId` — the identity.
* `fingerprintText`, `chunkHash` — the fingerprint.
* `contentHash` — the fingerprint of a whole source text.
-/

namespace ChunkGraph

/-- Hexadecimal digits of the digest that are kept. -/
def hashLength : Nat := 16

/-- The first digits of a text's digest. -/
def shortDigest (text : String) : String :=
  String.ofList ((Digest.Sha256.hex (Text.Utf8.encode text.toList)).take hashLength)

/-- The text whose digest identifies a chunk. -/
def identityText (path qualifiedName : String) (kind : ChunkKind) : String :=
  Path.normalize path ++ ":" ++ kind.name ++ ":" ++ qualifiedName

/-- The identity of a declaration. -/
def chunkId (path qualifiedName : String) (kind : ChunkKind) : String :=
  shortDigest (identityText path qualifiedName kind)

/-- The text whose digest is the fingerprint of a chunk. -/
def fingerprintText (content path : String) (startLine endLine : Int) : String :=
  path ++ ":" ++ Number.integerText startLine ++ ":" ++ Number.integerText endLine ++ ":" ++ content

/-- The fingerprint of a text at a place. -/
def chunkHash (content path : String) (startLine endLine : Int) : String :=
  shortDigest (fingerprintText content path startLine endLine)

/-- The fingerprint of a whole source text. -/
def contentHash (content : String) : String := shortDigest content

end ChunkGraph
