import ChunkGraph.Failure

/-!
# Token counts

Token counts are used for sizing only. The estimator charges one token for
every four characters, rounded up. The other way of counting is that of a
byte-pair encoding. Its vocabulary is not part of this library: an `Encoding` is
any function from texts to numbers of tokens, and it may refuse a text, as
encodings do with texts that hold one of their special tokens.

## Main definitions

* `Encoding` — what counts the tokens of a byte-pair encoding.
* `Tokenizer`, `Tokenizer.ofName` — the two ways of counting.
* `estimateTokens` — the estimate.
* `Tokenizer.count?` — the count, if the way of counting has an answer.
-/

namespace ChunkGraph

/-- Characters charged as one token. -/
def charsPerToken : Nat := 4

/-- The number of tokens of a text in a byte-pair encoding, none for a text that is refused. -/
abbrev Encoding := String → Option Nat

/-- The encoding of a program without a vocabulary: it refuses every text. -/
def Encoding.unavailable : Encoding := fun _ => none

/-- A way of counting tokens. -/
inductive Tokenizer where
  /-- One token for every four characters. -/
  | estimate
  /-- The tokens of a byte-pair encoding. -/
  | encoding (tokens? : Encoding)
  deriving Inhabited

/-- The way of counting of a name. -/
def Tokenizer.ofName (encoding : Encoding) (name : String) : Except Failure Tokenizer :=
  if name == "estimate" then .ok .estimate
  else if name == "tiktoken" then .ok (.encoding encoding)
  else .error (.unknownTokenizer name)

/-- The number of groups of four characters, the last one perhaps smaller. -/
def estimateTokens (text : String) : Nat := (text.length + (charsPerToken - 1)) / charsPerToken

/-- The number of tokens of a text. The empty text has none in every encoding. -/
def Tokenizer.count? (tokenizer : Tokenizer) (text : String) : Option Nat :=
  match tokenizer with
  | .estimate => some (estimateTokens text)
  | .encoding tokens? => if text.isEmpty then some 0 else tokens? text

end ChunkGraph
