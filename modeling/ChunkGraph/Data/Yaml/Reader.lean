import ChunkGraph.Data.Yaml.Node

/-!
# Reading YAML

A document is read in three steps: tokens, nodes, and data. The data of a node
follow from its tag. A key `<<` merges the entries of other tables into the one
that holds it: they come first, and the table's own entries count against them.

A document may have several faults. Those of a collection's scalars come before
those of the collections in it, so faults are kept apart by depth, and the first
at the least depth is the one that counts.

## Main definitions

* `Node.merged` — the tree with all merges carried out.
* `Node.findings` — the data of a node, with the faults found on the way.
* `Yaml.read` — the data of a document, or what is wrong with it.
-/

namespace ChunkGraph.Data.Yaml

/-! ## Merging -/

/-- Entries that are merged into a table, its own entries, and whether a merge has failed. -/
structure MergedEntries where
  /-- The entries from elsewhere. -/
  merged : List (Key × Node) := []
  /-- The table's own entries. -/
  own : List (Key × Node) := []
  /-- Something that is no table was to be merged. -/
  broken : Bool := false

/-- The entries of a table that is merged, and whether merging has failed; none of what is no
table. -/
def mergeable? : Node → Option (List (Key × Node) × Bool)
  | .table _ broken entries => some (entries, broken)
  | _ => none

/-- The entries of the tables that a value of the key `<<` names, the last of a list first. -/
def mergeSources : Node → Option (List (Key × Node) × Bool)
  | .table _ broken entries => some (entries, broken)
  | .list _ items => do
      let sources ← items.mapM mergeable?
      return ((sources.reverse.map (·.1)).flatten, sources.any (·.2))
  | _ => none

/-- The entries of a table, those under `<<` replaced by what they merge. -/
def mergeEntries : List (Key × Node) → MergedEntries
  | [] => {}
  | (key, value) :: rest =>
      let later := mergeEntries rest
      match key with
      | .scalar .merge _ =>
          match mergeSources value with
          | some (entries, broken) =>
              { later with merged := entries ++ later.merged, broken := broken || later.broken }
          | none => { later with broken := true }
      | .scalar .sign text => { later with own := (.scalar .text text, value) :: later.own }
      | key => { later with own := (key, value) :: later.own }

/-- A table with its merges carried out. -/
def mergedTable (tag : Tag) (broken : Bool) (entries : List (Key × Node)) : Node :=
  let found := mergeEntries entries
  .table tag (broken || found.broken) (found.merged ++ found.own)

mutual

/-- The tree with all merges carried out, the inner ones first. -/
def Node.merged : Node → Node
  | .scalar tag text => .scalar tag text
  | .list tag items => .list tag (mergedItems items)
  | .table tag broken entries => mergedTable tag broken (mergedValues entries)

/-- The nodes of a list with all merges carried out. -/
def mergedItems : List Node → List Node
  | [] => []
  | item :: items => item.merged :: mergedItems items

/-- The values of entries with all merges carried out. -/
def mergedValues : List (Key × Node) → List (Key × Node)
  | [] => []
  | (key, value) :: entries => (key, value.merged) :: mergedValues entries

end

/-! ## Data -/

/-- Data, with the faults found on the way. -/
structure Findings (α : Type) where
  /-- The data, which count only if there are no faults. -/
  data : α
  /-- The faults of the node itself. -/
  now : List Failure := []
  /-- The faults inside of it, those of each depth apart. -/
  later : List (List Failure) := []

/-- Faults by depth brought together. -/
def joinDepths : List (List Failure) → List (List Failure) → List (List Failure)
  | [], others => others
  | depths, [] => depths
  | a :: depths, b :: others => (a ++ b) :: joinDepths depths others

/-- Two findings side by side. -/
def Findings.and {α β γ : Type} (f : α → β → γ) (a : Findings α) (b : Findings β) : Findings γ :=
  ⟨f a.data b.data, a.now ++ b.now, joinDepths a.later b.later⟩

/-- The faults that come first: of the node itself, and then by depth. -/
def Findings.faults {α : Type} (s : Findings α) : List Failure := s.now ++ s.later.flatten

/-- The findings of a collection: what its parts have at once it has only at the next depth. -/
def Findings.inside {α β : Type} (f : α → β) (own : List Failure) (parts : Findings α) :
    Findings β :=
  ⟨f parts.data, own, parts.now :: parts.later⟩

/-- The findings of a datum that may be at fault. -/
def Findings.ofResult {α : Type} [Inhabited α] : Except Failure α → Findings α
  | .ok data => ⟨data, [], []⟩
  | .error failure => ⟨default, [failure], []⟩

/-- The findings of a key. -/
def Key.findings : Key → Findings Scalar
  | .scalar tag text => .ofResult (tag.scalar text)
  | .collection => ⟨default, [.malformedYaml], []⟩

/-- The fault of a collection whose tag is not that of its kind. -/
def kindFault (expected tag : Tag) : List Failure :=
  if tag == expected then [] else [.malformedYaml]

mutual

/-- The data of a node. -/
def Node.findings : Node → Findings Value
  | .scalar tag text =>
      let found := Findings.ofResult (tag.scalar text)
      ⟨.scalar found.data, found.now, []⟩
  | .list tag items => .inside .list (kindFault .list tag) (itemFindings items)
  | .table tag broken entries =>
      let own := if broken then [.malformedYaml] else []
      let parts := entryFindings entries
      .inside (fun found => .table (Table.ofEntries found)) (kindFault .table tag)
        { parts with now := own ++ parts.now }

/-- The data of nodes. -/
def itemFindings : List Node → Findings (List Value)
  | [] => ⟨[], [], []⟩
  | item :: items => item.findings.and (· :: ·) (itemFindings items)

/-- The data of entries. -/
def entryFindings : List (Key × Node) → Findings (List (Scalar × Value))
  | [] => ⟨[], [], []⟩
  | (key, value) :: entries =>
      (key.findings.and (fun k v => (k, v)) value.findings).and (· :: ·) (entryFindings entries)

end

/-! ## Documents -/

/-- The character may occur in a document. -/
def isAllowed (c : Char) : Bool :=
  let n := c.toNat
  n == 9 || n == 10 || n == 13 || (32 ≤ n && n ≤ 126) || n == 0x85 || (0xA0 ≤ n && n ≤ 0xFFFD) ||
    0x10000 ≤ n

/-- The data of a document; an empty one holds null. -/
def read (text : List Char) : Except Failure Value :=
  if !text.all isAllowed then .error .malformedYaml
  else
    match Node.ofTokens (Token.ofText text) with
    | .error failure => .error failure
    | .ok none => .ok .null
    | .ok (some node) =>
        let found := node.merged.findings
        match found.faults with
        | [] => .ok found.data
        | failure :: _ => .error failure

/-- The data of a document, if it is well formed. -/
def parse? (text : List Char) : Option Value := (read text).toOption

end ChunkGraph.Data.Yaml
