import ChunkGraph.Chunk.Basic
import ChunkGraph.Data.Value

/-!
# Chunks as structured data

The form in which chunks and what belongs to them are reported: tables with one
entry for each field, absent ones included.

## Main definitions

* `Chunk.record`, `Dependency.record`, `Export.record`, … — the tables.
-/

namespace ChunkGraph

open Data

/-- A dependency as a table. -/
def Dependency.record (d : Dependency) : Value :=
  .record [("name", .text d.name), ("source", .text d.source), ("kind", .text d.kind.name),
    ("is_default", .bool d.isDefault), ("is_namespace", .bool d.isNamespace)]

/-- A parameter as a table. -/
def Parameter.record (p : Parameter) : Value :=
  .record [("name", .text p.name), ("type", .optText p.type), ("optional", .bool p.optional),
    ("default_value", .optText p.defaultValue)]

/-- An export as a table. -/
def Export.record (e : Export) : Value :=
  .record [("name", .text e.name), ("local_name", .optText e.localName),
    ("source", .optText e.source), ("is_default", .bool e.isDefault)]

/-- A position as a table. -/
def Position.record (p : Position) : Value :=
  .record [("line", .int p.line), ("column", .int p.column)]

/-- A range as a table. -/
def Range.record (r : Range) : Value :=
  .record [("start", r.start.record), ("end", r.stop.record)]

/-- A chunk as a table. -/
def Chunk.record (c : Chunk) : Value :=
  .record [("id", .text c.id), ("type", .text c.kind.name), ("name", .text c.name),
    ("qualified_name", .text c.qualifiedName), ("file_path", .text c.filePath),
    ("range", c.range.record), ("start_line", .int c.startLine), ("end_line", .int c.endLine),
    ("hash", .text c.hash), ("dependencies", .list (c.dependencies.map (·.record))),
    ("parent_id", .optText c.parentId), ("children_ids", .texts c.childrenIds),
    ("exported", .bool c.exported), ("export_name", .optText c.exportName),
    ("visibility", .optText c.visibility), ("is_async", .bool c.isAsync),
    ("is_generator", .bool c.isGenerator), ("decorators", .texts c.decorators),
    ("type_parameters", .texts c.typeParameters),
    ("parameters", .list (c.parameters.map (·.record))), ("return_type", .optText c.returnType),
    ("jsdoc", .optText c.docComment), ("token_count", .optInt c.tokenCount),
    ("content", .optText c.content), ("option_type", .optText c.optionType)]

end ChunkGraph
