/-
Module: RpcTools.Schema.Reading
Purpose: Schemas from descriptor sets and from compiler requests.
Main exports: schemaOfSet, schemaOfRequest
-/
import RpcTools.Descriptor.Reader
import RpcTools.Event
import RpcTools.Pool

namespace RpcTools

/-- How many services a schema has. -/
def serviceCount (files : List ProtoFile) : Nat :=
  (files.flatMap (·.services)).length

/-- The schema, after it is told how large it is. -/
def announced (files : List ProtoFile) : Logged (List ProtoFile) := do
  Logged.tell (.schemaLoaded files.length (serviceCount files))
  pure files

/-- The schema of every file of a set. -/
def schemaOfFiles (files : List Descriptor.File) : Logged (List ProtoFile) := do
  let pool ← Logged.ofExcept (Pool.ofFiles files)
  announced pool.schema

/-- The schema of every file of a set in binary form. -/
def schemaOfSet (bytes : Wire.Bytes) : Logged (List ProtoFile) := do
  schemaOfFiles (← Logged.ofExcept (Descriptor.readFileSet bytes))

/-- The schema of the files that a request asks to generate for. -/
def schemaOfRequest (request : Descriptor.Request) : Logged (List ProtoFile) := do
  let pool ← Logged.ofExcept (Pool.ofFiles request.files)
  announced (← Logged.ofExcept (pool.schemaOf request.filesToGenerate))

end RpcTools
