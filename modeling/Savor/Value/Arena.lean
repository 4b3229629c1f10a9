import Savor.Library.DepthFirst
import Savor.Model.Program
import Savor.Model.TextForms

/-!
# The value arena

Import of a closed value graph into an empty arena, its measure against the
value and byte limits, and its validation against an exact root type and a
nominal schema closure.
-/

namespace Savor.Program

open Library

structure ProgramValueArenaLimits where
  (maximumValues maximumValueBytes : UInt64)

inductive ProgramValueArenaError
  | invalidId
  | duplicateId
  | unresolvedReference
  | cyclicGraph
  | unreachableValue
  | invalidUtf8
  | nonFiniteValue
  | staleEpoch
  | typeMismatch
  | schemaMismatch
  | valueBudgetExceeded
  | byteBudgetExceeded

namespace ProgramValueArenaError

/-- The two errors the executor reports as an exhausted value budget. -/
def isBudget : ProgramValueArenaError → Bool
  | .valueBudgetExceeded | .byteBudgetExceeded => true
  | _ => false

end ProgramValueArenaError

/-- A `ProgramValueArenaStatus` other than success. -/
structure ProgramValueArenaFailure where
  error : ProgramValueArenaError
  message : ByteString

abbrev ArenaResult := Except ProgramValueArenaFailure

/-- Report a failure with its message. -/
def arenaFailure {α : Type} (error : ProgramValueArenaError) (message : String) : ArenaResult α :=
  .error ⟨error, text message⟩

def validatePayloadSemantics : ProgramValuePayload → ArenaResult Unit
  | .string value =>
    if isValidUtf8 value then .ok ()
    else arenaFailure .invalidUtf8 "program string value is not valid UTF-8"
  | .f32 value =>
    if value.isFinite then .ok ()
    else arenaFailure .nonFiniteValue
      "program floating-point value must be finite"
  | .f64 value =>
    if value.isFinite then .ok ()
    else arenaFailure .nonFiniteValue
      "program floating-point value must be finite"
  | _ => .ok ()

/-- `RemapPayload` on the ids of an import. -/
def remapChildren (rename : ProgramValueId → ProgramValueId) :
    ProgramValuePayload → ProgramValuePayload
  | .optional value => .optional (value.map rename)
  | .record fields => .record (fields.map rename)
  | .list elements => .list (elements.map rename)
  | payload => payload

/-- `IdentityBytes`: the id text, a 32-bit version and the hash. -/
def identityBytes (identity : SchemaIdentity) : Nat := identity.canonicalId.length + 4 + 32

/-- The payload part of `ProgramValueArena::Measure`. -/
def measurePayload : ProgramValuePayload → Nat
  | .unit => 0
  | .bool _ => 1
  | .u8 _ => 1
  | .u16 _ => 2
  | .u32 _ => 4
  | .u64 _ => 8
  | .i32 _ => 4
  | .i64 _ => 8
  | .f32 _ => 4
  | .f64 _ => 8
  | .string value => value.length
  | .bytes value => value.length
  | .enum value => 8 + identityBytes value.schema
  | .optional _ => 8
  | .record fields => fields.length * 8
  | .list elements => elements.length * 8
  | .artifact value =>
    value.artifactId.length + identityBytes value.schema + 32 + value.storageReference.length + 1
  | .resource value => 8 + identityBytes value.resourceType + 8
  | .opaqueHandle value => 8 + identityBytes value.handleType + 8

/-- `ProgramValueArena::Measure`. -/
def measureValue (type : TypeRef) (payload : ProgramValuePayload) : Nat :=
  8 + 1 + (type.named.map identityBytes).getD 0 + measurePayload payload

/-- An invocation-owned arena.  Values are kept in order of insertion, which is
the order of their ids. -/
structure ProgramValueArena where
  limits : ProgramValueArenaLimits
  values : List ProgramValue := []
  nextId : UInt64 := 1
  valueBytes : Nat := 0

namespace ProgramValueArena

def contains (arena : ProgramValueArena) (id : ProgramValueId) : Bool :=
  arena.values.any (·.id = id)

/-- `ProgramValueArena::Add`. -/
def add (arena : ProgramValueArena) (type : TypeRef) (payload : ProgramValuePayload) :
    ArenaResult (ProgramValueArena × ProgramValueId) := do
  validatePayloadSemantics payload
  if arena.limits.maximumValues.toNat ≤ arena.values.length then
    arenaFailure .valueBudgetExceeded "program value count budget is exhausted"
  else if !payload.children.all fun child =>
      child.isSet && arena.contains child then
    arenaFailure .unresolvedReference
      "program value references an unknown arena value"
  else if measureValue type payload > arena.limits.maximumValueBytes.toNat ||
      arena.valueBytes > arena.limits.maximumValueBytes.toNat - measureValue type payload then
    arenaFailure .byteBudgetExceeded "program value byte budget is exhausted"
  else if arena.nextId = 0 then
    arenaFailure .valueBudgetExceeded
      "program value identity space is exhausted"
  else
    .ok ({ arena with
      values := arena.values ++ [⟨⟨arena.nextId⟩, type, payload⟩]
      nextId := arena.nextId + 1
      valueBytes := arena.valueBytes + measureValue type payload }, ⟨arena.nextId⟩)

end ProgramValueArena

variable (graph : ProgramValueGraph)

namespace ProgramValueGraph

/-- The value a graph lists under this id. -/
def find (graph : ProgramValueGraph) (id : ProgramValueId) : Option ProgramValue :=
  graph.values.find? (·.id = id)

/-- The root value of a graph. -/
def rootValue : Option ProgramValue := graph.find graph.root

/-- The children of an id, or the failure of an id the graph does not list. -/
def childrenOf (id : ProgramValueId) : ArenaResult (List ProgramValueId) :=
  match graph.find id with
  | none => arenaFailure .unresolvedReference
      "program value graph contains an unresolved child ID"
  | some value => .ok value.payload.children

/-- The failure of a graph with a cycle. -/
def cycleFailure (_ : ProgramValueId) : ProgramValueArenaFailure :=
  ⟨.cyclicGraph, text "program value graph contains a cycle"⟩

/-- The depth-first order of the values below the root, children first. -/
def searchOrder : ArenaResult (List ProgramValueId) :=
  DepthFirst.visit graph.childrenOf cycleFailure (graph.values.length + 1) [] [] graph.root

/-- The identity checks of an import: nonzero and distinct ids. -/
def checkIds : List ProgramValueId → List ProgramValue → ArenaResult Unit
  | _, [] => .ok ()
  | seen, value :: values =>
    if !value.id.isSet then
      arenaFailure .invalidId "program value graph contains a zero ID"
    else if value.id ∈ seen then
      arenaFailure .duplicateId "program value graph contains duplicate IDs"
    else checkIds (value.id :: seen) values

/-- The values of the graph in search order. -/
def orderedValues (order : List ProgramValueId) : List ProgramValue := order.filterMap graph.find

end ProgramValueGraph

namespace ProgramValueArena

/-- The byte pass of an import over the values in search order. -/
def checkBytes (limits : ProgramValueArenaLimits) (held : Nat) :
    Nat → List ProgramValue → ArenaResult Nat
  | required, [] =>
    if required > limits.maximumValueBytes.toNat ||
        held > limits.maximumValueBytes.toNat - required then
      arenaFailure .byteBudgetExceeded
        "program value graph exceeds the remaining byte budget"
    else .ok required
  | required, value :: values => do
      validatePayloadSemantics value.payload
      if measureValue value.type value.payload > limits.maximumValueBytes.toNat ||
          required > limits.maximumValueBytes.toNat - measureValue value.type value.payload then
        arenaFailure .byteBudgetExceeded
          "program value graph exceeds the byte budget"
      else
        checkBytes limits held (required + measureValue value.type value.payload) values

/-- The insertion loop of an import.  `renamed` pairs source ids with the ids
the arena gave them. -/
def addAll (arena : ProgramValueArena) (renamed : List (ProgramValueId × ProgramValueId)) :
    List ProgramValue → ArenaResult (ProgramValueArena × List (ProgramValueId × ProgramValueId))
  | [] => .ok (arena, renamed)
  | value :: values => do
      let (arena, inserted) ← arena.add value.type
        (remapChildren (fun id => (renamed.lookup id).getD StrongId.none) value.payload)
      addAll arena ((value.id, inserted) :: renamed) values

/-- `ProgramValueArena::Import`. -/
def importGraph (arena : ProgramValueArena) (graph : ProgramValueGraph) :
    ArenaResult (ProgramValueArena × ProgramValueId) := do
  if !graph.root.isSet then
    arenaFailure .invalidId "program value graph root must be nonzero"
  ProgramValueGraph.checkIds [] graph.values
  if (graph.find graph.root).isNone then
    arenaFailure .unresolvedReference "program value graph root is unresolved"
  let order ← graph.searchOrder
  if order.length ≠ graph.values.length then
    arenaFailure .unreachableValue
      "program value graph contains unreachable values"
  if order.length > arena.limits.maximumValues.toNat - arena.values.length then
    arenaFailure .valueBudgetExceeded
      "program value graph exceeds the remaining value budget"
  if order.length > 2 ^ 64 - 1 - arena.nextId.toNat then
    arenaFailure .valueBudgetExceeded
      "program value identity space cannot fit the graph"
  let _ ← checkBytes arena.limits arena.valueBytes 0 (graph.orderedValues order)
  let (arena, renamed) ← arena.addAll [] (graph.orderedValues order)
  .ok (arena, (renamed.lookup graph.root).getD StrongId.none)

end ProgramValueArena

structure ProgramValueGraphMeasure where
  (valueCount valueBytes : Nat)

def measureProgramValueGraph (limits : ProgramValueArenaLimits) :
    ArenaResult ProgramValueGraphMeasure := do
  let (arena, _) ← ({ limits } : ProgramValueArena).importGraph graph
  .ok ⟨arena.values.length, arena.valueBytes⟩

/-- The payload variant a builtin type stands for. -/
def BuiltinType.holds : BuiltinType → ProgramValuePayload → Bool
  | .unit, .unit => true
  | .bool, .bool _ => true
  | .u8, .u8 _ => true
  | .u16, .u16 _ => true
  | .u32, .u32 _ => true
  | .u64, .u64 _ => true
  | .i32, .i32 _ => true
  | .i64, .i64 _ => true
  | .f32, .f32 _ => true
  | .f64, .f64 _ => true
  | _, _ => false

/-- The first schema of a closure with this identity. -/
def findSchema (schemas : List TypeSchemaDefinition) (identity : SchemaIdentity) :
    Option TypeSchemaDefinition :=
  schemas.find? (·.identity = identity)

namespace ProgramValueGraph

/-- The graph lists a value of exactly this type under the id. -/
def childHasType (type : TypeRef) (id : ProgramValueId) : Bool :=
  (graph.find id).any (·.type = type)

/-- Children have exactly the declared types, position by position. -/
def childrenHaveTypes (graph : ProgramValueGraph) : List TypeRef → List ProgramValueId → Bool
  | [], [] => true
  | type :: types, id :: ids => graph.childHasType type id && graph.childrenHaveTypes types ids
  | _, _ => false

/-- The checks on an epoch-bound handle: set ids, the schema's element identity
and, when one is given, the current epoch. -/
def handleMatches (schema : TypeSchemaDefinition)
    (currentEpoch : Option WorksetEpoch) (handleId : ProgramResourceHandleId)
    (handleType : SchemaIdentity) (epoch : WorksetEpoch) : Bool :=
  handleId.isSet && epoch.isSet && (schema.elementType.bind TypeRef.named = some handleType) &&
    currentEpoch.all (· = epoch)

def typeFailure : ArenaResult Unit :=
  arenaFailure .typeMismatch
    "program value payload does not match its declared type"

/-- The payload check of a value whose named type has this schema. -/
def validateNamed (currentEpoch : Option WorksetEpoch)
    (schema : TypeSchemaDefinition) (payload : ProgramValuePayload) : ArenaResult Unit :=
  match schema.kind with
  | .boundedUtf8String =>
    match payload with
    | .string value => if value.length > schema.maximumSize.toNat then typeFailure else .ok ()
    | _ => typeFailure
  | .boundedBytes =>
    match payload with
    | .bytes value => if value.length > schema.maximumSize.toNat then typeFailure else .ok ()
    | _ => typeFailure
  | .closedEnum =>
    match payload with
    | .enum value =>
      if value.schema = schema.identity &&
          schema.enumMembers.any (·.value = value.value) then .ok ()
      else arenaFailure .schemaMismatch
        "program enum value is outside its closed schema"
    | _ => arenaFailure .schemaMismatch
        "program enum value is outside its closed schema"
  | .optional =>
    match payload, schema.elementType with
    | .optional value, some type =>
      if value.all (graph.childHasType type) then .ok () else typeFailure
    | _, _ => typeFailure
  | .record =>
    match payload with
    | .record fields =>
      if graph.childrenHaveTypes (schema.recordFields.map (·.type)) fields
      then .ok () else typeFailure
    | _ => typeFailure
  | .boundedList =>
    match payload, schema.elementType with
    | .list elements, some type =>
      if elements.length > schema.maximumSize.toNat then typeFailure
      else if elements.all (graph.childHasType type) then .ok ()
      else typeFailure
    | _, _ => typeFailure
  | .artifactReference =>
    match payload with
    | .artifact value =>
      if (schema.elementType.bind TypeRef.named = some value.schema) &&
          !value.artifactId.isEmpty && !value.contentHash.isEmpty &&
          !value.storageReference.isEmpty &&
          (value.complete || schema.permitsIncomplete) then .ok ()
      else arenaFailure .schemaMismatch
        "artifact reference violates its exact schema"
    | _ => arenaFailure .schemaMismatch
        "artifact reference violates its exact schema"
  | .resourceHandle =>
    match payload with
    | .resource handle =>
      if handleMatches schema currentEpoch handle.handleId
          handle.resourceType handle.worksetEpoch then .ok ()
      else arenaFailure .schemaMismatch
        "resource handle violates its exact schema or epoch"
    | _ => arenaFailure .schemaMismatch
        "resource handle violates its exact schema or epoch"
  | .epochBoundOpaqueHandle =>
    match payload with
    | .opaqueHandle handle =>
      if handleMatches schema currentEpoch handle.handleId
          handle.handleType handle.worksetEpoch then .ok ()
      else arenaFailure .schemaMismatch
        "opaque handle violates its exact schema or epoch"
    | _ => arenaFailure .schemaMismatch
        "opaque handle violates its exact schema or epoch"

/-- The per-value check of `ValidateProgramValueGraph`. -/
def validateValue (schemas : List TypeSchemaDefinition)
    (currentEpoch : Option WorksetEpoch) (value : ProgramValue) : ArenaResult Unit :=
  match value.type.named with
  | none => if value.type.builtin.holds value.payload then .ok () else typeFailure
  | some identity =>
    match findSchema schemas identity with
    | none => arenaFailure .schemaMismatch
        "program value uses a schema outside its verified closure"
    | some schema => graph.validateNamed currentEpoch schema value.payload

end ProgramValueGraph

def validateProgramValueGraph (expectedRootType : TypeRef)
    (schemas : List TypeSchemaDefinition) (limits : ProgramValueArenaLimits)
    (currentEpoch : Option WorksetEpoch) : ArenaResult Unit := do
  let _ ← ({ limits } : ProgramValueArena).importGraph graph
  if (graph.rootValue.map (·.type)) ≠ some expectedRootType then
    arenaFailure .typeMismatch
      "program value graph root does not match its exact type"
  graph.values.forM (graph.validateValue schemas currentEpoch)

/-!
## Building value graphs

The graph constructors of the executor: literals, composites, optionals, list
append, extraction of a subgraph, and structural equality.
-/

/-- `operator==` on payload variants. -/
def ProgramValuePayload.equal : ProgramValuePayload → ProgramValuePayload → Bool
  | .f32 left, .f32 right => left.equal right
  | .f64 left, .f64 right => left.equal right
  | left, right => left = right

/-- The payload of a literal. -/
def LiteralPayload.toValue : LiteralPayload → ProgramValuePayload
  | .unit => .unit
  | .bool value => .bool value
  | .u8 value => .u8 value
  | .u16 value => .u16 value
  | .u32 value => .u32 value
  | .u64 value => .u64 value
  | .i32 value => .i32 value
  | .i64 value => .i64 value
  | .f32 value => .f32 value
  | .f64 value => .f64 value
  | .string value => .string value
  | .bytes value => .bytes value
  | .enum value => .enum value

def scalarGraph (type : TypeRef) (payload : ProgramValuePayload) : ProgramValueGraph :=
  { root := ⟨1⟩, values := [⟨⟨1⟩, type, payload⟩] }

def unitGraph : ProgramValueGraph := scalarGraph (.ofBuiltin .unit) .unit

def fromLiteral (literal : LiteralValue) : ProgramValueGraph :=
  scalarGraph literal.type literal.payload.toValue

/-- The new ids of the values of a graph: consecutive from `nextId`. -/
def numbering : UInt64 → List ProgramValue → List (ProgramValueId × ProgramValueId)
  | _, [] => []
  | nextId, value :: values => (value.id, ⟨nextId⟩) :: numbering (nextId + 1) values

/-- An id under a names; an unlisted id becomes the absent one. -/
def renamed (names : List (ProgramValueId × ProgramValueId))
    (id : ProgramValueId) : ProgramValueId :=
  (names.lookup id).getD StrongId.none

/-- A value with its own id and its children renamed. -/
def renameValue (names : List (ProgramValueId × ProgramValueId))
    (value : ProgramValue) : ProgramValue :=
  { value with
    id := renamed names value.id
    payload := remapChildren (renamed names) value.payload }

/-- `AppendGraph`: the longer destination, the next free id and the new id of
the source's root.  Ids are unsigned 64-bit numbers and wrap around. -/
def appendGraph (destination source : ProgramValueGraph) (nextId : UInt64) :
    ProgramValueGraph × UInt64 × ProgramValueId :=
  let names := numbering nextId source.values
  ({ destination with
      values := destination.values ++ source.values.map (renameValue names) },
    nextId + UInt64.ofNat source.values.length, renamed names source.root)

/-- The children of a composite appended one after the other, with their
roots. -/
def appendGraphs : ProgramValueGraph → UInt64 → List ProgramValueGraph →
    ProgramValueGraph × UInt64 × List ProgramValueId
  | destination, nextId, [] => (destination, nextId, [])
  | destination, nextId, child :: children =>
    let (destination, nextId, root) := appendGraph destination child nextId
    let (destination, nextId, roots) := appendGraphs destination nextId children
    (destination, nextId, root :: roots)

/-- A new root value on top of the appended children. -/
def withRoot (nextId : UInt64)
    (type : TypeRef) (payload : ProgramValuePayload) : ProgramValueGraph :=
  { root := ⟨nextId⟩, values := graph.values ++ [⟨⟨nextId⟩, type, payload⟩] }

def compositeGraph (type : TypeRef) (children : List ProgramValueGraph)
    (list : Bool) : ProgramValueGraph :=
  let (graph, nextId, roots) := appendGraphs {} 1 children
  withRoot graph nextId type (if list then .list roots else .record roots)

def optionalGraph (type : TypeRef) (child : Option ProgramValueGraph) : ProgramValueGraph :=
  match child with
  | none => withRoot {} 1 type (.optional none)
  | some child =>
    let (graph, nextId, root) := appendGraph {} child 1
    withRoot graph nextId type (.optional (some root))

/-- One past the largest id, at least one.  The increment wraps around. -/
def firstFreeId (values : List ProgramValue) : UInt64 :=
  values.foldl (fun nextId value => max nextId (value.id.value + 1)) 1

/-- Replace the first value with this id. -/
def replaceFirst (id : ProgramValueId) (replace : ProgramValue → ProgramValue) :
    List ProgramValue → List ProgramValue
  | [] => []
  | value :: values =>
    if value.id = id then replace value :: values
    else value :: replaceFirst id replace values

/-- `AppendListGraph`.  The source reports a failure by an empty graph. -/
def appendListGraph (source element : ProgramValueGraph) (type : TypeRef) : ProgramValueGraph :=
  match source.rootValue.map ProgramValue.payload with
  | some (.list _) =>
    let (graph, _, elementRoot) := appendGraph source element (firstFreeId source.values)
    if !elementRoot.isSet then {}
    else
      match graph.rootValue.map ProgramValue.payload with
      | some (.list elements) =>
        { graph with
          values := replaceFirst graph.root
            (fun value => { value with
              type := type
              payload := .list (elements ++ [elementRoot]) })
            graph.values }
      | _ => {}
  | _ => {}

namespace ProgramValueGraph

/-- The worklist of `ExtractGraph`: pop the newest pending id, skip it when it
was reached before, and push its children.  An unresolved id is a failure. -/
def reachableLoop (graph : ProgramValueGraph) : Nat → List ProgramValueId → List ProgramValueId →
      Option (List ProgramValueId)
  | _, [], reachable => some reachable
  | 0, _ :: _, _ => none
  | fuel + 1, current :: pending, reachable =>
    if current ∈ reachable then graph.reachableLoop fuel pending reachable
    else
      match graph.find current with
      | none => none
      | some value =>
        graph.reachableLoop fuel (value.payload.children.reverse ++ pending) (current :: reachable)

/-- The number of child references of a graph. -/
def childCount : Nat := (graph.values.map fun value => value.payload.children.length).sum

/-- The ids below a root.  Every id is expanded at most once, so the root and
the child references bound the number of rounds. -/
def reachableFrom (root : ProgramValueId) : Option (List ProgramValueId) :=
  graph.reachableLoop (graph.childCount + 1) [root] []

def extractGraph (source : ProgramValueGraph) (root : ProgramValueId) : ProgramValueGraph :=
  match source.find root with
  | none => {}
  | some _ =>
    match source.reachableFrom root with
    | none => {}
    | some reachable =>
      let selected : ProgramValueGraph :=
        { root := root
          values := source.values.filter (·.id ∈ reachable) }
      let (graph, _, newRoot) := appendGraph {} selected 1
      { graph with root := newRoot }

/-- `GraphEquivalent`.  The recursion follows child references, so on the
acyclic graphs that the executor holds the number of values bounds its depth. -/
def equivalentFuel (left right : ProgramValueGraph) : Nat → ProgramValueId → ProgramValueId → Bool
  | 0, _, _ => false
  | fuel + 1, leftId, rightId =>
    match left.find leftId, right.find rightId with
    | some leftValue, some rightValue =>
      leftValue.type = rightValue.type &&
        match leftValue.payload, rightValue.payload with
        | .optional none, .optional none => true
        | .optional (some leftChild), .optional (some rightChild) =>
          equivalentFuel left right fuel leftChild rightChild
        | .record leftFields, .record rightFields =>
          leftFields.length = rightFields.length &&
            (leftFields.zip rightFields).all fun (leftField, rightField) =>
              equivalentFuel left right fuel leftField rightField
        | .list leftElements, .list rightElements =>
          leftElements.length = rightElements.length &&
            (leftElements.zip rightElements).all
              fun (leftElement, rightElement) =>
                equivalentFuel left right fuel leftElement rightElement
        | leftPayload, rightPayload => leftPayload.equal rightPayload
    | _, _ => false

/-- `GraphEquivalent` at the roots. -/
def equivalent (left right : ProgramValueGraph) : Bool :=
  equivalentFuel left right (left.values.length + 1) left.root right.root

end ProgramValueGraph

end Savor.Program
