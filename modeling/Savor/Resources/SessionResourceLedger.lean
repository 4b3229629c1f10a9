import Savor.Library.Sequence
import Savor.Library.Sorting
import Savor.Model.Identifiers

/-!
# The resource ledger of a session

The ledger owns the live resources of a session in a tree of scopes.  Resources
are released through a dispatcher, newest first, by an unwind that a cleanup
execution can suspend.
-/

namespace Savor.Resources

open Library Program

inductive ResourceOwnerIdTag

inductive ResourceServiceIdTag

inductive ResourceScopeIdTag

inductive ResourceReceiptIdTag

inductive ResourceAcquisitionSequenceTag

inductive ResourceExternalIdTag

inductive ResourceCleanupContinuationIdTag

abbrev ResourceOwnerId := StrongId ResourceOwnerIdTag

abbrev ResourceServiceId := StrongId ResourceServiceIdTag

abbrev ResourceScopeId := StrongId ResourceScopeIdTag

abbrev ResourceReceiptId := StrongId ResourceReceiptIdTag

abbrev ResourceAcquisitionSequence := StrongId ResourceAcquisitionSequenceTag

abbrev ResourceExternalId := StrongId ResourceExternalIdTag

abbrev ResourceCleanupContinuationId := StrongId ResourceCleanupContinuationIdTag

inductive ResourceScopeKind
  | sessionRoot
  | synthetic

inductive ResourceKind
  | inputLease
  | stopPointGroup
  | executionOperation
  | guestMutation
  | preparedMoviePlayback
  | movieSession
  | artifactWriter
  | telemetrySubscription
  | hostResource
  deriving DecidableEq

inductive ResourcePromotionPolicy
  | forbidden
  | immediateParent
  | anyAncestor
  deriving DecidableEq

inductive ResourceCleanupRequirement
  | optional
  | mandatory
  deriving DecidableEq

inductive ResourceRecordStatus
  | active
  | released
  | releaseFailed
  deriving DecidableEq

def ResourceRecordStatus.isLive (status : ResourceRecordStatus) : Bool :=
  status = .active || status = .releaseFailed

inductive ResourceLedgerState
  | uninitialized
  | accepting
  | unwinding
  | tainted
  | closed
  deriving DecidableEq

inductive ResourceLedgerErrorCode
  | wrongThread
  | invalidState
  | invalidArgument
  | exhaustedIdentity
  | scopeNotFound
  | scopeClosed
  | resourceNotFound
  | resourceAlreadyRegistered
  | promotionForbidden
  | destinationNotAncestor
  | cleanupInProgress

structure ResourceLedgerError where
  code : ResourceLedgerErrorCode
  message : ByteString

structure ResourceReleaseDescriptor where
  kind : ResourceKind
  externalId : ResourceExternalId
  deriving DecidableEq

structure ResourceAcquisitionDefinition where
  owner : ResourceOwnerId
  service : ResourceServiceId
  release : ResourceReleaseDescriptor
  promotion : ResourcePromotionPolicy := .forbidden
  cleanup : ResourceCleanupRequirement := .mandatory
  diagnosticLabel : ByteString := []

/-- The service, the resource kind and the external identity agree. -/
def ResourceAcquisitionDefinition.sameIdentity (service : ResourceServiceId)
    (release : ResourceReleaseDescriptor) (definition : ResourceAcquisitionDefinition) : Bool :=
  service = definition.service && release = definition.release

structure ResourceReceipt where
  session : SessionId
  id : ResourceReceiptId
  sequence : ResourceAcquisitionSequence
  owner : ResourceOwnerId
  service : ResourceServiceId
  scope : ResourceScopeId
  release : ResourceReleaseDescriptor
  acquisitionEpoch : WorksetEpoch
  promotion : ResourcePromotionPolicy
  cleanup : ResourceCleanupRequirement
  status : ResourceRecordStatus := .active
  diagnosticLabel : ByteString
  releaseDiagnostic : ByteString := []

structure ResourceScopeReceipt where
  session : SessionId
  id : ResourceScopeId
  parent : ResourceScopeId := .none
  owner : ResourceOwnerId
  kind : ResourceScopeKind
  opened : Bool
  diagnosticLabel : ByteString

inductive ResourceReleaseReason
  | explicit
  | scopeExit
  | shutdown

structure ResourceReleaseRequest where
  receipt : ResourceReceipt
  reason : ResourceReleaseReason
  currentEpoch : WorksetEpoch
  cleanupOnly : Bool := true

inductive ResourceReleaseStatus
  | released
  | cleanupExecutionRequired
  | failed
  deriving DecidableEq

structure ResourceReleaseResult where
  status : ResourceReleaseStatus
  diagnostic : ByteString

/-- A dispatcher object.  In one operation of the ledger it is asked at most
once for a resource, so its answers during the operation are a function. -/
structure ResourceReleaseDispatcher where
  identity : Nat
  release : ResourceReleaseRequest → ResourceReleaseResult

structure ResourceUnwindStep where
  request : ResourceReleaseRequest
  result : ResourceReleaseResult

inductive ResourceUnwindOutcome
  | completed
  | alreadyComplete
  | cleanupExecutionRequired
  | cleanupFailed
  | rejected

/-- In increasing severity. -/
inductive ResourceCleanupDisposition
  | clean
  | cleanWithDiagnostics
  | taintRequired
  deriving DecidableEq

/-- `MergeDiagnosticDisposition` -/
def ResourceCleanupDisposition.mergeDiagnostic :
    ResourceCleanupDisposition → ResourceCleanupDisposition
  | .clean => .cleanWithDiagnostics
  | disposition => disposition

structure ResourceCleanupExecutionRequest where
  continuation : ResourceCleanupContinuationId
  release : ResourceReleaseRequest

structure ResourceUnwindResult where
  outcome : ResourceUnwindOutcome
  disposition : ResourceCleanupDisposition
  steps : List ResourceUnwindStep := []
  cleanupExecutionRequest : Option ResourceCleanupExecutionRequest := none
  error : Option ResourceLedgerError := none

structure PendingUnwind where
  resources : List ResourceReceiptId
  nextResource : Nat := 0
  scopesToClose : List ResourceScopeId
  reason : ResourceReleaseReason
  completionState : ResourceLedgerState
  shutdown : Bool
  hadFailure : Bool := false
  continuation : ResourceCleanupContinuationId
  steps : List ResourceUnwindStep := []

structure SessionResourceLedger where
  ownerThread : ThreadId
  state : ResourceLedgerState := .uninitialized
  disposition : ResourceCleanupDisposition := .clean
  sessionId : SessionId := .none
  worksetEpoch : WorksetEpoch := .none
  sessionRoot : ResourceScopeId := .none
  (nextScopeId nextResourceId nextSequence nextContinuationId : UInt64 := 1)
  scopes : List ResourceScopeReceipt := []
  resources : List ResourceReceipt := []
  pendingUnwind : Option PendingUnwind := none
  boundDispatcher : Option Nat := none
  diagnostic : ByteString := []

/-- What an operation returns. -/
inductive ResourceLedgerReply
  | operation (result : Except ResourceLedgerError Unit)
  | scope (result : Except ResourceLedgerError ResourceScopeReceipt)
  | acquisition (result : Except ResourceLedgerError (List ResourceReceipt))
  | promotion
      (result : Except (ResourceLedgerError × Option ResourceReceipt) (Bool × ResourceReceipt))
  | unwind (result : ResourceUnwindResult)

/-- What can be observed of an operation: its result, and what it asked of the
dispatcher. -/
structure ResourceLedgerEvent where
  reply : ResourceLedgerReply
  asked : List ResourceUnwindStep := []

variable (ledger : SessionResourceLedger) (scope : ResourceScopeId)
variable (sorting : UnstableSort)

namespace SessionResourceLedger

/-- The ledger as constructed. -/
def new (ownerThread : ThreadId) : SessionResourceLedger := { ownerThread := ownerThread }

def findResource (resource : ResourceReceiptId) : Option ResourceReceipt :=
  Keyed.lookup (·.id) ledger.resources resource

def findScope : Option ResourceScopeReceipt := Keyed.lookup (·.id) ledger.scopes scope

def parentOf : ResourceScopeId :=
  match ledger.findScope scope with
  | none => .none
  | some found => found.parent

/-- The loop of `IsAncestor`.  Parents are registered before their children, so
a chain of parents is no longer than the list of scopes. -/
def ancestorFrom (ledger : SessionResourceLedger) (possibleAncestor : ResourceScopeId) :
    Nat → ResourceScopeId → Bool
  | 0, _ => false
  | fuel + 1, cursor =>
    if !cursor.isSet then false
    else if cursor = possibleAncestor then true
    else ledger.ancestorFrom possibleAncestor fuel (ledger.parentOf cursor)

def isAncestor (possibleAncestor scope : ResourceScopeId) : Bool :=
  if !possibleAncestor.isSet || !scope.isSet || possibleAncestor = scope then
    false
  else
    ledger.ancestorFrom possibleAncestor (ledger.scopes.length + 1) (ledger.parentOf scope)

def isInScopeSubtree (candidate subtreeRoot : ResourceScopeId) : Bool :=
  candidate = subtreeRoot || ledger.isAncestor subtreeRoot candidate

def validateAccepting : Except ResourceLedgerError Unit :=
  if ledger.state = .accepting then .ok ()
  else if ledger.state = .unwinding then
    .error ⟨.cleanupInProgress, text "Resource cleanup is in progress"⟩
  else
    .error ⟨.invalidState, text "The resource ledger is not accepting acquisitions"⟩

/-- `ValidateScopeForAcquisition`, with the scope it finds. -/
def validateScopeForAcquisition : Except ResourceLedgerError ResourceScopeReceipt :=
  if !scope.isSet then
    .error ⟨.invalidArgument, text "Resource scope identity must be nonzero"⟩
  else
    match ledger.findScope scope with
    | none =>
      .error ⟨.scopeNotFound, text "Resource scope is not registered"⟩
    | some found =>
      if !found.opened then
        .error ⟨.scopeClosed, text "Resource scope is already closed"⟩
      else .ok found

/-- The two validations that acquisitions and promotions start with. -/
def validateAcquisition : Except ResourceLedgerError ResourceScopeReceipt :=
  match ledger.validateAccepting with
  | .error refused => .error refused
  | .ok _ => ledger.validateScopeForAcquisition scope

/-- `Initialize`, on the owner thread. -/
def initializeSession (session : SessionId) (worksetEpoch : WorksetEpoch)
    (sessionOwner : ResourceOwnerId) (ledger : SessionResourceLedger) :
    Except ResourceLedgerError Unit × SessionResourceLedger :=
  if ledger.state ≠ .uninitialized then
    (.error ⟨.invalidState, text "SessionResourceLedger is already initialized"⟩, ledger)
  else if !session.isSet || !worksetEpoch.isSet || !sessionOwner.isSet then
    (.error ⟨.invalidArgument,
      text ("SessionResourceLedger requires nonzero session, epoch, and " ++
        "owner identities")⟩, ledger)
  else
    let root : ResourceScopeReceipt :=
      { session := session
        id := ⟨ledger.nextScopeId⟩
        owner := sessionOwner
        kind := .sessionRoot
        opened := true
        diagnosticLabel := text "session" }
    (.ok (), { ledger with
      scopes := [root]
      sessionRoot := root.id
      sessionId := session
      nextScopeId := ledger.nextScopeId + 1
      worksetEpoch := worksetEpoch
      disposition := .clean
      state := .accepting })

/-- The largest 64-bit number, which is never given out as an id. -/
def maximum : UInt64 := 0xffffffffffffffff

/-- `OpenSyntheticScope`, on the owner thread. -/
def openSyntheticScope (parent : ResourceScopeId) (owner : ResourceOwnerId)
    (diagnosticLabel : ByteString) (ledger : SessionResourceLedger) :
    Except ResourceLedgerError ResourceScopeReceipt × SessionResourceLedger :=
  match ledger.validateAcquisition parent with
  | .error refused => (.error refused, ledger)
  | .ok _ =>
    if !owner.isSet then
      (.error ⟨.invalidArgument, text "Resource scope owner must be nonzero"⟩, ledger)
    else if ledger.nextScopeId = maximum then
      (.error ⟨.exhaustedIdentity, text "Resource scope identity space is exhausted"⟩, ledger)
    else
      let receipt : ResourceScopeReceipt :=
        { session := ledger.sessionId
          id := ⟨ledger.nextScopeId⟩
          parent := parent
          owner := owner
          kind := .synthetic
          opened := true
          diagnosticLabel := diagnosticLabel }
      (.ok receipt, { ledger with
        scopes := ledger.scopes ++ [receipt]
        nextScopeId := ledger.nextScopeId + 1 })

/-- The checks of `Acquire` on a batch, after those on `earlier`. -/
def validateDefinitions (ledger : SessionResourceLedger) (owningScope : ResourceScopeReceipt)
    (earlier : List ResourceAcquisitionDefinition) :
    List ResourceAcquisitionDefinition → Except ResourceLedgerError Unit
  | [] => .ok ()
  | definition :: later =>
    if !definition.owner.isSet || !definition.service.isSet ||
        !definition.release.externalId.isSet then
      .error ⟨.invalidArgument, text ("Resource owner, service, and external identity must be " ++
          "nonzero")⟩
    else if definition.owner ≠ owningScope.owner then
      .error ⟨.invalidArgument, text "Resource owner does not match the owning scope"⟩
    else if ledger.resources.any fun existing =>
        existing.status.isLive &&
          ResourceAcquisitionDefinition.sameIdentity existing.service
            existing.release definition then
      .error ⟨.resourceAlreadyRegistered, text "The service resource is already registered"⟩
    else if earlier.any fun other =>
        ResourceAcquisitionDefinition.sameIdentity other.service other.release definition then
      .error ⟨.resourceAlreadyRegistered,
        text ("The acquisition batch contains a duplicate service " ++ "resource")⟩
    else
      ledger.validateDefinitions owningScope (earlier ++ [definition]) later

/-- The receipts of a batch, numbered from the next free ids on. -/
def receiptsFrom (ledger : SessionResourceLedger) (scope : ResourceScopeId) :
    UInt64 → UInt64 → List ResourceAcquisitionDefinition → List ResourceReceipt
  | _, _, [] => []
  | resourceId, sequence, definition :: later =>
    { session := ledger.sessionId
      id := ⟨resourceId⟩
      sequence := ⟨sequence⟩
      owner := definition.owner
      service := definition.service
      scope := scope
      release := definition.release
      acquisitionEpoch := ledger.worksetEpoch
      promotion := definition.promotion
      cleanup := definition.cleanup
      diagnosticLabel := definition.diagnosticLabel } ::
    ledger.receiptsFrom scope (resourceId + 1) (sequence + 1) later

/-- `Acquire`, on the owner thread. -/
def acquire (definitions : List ResourceAcquisitionDefinition) (ledger : SessionResourceLedger) :
    Except ResourceLedgerError (List ResourceReceipt) × SessionResourceLedger :=
  match ledger.validateAcquisition scope with
  | .error refused => (.error refused, ledger)
  | .ok owningScope =>
    if definitions = [] then (.ok [], ledger)
    else if (maximum - ledger.nextResourceId).toNat < definitions.length ∨
        (maximum - ledger.nextSequence).toNat < definitions.length then
      (.error ⟨.exhaustedIdentity, text "Resource receipt identity space is exhausted"⟩, ledger)
    else
      match ledger.validateDefinitions owningScope [] definitions with
      | .error refused => (.error refused, ledger)
      | .ok _ =>
        let receipts := ledger.receiptsFrom scope ledger.nextResourceId
          ledger.nextSequence definitions
        (.ok receipts, { ledger with
          resources := ledger.resources ++ receipts
          nextResourceId := ledger.nextResourceId + UInt64.ofNat definitions.length
          nextSequence := ledger.nextSequence + UInt64.ofNat definitions.length })

/-- `Promote`, on the owner thread. -/
def promote (resource : ResourceReceiptId) (destinationScope : ResourceScopeId)
    (ledger : SessionResourceLedger) : Except (ResourceLedgerError × Option ResourceReceipt)
        (Bool × ResourceReceipt) × SessionResourceLedger :=
  match ledger.validateAcquisition destinationScope with
  | .error refused => (.error (refused, none), ledger)
  | .ok destination =>
    match ledger.findResource resource with
    | none =>
      (.error (⟨.resourceNotFound, text "Resource receipt is not registered"⟩, none), ledger)
    | some found =>
      let refuse (code : ResourceLedgerErrorCode) (message : String) :=
        (Except.error (⟨code, text message⟩, some found), ledger)
      if !found.status.isLive then
        refuse .invalidState "Only an active resource may be promoted"
      else if destination.owner ≠ found.owner then
        refuse .promotionForbidden
          "Resource promotion cannot cross scope ownership"
      else if found.scope = destinationScope then
        (.ok (false, found), ledger)
      else if !ledger.isAncestor destinationScope found.scope then
        refuse .destinationNotAncestor
          "Resource promotion destination is not an enclosing scope"
      else if found.promotion = .forbidden then
        refuse .promotionForbidden
          "The resource descriptor forbids promotion"
      else if found.promotion = .immediateParent ∧
          ledger.parentOf found.scope ≠ destinationScope then
        refuse .promotionForbidden
          "The resource may be promoted only to its immediate parent"
      else
        (.ok (true, { found with scope := destinationScope }), { ledger with
          resources := Keyed.update (·.id) resource
            (fun receipt => { receipt with scope := destinationScope })
            ledger.resources })

/-! ## Unwinding -/

def rejectedUnwind (code : ResourceLedgerErrorCode) (message : String) : ResourceUnwindResult :=
  { outcome := .rejected
    disposition := ledger.disposition
    error := some ⟨code, text message⟩ }

/-- One round of the loop of `FinishPendingUnwind`. -/
def closeUnlessOwning (shutdown : Bool) (ledger : SessionResourceLedger) (id : ResourceScopeId) :
    SessionResourceLedger :=
  let stillOwnsResource := ledger.resources.any fun resource =>
    resource.status.isLive && ledger.isInScopeSubtree resource.scope id
  if stillOwnsResource && !shutdown then ledger
  else { ledger with
    scopes := Keyed.update (·.id) id (fun scope => { scope with opened := false }) ledger.scopes }

def finishPendingUnwind (pending : PendingUnwind) (ledger : SessionResourceLedger) :
    SessionResourceLedger :=
  let closed := pending.scopesToClose.foldl (closeUnlessOwning pending.shutdown) ledger
  { closed with
    pendingUnwind := none
    state :=
      if pending.shutdown then .closed
      else if closed.disposition = .taintRequired then .tainted
      else pending.completionState }

/-- Record what the dispatcher answered, other than a required cleanup. -/
def recordRelease (id : ResourceReceiptId)
    (cleanup : ResourceCleanupRequirement) (release : ResourceReleaseResult)
    (ledger : SessionResourceLedger) : SessionResourceLedger :=
  let record (status : ResourceRecordStatus) :=
    Keyed.update (·.id) id
      (fun receipt : ResourceReceipt => { receipt with
        status := status, releaseDiagnostic := release.diagnostic })
      ledger.resources
  if release.status = .failed then
    { ledger with
      resources := record .releaseFailed
      diagnostic :=
        if release.diagnostic.isEmpty then ledger.diagnostic
        else if ledger.diagnostic.isEmpty then release.diagnostic
        else ledger.diagnostic ++ text "; " ++ release.diagnostic
      disposition :=
        if cleanup = .mandatory then .taintRequired
        else ledger.disposition.mergeDiagnostic }
  else { ledger with resources := record .released }

/-- The loop of `PumpUnwind` over the resources that are left, with the steps
that this call makes. -/
def pumpFrom (dispatcher : ResourceReleaseDispatcher) (pending : PendingUnwind)
    (ledger : SessionResourceLedger) : List ResourceReceiptId →
      ResourceUnwindResult × List ResourceUnwindStep × SessionResourceLedger
  | [] =>
    let finished := ledger.finishPendingUnwind pending
    ({ outcome := if pending.hadFailure then .cleanupFailed else .completed
       disposition := finished.disposition
       steps := pending.steps }, [], finished)
  | id :: rest =>
    let skipped := { pending with nextResource := pending.nextResource + 1 }
    match ledger.findResource id with
    | none => ledger.pumpFrom dispatcher skipped rest
    | some found =>
      if !found.status.isLive then ledger.pumpFrom dispatcher skipped rest
      else
        let request : ResourceReleaseRequest :=
          { receipt := found
            reason := pending.reason
            currentEpoch := ledger.worksetEpoch }
        let release := dispatcher.release request
        let step : ResourceUnwindStep := ⟨request, release⟩
        if release.status = .cleanupExecutionRequired then
          let suspended := { pending with steps := pending.steps ++ [step] }
          ({ outcome := .cleanupExecutionRequired
             disposition := ledger.disposition
             steps := suspended.steps
             cleanupExecutionRequest := some ⟨pending.continuation, request⟩ }, [step],
            { ledger with pendingUnwind := some suspended })
        else
          let continued := { pending with
            nextResource := pending.nextResource + 1
            hadFailure := pending.hadFailure || release.status = .failed
            steps := pending.steps ++ [step] }
          let (result, later, after) :=
            (ledger.recordRelease id found.cleanup release).pumpFrom dispatcher continued rest
          (result, step :: later, after)

def pumpUnwind (dispatcher : ResourceReleaseDispatcher) (ledger : SessionResourceLedger) :
    ResourceUnwindResult × List ResourceUnwindStep × SessionResourceLedger :=
  match ledger.pendingUnwind with
  | none =>
    (ledger.rejectedUnwind .invalidState "No resource unwind is active", [], ledger)
  | some pending => ledger.pumpFrom dispatcher pending (pending.resources.drop pending.nextResource)

def startUnwind (resources : List ResourceReceiptId)
    (scopesToClose : List ResourceScopeId) (reason : ResourceReleaseReason)
    (completionState : ResourceLedgerState) (shutdown : Bool)
    (dispatcher : ResourceReleaseDispatcher) (ledger : SessionResourceLedger) :
    ResourceUnwindResult × List ResourceUnwindStep × SessionResourceLedger :=
  if ledger.pendingUnwind.isSome then
    (ledger.rejectedUnwind .cleanupInProgress
      "Another resource unwind is already active", [], ledger)
  else if ledger.boundDispatcher.any (· ≠ dispatcher.identity) then
    (ledger.rejectedUnwind .invalidArgument
      ("Resource cleanup dispatcher does not match the ledger-bound " ++ "dispatcher"), [], ledger)
  else if ledger.nextContinuationId = maximum then
    (ledger.rejectedUnwind .exhaustedIdentity
      "Resource cleanup continuation identity space is exhausted", [], ledger)
  else
    pumpUnwind dispatcher { ledger with
      pendingUnwind := some
        { resources := resources
          scopesToClose := scopesToClose
          reason := reason
          completionState := completionState
          shutdown := shutdown
          continuation := ⟨ledger.nextContinuationId⟩ }
      boundDispatcher := some dispatcher.identity
      nextContinuationId := ledger.nextContinuationId + 1
      state := .unwinding }

/-- The answer when there is nothing to unwind. -/
def nothingToUnwind (outcome : ResourceUnwindOutcome) (ledger : SessionResourceLedger) :
    ResourceUnwindResult × List ResourceUnwindStep × SessionResourceLedger :=
  ({ outcome := outcome, disposition := ledger.disposition }, [], ledger)

/-- The code of a refusal to begin an unwind. -/
def busyCode : ResourceLedgerErrorCode :=
  if ledger.state = .unwinding then .cleanupInProgress else .invalidState

/-- `Release`, on the owner thread. -/
def release (resource : ResourceReceiptId)
    (dispatcher : ResourceReleaseDispatcher) (ledger : SessionResourceLedger) :
    ResourceUnwindResult × List ResourceUnwindStep × SessionResourceLedger :=
  if ledger.state ≠ .accepting ∧ ledger.state ≠ .tainted then
    (ledger.rejectedUnwind ledger.busyCode
      "The ledger cannot begin an explicit release in its current state", [], ledger)
  else
    match ledger.findResource resource with
    | none =>
      (ledger.rejectedUnwind .resourceNotFound "Resource receipt is not registered", [], ledger)
    | some found =>
      if !found.status.isLive then ledger.nothingToUnwind .alreadyComplete
      else
        ledger.startUnwind [resource] [] .explicit ledger.state false dispatcher

/-- The acquisition sequence by which the live resources are sorted. -/
def sequenceOf (id : ResourceReceiptId) : UInt64 :=
  ((ledger.findResource id).map (·.sequence.value)).getD 0

/-- The live resources that `keep` selects, by decreasing acquisition
sequence. -/
def liveResources (keep : ResourceReceipt → Bool) (ledger : SessionResourceLedger) :
    List ResourceReceiptId :=
  sorting.sort (descendingOn ledger.sequenceOf)
    ((ledger.resources.filter fun receipt =>
      receipt.status.isLive && keep receipt).map (·.id))

/-- The depth of a scope below the session root. -/
def depthFrom (ledger : SessionResourceLedger) : Nat → ResourceScopeId → Nat
  | 0, _ => 0
  | fuel + 1, candidate =>
    if !candidate.isSet || candidate = ledger.sessionRoot then 0
    else ledger.depthFrom fuel (ledger.parentOf candidate) + 1

/-- The open scopes of a subtree, deepest first. -/
def openScopes (scope : ResourceScopeId) (ledger : SessionResourceLedger) : List ResourceScopeId :=
  sorting.sort (descendingOn (ledger.depthFrom (ledger.scopes.length + 1)))
    ((ledger.scopes.filter fun candidate =>
      candidate.opened && ledger.isInScopeSubtree candidate.id scope).map (·.id))

/-- `CloseScope`, on the owner thread. -/
def closeScope (scope : ResourceScopeId)
    (dispatcher : ResourceReleaseDispatcher) (ledger : SessionResourceLedger) :
    ResourceUnwindResult × List ResourceUnwindStep × SessionResourceLedger :=
  if ledger.state ≠ .accepting ∧ ledger.state ≠ .tainted then
    (ledger.rejectedUnwind ledger.busyCode
      "The ledger cannot close a scope in its current state", [], ledger)
  else if scope = ledger.sessionRoot then
    (ledger.rejectedUnwind .invalidArgument
      "The session root is closed only by Shutdown", [], ledger)
  else
    match ledger.findScope scope with
    | none =>
      (ledger.rejectedUnwind .scopeNotFound "Resource scope is not registered", [], ledger)
    | some found =>
      if !found.opened then ledger.nothingToUnwind .alreadyComplete
      else
        ledger.startUnwind
          (ledger.liveResources sorting fun receipt => ledger.isInScopeSubtree receipt.scope scope)
          (ledger.openScopes sorting scope)
          .scopeExit ledger.state false dispatcher

/-- `ContinueCleanup`, on the owner thread. -/
def continueCleanup (continuation : ResourceCleanupContinuationId)
    (dispatcher : ResourceReleaseDispatcher) (ledger : SessionResourceLedger) :
    ResourceUnwindResult × List ResourceUnwindStep × SessionResourceLedger :=
  match ledger.pendingUnwind with
  | none =>
    (ledger.rejectedUnwind .invalidState "No resource cleanup is awaiting continuation", [], ledger)
  | some pending =>
    if ledger.state ≠ .unwinding then
      (ledger.rejectedUnwind .invalidState
        "No resource cleanup is awaiting continuation", [], ledger)
    else if !continuation.isSet || continuation ≠ pending.continuation then
      (ledger.rejectedUnwind .invalidArgument
        "Cleanup continuation does not match the suspended unwind", [], ledger)
    else if ledger.boundDispatcher ≠ some dispatcher.identity then
      (ledger.rejectedUnwind .invalidArgument
        ("Resource cleanup dispatcher does not match the ledger-bound " ++
          "dispatcher"), [], ledger)
    else ledger.pumpUnwind dispatcher

/-- `Shutdown`, on the owner thread. -/
def shutdown (sorting : UnstableSort) (dispatcher : ResourceReleaseDispatcher)
    (ledger : SessionResourceLedger) :
    ResourceUnwindResult × List ResourceUnwindStep × SessionResourceLedger :=
  if ledger.state = .closed then ledger.nothingToUnwind .alreadyComplete
  else if ledger.state = .uninitialized then
    nothingToUnwind .completed { ledger with state := .closed }
  else if ledger.state = .unwinding then
    (ledger.rejectedUnwind .cleanupInProgress
      "Resource cleanup must finish before Shutdown can begin", [], ledger)
  else
    ledger.startUnwind (ledger.liveResources sorting fun _ => true)
      ((ledger.scopes.filter (·.opened)).map (·.id))
      .shutdown .closed true dispatcher

end SessionResourceLedger

inductive ResourceLedgerOperation
  | initializeSession
      (session : SessionId)
      (worksetEpoch : WorksetEpoch)
      (sessionOwner : ResourceOwnerId)
  | openSyntheticScope
      (parent : ResourceScopeId)
      (owner : ResourceOwnerId)
      (diagnosticLabel : ByteString)
  | acquire
      (scope : ResourceScopeId)
      (definitions : List ResourceAcquisitionDefinition)
  | promote
      (resource : ResourceReceiptId)
      (destinationScope : ResourceScopeId)
  | release (resource : ResourceReceiptId)
  | closeScope (scope : ResourceScopeId)
  | continueCleanup (continuation : ResourceCleanupContinuationId)
  | shutdown

/-- An operation, the thread that calls it, and the dispatcher passed to it. -/
structure ResourceLedgerCall where
  thread : ThreadId
  dispatcher : ResourceReleaseDispatcher
  operation : ResourceLedgerOperation

namespace SessionResourceLedger

/-- The refusal of an operation off the owner thread. -/
def wrongThread (ledger : SessionResourceLedger) : ResourceLedgerOperation → ResourceLedgerReply
  | .initializeSession .. => .operation (.error ⟨.wrongThread,
      text "SessionResourceLedger initialized outside its owner thread"⟩)
  | .openSyntheticScope .. => .scope (.error ⟨.wrongThread,
      text "Resource scope opened outside the ledger owner thread"⟩)
  | .acquire .. => .acquisition (.error ⟨.wrongThread,
      text "Resources acquired outside the ledger owner thread"⟩)
  | .promote .. => .promotion (.error (⟨.wrongThread,
      text "Resource promoted outside the ledger owner thread"⟩, none))
  | .release .. => .unwind (ledger.rejectedUnwind .wrongThread
      "Resource released outside the ledger owner thread")
  | .closeScope .. => .unwind (ledger.rejectedUnwind .wrongThread
      "Resource scope closed outside the ledger owner thread")
  | .continueCleanup .. => .unwind (ledger.rejectedUnwind .wrongThread
      "Resource cleanup continued outside the ledger owner thread")
  | .shutdown => .unwind (ledger.rejectedUnwind .wrongThread
      "Resource ledger shut down outside its owner thread")

/-- The event of an unwind. -/
def unwindEvent (unwound : ResourceUnwindResult × List ResourceUnwindStep × SessionResourceLedger) :
    ResourceLedgerEvent × SessionResourceLedger :=
  (⟨.unwind unwound.1, unwound.2.1⟩, unwound.2.2)

/-- An operation on the owner thread. -/
def perform (dispatcher : ResourceReleaseDispatcher) (ledger : SessionResourceLedger) :
    ResourceLedgerOperation → ResourceLedgerEvent × SessionResourceLedger
  | .initializeSession session worksetEpoch sessionOwner =>
    let (result, after) := ledger.initializeSession session worksetEpoch sessionOwner
    ({ reply := .operation result }, after)
  | .openSyntheticScope parent owner diagnosticLabel =>
    let (result, after) := ledger.openSyntheticScope parent owner diagnosticLabel
    ({ reply := .scope result }, after)
  | .acquire scope definitions =>
    let (result, after) := ledger.acquire scope definitions
    ({ reply := .acquisition result }, after)
  | .promote resource destinationScope =>
    let (result, after) := ledger.promote resource destinationScope
    ({ reply := .promotion result }, after)
  | .release resource => unwindEvent (ledger.release resource dispatcher)
  | .closeScope scope => unwindEvent (ledger.closeScope sorting scope dispatcher)
  | .continueCleanup continuation => unwindEvent (ledger.continueCleanup continuation dispatcher)
  | .shutdown => unwindEvent (ledger.shutdown sorting dispatcher)

/-- Every call is answered. -/
def step (call : ResourceLedgerCall) (ledger : SessionResourceLedger) :
    Option (ResourceLedgerEvent × SessionResourceLedger) :=
  if call.thread ≠ ledger.ownerThread then
    some ({ reply := ledger.wrongThread call.operation }, ledger)
  else some (ledger.perform sorting call.dispatcher call.operation)

end SessionResourceLedger

end Savor.Resources
