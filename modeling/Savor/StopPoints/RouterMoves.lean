import Savor.StopPoints.DrainFacts

/-!
# What a call of the router is made of

Every call is a short sequence of moves: it changes control data, applies a
candidate, drains, routes a hit and so on.  What holds of the router is proved
once for each move; `perform_moves` then carries it over to the calls.
-/

namespace Savor.StopPoints

open Program PhysicalStopPointManager

/-- What a move leaves in the record of its call. -/
inductive MoveLabel
  | silent
  | closed
  | reopened
  | hit (build : Option NativeBuild) (fate : HitFate)
  | injected (build : NativeBuild) (notified : List DispatchEntry)
  | accepted (notified : List DispatchEntry)
  | drained (items : List DrainItem) (notified : List DispatchEntry)

namespace MoveLabel

def build : MoveLabel → Option NativeBuild
  | .hit build _ => build
  | .injected build _ => some build
  | _ => none

def fate : MoveLabel → Option HitFate
  | .hit _ fate => some fate
  | _ => none

def drain : MoveLabel → Option (List DrainItem)
  | .drained items _ => some items
  | _ => none

def notified : MoveLabel → List DispatchEntry
  | .injected _ notified | .accepted notified | .drained _ notified => notified
  | _ => []

end MoveLabel

/-- The packet that an injected synthetic stop is processed as. -/
def NativePacket.inject (packet : NativePacket) (authoritative : Bool) : NativePacket :=
  let packet : NativePacket :=
    { packet with
      event :=
        { packet.event with
          authoritative := packet.event.authoritative || authoritative } }
  if packet.entries.isEmpty then
    { packet with
      terminal := if authoritative then .unclaimed else .none
      requestBreak := authoritative }
  else packet

namespace StopPointRouter

/-- The packet for a hit of the published snapshot. -/
def buildPacket (router : StopPointRouter) (hit : NativeHit) : NativeBuild :=
  buildNativePacket router.ports router.dispatch hit router.gates
    router.nextStopSequence router.nextSampleSnapshot

/-- The router after a packet was built. -/
def afterBuild (router : StopPointRouter) (build : NativeBuild) : StopPointRouter :=
  { router with
    gates := build.gates
    nextStopSequence := build.nextStopSequence
    nextSampleSnapshot := build.nextSampleSnapshot }

/-- The router with a new group record made and its candidate applied. -/
def insertGroup (router : StopPointRouter) (definition : StopSubscriptionGroupDefinition)
    (registrationSequence nextRegistrationSequence : UInt64) (backend : PhysicalStopPointBackend) :
    CandidateApplyReceipt × StopPointRouter :=
  let made := makeGroupRecord router.gates definition registrationSequence router.worksetEpoch
  { router with nextRegistrationSequence, gates := made.2 }.applyCandidate
    (router.groups.insert made.1) false backend

/-- The router without a group, which is remembered as released when its
candidate was applied. -/
def eraseGroup (router : StopPointRouter) (lease : StopSubscriptionGroupLease)
    (backend : PhysicalStopPointBackend) : CandidateApplyReceipt × StopPointRouter :=
  let applied := router.applyCandidate (router.groups.erase lease.groupId) false backend
  if applied.1.ok then
    (applied.1, applied.2.markReleased [(lease.groupId, lease.registrationSequence)])
  else applied

/-- The active group that a lease names. -/
def Owns (router : StopPointRouter) (lease : StopSubscriptionGroupLease) (group : GroupRecord) :
    Prop :=
  router.groups.find lease.groupId = some group ∧
    group.source.id = lease.sourceId ∧
    group.registrationSequence = lease.registrationSequence

/-- The number that a group record gets: the next one for a new group, and the
one of the active group for its replacement. -/
inductive Names (router : StopPointRouter) (call : RouterCall)
    (definition : StopSubscriptionGroupDefinition) : UInt64 → UInt64 → Prop
  | registers {policy : StopCurrentPointPolicy}
      (asked : call.operation = .registerGroup definition policy)
      (unknown : router.groups.find definition.id = none)
      (positive : router.nextRegistrationSequence ≠ 0)
      (left : router.nextRegistrationSequence.toNat ≠ UInt64.size - 1) :
      Names router call definition router.nextRegistrationSequence
        (router.nextRegistrationSequence + 1)
  | replaces {existing : GroupRecord}
      (known : router.groups.find definition.id = some existing) :
      Names router call definition existing.registrationSequence router.nextRegistrationSequence

section

variable (router : StopPointRouter)
variable (definition : StopSubscriptionGroupDefinition)
variable (registrationSequence nextRegistrationSequence : UInt64)
variable (backend : PhysicalStopPointBackend)
include router definition registrationSequence nextRegistrationSequence backend

theorem insertGroup_applies : AppliesCandidate
      { router with
        nextRegistrationSequence
        gates := (makeGroupRecord router.gates definition registrationSequence
          router.worksetEpoch).2 }
      (router.groups.insert (makeGroupRecord router.gates definition
        registrationSequence router.worksetEpoch).1)
      backend
      (router.insertGroup definition registrationSequence nextRegistrationSequence backend) :=
  applyCandidate_applies _ _ _ _

theorem insertGroup_initialized :
    (router.insertGroup definition registrationSequence nextRegistrationSequence
      backend).2.initialized = router.initialized :=
  (applyCandidate_keeps { router with
    nextRegistrationSequence
    gates := (makeGroupRecord router.gates definition registrationSequence
      router.worksetEpoch).2 } _ _ _).initialized

end

theorem eraseGroup_initialized (router : StopPointRouter)
    (lease : StopSubscriptionGroupLease) (backend : PhysicalStopPointBackend) :
    (router.eraseGroup lease backend).2.initialized = router.initialized := by
  have kept := applyCandidate_keeps router (router.groups.erase lease.groupId) false backend
  unfold eraseGroup
  dsimp only
  split <;> exact kept.initialized

end StopPointRouter

/-- The backend runs a commit exactly when it applies the requested plan. -/
structure RouterCall.Faithful (call : RouterCall) : Prop where
  backend : call.backend.Faithful
  drainBackend : call.drainBackend.Faithful

/-- The call revalidates the plan after JIT. -/
def RouterCall.Revalidates (call : RouterCall) : Prop :=
  call.operation = .revalidateAfterJit ∨ call.operation = .enterStoppedMovieCoreBoundary

/-- The call opens the ingress without a drain. -/
def RouterCall.Reopens (call : RouterCall) : Prop :=
  call.operation = .reconcileAfterWorksetBaselineRestore ∨
    call.operation = .resumeAfterFailedWorksetBaselineRestore

/-- The call injects a synthetic stop. -/
def RouterCall.Injects (call : RouterCall) : Prop :=
  ∃ identity authoritative answers,
    call.operation = .injectSyntheticStop identity authoritative answers

/-- The call releases a lease that its handle takes for active. -/
def RouterCall.ReleasesLease (call : RouterCall) : Prop :=
  ∃ lease, call.operation = .releaseGroupNoThrow lease ∧ lease.active = true

/-- Nothing waits to be drained, and an overflow was reported. -/
structure StopPointRouter.Settled (router : StopPointRouter) : Prop where
  pending : router.pending = []
  reported : router.authoritativeOverflow = true → router.overflowReported = true

/-- A part of a call. -/
inductive Move (call : RouterCall) : StopPointRouter → MoveLabel → StopPointRouter → Prop
  | control {router next} (change : ControlChange router next) : Move call router .silent next
  | initialized {router} (firstEpoch : WorksetEpoch)
      (fresh : router.initialized = false) :
      Move call router .silent (router.initializeRouter call firstEpoch).2
  | closed {router}
      (used : call.ReleasesLease ∨ router.initialized = true) :
      Move call router .closed router.overflowIngress
  | reopened {router} (active : router.initialized = true)
      (owner : router.ownerThread = call.thread)
      (settled : call.Reopens ∨ call.operation = .enterStoppedMovieCoreBoundary ∧ router.Settled) :
      Move call router .reopened router.reopenIngress
  | reapplied {router} (active : router.initialized = true) :
      Move call router .silent (router.applyCandidate router.groups true call.backend).2
  | inserted {router} (checked : router.checkControlThread call = none)
      (definition : StopSubscriptionGroupDefinition)
      (registrationSequence nextRegistrationSequence : UInt64)
      (valid : definition.validate router.ports = none)
      (named : router.Names call definition registrationSequence nextRegistrationSequence) :
      Move call router .silent
        (router.insertGroup definition registrationSequence nextRegistrationSequence call.backend).2
  | erased {router} (active : router.initialized = true)
      (lease : StopSubscriptionGroupLease) (group : GroupRecord)
      (owned : router.Owns lease group) :
      Move call router .silent (router.eraseGroup lease call.backend).2
  | revalidated {router} (asked : call.Revalidates) :
      Move call router .silent (router.revalidate call).2
  | drained {router} :
      Move call router
        (.drained (router.drain call).items (router.drain call).notified)
        (router.drain call).router
  | hit {router} (hit : NativeHit) (readerFree : Bool)
      (asked : call.operation.nativeHit = some (hit, readerFree)) :
      Move call router
        (.hit (router.routeNative readerFree hit).build (router.routeNative readerFree hit).fate)
        (router.routeNative readerFree hit).router
  | injected {router} (hit : NativeHit) (authoritative : Bool)
      (asked : call.Injects) :
      Move call router
        (.injected (router.buildPacket hit)
          ((router.afterBuild (router.buildPacket hit)).processPacket call.consumers
            ((router.buildPacket hit).packet.inject authoritative)).2.1)
        ((router.afterBuild (router.buildPacket hit)).processPacket call.consumers
          ((router.buildPacket hit).packet.inject authoritative)).2.2
  | accepted {router accepted} (current : RoutedStopEvent)
      (groupId : StopSubscriptionGroupId)
      (accepts : acceptEntries call.consumers current groupId
        ((router.dispatch.map (·.entries)).getD []) { gates := router.gates } = accepted) :
      Move call router (.accepted accepted.notified) { router with gates := accepted.gates }
  | cleaned {router} (active : router.initialized = true)
      (drained : router.pending = []) (closed : router.ingressEnabled = false)
      (asked : call.operation = .stopIngressDrainAndCleanup) :
      Move call router .silent (router.cleanUp call).2

/-- A sequence of moves. -/
inductive Moves (call : RouterCall) : StopPointRouter → List MoveLabel → StopPointRouter → Prop
  | done {router} : Moves call router [] router
  | move {router next final label labels}
      (first : Move call router label next)
      (rest : Moves call next labels final) :
      Moves call router (label :: labels) final

namespace Moves

variable {call : RouterCall} {router middle next : StopPointRouter}
variable {label : MoveLabel} {labels more : List MoveLabel}

theorem single (move : Move call router label next) : Moves call router [label] next :=
  .move move .done

theorem append (first : Moves call router labels middle) (second : Moves call middle more next) :
    Moves call router (labels ++ more) next := by
  induction first with
  | done => exact second
  | move first _ ih => exact .move first (ih second)

theorem snoc (first : Moves call router labels middle) (last : Move call middle label next) :
    Moves call router (labels ++ [label]) next :=
  first.append (.single last)

theorem invariant {Inv : StopPointRouter → Prop}
    (preserved : ∀ {router label next}, Move call router label next → Inv router → Inv next)
    (moves : Moves call router labels next) (holds : Inv router) : Inv next := by
  induction moves with
  | done => exact holds
  | move first _ ih => exact ih (preserved first holds)

end Moves

/-- The record of a call is the record of its moves. -/
structure RouterEvent.Records (event : RouterEvent) (labels : List MoveLabel) : Prop where
  build : event.build.toList = labels.filterMap MoveLabel.build
  fate : event.fate.toList = labels.filterMap MoveLabel.fate
  drain : event.drain.toList = labels.filterMap MoveLabel.drain
  notified : event.notified = labels.flatMap MoveLabel.notified

/-- A call went through moves that its record tells. -/
def MadeOf (call : RouterCall) (router : StopPointRouter) (result : RouterEvent × StopPointRouter) :
    Prop :=
  ∃ labels, Moves call router labels result.2 ∧ result.1.Records labels

namespace MadeOf

variable {router : StopPointRouter} {call : RouterCall}

/-- A call whose record is empty and that made moves without a record. -/
theorem quiet {reply : RouterReply} {next : StopPointRouter} (change : ControlChange router next) :
    MadeOf call router ({ reply }, next) :=
  ⟨[.silent], .single (.control change), rfl, rfl, rfl, rfl⟩

theorem unchanged {reply : RouterReply} : MadeOf call router ({ reply }, router) :=
  .quiet (.refl router)

theorem after {middle : StopPointRouter} {result : RouterEvent × StopPointRouter}
    (first : Move call router .silent middle) (rest : MadeOf call middle result) :
    MadeOf call router result := by
  obtain ⟨labels, moves, records⟩ := rest
  exact ⟨.silent :: labels, .move first moves, records.build, records.fate,
    records.drain, records.notified⟩

end MadeOf

namespace StopPointRouter

variable {router : StopPointRouter} {call : RouterCall}

theorem checkControlThread_eq_none (checked : router.checkControlThread call = none) :
    router.initialized = true ∧ router.ownerThread = call.thread ∧ router.stopping = false := by
  unfold checkControlThread at checked
  split at checked
  · cases checked
  rename_i active
  split at checked
  · cases checked
  rename_i owner
  split at checked
  · cases checked
  rename_i running
  simpa using And.intro active (And.intro owner running)

theorem initialized_of_check (checked : router.checkControlThread call = none) :
    router.initialized = true :=
  (checkControlThread_eq_none checked).1

theorem revalidate_keeps (router : StopPointRouter) (call : RouterCall) :
    Keeps router (router.revalidate call).2 := by
  unfold revalidate
  split
  · exact .refl router
  dsimp only
  split
  · exact ⟨rfl, rfl, rfl, rfl, rfl, rfl, rfl, rfl⟩
  split
  · split <;> exact ⟨rfl, rfl, rfl, rfl, rfl, rfl, rfl, rfl⟩
  · split <;> exact ⟨rfl, rfl, rfl, rfl, rfl, rfl, rfl, rfl⟩

/-- After a drain nothing waits and every overflow was reported. -/
theorem drain_settled (active : router.initialized = true)
    (owner : router.ownerThread = call.thread) : (router.drain call).router.Settled := by
  obtain ⟨trailing, drains⟩ := drainIngress_drainsTo call.drainBackend call.consumers active owner
  have kept := drains.keepsQueue
  refine ⟨kept.pending, fun overflow => ?_⟩
  have earlier : router.authoritativeOverflow = true :=
    kept.authoritativeOverflow.symm.trans overflow
  have reported := drains.reported
  rw [earlier, Bool.or_true] at reported
  exact reported

theorem drain_closed (closed : router.ingressEnabled = false) :
    (router.drain call).router.ingressEnabled = false := by
  by_cases served : router.initialized = true ∧ router.ownerThread = call.thread
  · obtain ⟨trailing, drains⟩ := drainIngress_drainsTo call.drainBackend
      call.consumers served.1 served.2
    rw [← Bool.not_eq_true]
    intro opened
    have earlier : router.ingressEnabled = true := drains.keepsQueue.ingressEnabled opened
    rw [closed] at earlier
    cases earlier
  obtain ⟨receipt, refused⟩ := drainIngress_refused router call.drainBackend call.consumers served
  unfold drain
  rw [refused]
  exact closed

theorem initializeRouter_moves (firstEpoch : WorksetEpoch) :
    MadeOf call router (router.initializeRouter call firstEpoch) := by
  by_cases started : router.initialized = true
  · unfold initializeRouter
    rw [if_pos started]
    split
    · exact .unchanged
    split <;> exact .unchanged
  refine ⟨[.silent], .single (.initialized firstEpoch (by simpa using started)), ?_⟩
  unfold initializeRouter initializeBound
  rw [if_neg started]
  dsimp only
  split
  · exact ⟨rfl, rfl, rfl, rfl⟩
  split
  · exact ⟨rfl, rfl, rfl, rfl⟩
  split
  · exact ⟨rfl, rfl, rfl, rfl⟩
  split
  · exact ⟨rfl, rfl, rfl, rfl⟩
  split <;> exact ⟨rfl, rfl, rfl, rfl⟩

theorem quiesceForWorksetBaselineRestore_moves :
    MadeOf call router (router.quiesceForWorksetBaselineRestore call) := by
  unfold quiesceForWorksetBaselineRestore
  split
  · exact .unchanged
  exact ⟨[.silent, .drained _ _], .move (.control (.close router)) (.single .drained),
    rfl, rfl, rfl, (List.append_nil _).symm⟩

theorem reconcileAfterWorksetBaselineRestore_moves
    (asked : call.operation = .reconcileAfterWorksetBaselineRestore) :
    MadeOf call router (router.reconcileAfterWorksetBaselineRestore call) := by
  unfold reconcileAfterWorksetBaselineRestore
  split
  · exact .unchanged
  rename_i checked
  obtain ⟨active, owner, -⟩ := checkControlThread_eq_none checked
  split
  · exact .unchanged
  dsimp only
  have applies : Move call router .silent _ := .reapplied active
  split
  · exact ⟨[.silent], .single applies, rfl, rfl, rfl, rfl⟩
  have kept := applyCandidate_keeps router router.groups true call.backend
  exact ⟨[.silent, .reopened], .move applies (.single (.reopened (kept.initialized.trans active)
      (kept.ownerThread.trans owner) (.inl (.inl asked)))), rfl, rfl, rfl, rfl⟩

theorem resumeAfterFailedWorksetBaselineRestore_moves
    (asked : call.operation = .resumeAfterFailedWorksetBaselineRestore) : MadeOf call router
      (router.resumeAfterFailedWorksetBaselineRestore call) := by
  unfold resumeAfterFailedWorksetBaselineRestore
  have same := controlChange_manager
    (validateExactPlanUnchanged_samePlan router.manager call.backend)
  split
  · exact .unchanged
  rename_i checked
  obtain ⟨active, owner, -⟩ := checkControlThread_eq_none checked
  split
  · exact .unchanged
  dsimp only
  split
  · exact .quiet same
  exact ⟨[.silent, .reopened],
    .move (.control same) (.single (.reopened active owner (.inl (.inr asked)))),
    rfl, rfl, rfl, rfl⟩

theorem validateEmptyForMovieCoreStop_moves :
    MadeOf call router (router.validateEmptyForMovieCoreStop call) := by
  unfold validateEmptyForMovieCoreStop
  have same := controlChange_manager
    (validateExactPlanUnchanged_samePlan router.manager call.backend)
  split
  · exact .unchanged
  dsimp only
  split
  · exact .unchanged
  split
  · exact .quiet same
  · exact .quiet same

theorem validateBreakpointChangeNotification_moves :
    MadeOf call router (router.validateBreakpointChangeNotification call) := by
  unfold validateBreakpointChangeNotification
  have same := validateExactPlanUnchanged_samePlan router.manager call.backend
  split
  · exact .unchanged
  dsimp only
  split
  · exact .quiet (controlChange_distrust same)
  · exact .quiet (controlChange_manager same)

theorem enterStoppedMovieCoreBoundary_moves
    (asked : call.operation = .enterStoppedMovieCoreBoundary) :
    MadeOf call router (router.enterStoppedMovieCoreBoundary call) := by
  unfold enterStoppedMovieCoreBoundary
  split
  · exact .unchanged
  rename_i checked
  obtain ⟨active, owner, -⟩ := checkControlThread_eq_none checked
  dsimp only
  split
  · exact ⟨[.silent, .silent],
      .move (.control (.close router)) (.single (.revalidated (.inr asked))), rfl, rfl, rfl, rfl⟩
  have kept := revalidate_keeps { router with ingressEnabled := false } call
  have used := kept.initialized.trans active
  have owned := kept.ownerThread.trans owner
  have drained := drainIngress_keeps
    ({ router with ingressEnabled := false }.revalidate call).2 call.thread
    call.drainBackend call.consumers
  exact ⟨[.silent, .silent, .drained _ _, .reopened], .move (.control (.close router))
      (.move (.revalidated (.inr asked)) (.move .drained
          (.single (.reopened (drained.initialized.trans used) (drained.ownerThread.trans owned)
            (.inr ⟨asked, drain_settled used owned⟩))))), rfl, rfl, rfl, (List.append_nil _).symm⟩

theorem revalidateAfterJit_moves (asked : call.operation = .revalidateAfterJit) :
    MadeOf call router (router.revalidateAfterJit call) :=
  ⟨[.silent], .single (.revalidated (.inl asked)), rfl, rfl, rfl, rfl⟩

/-- Accepting a retained point: it delivers, and drains when that fired a
one-shot subscription. -/
theorem acceptRetained_moves (current : RoutedStopEvent)
    (groupId : StopSubscriptionGroupId) (reply : RouterReply) : MadeOf call router
      ({ reply
         drain :=
          if (router.acceptRetained call current groupId).2.2 then
            some (router.acceptRetained call current groupId).2.1.items
          else none
         notified := (router.acceptRetained call current groupId).2.1.notified },
        (router.acceptRetained call current groupId).2.1.router) := by
  unfold acceptRetained
  dsimp only
  have accepts : Move call router _ _ := .accepted current groupId rfl
  split
  · exact ⟨[.accepted _, .silent, .drained _ _],
      .move accepts (.move (.control (controlChange_appendHistory _)) (.single .drained)),
      rfl, rfl, rfl, by simp [MoveLabel.notified]⟩
  exact ⟨[.accepted _, .silent], .move accepts (.single (.control (controlChange_appendHistory _))),
    rfl, rfl, rfl, by simp [MoveLabel.notified]⟩

theorem registerGroup_moves {definition : StopSubscriptionGroupDefinition}
    {policy : StopCurrentPointPolicy} (asked : call.operation = .registerGroup definition policy) :
    MadeOf call router (router.registerGroup call definition policy) := by
  unfold registerGroup
  dsimp only
  split
  · exact .unchanged
  rename_i checked
  split
  · exact .unchanged
  rename_i valid
  split
  · exact .unchanged
  rename_i unknown
  split
  · exact .unchanged
  split
  · exact .unchanged
  rename_i left
  rw [not_or] at left
  have inserts : Move call router .silent
      (router.insertGroup definition router.nextRegistrationSequence
        (router.nextRegistrationSequence + 1) call.backend).2 :=
    .inserted checked definition _ _ valid (.registers asked (by simpa using unknown) left.1 left.2)
  split
  · exact .after inserts (.quiet (controlChange_distrustPhysical _))
  split
  · exact .after inserts .unchanged
  split
  · exact .after inserts .unchanged
  · exact .after inserts (acceptRetained_moves _ _ _)

theorem acceptCurrentPoint_moves (lease : StopSubscriptionGroupLease) :
    MadeOf call router (router.acceptCurrentPoint call lease) := by
  unfold acceptCurrentPoint
  dsimp only
  split
  · exact .unchanged
  split
  · exact .unchanged
  split
  · exact .unchanged
  split
  · exact .unchanged
  · exact acceptRetained_moves _ _ _

theorem departCurrentPoint_moves : MadeOf call router (router.departCurrentPoint call) := by
  unfold departCurrentPoint
  split
  · exact .unchanged
  · exact .quiet ⟨rfl, rfl, rfl, .refl _, rfl, rfl, rfl, rfl, rfl, rfl, rfl,
      rfl, rfl, rfl, rfl, rfl, rfl, rfl, rfl, id⟩

theorem replaceGroup_moves (lease : StopSubscriptionGroupLease)
    (definition : StopSubscriptionGroupDefinition) :
    MadeOf call router (router.replaceGroup call lease definition) := by
  unfold replaceGroup
  dsimp only
  split
  · exact .unchanged
  rename_i checked
  split
  · exact .unchanged
  split
  · exact .unchanged
  rename_i existing found
  split
  · exact .unchanged
  rename_i owned
  split
  · exact .unchanged
  rename_i named
  split
  · exact .unchanged
  rename_i valid
  rw [not_or, not_not, not_not] at owned named
  rw [← named.1] at found
  have inserts : Move call router .silent
      (router.insertGroup definition lease.registrationSequence
        router.nextRegistrationSequence call.backend).2 :=
    .inserted checked definition _ _ valid (owned.2 ▸ .replaces found)
  split
  · exact .after inserts (.quiet (controlChange_distrustPhysical _))
  · exact .after inserts .unchanged

theorem releaseGroup_moves (lease : StopSubscriptionGroupLease) :
    MadeOf call router (router.releaseGroup call lease) := by
  unfold releaseGroup
  dsimp only
  split
  · exact .unchanged
  split
  · exact .unchanged
  split
  · exact .unchanged
  rename_i checked
  have active := initialized_of_check checked
  split
  · split
    · exact .unchanged
    · exact .unchanged
  rename_i group found
  split
  · exact .unchanged
  rename_i owned
  rw [not_or, not_not, not_not] at owned
  have erases : Move call router .silent
      (router.eraseGroup lease call.backend).2 :=
    .erased active lease group ⟨found, owned⟩
  unfold eraseGroup at erases
  dsimp only at erases
  split
  · rename_i refused
    rw [Bool.not_eq_true'] at refused
    simp only [refused, Bool.false_eq_true, if_false] at erases
    exact .after erases (.quiet (controlChange_distrustPhysical _))
  rename_i succeeded
  have ok : (router.applyCandidate (router.groups.erase lease.groupId) false
      call.backend).1.ok = true := by simpa using succeeded
  simp only [ok, if_true] at erases
  exact .after erases .unchanged

variable {lease : StopSubscriptionGroupLease}

theorem releaseGroup_inactive (router : StopPointRouter) (call : RouterCall)
    (inactive : lease.active = false) : ∃ receipt, (router.releaseGroup call lease).1.reply =
      .released receipt lease ∧ receipt.ok = true := by
  unfold releaseGroup
  dsimp only
  rw [if_pos (by simp [inactive])]
  exact ⟨_, rfl, rfl⟩

theorem releaseGroupNoThrow_moves (asked : call.operation = .releaseGroupNoThrow lease) :
    MadeOf call router (router.releaseGroupNoThrow call lease) := by
  have released : MadeOf call router (router.releaseGroup call lease) := releaseGroup_moves lease
  unfold releaseGroupNoThrow
  dsimp only
  split
  · rename_i receipt last replied
    split
    · exact released
    rename_i failed
    have active : lease.active = true := by
      by_contra inactive
      obtain ⟨other, same, ok⟩ := releaseGroup_inactive router call (Bool.not_eq_true _ ▸ inactive)
      rw [replied] at same
      cases same
      exact failed ok
    obtain ⟨labels, moves, records⟩ := released
    refine ⟨labels ++ [.closed], moves.snoc (.closed (.inl ⟨lease, asked, active⟩)), ?_, ?_, ?_, ?_⟩
    · simp [records.build, MoveLabel.build, List.filterMap_append]
    · simp [records.fate, MoveLabel.fate, List.filterMap_append]
    · simp [records.drain, MoveLabel.drain, List.filterMap_append]
    · simp [records.notified, MoveLabel.notified]
  · exact released

theorem establishPausedCurrentPoint_moves (pc : UInt32) :
    MadeOf call router (router.establishPausedCurrentPoint call pc) := by
  unfold establishPausedCurrentPoint
  dsimp only
  split
  · exact .unchanged
  rename_i checked
  split
  · exact .unchanged
  split
  · split
    · exact .unchanged
    · exact .unchanged
  split
  · exact .unchanged
  have numbered {sequence sampleSnapshot : UInt64}
      {current : Option RoutedStopEvent} :
      ControlChange router
        { router with
          nextStopSequence := sequence
          nextSampleSnapshot := sampleSnapshot
          currentPoint := current } :=
    ⟨rfl, rfl, rfl, .refl _, rfl, rfl, rfl, rfl, rfl, rfl, rfl, rfl, rfl, rfl,
      rfl, rfl, rfl, rfl, rfl, id⟩
  split
  · exact ⟨[.silent, .closed], .move (.control numbered)
      (.single (.closed (.inr (initialized_of_check checked)))), rfl, rfl, rfl, rfl⟩
  · exact .quiet numbered

theorem drainCall_moves : MadeOf call router (router.drainCall call) :=
  ⟨[.drained _ _], .single .drained, rfl, rfl, rfl, (List.append_nil _).symm⟩

theorem injectSyntheticStop_moves {identity : UInt64} {authoritative : Bool}
    {answers : NativeAnswers} (asked : call.operation =
      .injectSyntheticStop identity authoritative answers) :
    MadeOf call router (router.injectSyntheticStop call identity authoritative answers) := by
  unfold injectSyntheticStop
  dsimp only
  split
  · exact .unchanged
  split
  · exact .unchanged
  exact ⟨[.injected _ _],
    .single (.injected (.ofSyntheticStop answers identity) authoritative ⟨_, _, _, asked⟩),
    rfl, rfl, rfl, (List.append_nil _).symm⟩

theorem nativeStop_moves {hit : NativeHit} {readerFree : Bool}
    (asked : call.operation.nativeHit = some (hit, readerFree)) :
    MadeOf call router (router.nativeStop hit readerFree) := by
  refine ⟨[.hit _ _], .single (.hit hit readerFree asked), ?_, rfl, rfl, rfl⟩
  unfold nativeStop
  cases built : (router.routeNative readerFree hit).build <;> simp [MoveLabel.build, built]

theorem stopIngressDrainAndCleanup_moves (asked : call.operation = .stopIngressDrainAndCleanup) :
    MadeOf call router (router.stopIngressDrainAndCleanup call) := by
  unfold stopIngressDrainAndCleanup
  split
  · exact .unchanged
  split
  · exact .unchanged
  split
  · exact .unchanged
  rename_i uninitialized foreign
  have active : router.initialized = true := by simpa using uninitialized
  have used : (({ router with ingressEnabled := false } :
      StopPointRouter).drain call).router.initialized = true :=
    (drainIngress_keeps { router with ingressEnabled := false } call.thread
      call.drainBackend call.consumers).initialized.trans active
  have settled : (({ router with ingressEnabled := false } :
      StopPointRouter).drain call).router.Settled :=
    drain_settled active (not_not.mp foreign)
  exact ⟨[.silent, .drained _ _, .silent], .move (.control (.close router))
        (.move .drained (.single (.cleaned used settled.pending (drain_closed rfl) asked))),
      rfl, rfl, rfl, (List.append_nil _).symm⟩

theorem perform_moves (router : StopPointRouter) (call : RouterCall) :
    MadeOf call router (router.perform call) := by
  unfold perform
  split
  · exact initializeRouter_moves _
  · exact quiesceForWorksetBaselineRestore_moves
  · rename_i asked
    exact reconcileAfterWorksetBaselineRestore_moves asked
  · rename_i asked
    exact resumeAfterFailedWorksetBaselineRestore_moves asked
  · exact validateEmptyForMovieCoreStop_moves
  · rename_i asked
    exact enterStoppedMovieCoreBoundary_moves asked
  · rename_i asked
    exact revalidateAfterJit_moves asked
  · exact validateBreakpointChangeNotification_moves
  · rename_i asked
    exact stopIngressDrainAndCleanup_moves asked
  · rename_i asked
    exact registerGroup_moves asked
  · exact replaceGroup_moves _ _
  · exact releaseGroup_moves _
  · rename_i asked
    exact releaseGroupNoThrow_moves asked
  · exact acceptCurrentPoint_moves _
  · exact departCurrentPoint_moves
  · exact establishPausedCurrentPoint_moves _
  · exact drainCall_moves
  · rename_i asked
    exact injectSyntheticStop_moves asked
  · rename_i asked
    exact nativeStop_moves (by rw [asked]; rfl)
  · rename_i asked
    exact nativeStop_moves (by rw [asked]; rfl)

end StopPointRouter

end Savor.StopPoints
