import Savor.Input.InputBindings

/-!
# Claims on ports

What the leases are for, without their bindings: a stack of claims on ports.  A
claim records whether its port is quiet, and whether anything was published
under it.  The record of the newest claim is right, and so are the records below
as long as nothing was published above them.
-/

namespace Savor.Input

open InputCall

/-- A claim on a port, with what it records of the port. -/
structure PortClaim (Port : Type) where
  port : Port
  (neutral mutated : Bool)

variable {Port : Type}

/-- The records of a stack of claims are right: of the newest claim, and of those
below while nothing was published above them.  A port that no claim is on is
free. -/
def Settled (quiet free : Port → Prop) : List (PortClaim Port) → Prop
  | [] => ∀ port, free port
  | top :: rest =>
    (top.neutral = true → quiet top.port) ∧
      (top.mutated = false → Settled quiet free rest) ∧
        ∀ port, (∀ claim ∈ top :: rest, claim.port ≠ port) → free port

namespace Settled

variable {quiet free : Port → Prop}
variable {claims rest : List (PortClaim Port)} {top : PortClaim Port}

theorem unclaimed (settled : Settled quiet free claims) {port : Port}
    (unclaimed : ∀ claim ∈ claims, claim.port ≠ port) : free port := by
  cases claims with
  | nil => exact settled port
  | cons top rest => exact settled.2.2 port unclaimed

variable {free' : Port → Prop}

/-- What is known of the ports may grow. -/
theorem mono {quiet' : Port → Prop} (quieter : ∀ port, quiet port → quiet' port)
    (freer : ∀ port, free port → free' port) (settled : Settled quiet free claims) :
    Settled quiet' free' claims := by
  induction claims with
  | nil => exact fun port => freer port (settled port)
  | cons top rest ih =>
    refine ⟨fun recorded => quieter _ (settled.1 recorded),
      fun unmutated => ih (settled.2.1 unmutated), ?_⟩
    intro port unclaimed
    exact freer port (settled.2.2 port unclaimed)

/-- A claim is made that nothing was published under. -/
theorem claim (settled : Settled quiet free claims)
    {port : Port} {neutral : Bool} (recorded : neutral = true → quiet port) :
    Settled quiet free (⟨port, neutral, false⟩ :: claims) := by
  refine ⟨recorded, fun _ => settled, ?_⟩
  intro other unclaimed
  apply settled.unclaimed
  intro claim member
  exact unclaimed claim (List.mem_cons_of_mem _ member)

/-- A frame is published under the newest claim.  Other ports are as they
were. -/
theorem publish {quiet' : Port → Prop} {neutral : Bool} (settled : Settled quiet free (top :: rest))
    (recorded : neutral = true → quiet' top.port)
    (others : ∀ port, port ≠ top.port → free port → free' port) :
    Settled quiet' free' (⟨top.port, neutral, true⟩ :: rest) := by
  refine ⟨recorded, nofun, ?_⟩
  intro port unclaimed
  rw [List.forall_mem_cons] at unclaimed
  apply others port (Ne.symm unclaimed.1)
  apply settled.2.2 port
  rw [List.forall_mem_cons]
  exact unclaimed

/-- The newest claim ends without anything published under it. -/
theorem resume (settled : Settled quiet free (top :: rest)) (unmutated : top.mutated = false) :
    Settled quiet free rest :=
  settled.2.1 unmutated

theorem release (settled : Settled quiet free [top]) (released : free' top.port)
    (others : ∀ port, port ≠ top.port → free port → free' port) : Settled quiet free' [] := by
  classical
  intro port
  by_cases same : port = top.port
  · exact same ▸ released
  apply others port same
  apply settled.2.2 port
  simpa using Ne.symm same

/-- The newest claim ends, and the one below is recorded as quiet.  Its own port
has to be. -/
theorem reset {parent : PortClaim Port} (settled : Settled quiet free (top :: parent :: rest))
    (released : (∀ claim ∈ parent :: rest, claim.port ≠ top.port) → free' top.port)
    (others : ∀ port, port ≠ top.port → free port → free' port) (recorded : quiet parent.port) :
    Settled quiet free' (⟨parent.port, true, true⟩ :: rest) := by
  classical
  refine ⟨fun _ => recorded, nofun, ?_⟩
  intro port unclaimed
  have below : ∀ claim ∈ parent :: rest, claim.port ≠ port := by
    rw [List.forall_mem_cons] at *
    exact unclaimed
  by_cases same : port = top.port
  · subst same
    exact released below
  apply others port same
  apply settled.2.2 port
  rw [List.forall_mem_cons]
  exact ⟨Ne.symm same, below⟩

end Settled

/-!
## What was published on a port

The frame that stands on a port is the last one that the backend published
there.  The leases are claims on the ports, and their records are right as long
as no parent is resumed on a port that its borrower did not neutralize.
-/

variable {rest : List LeaseState} {state : LeaseState} {port : InputPort}

open Library Program

/-- The frame that a call published on a port. -/
def publishedOn (port : InputPort) (transition : InputTransition) : Option GCInputFrame :=
  transition.event.publication.bind fun publication =>
    if publication.succeeded && publication.port = port then
      some publication.frame
    else none

/-- The last frame that was published on a port.  A port that nothing was
published on is neutral. -/
def lastFrame (history : List InputTransition) (port : InputPort) : GCInputFrame :=
  history.foldl
    (fun frame transition => (publishedOn port transition).getD frame)
    neutralFrame

/-- The last frame published on the port is neutral. -/
def Quiet (history : List InputTransition) (port : InputPort) : Prop :=
  (lastFrame history port).isNeutral = true

instance (history : List InputTransition) (port : InputPort) : Decidable (Quiet history port) :=
  inferInstanceAs (Decidable (_ = _))

/-- The ports that are no longer leased after a call, and that the backend could
not reach during it. -/
def InputTransition.abandons (transition : InputTransition) : List InputPort :=
  (transition.before.leases.map (·.request.port)).filter fun port =>
    transition.after.leases.all (fun lease => lease.request.port ≠ port) &&
      !transition.input.backend.isAvailable port

/-- The ports that were given up while they could not be reached, with nothing
published on them since. -/
def abandonedPorts (history : List InputTransition) : List InputPort :=
  history.foldl
    (fun ports transition =>
      (ports.filter fun port => (publishedOn port transition).isNone) ++ transition.abandons)
    []

/-- A port that nobody leases is quiet, or was given up while it could not be
reached. -/
def Free (history : List InputTransition) (port : InputPort) : Prop :=
  Quiet history port ∨ port ∈ abandonedPorts history

variable {history : List InputTransition} {transition : InputTransition}

theorem lastFrame_snoc (port : InputPort) : lastFrame (history ++ [transition]) port =
      (publishedOn port transition).getD (lastFrame history port) := by
  simp [lastFrame]

theorem mem_abandonedPorts_snoc : port ∈ abandonedPorts (history ++ [transition]) ↔
      port ∈ abandonedPorts history ∧ publishedOn port transition = none ∨
        port ∈ transition.abandons := by
  simp [abandonedPorts]

/-- The call published nothing. -/
def InputTransition.Silent (transition : InputTransition) : Prop :=
  ∀ publication, transition.event.publication = some publication → publication.succeeded = false

theorem publishedOn_of_silent (silent : transition.Silent) (port : InputPort) :
    publishedOn port transition = none := by
  unfold publishedOn
  cases isPublished : transition.event.publication with
  | none => rfl
  | some publication => simp [silent publication isPublished]

/-- The call published the frame on the port. -/
def InputTransition.Publishes (transition : InputTransition) (port : InputPort)
    (frame : GCInputFrame) : Prop :=
  ∃ publication, transition.event.publication = some publication ∧
    publication.succeeded = true ∧ publication.port = port ∧ publication.frame = frame

theorem publishedOn_of_publishes {frame : GCInputFrame}
    (publishes : transition.Publishes port frame) (other : InputPort) :
    publishedOn other transition = if other = port then some frame else none := by
  obtain ⟨publication, isPublished, succeeded, rfl, rfl⟩ := publishes
  by_cases same : other = publication.port
  · simp [publishedOn, isPublished, succeeded, same]
  · simp [publishedOn, isPublished, same, Ne.symm same]

section Silent

theorem quiet_of_silent (silent : transition.Silent) {port : InputPort}
    (quiet : Quiet history port) : Quiet (history ++ [transition]) port := by
  rw [Quiet, lastFrame_snoc, publishedOn_of_silent silent]
  exact quiet

theorem free_of_silent (silent : transition.Silent) {port : InputPort} (free : Free history port) :
    Free (history ++ [transition]) port := by
  obtain quiet | abandoned := free
  · exact .inl (quiet_of_silent silent quiet)
  · refine .inr (mem_abandonedPorts_snoc.mpr (.inl ⟨abandoned, ?_⟩))
    exact publishedOn_of_silent silent port

end Silent

section Publishes

variable {port other : InputPort} {frame : GCInputFrame}

theorem quiet_of_publishes (publishes : transition.Publishes port frame)
    (neutral : frame.isNeutral = true) : Quiet (history ++ [transition]) port := by
  rw [Quiet, lastFrame_snoc, publishedOn_of_publishes publishes, if_pos rfl]
  exact neutral

theorem quiet_of_publishes_other (publishes : transition.Publishes port frame)
    (different : other ≠ port) (quiet : Quiet history other) :
    Quiet (history ++ [transition]) other := by
  rw [Quiet, lastFrame_snoc, publishedOn_of_publishes publishes, if_neg different]
  exact quiet

theorem free_of_publishes_other (publishes : transition.Publishes port frame)
    (different : other ≠ port) (free : Free history other) :
    Free (history ++ [transition]) other := by
  obtain quiet | abandoned := free
  · exact .inl (quiet_of_publishes_other publishes different quiet)
  · refine .inr (mem_abandonedPorts_snoc.mpr (.inl ⟨abandoned, ?_⟩))
    rw [publishedOn_of_publishes publishes, if_neg different]

end Publishes

/-- A port that was leased and no longer is, while it could not be reached. -/
theorem free_of_abandons (leased : ∃ lease ∈ transition.before.leases, lease.request.port = port)
    (unleased : ∀ lease ∈ transition.after.leases, lease.request.port ≠ port)
    (unavailable : transition.input.backend.isAvailable port = false) :
    Free (history ++ [transition]) port := by
  refine .inr (mem_abandonedPorts_snoc.mpr (.inr ?_))
  simp only [InputTransition.abandons, List.mem_filter, List.mem_map,
    Bool.and_eq_true, List.all_eq_true, decide_eq_true_eq, Bool.not_eq_true']
  exact ⟨leased, unleased, unavailable⟩

/-! ## The condition -/

/-- The port of the lease is neutral, is left alone or can be neutralized, so
that the lease can end. -/
def InputCall.ends (call : InputCall) (lease : LeaseState) : Bool :=
  lease.backendNeutral || call.misses lease || (call.publication lease neutralFrame).succeeded

/-- When a lease that published something is closed, its parent stands on a quiet
port or on the same port, and that port is not left alone. -/
def ResumesQuietly (history : List InputTransition) (transition : InputTransition) : Prop :=
  match transition.before.leases with
  | lease :: parent :: _ =>
    transition.before.ownerThread = transition.input.thread →
      transition.input.operation = .closeLease lease.id lease.epoch →
        lease.mutatedBackend = true →
          transition.input.ends lease = true →
            Quiet history parent.request.port ∨
              parent.request.port = lease.request.port ∧
                (transition.input.misses lease = false ∨ lease.backendNeutral = true)
  | _ => True

/-- The ports of the suspended leases that can be reached are quiet when the
arbiter is shut down, apart from the port of the active lease. -/
def ShutsDownQuietly (history : List InputTransition) (transition : InputTransition) : Prop :=
  match transition.before.leases with
  | lease :: rest =>
    transition.before.ownerThread = transition.input.thread →
      transition.input.operation = .shutdown →
        transition.input.ends lease = true →
          ∀ other ∈ rest, other.request.port ≠ lease.request.port →
            transition.input.backend.isAvailable other.request.port = true →
              Quiet history other.request.port
  | [] => True

/-- A port that was given up with a held frame stays out of reach, and is not
leased. -/
def LeavesAbandoned (history : List InputTransition) (transition : InputTransition) : Prop :=
  ∀ port ∈ abandonedPorts history, Quiet history port ∨
    transition.input.backend.isAvailable port = false ∧
      transition.input.operation.requestedPort ≠ some port

instance : Decidable (ResumesQuietly history transition) := by
  unfold ResumesQuietly
  split <;> infer_instance

instance : Decidable (ShutsDownQuietly history transition) := by
  unfold ShutsDownQuietly
  split <;> infer_instance

instance : Decidable (LeavesAbandoned history transition) := by
  unfold LeavesAbandoned
  infer_instance

/-- A call that does not run into what the arbiter forgets about ports. -/
structure KeepsPorts (history : List InputTransition) (transition : InputTransition) : Prop where
  resumes : ResumesQuietly history transition
  shutsDown : ShutsDownQuietly history transition
  abandoned : LeavesAbandoned history transition

instance : Decidable (KeepsPorts history transition) :=
  decidable_of_iff
    (ResumesQuietly history transition ∧ ShutsDownQuietly history transition ∧
      LeavesAbandoned history transition)
    ⟨fun ⟨resumes, shutsDown, abandoned⟩ => ⟨resumes, shutsDown, abandoned⟩,
      fun ⟨resumes, shutsDown, abandoned⟩ => ⟨resumes, shutsDown, abandoned⟩⟩

/-! ## The invariant -/

/-- What a lease claims of its port. -/
def LeaseState.claim (lease : LeaseState) : PortClaim InputPort :=
  ⟨lease.request.port, lease.backendNeutral, lease.mutatedBackend⟩

/-- The records of the leases are right about what was published. -/
structure Ported (history : List InputTransition) (arbiter : InputArbiter) : Prop where
  stacked : arbiter.Stacked
  bound : arbiter.Bound
  settled : arbiter.shutdownReceipt = none →
    Settled (Quiet history) (Free history) (arbiter.leases.map (·.claim))
  running : arbiter.shutdownReceipt = none → arbiter.stopped = false
  ended : ∀ receipt, arbiter.shutdownReceipt = some receipt →
    arbiter.stopped = true ∧ arbiter.leases = [] ∧
      (receipt.cleanupComplete = true → ∀ port, Free history port)

theorem ported_new (ownerThread : ThreadId) : Ported [] (InputArbiter.new ownerThread) where
  stacked := InputArbiter.stacked_new ownerThread
  bound := InputArbiter.bound_new ownerThread
  settled := by
    intro _ port
    refine .inl ?_
    simp [Quiet, lastFrame, GCInputFrame.isNeutral]
  running := fun _ => rfl
  ended := nofun

/-- A call that publishes nothing and leaves the claims. -/
theorem Settled.kept {claims : List (PortClaim InputPort)} (silent : transition.Silent)
    (settled : Settled (Quiet history) (Free history) claims) :
    Settled (Quiet (history ++ [transition])) (Free (history ++ [transition])) claims :=
  settled.mono (fun _ => quiet_of_silent silent) (fun _ => free_of_silent silent)

theorem Settled.published {top state : PortClaim InputPort}
    {rest : List (PortClaim InputPort)} {frame : GCInputFrame}
    (settled : Settled (Quiet history) (Free history) (top :: rest))
    (publishes : transition.Publishes top.port frame)
    (claim : state = ⟨top.port, frame.isNeutral, true⟩) :
    Settled (Quiet (history ++ [transition])) (Free (history ++ [transition])) (state :: rest) := by
  subst claim
  exact settled.publish (quiet_of_publishes publishes)
    (fun _ different => free_of_publishes_other publishes different)

/-- What a step needs of the condition on the parent that is resumed. -/
theorem ResumesQuietly.parent {lease parent : LeaseState}
    {below : List LeaseState} (resumes : ResumesQuietly history transition)
    (listed : transition.before.leases = lease :: parent :: below)
    (serves : transition.before.Serves transition.input)
    (asked : transition.input.operation = .closeLease lease.id lease.epoch)
    (mutated : lease.mutatedBackend = true) (ends : transition.input.ends lease = true) :
    Quiet history parent.request.port ∨ parent.request.port = lease.request.port ∧
        (transition.input.misses lease = false ∨ lease.backendNeutral = true) := by
  rw [ResumesQuietly, listed] at resumes
  exact resumes serves.owner asked mutated ends

theorem ShutsDownQuietly.suspended {lease : LeaseState} {rest : List LeaseState}
    (shutsDown : ShutsDownQuietly history transition)
    (listed : transition.before.leases = lease :: rest)
    (owner : transition.before.ownerThread = transition.input.thread)
    (asked : transition.input.operation = .shutdown) (ends : transition.input.ends lease = true) :
    ∀ other ∈ rest, other.request.port ≠ lease.request.port →
      transition.input.backend.isAvailable other.request.port = true →
        Quiet history other.request.port := by
  rw [ShutsDownQuietly, listed] at shutsDown
  exact shutsDown owner asked ends

/-- A port that a call can reach or asks a lease for is quiet, when it was free
before. -/
theorem LeavesAbandoned.quiet (abandoned : LeavesAbandoned history transition)
    (free : Free history port) (used : transition.input.backend.isAvailable port = true ∨
      transition.input.operation.requestedPort = some port) :
    Quiet history port := by
  obtain quiet | givenUp := free
  · exact quiet
  obtain quiet | ⟨unavailable, unasked⟩ := abandoned port givenUp
  · exact quiet
  obtain available | asked := used
  · rw [unavailable] at available
    cases available
  · exact absurd asked unasked

/-! ## Steps -/

section Steps

variable {arbiter after : InputArbiter} {call : InputCall} {event : InputEvent}

/-- The lease below keeps its claim when nothing was published above it. -/
theorem claim_resumedParent (lease parent : LeaseState) :
    (InputArbiter.resumedParent lease parent).claim =
      if lease.mutatedBackend then ⟨parent.request.port, true, true⟩
      else parent.claim := by
  unfold InputArbiter.resumedParent
  split <;> rfl

theorem claim_retired (lease : LeaseState) (binding : BindingState) :
    (InputArbiter.retired lease binding).claim = lease.claim := by
  unfold InputArbiter.retired
  split <;> rfl

theorem Settled.ended {quiet free free' : InputPort → Prop}
    (stacked : arbiter.Stacked) (listed : arbiter.leases = state :: rest)
    (settled : Settled quiet free (arbiter.leases.map (·.claim)))
    (others : ∀ port, port ≠ state.request.port → free port → free' port)
    (same : state.mutatedBackend = false → ∀ port, free port → free' port)
    (released : (rest ≠ [] → state.mutatedBackend = true) →
      (∀ lease ∈ rest, lease.request.port ≠ state.request.port) → free' state.request.port)
    (resumed : ∀ parent below, rest = parent :: below →
      state.mutatedBackend = true → quiet parent.request.port) :
    Settled quiet free' ((arbiter.finishClose state).2.leases.map (·.claim)) := by
  rw [listed, List.map_cons] at settled
  cases rest with
  | nil =>
    rw [stacked.finishClose_last listed rfl]
    exact settled.release (released (absurd rfl) (List.forall_mem_nil _)) others
  | cons parent below =>
    rw [(stacked.finishClose_parent listed rfl).2, List.map_cons, claim_resumedParent]
    cases mutated : state.mutatedBackend with
    | false => exact (settled.resume mutated).mono (fun _ => id) (same mutated)
    | true =>
      rw [if_pos rfl]
      refine Settled.reset settled ?_ others (resumed parent below rfl mutated)
      intro unclaimed
      apply released fun _ => mutated
      intro lease member
      exact unclaimed lease.claim (List.mem_map_of_mem member)

theorem finishClose_ports (stacked : arbiter.Stacked) (listed : arbiter.leases = state :: rest) :
    (arbiter.finishClose state).2.leases.map (·.request.port) = rest.map (·.request.port) := by
  cases rest with
  | nil => rw [stacked.finishClose_last listed rfl]
  | cons parent below =>
    rw [(stacked.finishClose_parent listed rfl).2]
    have port : (InputArbiter.resumedParent state parent).request.port =
        parent.request.port := by
      unfold InputArbiter.resumedParent
      split <;> rfl
    rw [List.map_cons, port, List.map_cons]

theorem suspended_ne_nil (stacked : arbiter.Stacked) (listed : arbiter.leases = state :: rest) :
    arbiter.suspended ≠ [] ↔ rest ≠ [] := by
  have nested := stacked.nested
  rw [listed] at nested
  rw [nested.2.1, ne_eq, List.map_eq_nil_iff]

theorem Settled.closed (stacked : arbiter.Stacked) (listed : arbiter.leases = state :: rest)
    (settled : Settled (Quiet history) (Free history) (arbiter.leases.map (·.claim)))
    (serves : arbiter.Serves call)
    (skipped : (arbiter.suspended ≠ [] ∧ state.mutatedBackend = false) ∨
      call.misses state = true ∨ state.backendNeutral = true)
    (asked : call.operation = .closeLease state.id state.epoch) (isTransition : transition =
      ⟨arbiter, call, { reply := .close (arbiter.finishClose state).1 },
        (arbiter.finishClose state).2⟩)
    (resumes : ResumesQuietly history transition) :
    Settled (Quiet (history ++ [transition])) (Free (history ++ [transition]))
      ((arbiter.finishClose state).2.leases.map (·.claim)) := by
  have silent : transition.Silent := by
    rw [isTransition]
    rintro _ ⟨⟩
  have recorded : state.backendNeutral = true →
      Quiet history state.request.port := by
    rw [listed] at settled
    exact settled.1
  refine Settled.ended stacked listed (settled.kept silent) (fun _ _ => id) (fun _ _ => id) ?_ ?_
  · intro mutated unleased
    obtain ⟨nested, unmutated⟩ | missed | neutral := skipped
    · rw [mutated ((suspended_ne_nil stacked listed).mp nested)] at unmutated
      cases unmutated
    · rw [misses, Bool.and_eq_true, Bool.not_eq_true'] at missed
      apply free_of_abandons
      · rw [isTransition, listed]
        exact ⟨state, List.mem_cons_self, rfl⟩
      · rw [isTransition]
        intro lease member same
        have port : lease.request.port ∈ rest.map (·.request.port) := by
          rw [← finishClose_ports stacked listed]
          exact List.mem_map_of_mem member
        obtain ⟨other, otherMember, otherPort⟩ := List.mem_map.mp port
        exact unleased other otherMember (otherPort.trans same)
      · rw [isTransition]
        exact missed.2
    · exact .inl (quiet_of_silent silent (recorded neutral))
  · rintro parent below rfl mutated
    apply quiet_of_silent silent
    have settledPort : call.misses state = true ∨
        state.backendNeutral = true := by
      obtain ⟨-, unmutated⟩ | skipped := skipped
      · rw [mutated] at unmutated
        cases unmutated
      · exact skipped
    have ends : call.ends state = true := by
      obtain missed | neutral := settledPort
      · simp [ends, missed]
      · simp [ends, neutral]
    obtain quiet | ⟨same, reached⟩ := resumes.parent
      (by rw [isTransition]; exact listed) (by rw [isTransition]; exact serves)
      (by rw [isTransition]; exact asked) mutated
      (by rw [isTransition]; exact ends)
    · exact quiet
    rw [same]
    apply recorded
    obtain unmissed | neutral := reached
    · rw [isTransition] at unmissed
      obtain missed | neutral := settledPort
      · simp [missed] at unmissed
      · exact neutral
    · exact neutral

theorem Settled.neutralized (stacked : arbiter.Stacked) (listed : arbiter.leases = state :: rest)
    (settled : Settled (Quiet history) (Free history) (arbiter.leases.map (·.claim)))
    (serves : arbiter.Serves call) (changed : arbiter.suspended ≠ [] → state.mutatedBackend = true)
    (succeeded : (call.publication state neutralFrame).succeeded = true)
    (asked : call.operation = .closeLease state.id state.epoch)
    (before : transition.before = arbiter) (input : transition.input = call)
    (event : transition.event.publication = some (call.publication state neutralFrame))
    (resumes : ResumesQuietly history transition) :
    Settled (Quiet (history ++ [transition])) (Free (history ++ [transition]))
      ((arbiter.neutralizedClose state).2.leases.map (·.claim)) := by
  have publishes : transition.Publishes state.request.port neutralFrame :=
    ⟨_, event, succeeded, rfl, rfl⟩
  have neutralized : Quiet (history ++ [transition]) state.request.port :=
    quiet_of_publishes publishes (by decide)
  obtain ⟨leases, neutralStacked⟩ := stacked.neutralize listed
  rw [listed] at settled
  have above : Settled (Quiet (history ++ [transition]))
      (Free (history ++ [transition]))
      ((arbiter.neutralize state).leases.map (·.claim)) := by
    rw [leases]
    exact Settled.published settled publishes rfl
  refine Settled.ended neutralStacked leases above (fun _ _ => id) nofun ?_ ?_
  · intro _ _
    exact .inl neutralized
  rintro parent below rfl -
  have mutated : state.mutatedBackend = true := by
    apply changed
    rw [suspended_ne_nil stacked listed]
    nofun
  obtain quiet | ⟨same, -⟩ := resumes.parent (before ▸ listed)
    (before ▸ input ▸ serves) (input ▸ asked) mutated
    (by simp [input, ends, succeeded])
  · by_cases same : parent.request.port = state.request.port
    · rw [same]
      exact neutralized
    · exact quiet_of_publishes_other publishes same quiet
  · rw [same]
    exact neutralized

/-- A shutdown that reports its cleanup as complete leaves every port quiet or
out of reach. -/
theorem free_of_shutDown (stacked : arbiter.Stacked)
    (settled : Settled (Quiet history) (Free history) (arbiter.leases.map (·.claim)))
    (before : transition.before = arbiter) (input : transition.input = call)
    (leases : transition.after.leases = []) (owner : arbiter.ownerThread = call.thread)
    (asked : call.operation = .shutdown) (cleans : arbiter.Cleans call transition.event.publication)
    (shutsDown : ShutsDownQuietly history transition) (port : InputPort) :
    Free (history ++ [transition]) port := by
  cases isActive : arbiter.active with
  | none =>
    obtain ⟨empty, unpublished⟩ := cleans.idle isActive
    have silent : transition.Silent := by
      intro publication isPublished
      rw [unpublished] at isPublished
      cases isPublished
    rw [empty] at settled
    exact free_of_silent silent (settled port)
  | some active =>
  obtain ⟨state, found, clean⟩ := cleans.clean active isActive
  obtain ⟨rest, listed⟩ := stacked.top isActive found
  rw [listed] at settled
  have givenUp : ∀ lease ∈ state :: rest,
      call.backend.isAvailable lease.request.port = false →
        Free (history ++ [transition]) lease.request.port := by
    intro lease member unavailable
    apply free_of_abandons
    · rw [before, listed]
      exact ⟨lease, member, rfl⟩
    · rw [leases]
      exact List.forall_mem_nil _
    · rw [input]
      exact unavailable
  have spread : call.ends state = true ∧
      Free (history ++ [transition]) state.request.port ∧
      ∀ other, other ≠ state.request.port →
        Free history other → Free (history ++ [transition]) other := by
    have silent : transition.event.publication = none → transition.Silent := by
      intro unpublished publication isPublished
      rw [unpublished] at isPublished
      cases isPublished
    obtain ⟨missed, unpublished⟩ | ⟨neutral, unpublished⟩ | ⟨published, succeeded⟩ := clean
    · refine ⟨by simp [ends, missed], ?_, fun _ _ =>
        free_of_silent (silent unpublished)⟩
      rw [misses, Bool.and_eq_true, Bool.not_eq_true'] at missed
      exact givenUp state List.mem_cons_self missed.2
    · refine ⟨by simp [ends, neutral], ?_, fun _ _ =>
        free_of_silent (silent unpublished)⟩
      exact .inl (quiet_of_silent (silent unpublished) (settled.1 neutral))
    have publishes : transition.Publishes state.request.port neutralFrame :=
      ⟨_, published, succeeded, rfl, rfl⟩
    refine ⟨by simp [ends, succeeded], ?_, fun _ different =>
      free_of_publishes_other publishes different⟩
    exact .inl (quiet_of_publishes publishes (by decide))
  obtain ⟨ends, own, others⟩ := spread
  by_cases same : port = state.request.port
  · rw [same]
    exact own
  by_cases leased : ∃ other ∈ rest, other.request.port = port
  · obtain ⟨other, member, rfl⟩ := leased
    cases available : call.backend.isAvailable other.request.port with
    | false => exact givenUp other (List.mem_cons_of_mem _ member) available
    | true =>
      apply others _ same
      exact .inl (shutsDown.suspended (before ▸ listed)
        (before ▸ input ▸ owner) (input ▸ asked) (input ▸ ends) other member
        same (input ▸ available))
  apply others port same
  apply settled.2.2 port
  intro claim member
  have claimMember : claim ∈ (state :: rest).map (·.claim) := member
  obtain ⟨lease, leaseMember, rfl⟩ := List.mem_map.mp claimMember
  rcases List.mem_cons.mp leaseMember with rfl | below
  · exact Ne.symm same
  · intro claimed
    exact leased ⟨lease, below, claimed⟩

/-- After the shutdown nothing is published and no lease is made. -/
theorem step_of_stopped {result : InputEvent × InputArbiter} (stopped : arbiter.stopped = true)
    (answered : arbiter.shutdownReceipt ≠ none)
    (step : InputArbiter.ArbiterStep arbiter call result) :
    (∀ publication, result.1.publication = some publication → publication.succeeded = false) ∧
      result.2.leases = arbiter.leases ∧ result.2.stopped = true ∧
      result.2.shutdownReceipt = arbiter.shutdownReceipt := by
  have unserved : ¬arbiter.Serves call := by
    intro serves
    rw [serves.running] at stopped
    cases stopped
  cases step with
  | refused quiet failed => exact ⟨failed, rfl, stopped, rfl⟩
  | answered | unrelated => exact ⟨nofun, rfl, stopped, rfl⟩
  | shutDown receipt nextPublication owner unanswered => exact absurd unanswered answered
  | initialized serves | granted _ serves | suspended _ _ serves
  | repeated _ _ serves | bound _ serves | applied _ _ serves
  | began _ _ serves | replaced _ _ _ _ serves | completed _ _ _ _ _ serves
  | related _ _ _ serves | witnessed _ _ _ serves | observed _ _ _ _ serves
  | closed _ serves | neutralized _ serves => exact absurd serves unserved

theorem finishClose_running (arbiter : InputArbiter) (state : LeaseState) :
    (arbiter.finishClose state).2.stopped = arbiter.stopped ∧
      (arbiter.finishClose state).2.shutdownReceipt = arbiter.shutdownReceipt := by
  unfold InputArbiter.finishClose
  dsimp only
  split
  · exact ⟨rfl, rfl⟩
  · split <;> exact ⟨rfl, rfl⟩

/-- A call before the shutdown keeps the records right. -/
theorem Ported.of_running (ported : Ported history arbiter)
    (unanswered : arbiter.shutdownReceipt = none)
    (step : InputArbiter.ArbiterStep arbiter call (event, after))
    (stopped : after.stopped = arbiter.stopped)
    (receipt : after.shutdownReceipt = arbiter.shutdownReceipt)
    (settled : Settled (Quiet (history ++ [⟨arbiter, call, event, after⟩]))
      (Free (history ++ [⟨arbiter, call, event, after⟩])) (after.leases.map (·.claim))) :
    Ported (history ++ [⟨arbiter, call, event, after⟩]) after where
  stacked := ported.stacked.step step
  bound := ported.bound.step ported.stacked step
  settled := fun _ => settled
  running := fun _ => stopped.trans (ported.running unanswered)
  ended := by
    intro other answered
    rw [receipt, unanswered] at answered
    cases answered

theorem Ported.of_stopped {receipt : InputArbiterShutdownReceipt} (ported : Ported history arbiter)
    (answered : arbiter.shutdownReceipt = some receipt)
    (step : InputArbiter.ArbiterStep arbiter call (event, after)) :
    Ported (history ++ [⟨arbiter, call, event, after⟩]) after := by
  obtain ⟨stopped, empty, clean⟩ := ported.ended receipt answered
  have isAnswered : arbiter.shutdownReceipt ≠ none := by
    rw [answered]
    nofun
  obtain ⟨unpublished, leases, stillStopped, kept⟩ := step_of_stopped stopped isAnswered step
  have silent : InputTransition.Silent ⟨arbiter, call, event, after⟩ := unpublished
  refine ⟨ported.stacked.step step, ported.bound.step ported.stacked step, ?_, ?_, ?_⟩
  · intro unanswered
    exact absurd (kept.symm.trans unanswered) isAnswered
  · intro unanswered
    exact absurd (kept.symm.trans unanswered) isAnswered
  intro other otherAnswered
  have same : receipt = other :=
    Option.some.inj (answered.symm.trans (kept.symm.trans otherAnswered))
  subst same
  refine ⟨stillStopped, leases.trans empty, ?_⟩
  intro complete port
  exact free_of_silent silent (clean complete port)

/-- Every call that meets the condition keeps the records of the leases
right. -/
theorem Ported.step (ported : Ported history arbiter)
    (keeps : KeepsPorts history ⟨arbiter, call, event, after⟩)
    (step : InputArbiter.ArbiterStep arbiter call (event, after)) :
    Ported (history ++ [⟨arbiter, call, event, after⟩]) after := by
  cases isAnswered : arbiter.shutdownReceipt with
  | some receipt => exact ported.of_stopped isAnswered step
  | none =>
  have stacked := ported.stacked
  have settled := ported.settled isAnswered
  have taken := step
  cases step with
  | refused quiet failed => exact ported.of_running isAnswered taken rfl rfl (settled.kept failed)
  | answered | initialized | repeated | related | unrelated =>
    exact ported.of_running isAnswered taken rfl rfl (settled.kept nofun)
  | granted request serves isSet first inactive asked =>
    refine ported.of_running isAnswered taken rfl rfl (Settled.kept nofun ?_)
    have empty := stacked.leases_of_inactive inactive
    apply Settled.claim settled
    intro _
    rw [empty] at settled
    exact keeps.abandoned.quiet (settled request.port) (.inr asked)
  | @suspended epoch request holder serves isSet first active found asked =>
    refine ported.of_running isAnswered taken rfl rfl (Settled.kept nofun ?_)
    obtain ⟨rest, listed⟩ := stacked.top active found
    have leases : ((arbiter.withEpoch epoch).suspend holder).leases =
        { holder with status := .suspended } :: rest :=
      InputArbiter.setLease_leases listed (stacked.below listed) rfl
    have below : Settled (Quiet history) (Free history)
        (((arbiter.withEpoch epoch).suspend holder).leases.map (·.claim)) := by
      rw [leases]
      rw [listed] at settled
      exact settled
    exact Settled.claim below nofun
  | bound state serves holds neutral =>
    refine ported.of_running isAnswered taken rfl rfl (Settled.kept nofun ?_)
    obtain ⟨rest, listed⟩ := stacked.holds holds
    rw [stacked.bound_leases listed rfl]
    rw [listed] at settled
    exact settled
  | applied state publication serves holds ready succeeded port asked =>
    obtain ⟨rest, listed⟩ := stacked.holds holds
    refine ported.of_running isAnswered taken rfl rfl ?_
    rw [stacked.published_leases listed]
    rw [listed] at settled
    exact Settled.published settled ⟨publication, rfl, succeeded, port, rfl⟩ rfl
  | began state publication serves holds neutral succeeded port asked =>
    obtain ⟨rest, listed⟩ := stacked.holds holds
    refine ported.of_running isAnswered taken rfl rfl ?_
    rw [stacked.delivered_leases listed]
    rw [listed] at settled
    exact Settled.published settled ⟨publication, rfl, succeeded, port, rfl⟩ rfl
  | replaced state delivery publication epoch serves delivers observed
      succeeded port asked =>
      obtain ⟨rest, listed⟩ := stacked.holds delivers.holds
      refine ported.of_running isAnswered taken rfl rfl ?_
      rw [stacked.delivered_leases listed]
      rw [listed] at settled
      exact Settled.published settled ⟨publication, rfl, succeeded, port, rfl⟩ rfl
  | completed state delivery epoch nextPublication mutated serves delivers
      observed receiptDelivery receiptBinding neutralizes asked =>
      obtain ⟨rest, listed⟩ := stacked.holds delivers.holds
      refine ported.of_running isAnswered taken rfl rfl ?_
      rw [stacked.settled_leases listed]
      rw [listed] at settled
      obtain ⟨rfl, neutral, rfl⟩ | ⟨attempt, rfl, succeeded, port, frame, rfl⟩ := neutralizes
      · have isMatch := (ported.bound.matching stacked listed delivers.current delivers.found).2
        have recorded : state.backendNeutral = true := by
          apply isMatch.recorded _ neutral
          simp [delivers.kind]
        refine Settled.kept nofun ?_
        have claim : (InputArbiter.settled state state.mutatedBackend).claim =
            state.claim := by
          simp [InputArbiter.settled, LeaseState.claim, recorded]
        rw [List.map_cons, claim]
        exact settled
      · have claim : (InputArbiter.settled state true).claim =
            ⟨state.request.port, neutralFrame.isNeutral, true⟩ := rfl
        exact Settled.published settled ⟨attempt, rfl, succeeded, port, frame⟩ claim
  | witnessed relationship state binding serves relates =>
    obtain ⟨rest, listed⟩ := stacked.holds relates.holds
    refine ported.of_running isAnswered taken ?_ ?_ (Settled.kept nofun ?_)
    · rw [InputArbiter.retire_eq]
    · rw [InputArbiter.retire_eq]
    rw [InputArbiter.retire_leases _ _ listed (stacked.below listed), List.map_cons, claim_retired]
    rw [listed] at settled
    exact settled
  | observed relationship state binding poll serves relates required =>
    obtain ⟨rest, listed⟩ := stacked.holds relates.holds
    refine ported.of_running isAnswered taken ?_ ?_ (Settled.kept nofun ?_)
    · rw [InputArbiter.retire_eq]
      rfl
    · rw [InputArbiter.retire_eq]
      rfl
    have leases : (arbiter.observe binding poll).leases = state :: rest := listed
    rw [InputArbiter.retire_leases _ _ leases (stacked.below listed), List.map_cons, claim_retired]
    rw [listed] at settled
    exact settled
  | closed state serves found active skipped asked =>
    obtain ⟨rest, listed⟩ := stacked.top active found
    obtain ⟨stopped, receipt⟩ := finishClose_running arbiter state
    refine ported.of_running isAnswered taken stopped receipt ?_
    exact Settled.closed stacked listed settled serves skipped asked rfl keeps.resumes
  | neutralized state serves found active changed succeeded asked =>
    obtain ⟨rest, listed⟩ := stacked.top active found
    obtain ⟨stopped, receipt⟩ := finishClose_running (arbiter.neutralize state) state.neutralized
    refine ported.of_running isAnswered taken stopped receipt ?_
    exact Settled.neutralized stacked listed settled serves changed succeeded
      asked rfl rfl rfl keeps.resumes
  | shutDown receipt nextPublication owner unanswered asked complete =>
    refine ⟨stacked.step taken, ported.bound.step stacked taken, nofun, nofun, ?_⟩
    rintro _ ⟨⟩
    refine ⟨rfl, rfl, ?_⟩
    intro isComplete
    exact free_of_shutDown stacked settled rfl rfl rfl owner asked
      (complete isComplete) keeps.shutsDown

end Steps
end Savor.Input

