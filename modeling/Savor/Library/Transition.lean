import Mathlib.Algebra.GroupWithZero.Nat
import Mathlib.Data.FinEnum

/-!
# Runs of a deterministic machine

A machine answers an input in a state with an event and a next state, or does
not accept the input at all.  A run records every transition it made, so that
both state invariants and laws about the whole history can be stated over it.
-/

namespace Savor.Library

universe u v w

/-- One recorded transition of a machine. -/
structure Transition (State : Type u) (Input : Type v) (Event : Type w) where
  before : State
  input : Input
  event : Event
  after : State

/-- Runs from `start`, restricted to the transitions that `Allowed` admits in
the state before them.  The newest transition is the last one. -/
inductive Run {State : Type u} {Input : Type v} {Event : Type w}
    (step : Input → State → Option (Event × State))
    (Allowed : State → Input → Prop) (start : State) :
    List (Transition State Input Event) → State → Prop
  | nil : Run step Allowed start [] start
  | snoc {history state input event next} :
      Run step Allowed start history state →
      Allowed state input →
      step input state = some (event, next) →
      Run step Allowed start (history ++ [⟨state, input, event, next⟩]) next

/-- Replay a list of inputs, recording the transitions. -/
def replay {State : Type u} {Input : Type v} {Event : Type w}
    (step : Input → State → Option (Event × State)) :
    State → List Input → Option (List (Transition State Input Event) × State)
  | state, [] => some ([], state)
  | state, input :: inputs =>
    match step input state with
    | none => none
    | some (event, next) =>
      match replay step next inputs with
      | none => none
      | some (history, final) => some (⟨state, input, event, next⟩ :: history, final)

namespace Run

variable {State : Type u} {Input : Type v} {Event : Type w}
variable {step : Input → State → Option (Event × State)}
variable {Allowed : State → Input → Prop} {start : State}

/-- An invariant of the initial state that every allowed step keeps holds in
the state reached by a run. -/
theorem invariant {Inv : State → Prop} (initial : Inv start)
    (preserved : ∀ state input event next, Inv state → Allowed state input →
      step input state = some (event, next) → Inv next)
    {history state} (run : Run step Allowed start history state) : Inv state := by
  induction run with
  | nil => exact initial
  | snoc _ allowed stepped ih => exact preserved _ _ _ _ ih allowed stepped

/-- An invariant relating the recorded history to the state it led to. -/
theorem historyInvariant {Inv : List (Transition State Input Event) → State → Prop}
    (initial : Inv [] start) (preserved : ∀ history state input event next, Inv history state →
      Allowed state input → step input state = some (event, next) →
      Inv (history ++ [⟨state, input, event, next⟩]) next)
    {history state} (run : Run step Allowed start history state) : Inv history state := by
  induction run with
  | nil => exact initial
  | snoc _ allowed stepped ih => exact preserved _ _ _ _ _ ih allowed stepped

/-- Every transition of a run starts in a state that satisfies the invariant,
was allowed there, and is a step of the machine. -/
theorem forall_transition {Inv : State → Prop} (initial : Inv start)
    (preserved : ∀ state input event next, Inv state → Allowed state input →
      step input state = some (event, next) → Inv next)
    {history state} (run : Run step Allowed start history state) :
    ∀ transition ∈ history, Inv transition.before ∧ Allowed transition.before transition.input ∧
      step transition.input transition.before = some (transition.event, transition.after) := by
  induction run with
  | nil => simp
  | snoc earlier allowed stepped ih =>
    intro transition member
    rcases List.mem_append.mp member with old | new
    · exact ih transition old
    rw [List.mem_singleton] at new
    subst new
    exact ⟨earlier.invariant initial preserved, allowed, stepped⟩

theorem split {history earlier later state} {transition : Transition State Input Event}
    (run : Run step Allowed start history state)
    (position : history = earlier ++ transition :: later) :
    Run step Allowed start earlier transition.before ∧ Allowed transition.before transition.input ∧
      step transition.input transition.before = some (transition.event, transition.after) := by
  induction run generalizing later with
  | nil => simp at position
  | snoc shorter allowed stepped ih =>
    rcases List.eq_nil_or_concat later with rfl | ⟨rest, last, rfl⟩
    · obtain ⟨same, new⟩ := List.append_inj' position rfl
      simp only [List.cons.injEq, and_true] at new
      subst same new
      exact ⟨shorter, allowed, stepped⟩
    have aligned := position
    rw [List.concat_eq_append, ← List.cons_append, ← List.append_assoc] at aligned
    exact ih (List.append_inj' aligned rfl).1

/-- A replay continues a run when every recorded transition is admitted. -/
theorem append_replay {history state}
    (run : Run step Allowed start history state) {inputs suffix final}
    (replayed : replay step state inputs = some (suffix, final)) (allowed : ∀ transition ∈ suffix,
      Allowed transition.before transition.input) :
    Run step Allowed start (history ++ suffix) final := by
  induction inputs generalizing history state suffix with
  | nil =>
    simp only [replay, Option.some.injEq, Prod.mk.injEq] at replayed
    obtain ⟨rfl, rfl⟩ := replayed
    simpa using run
  | cons input inputs ih =>
    simp only [replay] at replayed
    split at replayed
    · cases replayed
    rename_i event next stepped
    split at replayed
    · cases replayed
    rename_i rest last restReplayed
    simp only [Option.some.injEq, Prod.mk.injEq] at replayed
    obtain ⟨rfl, rfl⟩ := replayed
    have extended := run.snoc (allowed _ List.mem_cons_self) stepped
    have continued := ih extended restReplayed
      fun transition member => allowed transition (List.mem_cons_of_mem _ member)
    simpa using continued

theorem of_replay {inputs history final}
    (replayed : replay step start inputs = some (history, final)) (allowed : ∀ transition ∈ history,
      Allowed transition.before transition.input) :
    Run step Allowed start history final := by
  have empty : Run step Allowed start [] start := .nil
  simpa using empty.append_replay replayed allowed

theorem replay_inputs {inputs : List Input} {state final : State}
    {history : List (Transition State Input Event)}
    (replayed : replay step state inputs = some (history, final)) :
    history.map (·.input) = inputs := by
  induction inputs generalizing state history with
  | nil =>
    simp only [replay, Option.some.injEq, Prod.mk.injEq] at replayed
    simp [← replayed.1]
  | cons input inputs ih =>
    simp only [replay] at replayed
    iterate 2 (split at replayed; · cases replayed)
    · rename_i rest last restReplayed
      simp only [Option.some.injEq, Prod.mk.injEq] at replayed
      obtain ⟨rfl, rfl⟩ := replayed
      rw [List.map_cons, ih restReplayed]

/-- A replay that passes a check gives a run that passes it, when the check and
what is known of the inputs admit every transition. -/
theorem exists_of_replay_inputs (inputs : List Input) {Good : Input → Prop}
    (good : ∀ input ∈ inputs, Good input)
    (Check : List (Transition State Input Event) → State → Prop)
    [∀ history final, Decidable (Check history final)] (checked : (replay step start inputs).any
      (fun reached => Check reached.1 reached.2) = true)
    (allowed : ∀ history final, Check history final →
      ∀ transition ∈ history, Good transition.input → Allowed transition.before transition.input) :
    ∃ history final, Run step Allowed start history final ∧ Check history final := by
  obtain ⟨⟨history, final⟩, replayed, passes⟩ := (Option.any_eq_true _ _).mp checked
  have passes := of_decide_eq_true passes
  refine ⟨history, final, of_replay replayed ?_, passes⟩
  intro transition member
  have listed := List.mem_map_of_mem (f := Transition.input) member
  rw [replay_inputs replayed] at listed
  exact allowed history final passes transition member (good transition.input listed)

/-- A replay that passes a check, which admits every transition, gives a run
that passes it. -/
theorem exists_of_replay (inputs : List Input)
    (Check : List (Transition State Input Event) → State → Prop)
    [∀ history final, Decidable (Check history final)] (checked : (replay step start inputs).any
      (fun reached => Check reached.1 reached.2) = true)
    (allowed : ∀ history final, Check history final →
      ∀ transition ∈ history, Allowed transition.before transition.input := by
        exact fun _ _ _ _ _ => trivial) :
    ∃ history final, Run step Allowed start history final ∧ Check history final := by
  obtain ⟨⟨history, final⟩, replayed, passes⟩ := (Option.any_eq_true _ _).mp checked
  have passes := of_decide_eq_true passes
  exact ⟨history, final, of_replay replayed (allowed history final passes), passes⟩

end Run

/-- Every transition of a history meets a condition on what came before it. -/
def Everywhere {State : Type u} {Input : Type v} {Event : Type w}
    (Condition : List (Transition State Input Event) → Transition State Input Event → Prop)
    (history : List (Transition State Input Event)) : Prop :=
  ∀ earlier transition later, history = earlier ++ transition :: later →
    Condition earlier transition

namespace Everywhere

variable {State : Type u} {Input : Type v} {Event : Type w}
variable {Condition : List (Transition State Input Event) → Transition State Input Event → Prop}
variable {history : List (Transition State Input Event)}

theorem earlier {before later : List (Transition State Input Event)}
    {transition : Transition State Input Event} (everywhere : Everywhere Condition history)
    (position : history = before ++ transition :: later) : Everywhere Condition before := by
  rintro first middle last rfl
  apply everywhere first middle (last ++ transition :: later)
  rw [position]
  simp

/-- It is enough to look at every position. -/
theorem iff_forall_index : Everywhere Condition history ↔ ∀ index : Fin history.length,
      Condition (history.take index) history[index] := by
  constructor
  · intro everywhere index
    apply everywhere _ _ (history.drop (index + 1))
    rw [Fin.getElem_fin, List.getElem_cons_drop, List.take_append_drop]
  rintro indexed earlier transition later rfl
  have condition := indexed ⟨earlier.length, by simp⟩
  simpa using condition

instance [∀ earlier transition, Decidable (Condition earlier transition)] :
    Decidable (Everywhere Condition history) :=
  decidable_of_iff _ iff_forall_index.symm

/-- An invariant of the run so far, which every step keeps that meets the
condition, holds up to each transition. -/
theorem invariant {step : Input → State → Option (Event × State)}
    {Allowed : State → Input → Prop} {start state : State}
    {Inv : List (Transition State Input Event) → State → Prop} (initial : Inv [] start)
    (preserved : ∀ history transition, Inv history transition.before →
      Allowed transition.before transition.input → Condition history transition →
      step transition.input transition.before = some (transition.event, transition.after) →
      Inv (history ++ [transition]) transition.after)
    (run : Run step Allowed start history state) (everywhere : Everywhere Condition history) :
    Inv history state := by
  induction run with
  | nil => exact initial
  | snoc earlierRun allowed stepped ih =>
    have met := everywhere _ _ [] rfl
    have before := ih (everywhere.earlier rfl)
    exact preserved _ _ before allowed met stepped

end Everywhere

/-- Each value that a history yields is yielded once, and is used up at the
end. -/
structure Once {Entry : Type u} {Value : Type v} (yield : Entry → Option Value)
    (Used : Value → Prop) (history : List Entry) : Prop where
  nodup : (history.filterMap yield).Nodup
  used : ∀ value ∈ history.filterMap yield, Used value

namespace Once

variable {Entry : Type u} {Value : Type v}
variable {yield : Entry → Option Value} {Used Used' : Value → Prop}

theorem nil : Once yield Used [] where
  nodup := List.nodup_nil
  used := by simp

theorem snoc {history : List Entry} {entry : Entry}
    (once : Once yield Used history) (kept : ∀ value, Used value → Used' value)
    (fresh : ∀ value, yield entry = some value → ¬Used value ∧ Used' value) :
    Once yield Used' (history ++ [entry]) where
  nodup := by
    rw [List.filterMap_append, List.nodup_append]
    refine ⟨once.nodup, ?_, ?_⟩
    · cases yielded : yield entry <;> simp [yielded]
    intro old oldMember new newMember same
    subst same
    have isNew : yield entry = some old := by simpa using newMember
    exact (fresh old isNew).1 (once.used old oldMember)
  used := by
    rw [List.filterMap_append]
    intro value member
    rcases List.mem_append.mp member with old | new
    · exact kept value (once.used value old)
    · have isNew : yield entry = some value := by simpa using new
      exact (fresh value isNew).2

end Once

end Savor.Library
