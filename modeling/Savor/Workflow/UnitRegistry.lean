import Savor.Model.TextForms
import Mathlib.Data.List.Nodup
import Mathlib.Data.Option.Basic

/-!
# The registry of workflow units

The unit definitions with the columns that registration, launch validation and
the construction of activations read.  A registry holds only definitions that
`RegisterUnit` accepts.
-/

namespace Savor.Workflow

open Program (ByteString text digitsValue)

structure WorkflowPortDefinition where
  (key dataKind refKind : ByteString)
  required : Bool := true
  deriving DecidableEq

inductive WorkflowLaunchArgumentValueType
  | integer
  | text
  | boolean
  | json
  | choice
  deriving DecidableEq

inductive WorkflowUnitExecutionShape
  | workflowInstance
  | workflowExpansion
  deriving DecidableEq

/-- `WorkflowLaunchArgumentChoiceDefinition`. -/
structure WorkflowLaunchArgumentChoice where
  (value displayName : ByteString)
  deriving DecidableEq

structure WorkflowLaunchArgumentDefinition where
  (key displayName : ByteString)
  valueType : WorkflowLaunchArgumentValueType := .text
  required : Bool := false
  defaultValue : Option ByteString := none
  minimumInteger : Option Int := none
  maximumInteger : Option Nat := none
  choices : List WorkflowLaunchArgumentChoice := []
  deriving DecidableEq

structure WorkflowLaunchArgumentConstraint where
  (lesserOrEqualKey greaterOrEqualKey message : ByteString)
  deriving DecidableEq

structure WorkflowAuthoredRefRequirement where
  refKind : ByteString
  required : Bool := true
  deriving DecidableEq

structure WorkflowUnitStepTemplate where
  (stepKeySuffix stepKind : ByteString)
  priority : Int := 0
  maxAttempts : Nat := 1
  deriving DecidableEq

structure WorkflowPassThroughMapping where
  (inputKey outputKey : ByteString)
  deriving DecidableEq

structure WorkflowUnitDefinition where
  (unitKind displayName : ByteString)
  hidden : Bool := false
  standaloneLaunchable : Bool := true
  executionShape : WorkflowUnitExecutionShape := .workflowInstance
  (presentationFamilyKey presentationFamilyDisplayName : ByteString := [])
  defaultActivationParamsJson : ByteString := text "{}"
  authoredRefs : List WorkflowAuthoredRefRequirement := []
  (requiredInputs possibleOutputs : List WorkflowPortDefinition)
  passThroughOutputs : List WorkflowPassThroughMapping := []
  launchArguments : List WorkflowLaunchArgumentDefinition := []
  launchArgumentConstraints : List WorkflowLaunchArgumentConstraint := []
  internalStepKinds : List ByteString
  stepTemplates : List WorkflowUnitStepTemplate
  deriving DecidableEq

/-- The number that a text of digits spells. -/
def parseDigits (digits : ByteString) : Option Nat :=
  if digits ≠ [] ∧ ∀ digit ∈ digits, 48 ≤ digit ∧ digit ≤ 57 then
    some (digitsValue digits)
  else none

/-- `std::from_chars` of a whole text for an unsigned 64-bit number. -/
def parseUnsigned (digits : ByteString) : Option Nat := (parseDigits digits).filter (· < 2 ^ 64)

/-- `ParseInteger`: `std::from_chars` of a whole text for a signed 64-bit
number. -/
def parseInteger (number : ByteString) : Option Int :=
  match number with
  | 45 :: digits => ((parseDigits digits).filter (· ≤ 2 ^ 63)).map (-↑·)
  | digits => ((parseDigits digits).filter (· < 2 ^ 63)).map (↑·)

/-- The errors of a list of ports, with the keys of the earlier ones. -/
def portsError (unitKind side : ByteString) :
    List ByteString → List WorkflowPortDefinition → Option ByteString
  | _, [] => none
  | seen, port :: ports =>
    if port.key = [] ∨ port.dataKind = [] ∨ port.refKind = [] then
      some (side ++ text " key, data_kind, and ref_kind are required for unit " ++ unitKind)
    else if port.key ∈ seen then
      some (text "duplicate " ++ side ++ text " key '" ++ port.key ++
        text "' for unit " ++ unitKind)
    else portsError unitKind side (seen ++ [port.key]) ports

/-- The error of a mapping from an input to an output. -/
def passThroughError (definition : WorkflowUnitDefinition)
    (mapping : WorkflowPassThroughMapping) : Option ByteString :=
  match definition.requiredInputs.find? (·.key = mapping.inputKey),
    definition.possibleOutputs.find? (·.key = mapping.outputKey) with
  | some input, some output =>
    if input.dataKind ≠ output.dataKind ∨ input.refKind ≠ output.refKind
    then
      some (text "invalid pass-through mapping for unit " ++ definition.unitKind)
    else none
  | _, _ =>
    some (text "invalid pass-through mapping for unit " ++ definition.unitKind)

/-- The error of a step kind that emits an output the unit does not
declare. -/
def emittedError (outputsOf : ByteString → List WorkflowPortDefinition)
    (definition : WorkflowUnitDefinition) (stepKind : ByteString) : Option ByteString :=
  ((outputsOf stepKind).find? fun emitted =>
      ¬ ∃ output ∈ definition.possibleOutputs, output.key = emitted.key ∧
        output.dataKind = emitted.dataKind ∧
        output.refKind = emitted.refKind).map fun emitted =>
    text "workflow output contract mismatch for " ++ definition.unitKind ++
      text "/" ++ stepKind ++ text ": " ++ emitted.key

/-- The error of the presentation family of a unit. -/
def presentationError (units : List WorkflowUnitDefinition)
    (definition : WorkflowUnitDefinition) : Option ByteString :=
  if (definition.presentationFamilyKey = []) ≠
      (definition.presentationFamilyDisplayName = []) then
    some (text "standalone presentation family key and display name " ++
      text "must be provided together for unit " ++ definition.unitKind)
  else if definition.presentationFamilyKey = [] then none
  else if ¬ definition.standaloneLaunchable ∨ definition.hidden then
    some (text "standalone presentation families require a visible " ++
      text "standalone-launchable unit: " ++ definition.unitKind)
  else if definition.requiredInputs.length ≠ 1 then
    some (text "standalone presentation family members require exactly " ++
      text "one typed input: " ++ definition.unitKind)
  else if ∃ existing ∈ units,
      existing.presentationFamilyKey = definition.presentationFamilyKey ∧
        existing.presentationFamilyDisplayName ≠ definition.presentationFamilyDisplayName then
    some (text "standalone presentation family display name conflicts for " ++
      definition.presentationFamilyKey)
  else none

/-- The bounds of an integer argument are ordered and not negative. -/
def IntegerBounds (argument : WorkflowLaunchArgumentDefinition) : Prop :=
  ∃ minimum ∈ argument.minimumInteger, ∃ maximum ∈ argument.maximumInteger,
    0 ≤ minimum ∧ minimum ≤ (maximum : Int)

instance : DecidablePred IntegerBounds := fun argument =>
  match least : argument.minimumInteger, most : argument.maximumInteger with
  | some minimum, some maximum =>
    decidable_of_iff (0 ≤ minimum ∧ minimum ≤ (maximum : Int)) (by
      simp [IntegerBounds, least, most])
  | none, _ => isFalse (by simp [IntegerBounds, least])
  | some _, none => isFalse (by simp [IntegerBounds, most])

/-- The default of an integer argument is absent or within its bounds. -/
def DefaultWithin (argument : WorkflowLaunchArgumentDefinition) : Prop :=
  ∀ written ∈ argument.defaultValue, ∃ value ∈ parseUnsigned written,
    argument.minimumInteger.getD 0 ≤ (value : Int) ∧ value ≤ argument.maximumInteger.getD 0

instance : DecidablePred DefaultWithin := fun argument =>
  match default : argument.defaultValue with
  | none => isTrue (by simp [DefaultWithin, default])
  | some written =>
    match parsed : parseUnsigned written with
    | none => isFalse (by simp [DefaultWithin, default, parsed])
    | some value =>
      decidable_of_iff
        (argument.minimumInteger.getD 0 ≤ (value : Int) ∧
          value ≤ argument.maximumInteger.getD 0) (by
        simp [DefaultWithin, default, parsed])

/-- The error of the bounds, the choices and the default of an argument. -/
def argumentValueError (argument : WorkflowLaunchArgumentDefinition) : Option ByteString :=
  if argument.valueType = .integer then
    if ¬ IntegerBounds argument then
      some (text "invalid integer bounds for launch argument '" ++ argument.key ++ text "'")
    else if ¬ DefaultWithin argument then
      some (text "invalid default for launch argument '" ++ argument.key ++ text "'")
    else none
  else if argument.minimumInteger ≠ none ∨ argument.maximumInteger ≠ none
  then
    some (text "numeric bounds require an integer launch argument: " ++ argument.key)
  else if argument.valueType = .choice then
    if argument.choices = [] then
      some (text "choice launch argument has no choices: " ++ argument.key)
    else if (∃ choice ∈ argument.choices, choice.value = [] ∨ choice.displayName = []) ∨
        ¬ (argument.choices.map (·.value)).Nodup then
      some (text "choice launch argument has an empty or duplicate choice: " ++ argument.key)
    else if ∃ written ∈ argument.defaultValue, written ∉ argument.choices.map (·.value) then
      some (text "choice launch argument default is not in its catalog: " ++ argument.key)
    else none
  else if argument.choices ≠ [] then
    some (text "choices require a choice launch argument: " ++ argument.key)
  else none

/-- The errors of a list of arguments, with the keys of the earlier ones. -/
def argumentsError (unitKind : ByteString) :
    List ByteString → List WorkflowLaunchArgumentDefinition → Option ByteString
  | _, [] => none
  | seen, argument :: arguments =>
    if argument.key = [] ∨ argument.displayName = [] then
      some (text "launch argument key and display name are required for " ++
        text "unit " ++ unitKind)
    else if argument.key ∈ seen then
      some (text "duplicate launch argument key '" ++ argument.key ++
        text "' for unit " ++ unitKind)
    else
      (argumentValueError argument).or (argumentsError unitKind (seen ++ [argument.key]) arguments)

/-- The constraint does not order two different arguments of the unit. -/
def ConstraintInvalid (definition : WorkflowUnitDefinition)
    (constraint : WorkflowLaunchArgumentConstraint) : Prop :=
  constraint.lesserOrEqualKey = [] ∨ constraint.greaterOrEqualKey = [] ∨ constraint.message = [] ∨
    constraint.lesserOrEqualKey ∉ definition.launchArguments.map (·.key) ∨
    constraint.greaterOrEqualKey ∉ definition.launchArguments.map (·.key) ∨
    constraint.lesserOrEqualKey = constraint.greaterOrEqualKey

instance (definition : WorkflowUnitDefinition) : DecidablePred (ConstraintInvalid definition) :=
  fun _ => inferInstanceAs (Decidable (_ ∨ _ ∨ _ ∨ _ ∨ _ ∨ _))

/-- The error of the constraints on the arguments of a unit. -/
def constraintsError (definition : WorkflowUnitDefinition) : Option ByteString :=
  if ∃ constraint ∈ definition.launchArgumentConstraints,
      ConstraintInvalid definition constraint then
    some (text "invalid launch argument constraint for unit " ++ definition.unitKind)
  else none

/-- The errors that depend on the definition alone. -/
def unitError (outputsOf : ByteString → List WorkflowPortDefinition)
    (definition : WorkflowUnitDefinition) : Option ByteString :=
  if definition.unitKind = [] then some (text "unit_kind is required")
  else if definition.displayName = [] then
    some (text "display_name is required for unit " ++ definition.unitKind)
  else
    (portsError definition.unitKind (text "input") [] definition.requiredInputs).or <|
      (portsError definition.unitKind (text "output") [] definition.possibleOutputs).or <|
      (definition.passThroughOutputs.findSome? (passThroughError definition)).or <|
      definition.internalStepKinds.findSome? (emittedError outputsOf definition)

/-- The errors that are looked for after the presentation family. -/
def launchError (definition : WorkflowUnitDefinition) : Option ByteString :=
  (argumentsError definition.unitKind [] definition.launchArguments).or
    (constraintsError definition)

/-- `WorkflowUnitRegistry`: units of different kinds, each without an error of
its own.  `outputsOf` is `workflow_outputs::ForStepKind`. -/
structure WorkflowUnitRegistry (outputsOf : ByteString → List WorkflowPortDefinition) where
  units : List WorkflowUnitDefinition
  distinct : (units.map (·.unitKind)).Nodup
  valid : ∀ unit ∈ units, unitError outputsOf unit = none ∧ launchError unit = none

namespace WorkflowUnitRegistry

variable {outputsOf : ByteString → List WorkflowPortDefinition}

/-- The registry without units. -/
def empty : WorkflowUnitRegistry outputsOf := ⟨[], .nil, nofun⟩

def registerUnit (definition : WorkflowUnitDefinition) (registry : WorkflowUnitRegistry outputsOf) :
    Except ByteString (WorkflowUnitRegistry outputsOf) :=
  match unit : unitError outputsOf definition with
  | some message => .error message
  | none =>
    match presentationError registry.units definition with
    | some message => .error message
    | none =>
      match launch : launchError definition with
      | some message => .error message
      | none =>
        if taken : definition.unitKind ∈ registry.units.map (·.unitKind) then
          .error (text "workflow unit already registered: " ++ definition.unitKind)
        else
          .ok {
            units := registry.units ++ [definition]
            distinct := by
              rw [List.map_append]
              exact List.nodup_append.mpr ⟨registry.distinct, List.nodup_singleton _, by
                  rintro kind member other here rfl
                  rw [List.mem_singleton.mp here] at member
                  exact taken member⟩
            valid := by
              intro other member
              rcases List.mem_append.mp member with early | here
              · exact registry.valid other early
              · rw [List.mem_singleton.mp here]
                exact ⟨unit, launch⟩ }

/-- Register units one after another and ignore the errors. -/
def registerAll (registry : WorkflowUnitRegistry outputsOf)
    (definitions : List WorkflowUnitDefinition) : WorkflowUnitRegistry outputsOf :=
  definitions.foldl
    (fun registry definition =>
      match registry.registerUnit definition with
      | .error _ => registry
      | .ok grown => grown)
    registry

variable {registry : WorkflowUnitRegistry outputsOf}
variable {definition : WorkflowUnitDefinition}

theorem registerUnit_of_valid (unit : unitError outputsOf definition = none)
    (presentation : presentationError registry.units definition = none)
    (launch : launchError definition = none)
    (fresh : definition.unitKind ∉ registry.units.map (·.unitKind)) :
    ∃ grown, registry.registerUnit definition = .ok grown ∧
      grown.units = registry.units ++ [definition] := by
  unfold registerUnit
  split
  · rename_i failed
    rw [unit] at failed
    cases failed
  rw [presentation]
  dsimp only
  split
  · rename_i failed
    rw [launch] at failed
    cases failed
  rw [dif_neg fresh]
  exact ⟨_, rfl, rfl⟩

theorem units_of_registerUnit {grown : WorkflowUnitRegistry outputsOf}
    (registered : registry.registerUnit definition = .ok grown) :
    grown.units = registry.units ++ [definition] := by
  unfold registerUnit at registered
  iterate 4 (split at registered; · cases registered)
  cases registered
  rfl

/-- The registered units come from the given ones, and no unit is lost. -/
theorem units_registerAll (registry : WorkflowUnitRegistry outputsOf)
    (definitions : List WorkflowUnitDefinition) :
    ∃ added, (registry.registerAll definitions).units =
      registry.units ++ added ∧ added.Sublist definitions := by
  induction definitions generalizing registry with
  | nil => exact ⟨[], by rw [registerAll, List.foldl_nil, List.append_nil], .slnil⟩
  | cons definition definitions ih =>
    cases registered : registry.registerUnit definition with
    | error message =>
      obtain ⟨added, units, sublist⟩ := ih registry
      refine ⟨added, ?_, sublist.cons _⟩
      unfold registerAll at units ⊢
      rw [List.foldl_cons, registered]
      exact units
    | ok grown =>
      obtain ⟨added, units, sublist⟩ := ih grown
      refine ⟨definition :: added, ?_, sublist.cons_cons _⟩
      unfold registerAll at units ⊢
      rw [List.foldl_cons, registered, List.append_cons, ← units_of_registerUnit registered]
      exact units

theorem presentationError_of_subset {units fewer : List WorkflowUnitDefinition}
    (subset : fewer ⊆ units) (presentation : presentationError units definition = none) :
    presentationError fewer definition = none := by
  unfold presentationError at presentation ⊢
  split_ifs at presentation with unpaired unnamed hidden several conflict
  · rw [if_neg unpaired, if_pos unnamed]
  · rw [if_neg unpaired, if_neg unnamed, if_neg hidden, if_neg several, if_neg]
    exact fun ⟨other, member, unlike⟩ => conflict ⟨other, subset member, unlike⟩

/-- A unit is registered when it is valid, agrees with the presentation of
the others, and no unit before it has its kind. -/
theorem mem_registerAll {definitions : List WorkflowUnitDefinition}
    (distinct : (definitions.map (·.unitKind)).Nodup) (member : definition ∈ definitions)
    (unit : unitError outputsOf definition = none)
    (presentation : presentationError (registry.units ++ definitions) definition = none)
    (launch : launchError definition = none)
    (fresh : definition.unitKind ∉ registry.units.map (·.unitKind)) :
    definition ∈ (registry.registerAll definitions).units := by
  induction definitions generalizing registry with
  | nil => cases member
  | cons first definitions ih =>
    obtain ⟨unlike, rest⟩ := List.nodup_cons.mp distinct
    have here : (registry.registerAll (first :: definitions)) =
        (match registry.registerUnit first with
          | .error _ => registry
          | .ok grown => grown).registerAll definitions := rfl
    rw [here]
    rcases List.mem_cons.mp member with rfl | later
    · have agreed := presentationError_of_subset (List.subset_append_left _ _) presentation
      obtain ⟨grown, registered, units⟩ := registerUnit_of_valid unit agreed launch fresh
      obtain ⟨added, final, _⟩ := units_registerAll grown definitions
      rw [registered]
      dsimp only
      rw [final, units]
      exact List.mem_append_left _ (List.mem_concat_self)
    · have named : definition.unitKind ∈ definitions.map (·.unitKind) :=
        List.mem_map_of_mem later
      cases registered : registry.registerUnit first with
      | error message =>
        refine ih rest later (presentationError_of_subset ?_ presentation) fresh
        exact List.append_subset.mpr ⟨List.subset_append_left _ _,
          fun _ known => List.mem_append_right _ (List.mem_cons_of_mem _ known)⟩
      | ok grown =>
        have units := units_of_registerUnit registered
        refine ih rest later ?_ ?_
        · rwa [units, List.append_assoc]
        rw [units, List.map_append]
        intro taken
        rcases List.mem_append.mp taken with early | last
        · exact fresh early
        have same := List.mem_singleton.mp last
        rw [same] at named
        exact unlike named

def find (registry : WorkflowUnitRegistry outputsOf)
    (unitKind : ByteString) : Option WorkflowUnitDefinition :=
  registry.units.find? (·.unitKind = unitKind)

variable {unit : WorkflowUnitDefinition}

theorem find_of_mem (member : unit ∈ registry.units) : registry.find unit.unitKind = some unit := by
  cases found : registry.find unit.unitKind with
  | none =>
    have absent := List.find?_eq_none.mp found unit member
    simp at absent
  | some other =>
    have same : other.unitKind = unit.unitKind := by simpa using List.find?_some found
    rw [List.inj_on_of_nodup_map registry.distinct (List.mem_of_find?_eq_some found) member same]

theorem mem_of_find {unitKind : ByteString}
    (found : registry.find unitKind = some unit) : unit ∈ registry.units :=
  List.mem_of_find?_eq_some found

end WorkflowUnitRegistry

variable {seen : List ByteString}

theorem nodup_of_portsError {unitKind side : ByteString}
    {ports : List WorkflowPortDefinition} (distinct : seen.Nodup)
    (valid : portsError unitKind side seen ports = none) : (seen ++ ports.map (·.key)).Nodup := by
  induction ports generalizing seen with
  | nil => simpa using distinct
  | cons port ports ih =>
    unfold portsError at valid
    iterate 2 (split at valid; · cases valid)
    rename_i fresh
    have grown : (seen ++ [port.key]).Nodup := List.concat_eq_append ▸ distinct.concat fresh
    have rest := ih grown valid
    simpa using rest

theorem nodup_of_argumentsError {unitKind : ByteString}
    {arguments : List WorkflowLaunchArgumentDefinition} (distinct : seen.Nodup)
    (valid : argumentsError unitKind seen arguments = none) :
    (seen ++ arguments.map (·.key)).Nodup := by
  induction arguments generalizing seen with
  | nil => simpa using distinct
  | cons argument arguments ih =>
    unfold argumentsError at valid
    iterate 2 (split at valid; · cases valid)
    rename_i fresh
    have grown : (seen ++ [argument.key]).Nodup := List.concat_eq_append ▸ distinct.concat fresh
    have rest := ih grown (Option.or_eq_none_iff.mp valid).2
    simpa using rest

variable {outputsOf : ByteString → List WorkflowPortDefinition}
  {registry : WorkflowUnitRegistry outputsOf} {unit : WorkflowUnitDefinition}

theorem WorkflowUnitRegistry.inputKeys_nodup (member : unit ∈ registry.units) :
    (unit.requiredInputs.map (·.key)).Nodup := by
  have valid := (registry.valid unit member).1
  unfold unitError at valid
  iterate 2 (split at valid; · cases valid)
  exact nodup_of_portsError .nil (Option.or_eq_none_iff.mp valid).1

theorem WorkflowUnitRegistry.argumentKeys_nodup (member : unit ∈ registry.units) :
    (unit.launchArguments.map (·.key)).Nodup :=
  nodup_of_argumentsError .nil (Option.or_eq_none_iff.mp (registry.valid unit member).2).1

theorem WorkflowUnitRegistry.constraint_keys (member : unit ∈ registry.units)
    {constraint : WorkflowLaunchArgumentConstraint}
    (declared : constraint ∈ unit.launchArgumentConstraints) :
    constraint.lesserOrEqualKey ∈ unit.launchArguments.map (·.key) ∧
      constraint.greaterOrEqualKey ∈ unit.launchArguments.map (·.key) := by
  have valid := (Option.or_eq_none_iff.mp (registry.valid unit member).2).2
  unfold constraintsError at valid
  split at valid
  · cases valid
  rename_i allValid
  have accepted : ¬ ConstraintInvalid unit constraint :=
    fun invalid => allValid ⟨constraint, declared, invalid⟩
  unfold ConstraintInvalid at accepted
  push Not at accepted
  exact ⟨accepted.2.2.2.1, accepted.2.2.2.2.1⟩

end Savor.Workflow
