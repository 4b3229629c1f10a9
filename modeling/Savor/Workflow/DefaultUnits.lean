import Savor.Workflow.UnitRegistry

/-!
# The default workflow units

The units that `BuildDefaultWorkflowUnitRegistry` registers, in its order, and
the output contracts of their step kinds.
-/

namespace Savor.Workflow

open Program (ByteString text)
open WorkflowUnitRegistry

namespace WorkflowOutputs

/-- A contract of the output catalog. -/
def output (key dataKind refKind : String) : WorkflowPortDefinition :=
  ⟨text key, text dataKind, text refKind, true⟩

def battleContext :=
  output "battle_context" "analysis_battle.battle_context_id"
    "ab_battle_context"

def battleSet :=
  output "battle_set" "analysis_battle.battle_set" "analysis_battle.battle_set"

def battleCompletion :=
  output "completion" "analysis_battle.battle_completion"
    "analysis_battle.battle_completion"

def battleRecording :=
  output "recording" "analysis_battle.battle_recording"
    "analysis_battle.battle_recording"

def battleReplay :=
  output "replay" "analysis_battle.battle_replay"
    "analysis_battle.battle_replay"

def seedProbeRun :=
  output "seed_probe_run" "analysis.seed_probe_run" "sp_probe_run"

def tasMovieValidationAttempt :=
  output "tas_movie_validation_attempt"
    "analysis.tas_movie_validation_attempt_id" "tmv_validation_attempt"

def tasMovieRootEstablishment :=
  output "root_establishment"
    "analysis.tas_movie_root_establishment_attempt_id"
    "tmv_root_establishment_attempt"

def tasMovieRootDtm :=
  output "root_dtm" "state_artifact.dtm_artifact_id" "state_artifact"

def tasMovieValidatedCheckpoint :=
  output "validated_checkpoint_savestate" "state.movie_paired_savestate_id"
    "state.savestate"

def tasMovieSterilizedCheckpoint :=
  output "sterilized_checkpoint_savestate" "state.movie_inactive_savestate_id"
    "state.savestate"

def tasMovieAnnotationAttempt :=
  output "annotation_attempt"
    "analysis.tas_movie_input_epoch_annotation_attempt_id"
    "tmv_input_epoch_annotation_attempt"

def tasMovieRewriteAttempt :=
  output "rewrite_attempt" "analysis.tas_movie_input_epoch_rewrite_attempt_id"
    "tmv_input_epoch_rewrite_attempt"

def tasMovieRewrittenDtm :=
  output "rewritten_dtm" "state_artifact.dtm_artifact_id" "state_artifact"

def tasMovieRewrittenPairedSavestate :=
  output "rewritten_paired_savestate" "state.movie_paired_savestate_id"
    "state.savestate"

def tasMovieCutsceneAttempt :=
  output "cutscene_attempt" "analysis.tas_movie_cutscene_attempt_id"
    "tmv_cutscene_attempt"

def tasMovieTree :=
  output "tas_movie_tree" "state.tas_movie_tree_id" "state_tas_movie_tree"

def tasMoviePairedSavestate :=
  output "paired_savestate" "state.movie_paired_savestate_id"
    "state.savestate"

/-- The outputs that a step of the kind emits. -/
def forStepKind (stepKind : ByteString) : List WorkflowPortDefinition :=
  if stepKind = text "battle.context" then [battleContext]
  else if stepKind = text "battle.start" ∨ stepKind = text "battle.single_turn" then [battleSet]
  else if stepKind = text "battle.completion" then [battleCompletion]
  else if stepKind = text "battle.record" then [battleRecording]
  else if stepKind = text "battle.replay" then [battleReplay]
  else if stepKind = text "seedprobe.confirm" then [seedProbeRun]
  else if stepKind = text "tasmovie.establish_root_cursor" then
    [tasMovieValidationAttempt, tasMovieRootEstablishment, tasMovieRootDtm]
  else if stepKind = text "tasmovie.validate_root" ∨ stepKind = text "tasmovie.validate_tree" then
    [tasMovieValidationAttempt, tasMovieValidatedCheckpoint]
  else if stepKind = text "tasmovie.checkpoint_sterilize" then
    [tasMovieSterilizedCheckpoint]
  else if stepKind = text "tasmovie.annotate" ∨
      stepKind = text "tasmovie.input_epoch_breakpoint_diagnostic" then
    [tasMovieAnnotationAttempt]
  else if stepKind = text "tasmovie.revise" then
    [tasMovieRewriteAttempt, tasMovieRewrittenDtm,
      tasMovieRewrittenPairedSavestate, tasMovieAnnotationAttempt, tasMovieRootEstablishment]
  else if stepKind = text "tasmovie.cutscene" then
    [tasMovieCutsceneAttempt, tasMovieTree, tasMoviePairedSavestate,
      tasMovieValidationAttempt, tasMovieValidatedCheckpoint]
  else []

end WorkflowOutputs

namespace DefaultUnits

open WorkflowOutputs

/-- A port, with the kinds of its data. -/
def port (key dataKind refKind : String) (required : Bool := true) :
    WorkflowPortDefinition :=
  ⟨text key, text dataKind, text refKind, required⟩

def integerArgument (key displayName : String) (required : Bool)
    (defaultValue : Option String) (minimum : Int) (maximum : Nat) :
    WorkflowLaunchArgumentDefinition where
  key := text key
  displayName := text displayName
  valueType := .integer
  required
  defaultValue := defaultValue.map text
  minimumInteger := some minimum
  maximumInteger := some maximum

def choiceArgument (key displayName : String) (required : Bool) (defaultValue : Option String)
    (choices : List WorkflowLaunchArgumentChoice) : WorkflowLaunchArgumentDefinition where
  key := text key
  displayName := text displayName
  valueType := .choice
  required
  defaultValue := defaultValue.map text
  choices

def booleanArgument (key displayName : String) (defaultValue : Bool) :
    WorkflowLaunchArgumentDefinition where
  key := text key
  displayName := text displayName
  valueType := .boolean
  defaultValue := some (if defaultValue then text "1" else text "0")

/-- A unit that is one step. -/
def singleStep (stepKind : String) : List WorkflowUnitStepTemplate := [⟨[], text stepKind, 1, 1⟩]

def establishRootCursor : WorkflowUnitDefinition where
  unitKind := text "tas_movie_establish_root_cursor"
  displayName := text "TAS Movie: Establish Root Cursor"
  requiredInputs :=
    [port "root_dtm" "state_artifact.dtm_artifact_id" "state_artifact"]
  possibleOutputs := [tasMovieValidationAttempt, tasMovieRootEstablishment, tasMovieRootDtm]
  internalStepKinds := [text "tasmovie.establish_root_cursor"]
  stepTemplates := singleStep "tasmovie.establish_root_cursor"

def validateRoot : WorkflowUnitDefinition where
  unitKind := text "tas_movie_validate_root"
  displayName := text "TAS Movie: Validate Root"
  presentationFamilyKey := text "tas_movie_validation"
  presentationFamilyDisplayName := text "TAS Movie Validation"
  requiredInputs :=
    [port "root_establishment" "analysis.tas_movie_root_establishment_attempt_id"
      "tmv_root_establishment_attempt"]
  possibleOutputs := [tasMovieValidationAttempt, tasMovieValidatedCheckpoint]
  launchArguments := [integerArgument "rtc" "RTC" true none 0 (2 ^ 32 - 1)]
  internalStepKinds := [text "tasmovie.validate_root"]
  stepTemplates := singleStep "tasmovie.validate_root"

def validateTree : WorkflowUnitDefinition where
  unitKind := text "tas_movie_validate_tree"
  displayName := text "Validate Recorded TAS Branch"
  presentationFamilyKey := text "tas_movie_validation"
  presentationFamilyDisplayName := text "TAS Movie Validation"
  requiredInputs :=
    [port "tas_movie_tree" "state.tas_movie_tree_id" "state_tas_movie_tree"]
  possibleOutputs := [tasMovieValidationAttempt, tasMovieValidatedCheckpoint]
  internalStepKinds := [text "tasmovie.validate_tree"]
  stepTemplates := singleStep "tasmovie.validate_tree"

def checkpointSterilize : WorkflowUnitDefinition where
  unitKind := text "tas_movie_checkpoint_sterilize"
  displayName := text "TAS Movie: Sterilize Checkpoint"
  requiredInputs :=
    [port "paired_checkpoint_savestate" "state.movie_paired_savestate_id" "state.savestate"]
  possibleOutputs := [tasMovieSterilizedCheckpoint]
  internalStepKinds := [text "tasmovie.checkpoint_sterilize"]
  stepTemplates := singleStep "tasmovie.checkpoint_sterilize"

def annotate : WorkflowUnitDefinition where
  unitKind := text "tas_movie_annotate"
  displayName := text "TAS Movie: Annotate Input Epochs"
  requiredInputs :=
    [port "root_establishment" "analysis.tas_movie_root_establishment_attempt_id"
      "tmv_root_establishment_attempt"]
  possibleOutputs := [tasMovieAnnotationAttempt]
  internalStepKinds := [text "tasmovie.annotate"]
  stepTemplates := singleStep "tasmovie.annotate"

def revise : WorkflowUnitDefinition where
  unitKind := text "tas_movie_revise"
  displayName := text "TAS Movie: Rewrite Input Epochs"
  requiredInputs :=
    [port "annotation_attempt" "analysis.tas_movie_input_epoch_annotation_attempt_id"
      "tmv_input_epoch_annotation_attempt"]
  possibleOutputs :=
    [tasMovieRewriteAttempt, tasMovieRewrittenDtm,
      tasMovieRewrittenPairedSavestate, tasMovieAnnotationAttempt, tasMovieRootEstablishment]
  launchArguments :=
    [integerArgument "insert_before_epoch" "Insert before epoch" false none 0 (2 ^ 63 - 1),
      integerArgument "neutral_epoch_count" "Neutral input epochs" false (some "1") 1 (2 ^ 31 - 1),
      choiceArgument "placement_profile" "Placement profile" false
        (some "first_battle.final_dialog") [⟨text "first_battle.final_dialog",
          text "First battle: final dialog B to A"⟩]]
  internalStepKinds := [text "tasmovie.revise"]
  stepTemplates := singleStep "tasmovie.revise"

def inputEpochBreakpointDiagnostic : WorkflowUnitDefinition where
  unitKind := text "tas_movie_input_epoch_breakpoint_diagnostic"
  displayName := text "TAS Movie: Input Epoch Breakpoint Diagnostic"
  hidden := true
  requiredInputs :=
    [port "root_establishment" "analysis.tas_movie_root_establishment_attempt_id"
      "tmv_root_establishment_attempt"]
  possibleOutputs := [tasMovieAnnotationAttempt]
  internalStepKinds := [text "tasmovie.input_epoch_breakpoint_diagnostic"]
  stepTemplates := singleStep "tasmovie.input_epoch_breakpoint_diagnostic"

def cutscene : WorkflowUnitDefinition where
  unitKind := text "tas_movie_cutscene"
  displayName := text "TAS Movie: Record Cutscene"
  requiredInputs :=
    [port "tas_movie_tree" "state.tas_movie_tree_id" "state_tas_movie_tree"]
  possibleOutputs :=
    [tasMovieCutsceneAttempt, tasMovieTree, tasMoviePairedSavestate,
      tasMovieValidationAttempt, tasMovieValidatedCheckpoint]
  internalStepKinds := [text "tasmovie.cutscene"]
  stepTemplates := singleStep "tasmovie.cutscene"

/-- `SeedProbeUnit`. -/
def seedProbe : WorkflowUnitDefinition where
  unitKind := text "seed_probe"
  displayName := text "SeedProbe"
  authoredRefs := [⟨text "seed_probe_spec", true⟩]
  requiredInputs :=
    [port "entry_savestate" "state.movie_inactive_savestate_id" "state.savestate"]
  possibleOutputs := [seedProbeRun]
  launchArguments :=
    [integerArgument "samples_per_axis" "Samples per axis" false (some "5") 1 64]
  internalStepKinds :=
    [text "seedprobe.survey", text "seedprobe.search", text "seedprobe.confirm"]
  stepTemplates := [⟨text "Survey", text "seedprobe.survey", 1, 1⟩]

def battleContextUnit : WorkflowUnitDefinition where
  unitKind := text "battle.context"
  displayName := text "Battle Context"
  requiredInputs :=
    [port "entry_savestate" "state.movie_inactive_savestate_id" "state.savestate"]
  possibleOutputs := [battleContext]
  internalStepKinds := [text "battle.context"]
  stepTemplates := singleStep "battle.context"

def battle : WorkflowUnitDefinition where
  unitKind := text "battle"
  displayName := text "Battle"
  authoredRefs := [⟨text "authoring.battle_plan", true⟩]
  requiredInputs :=
    [port "seed_probe_run" "analysis.seed_probe_run" "sp_probe_run",
      port "battle_context" "analysis_battle.battle_context_id" "ab_battle_context",
      port "tas_root_annotation" "analysis.tas_movie_input_epoch_annotation_attempt_id"
        "tmv_input_epoch_annotation_attempt" false]
  possibleOutputs :=
    [battleSet, battleCompletion, port "battle_manual_followup" "analysis.battle_manual_followup_id"
        "manual_followup"]
  launchArguments :=
    [choiceArgument "continuation_mode" "Continuation" true none
        [⟨text "manual_selection", text "Manual selection after each wave"⟩,
          ⟨text "automatic_best_per_ending_rng",
            text <| "Automatically continue the best candidate for each " ++ "ending RNG"⟩],
      booleanArgument "continue_automatic_exploration_after_victory"
        "Continue automatic exploration after Victory" false,
      integerArgument "fake_attack_min" "Minimum fake attacks" false (some "0") 0 (2 ^ 31 - 1),
      integerArgument "fake_attack_max" "Maximum fake attacks" false (some "0") 0 (2 ^ 31 - 1)]
  launchArgumentConstraints :=
    [⟨text "fake_attack_min", text "fake_attack_max",
      text "minimum fake attacks must not exceed maximum fake attacks"⟩]
  internalStepKinds :=
    [text "battle.start", text "battle.single_turn", text "battle.completion"]
  stepTemplates := singleStep "battle.start"

def battleCompletionUnit : WorkflowUnitDefinition where
  unitKind := text "battle_completion"
  displayName := text "Battle Completion"
  hidden := true
  requiredInputs :=
    [port "victory_turn_job" "analysis_battle.battle_turn_job" "analysis_battle.turn_job"]
  possibleOutputs := [battleCompletion]
  internalStepKinds := [text "battle.completion"]
  stepTemplates := singleStep "battle.completion"

def battleRecordingUnit : WorkflowUnitDefinition where
  unitKind := text "battle_recording"
  displayName := text "Battle Recording"
  hidden := true
  requiredInputs :=
    [port "completion" "analysis_battle.battle_completion" "analysis_battle.battle_completion"]
  possibleOutputs := [battleRecording, tasMovieValidationAttempt, tasMovieValidatedCheckpoint]
  internalStepKinds := [text "battle.record"]
  stepTemplates := singleStep "battle.record"

def battleReplayUnit : WorkflowUnitDefinition where
  unitKind := text "battle_replay"
  displayName := text "Battle Replay"
  hidden := true
  requiredInputs :=
    [port "completion" "analysis_battle.battle_completion" "analysis_battle.battle_completion"]
  possibleOutputs := [battleReplay]
  internalStepKinds := [text "battle.replay"]
  stepTemplates := singleStep "battle.replay"

def navigationContextProbe : WorkflowUnitDefinition where
  unitKind := text "navigation.context_probe"
  displayName := text "Navigation Context Probe"
  hidden := true
  requiredInputs :=
    [port "entry_savestate" "state.movie_inactive_savestate_id" "state.savestate"]
  possibleOutputs :=
    [port "navigation_context" "state_artifact.navigation_context_id" "state_artifact"]
  internalStepKinds := [text "navigation.context_probe"]
  stepTemplates := singleStep "navigation.context_probe"

def overworldExplorer : WorkflowUnitDefinition where
  unitKind := text "overworld_explorer"
  displayName := text "Overworld Explorer"
  hidden := true
  requiredInputs :=
    [port "entry_savestate" "state.movie_inactive_savestate_id" "state.savestate"]
  possibleOutputs :=
    [port "terminal_savestate" "state.movie_inactive_savestate_id" "state.savestate"]
  internalStepKinds := []
  stepTemplates := singleStep "overworld_explorer"

def dungeonExplorer : WorkflowUnitDefinition where
  unitKind := text "dungeon_explorer"
  displayName := text "Dungeon Explorer"
  hidden := true
  requiredInputs :=
    [port "entry_savestate" "state.movie_inactive_savestate_id" "state.savestate"]
  possibleOutputs :=
    [port "terminal_savestate" "state.movie_inactive_savestate_id" "state.savestate"]
  internalStepKinds := []
  stepTemplates := singleStep "dungeon_explorer"

/-- The units in the order in which they are registered. -/
def all : List WorkflowUnitDefinition :=
  [establishRootCursor, validateRoot, validateTree, checkpointSterilize,
    annotate, revise, inputEpochBreakpointDiagnostic, cutscene, seedProbe,
    battleContextUnit, battle, battleCompletionUnit, battleRecordingUnit,
    battleReplayUnit, navigationContextProbe, overworldExplorer, dungeonExplorer]

end DefaultUnits

/-- `BuildDefaultWorkflowUnitRegistry`, which ignores the errors of its
registrations. -/
def buildDefaultWorkflowUnitRegistry : WorkflowUnitRegistry WorkflowOutputs.forStepKind :=
  empty.registerAll DefaultUnits.all

variable {unit : WorkflowUnitDefinition}

theorem mem_all_of_find {unitKind : ByteString}
    (found : buildDefaultWorkflowUnitRegistry.find unitKind = some unit) :
    unit ∈ DefaultUnits.all := by
  obtain ⟨added, units, sublist⟩ :=
    units_registerAll (.empty : WorkflowUnitRegistry WorkflowOutputs.forStepKind) DefaultUnits.all
  have member := mem_of_find found
  unfold buildDefaultWorkflowUnitRegistry at member
  rw [units] at member
  exact sublist.subset member

theorem find_default (member : unit ∈ DefaultUnits.all)
    (valid : unitError WorkflowOutputs.forStepKind unit = none) (launch : launchError unit = none) :
    buildDefaultWorkflowUnitRegistry.find unit.unitKind = some unit := by
  have distinct : (DefaultUnits.all.map (·.unitKind)).Nodup := by decide +kernel
  have agreed : ∀ unit ∈ DefaultUnits.all, presentationError DefaultUnits.all unit = none := by
    decide +kernel
  exact find_of_mem
    (mem_registerAll distinct member valid (agreed unit member) launch List.not_mem_nil)

/-- The keys of the inputs and arguments of a unit have no line feed. -/
def WorkflowUnitDefinition.KeysOnOneLine (unit : WorkflowUnitDefinition) : Prop :=
  (∀ input ∈ unit.requiredInputs, 10 ∉ input.key) ∧
    ∀ argument ∈ unit.launchArguments, 10 ∉ argument.key

instance : DecidablePred WorkflowUnitDefinition.KeysOnOneLine :=
  fun _ => inferInstanceAs (Decidable ((∀ _ ∈ _, _) ∧ ∀ _ ∈ _, _))

theorem keysOnOneLine_of_find {unitKind : ByteString}
    (found : buildDefaultWorkflowUnitRegistry.find unitKind = some unit) : unit.KeysOnOneLine := by
  have checked : ∀ unit ∈ DefaultUnits.all, unit.KeysOnOneLine := by decide +kernel
  exact checked unit (mem_all_of_find found)

end Savor.Workflow
