import RateGuard.Supervisor.Release

/-!
# Accounting of a mission

However a mission ends, it accounts for all of its stages. The triples of this module say what each
part of a run records, and what it leaves of the evidence on which the decision rests.
-/

open DecimalFloat CalendarDate TopologicalSort EarlyExit

namespace RateGuard

/-- Every stage has its outcome, in order. -/
def AssuranceRecord.Accounted (record : AssuranceRecord) : Prop :=
  record.report.stageOutcomes.map (·.stage) = missionStageOrder

/-- What the decision reads of an investigation. -/
structure Digest where
  /-- Probes. -/
  evidence : ProbeEvidence
  /-- Whether the validation succeeded. -/
  validated : Bool
  /-- Whether the experiments succeeded. -/
  probed : Bool
  /-- Whether the semantic analysis succeeded or did not run. -/
  compared : Bool
  /-- Exposure of the portfolio. -/
  exposure : Option Decimal

/-- What the decision reads of a state. -/
def Investigation.digest (state : Investigation) : Digest where
  evidence := state.evidence
  validated := state.result.validation.status = .succeeded
  probed := state.result.experiments.status = .succeeded
  compared := state.result.semanticAnalysis.status = .succeeded ||
    state.result.semanticAnalysis.status = .notRun
  exposure := state.result.blastRadius.data

/-- The digest before anything runs. -/
def Digest.begun : Digest := ⟨.empty, false, false, true, none⟩

/-- Outcomes of an investigation in which some stages are done: they are recorded, and any recorded
stage was completed or does not apply unless there is a doubt. -/
structure Ledger (done : List MissionStage) (doubt : Prop) (recorder : StageRecorder) : Prop where
  /-- The stages are recorded. -/
  recorded : ∀ stage ∈ done, recorder.outcomeFor stage ≠ none
  /-- Without a doubt no stage went wrong. -/
  clear : ∀ stage outcome, recorder.outcomeFor stage = some outcome →
    outcome.status.Clear ∨ doubt

/-- An undecided investigation in which some stages are done. -/
structure Standing (done : List MissionStage) (doubt : Prop) (digest : Digest)
    (state : Investigation) : Prop where
  /-- The outcomes of the stages. -/
  ledger : Ledger done doubt state.recorder
  /-- What the decision reads. -/
  digest : state.digest = digest
  /-- Nothing is decided. -/
  undecided : state.result.releaseDecision = none

/-- Exceptions that a mission does not make itself, but for a plan without a target. -/
def MissionSetting.Foreign (setting : MissionSetting) : MissionFault → Prop
  | .engine _ | .external _ => True
  | .missingPlan => setting.target.rightPkg = none ∧ setting.target.targetConnector = none
  | .missingReason _ | .noElement => False

/-- A record of a mission that ended without a decision. -/
structure AssuranceRecord.Open (record : AssuranceRecord) : Prop where
  /-- The stages are accounted for. -/
  accounted : record.Accounted
  /-- Nothing is decided. -/
  undecided : record.report.releaseDecision = none
  /-- The mission did not complete. -/
  incomplete : record.report.overallStatus ≠ .completed

/-- An early end: a record without a decision, or an exception. -/
def MissionSetting.Settled (setting : MissionSetting) : MissionEnding → Prop
  | .finished record => record.Open
  | .raised fault => setting.Foreign fault

/-- Joined texts are empty only if there is nothing to join. -/
theorem intercalate_ne {separator : String} {texts : List String} (given : texts ≠ [])
    (each : ∀ text ∈ texts, text ≠ "") : separator.intercalate texts ≠ "" := by
  cases texts with
  | nil => exact absurd rfl given
  | cons first rest =>
    have solid := each first List.mem_cons_self
    cases rest with
    | nil =>
      rw [String.intercalate_singleton]
      exact solid
    | cons second others =>
      rw [String.intercalate_cons_cons]
      intro empty
      exact solid (String.append_eq_empty_iff.mp (String.append_eq_empty_iff.mp empty).1).1

section Parts

variable {setting : MissionSetting} {done : List MissionStage} {doubt : Prop} {digest : Digest}

/-- The outcomes behind a backfill account for all stages. -/
theorem backfill_accounted (recorder : StageRecorder) (reason : String) (given : reason ≠ "") :
    (recorder.backfill reason given).outcomes.map (·.stage) = missionStageOrder :=
  StageRecorder.outcomes_stages fun stage => by
    rw [StageRecorder.outcomeFor_backfill]
    exact Option.some_ne_none _

/-- The outcomes with one more. -/
theorem Ledger.record {recorder : StageRecorder} (ledger : Ledger done doubt recorder)
    (outcome : StageOutcome) {further : Prop} (grows : doubt → further)
    (justified : outcome.status.Clear ∨ further) :
    Ledger (outcome.stage :: done) further (recorder.record outcome) where
  recorded other member := by
    rw [StageRecorder.outcomeFor_record]
    by_cases own : other = outcome.stage
    · rw [if_pos own]
      exact Option.some_ne_none _
    · rw [if_neg own]
      exact ledger.recorded other ((List.mem_cons.mp member).resolve_left own)
  clear other found same := by
    rw [StageRecorder.outcomeFor_record] at same
    by_cases own : other = outcome.stage
    · rw [if_pos own] at same
      cases same
      exact justified
    · rw [if_neg own] at same
      exact (ledger.clear other found same).imp_right grows

/-- An outcome with its reason is one. -/
theorem recordStage_explained (stage : MissionStage) {status : StageStatus}
    {reason : Option String}
    (explained : status ≠ .completed → reason ≠ none ∧ reason ≠ some "") :
    recordStage stage status reason = modify fun state =>
      { state with recorder := state.recorder.record ⟨stage, status, reason, explained⟩ } := by
  have made : StageOutcome.make stage status reason = some ⟨stage, status, reason, explained⟩ :=
    dif_pos explained
  unfold recordStage
  rw [made]

/-- A completed stage is one. -/
theorem recordStage_completed (stage : MissionStage) :
    recordStage stage .completed none = modify fun state =>
      { state with recorder := state.recorder.record (.completed stage) } :=
  recordStage_explained stage fun incomplete => absurd rfl incomplete

/-- An outcome with its reason is recorded. -/
theorem Standing.record {status : StageStatus} {reason : Option String} {further : Prop}
    (stage : MissionStage)
    (explained : status ≠ .completed → reason ≠ none ∧ reason ≠ some "")
    (grows : doubt → further) (justified : status.Clear ∨ further) :
    Triple (Standing done doubt digest) (recordStage stage status reason)
      (fun _ => Standing (stage :: done) further digest) setting.Settled := by
  rw [recordStage_explained stage explained]
  exact Triple.modify fun state standing =>
    ⟨standing.ledger.record ⟨stage, status, reason, explained⟩ grows justified, standing.digest,
      standing.undecided⟩

/-- A stage is completed. -/
theorem Standing.completed (stage : MissionStage) :
    Triple (Standing done doubt digest) (recordStage stage .completed none)
      (fun _ => Standing (stage :: done) doubt digest) setting.Settled :=
  Standing.record stage (fun same => absurd rfl same) id (.inl (.inl rfl))

/-- A stage does not apply. -/
theorem Standing.skipped (stage : MissionStage) {reason : String} (given : reason ≠ "") :
    Triple (Standing done doubt digest) (recordStage stage .notApplicable (some reason))
      (fun _ => Standing (stage :: done) doubt digest) setting.Settled :=
  Standing.record stage (fun _ => reason_explains given) id (.inl (.inr rfl))

/-- Stages are completed. -/
theorem Standing.allCompleted (stages : List MissionStage) :
    Triple (Standing done doubt digest) (recordCompleted stages)
      (fun _ => Standing (stages.reverse ++ done) doubt digest) setting.Settled := by
  induction stages generalizing done with
  | nil => exact Triple.pure fun _ standing => standing
  | cons stage rest ih =>
    rw [List.reverse_cons, List.append_assoc]
    exact Triple.bind (Standing.completed stage) fun _ => ih

/-- A cancellation ends the mission accounted for. -/
theorem Standing.checked (cancelled : Nat → Bool) :
    Triple (Standing done doubt digest) (checkCancelled cancelled)
      (fun _ => Standing done doubt digest) setting.Settled := by
  refine Triple.read fun current => Triple.ite (fun found => ?_) fun _ => ?_
  · refine Triple.throw fun state both => ?_
    obtain ⟨rfl, standing⟩ := both
    exact ⟨backfill_accounted state.recorder _ _, standing.undecided, nofun⟩
  · refine Triple.set fun state both => ?_
    obtain ⟨rfl, standing⟩ := both
    exact ⟨standing.ledger, standing.digest, standing.undecided⟩

/-- The result is changed where the decision does not read it, or as the digest says. -/
theorem Standing.changed {change : AssuranceResult → AssuranceResult} {next : Digest}
    (reads : ∀ state : Investigation, state.digest = digest →
      Investigation.digest { state with result := change state.result } = next)
    (undecided : ∀ result, (change result).releaseDecision = result.releaseDecision) :
    Triple (Standing done doubt digest) (setResult change)
      (fun _ => Standing done doubt next) setting.Settled :=
  Triple.modify fun state standing => ⟨standing.ledger,
    reads state standing.digest, (undecided state.result).trans standing.undecided⟩

/-- A decision is appended. -/
theorem Standing.appended (action : DecisionAction) :
    Triple (Standing done doubt digest) (appendAction action)
      (fun _ => Standing done doubt digest) setting.Settled :=
  Triple.modify fun _ standing =>
    ⟨standing.ledger, standing.digest, standing.undecided⟩

/-- Gemini is asked. -/
theorem Standing.asked {α : Type} (config : AgentConfig) (decisionType : String)
    (decide : Nat → GeminiReply α) :
    Triple (Standing done doubt digest) (askGemini config decisionType decide)
      (fun _ => Standing done doubt digest) setting.Settled := by
  refine Triple.read fun current => Triple.ite (fun _ => ?_) fun _ => ?_
  · exact Triple.pure fun _ both => both.2
  · refine Triple.bind (Triple.set fun state both => ?_) fun _ => Triple.pure fun _ kept => kept
    obtain ⟨rfl, standing⟩ := both
    unfold Investigation.asked
    cases decide state.budget.geminiCallCount with
    | error category => exact ⟨standing.ledger, standing.digest, standing.undecided⟩
    | ok decision => exact ⟨standing.ledger, standing.digest, standing.undecided⟩

/-- Gemini is asked for identifiers. -/
theorem Standing.chose {least most : Nat} (config : AgentConfig) (decisionType : String)
    (pool : List String) (decide : Nat → GeminiReply (BoundedIds least most)) :
    Triple (Standing done doubt digest) (chooseIds config decisionType pool decide)
      (fun _ => Standing done doubt digest) setting.Settled :=
  Triple.bind (Standing.asked config decisionType decide) fun _ =>
    Triple.bind (Standing.appended _) fun _ => Triple.pure fun _ standing => standing

/-- An engine is run. -/
theorem Standing.attempted {α : Type} {result : Except MissionFault α}
    (foreign : ∀ fault, result = .error fault → setting.Foreign fault) :
    Triple (Standing done doubt digest) (attempt result)
      (fun value state => result = .ok value ∧ Standing done doubt digest state)
      setting.Settled := by
  cases result with
  | ok value => exact Triple.pure fun _ standing => ⟨rfl, standing⟩
  | error fault => exact Triple.throw fun _ _ => foreign fault rfl

end Parts

end RateGuard
