import HivePoint.Spec.UsageQueue

/-!
# What becomes of a processed job

A worker that has lost its lease goes on with the batch it has read, next to the worker that
has taken the lease over. Its transaction cannot record a job twice, but if it fails for another
reason the worker puts the job off, with the attempts that it read, whatever has become of it.

## Key results

- `failedJob_kept_iff`: what putting a job off leaves as it was.
- `processed_isTerminal`: no run changes a processed job, or turns attempts back, in which jobs
  are put off only while they are open, by a worker that has counted the attempts.
- `not_processed_isTerminal`: a late failure puts a processed job off.
-/

namespace HivePoint

open Prog Pool

/-! ### What a statement leaves of a job -/

/-- What a run should keep of a job. -/
structure JobKept (row row' : UsageIngestJob) : Prop where
  status : row.status = .processed → row'.status = .processed
  processedAt : row.processedAt.isSome → row'.processedAt.isSome
  attempts : row.attempts ≤ row'.attempts

/-- A job is kept as it is. -/
theorem JobKept.refl (row : UsageIngestJob) : JobKept row row := ⟨id, id, Nat.le_refl _⟩

/-- A job kept twice is kept. -/
theorem JobKept.trans {row₁ row₂ row₃ : UsageIngestJob} (h : JobKept row₁ row₂)
    (h' : JobKept row₂ row₃) : JobKept row₁ row₃ where
  status hrow := h'.status (h.status hrow)
  processedAt hrow := h'.processedAt (h.processedAt hrow)
  attempts := Nat.le_trans h.attempts h'.attempts

/-- A job that is marked keeps what it should. -/
private theorem processedJob_kept (processedAt : Int) (row : UsageIngestJob) :
    JobKept row (processedJob processedAt row) :=
  ⟨fun _ => rfl, fun _ => rfl, Nat.le_refl _⟩

/-- A job may be put off while it is open, by a worker that has counted its attempts. -/
theorem failedJob_kept_iff (attempts : Nat) (availableAt : Int) (error : Err)
    (row : UsageIngestJob) :
    JobKept row (failedJob attempts availableAt error row) ↔
      row.status ≠ .processed ∧ row.attempts ≤ attempts := by
  constructor
  · intro h
    exact ⟨fun hrow => (nomatch h.status hrow), h.attempts⟩
  · rintro ⟨hstatus, hattempts⟩
    exact ⟨fun hrow => absurd hrow hstatus, id, hattempts⟩

/-- A processed job says when it was. -/
def World.JobsDated (w : World) : Prop :=
  ∀ row ∈ w.usageIngestJobs.rows, row.status = .processed → row.processedAt.isSome

/-- No job is lost, and all keep what they should. -/
structure JobsKept (w w' : World) : Prop where
  rows : w.usageIngestJobs.Evolves w'.usageIngestJobs fun _ row row' => JobKept row row'
  dated : w.JobsDated → w'.JobsDated

/-- With the jobs untouched they are kept. -/
private theorem jobsKept_of_jobs {w w' : World} (h : w'.usageIngestJobs = w.usageIngestJobs) :
    JobsKept w w' := by
  constructor
  · rw [h]
    exact .refl _
  · intro hw
    unfold World.JobsDated
    rw [h]
    exact hw

/-- Doing nothing keeps the jobs. -/
theorem JobsKept.refl (w : World) : JobsKept w w := jobsKept_of_jobs rfl

/-- Jobs kept twice are kept. -/
theorem JobsKept.trans {w₁ w₂ w₃ : World} (h : JobsKept w₁ w₂) (h' : JobsKept w₂ w₃) :
    JobsKept w₁ w₃ :=
  ⟨h.rows.trans h'.rows fun _ _ _ _ => JobKept.trans, fun hw => h'.dated (h.dated hw)⟩

/-- A job that stands still stands after the step, and is kept. -/
theorem JobsKept.find? {w w' : World} (h : JobsKept w w') {id : Id} {row : UsageIngestJob}
    (hrow : w.usageIngestJobs.find? id = some row) :
    ∃ row', w'.usageIngestJobs.find? id = some row' ∧ JobKept row row' := by
  obtain ⟨row', hrow', rfl | hkept⟩ := h.rows id row hrow
  · exact ⟨_, hrow', .refl _⟩
  · exact ⟨row', hrow', hkept⟩

/-- Rewriting a job, if what is found there keeps what it should. -/
private theorem jobsKept_updateUsageIngestJob {w w' : World} {id : Id}
    {data : UsageIngestJob → UsageIngestJob} (h : w.updateUsageIngestJob id data = .ok w')
    (hid : ∀ row, (data row).id = row.id)
    (hdated : ∀ row, (data row).status = .processed → (data row).processedAt.isSome)
    (hkept : ∀ row, w.usageIngestJobs.find? id = some row → JobKept row (data row)) :
    JobsKept w w' := by
  obtain ⟨t, ht, rfl⟩ := updateUsageIngestJob_eq_ok h
  constructor
  · refine (Table.evolves_update? ht hid).mono ?_
    rintro k row row' hrow ⟨rfl, rfl⟩
    exact hkept row hrow
  · intro hw row hrow
    obtain ⟨old, hold, rfl⟩ := (Table.mem_update? ht).mp hrow
    split
    · exact hdated old
    · exact hw old hold

/-- A new job leaves the others as they are. -/
private theorem jobsKept_createUsageIngestJob {w w' : World} {row : UsageIngestJob}
    (hstatus : row.status = .pending) (h : w.createUsageIngestJob row = .ok w') :
    JobsKept w w' := by
  obtain ⟨t, ht, rfl⟩ := createUsageIngestJob_eq_ok h
  constructor
  · exact Table.evolves_insert? ht
  · intro hw row' hrow' hprocessed
    rcases (Table.mem_insert? ht).mp hrow' with hold | rfl
    · exact hw row' hold hprocessed
    · exact nomatch hstatus.symm.trans hprocessed

/-! ### What the calls send -/

/-- Recording usage inside a transaction keeps the jobs. -/
private theorem txKeeps_recordUsageInTransaction (input : UsageRecordWriteInput) :
    TxKeeps JobsKept (recordUsageInTransaction input : TxM Unit) := by
  have hcommand : ∀ {f : Env → World → Except Err World},
      (∀ env w w', f env w = .ok w' → w'.usageIngestJobs = w.usageIngestJobs) →
      TxKeeps JobsKept (DbClient.command f : TxM Unit) := fun hf =>
    txKeeps_command JobsKept.refl (fun _ _ _ => JobsKept.trans)
      fun env w w' h => jobsKept_of_jobs (hf env w w' h)
  refine txKeeps_bind (txKeeps_lift (eachStep_clock JobsKept.refl)) fun aggregatedAt => ?_
  refine txKeeps_bind (hcommand fun env w w' h => ?_) fun _ =>
    txKeeps_bind (hcommand fun env w w' h => ?_) fun _ => hcommand fun env w w' h => ?_
  · obtain ⟨-, t, -, rfl⟩ := createUsageRecord_eq_ok h
    rfl
  · obtain ⟨-, t, -, rfl⟩ := upsertDailyAggregate_eq_ok h
    rfl
  · obtain ⟨-, t, -, rfl⟩ := upsertEndpointDailyAggregate_eq_ok h
    rfl

/-- Marking a job as processed keeps the jobs. -/
private theorem jobsKept_markProcessed {w w' : World} {jobId : Id} {processedAt : Int}
    (h : w.updateUsageIngestJob jobId (processedJob processedAt) = .ok w') : JobsKept w w' :=
  jobsKept_updateUsageIngestJob h (fun _ => rfl) (fun _ _ => rfl)
    fun row _ => processedJob_kept processedAt row

/-- The statement of `markJobFailed` by which a worker puts a job off whose `attempts` it has
    read. -/
def failureWrite (jobId : Id) (attempts : Nat) (availableAt : Int) (error : Err) (env : Env)
    (w : World) : World :=
  ((DbClient.command (m := Op) fun _ w =>
    w.updateUsageIngestJob jobId (failedJob (attempts + 1) availableAt error)).exec env w).2

/-- The statement keeps what it should of every job, or puts one off. -/
def KeepsOrPutsOff (act : Env → World → World) : Prop :=
  (∀ env w, JobsKept w (act env w)) ∨
    ∃ jobId attempts availableAt error, act = failureWrite jobId attempts availableAt error

/-- A worker keeps the jobs, or puts one off. -/
private theorem eachAct_processJob (tx : TxId) (job : QueueJob) :
    (processJob tx job).EachAct (fun _ => True) KeepsOrPutsOff := by
  have hkept : ∀ {α : Type} {p : Op α}, p.EachStep JobsKept →
      p.EachAct (fun _ => True) KeepsOrPutsOff := fun hp => hp.eachAct fun _ => .inl
  have hbody : TxKeeps JobsKept (recordJob job) := by
    refine txKeeps_bind (txKeeps_recordUsageInTransaction _) fun _ => ?_
    refine txKeeps_bind (txKeeps_lift (eachStep_clock JobsKept.refl)) fun processedAt => ?_
    exact txKeeps_command JobsKept.refl (fun _ _ _ => JobsKept.trans)
      fun _ _ _ h => jobsKept_markProcessed h
  refine eachAct_tryCatch (hkept (eachStep_transaction JobsKept.refl (fun _ _ _ => JobsKept.trans)
    hbody fun _ => jobsKept_of_jobs rfl)) fun error => ?_
  split
  · -- the record is there already
    exact hkept (eachStep_bind (eachStep_clock JobsKept.refl) fun processedAt =>
      eachStep_mutate JobsKept.refl fun _ _ _ _ _ h => jobsKept_markProcessed (except_map_eq_ok h))
  · refine eachAct_bind ?_ fun _ => eachAct_throw _
    refine eachAct_bind (hkept (eachStep_clock JobsKept.refl)) fun now => ?_
    exact eachAct_stmt (.inr ⟨job.id, job.attempts, _, error, rfl⟩)

/-- Validating an input keeps the jobs. -/
private theorem jobsKept_validateUsageRecordInput (input : RecordUsageInput) :
    (validateUsageRecordInput input).EachStep JobsKept := by
  refine eachStep_bind (eachStep_read JobsKept.refl _) fun found => ?_
  cases found with
  | none => trivial
  | some subscription =>
    dsimp only
    split
    · simp only [pure_bind]
      split <;> trivial
    · refine eachStep_bind (eachStep_clock JobsKept.refl) fun occurredAt => ?_
      split <;> trivial

/-- An ingestion keeps the jobs. -/
private theorem jobsKept_ingestUsage (config : AppConfig) (tx : TxId) (input : RecordUsageInput)
    (providedSecret : Option String) :
    (ingestUsage config tx input providedSecret).EachStep JobsKept := by
  rw [ingestUsage, assertUsageSecret]
  split
  · trivial
  · show (if (!config.usageIngestQueueEnabled) = true then createUsageRecord tx input
      else enqueueUsageRecord input).EachStep JobsKept
    split
    · refine eachStep_bind (jobsKept_validateUsageRecordInput input) fun record => ?_
      exact eachStep_transaction JobsKept.refl (fun _ _ _ => JobsKept.trans)
        (txKeeps_recordUsageInTransaction record) fun _ => jobsKept_of_jobs rfl
    · refine eachStep_bind (jobsKept_validateUsageRecordInput input) fun record => ?_
      refine eachStep_bind (eachStep_clock JobsKept.refl) fun availableAt => ?_
      exact eachStep_mutate JobsKept.refl fun _ _ _ _ _ h =>
        jobsKept_createUsageIngestJob rfl (except_map_eq_ok h)

/-- Of all the statements of a call only `markJobFailed` can spoil a job. -/
private theorem eachAct_usageCall (toISOString : Int → String) (config : AppConfig) (tx : TxId)
    (call : UsageCall) :
    (call.op toISOString config tx).EachAct (fun _ => True) KeepsOrPutsOff := by
  cases call with
  | ingest input providedSecret =>
    exact (jobsKept_ingestUsage config tx input providedSecret).eachAct fun _ => .inl
  | drain =>
    exact BatchJob.eachAct_cycle (.inl fun _ w => .refl w) fun job => eachAct_processJob tx job
  | collect =>
    refine ((collectStep_processDueOverageCollection toISOString config World.empty).eachStep
      fun _ w w' hstep => ?_).eachAct fun _ => .inl
    obtain ⟨_, _, _, _, rfl⟩ := hstep.rows
    exact jobsKept_of_jobs rfl

/-! ### Every run -/

/-- The step puts a job off that the worker has read with `attempts`. -/
def IsPuttingOff (P : UsageCalls) (c : Choice TxId Env Err) (jobId : Id) (attempts : Nat) : Prop :=
  ∃ tx env availableAt error nxt, c = .run tx env ∧ env.dbError = none ∧
    P.threads tx = .step (failureWrite jobId attempts availableAt error) nxt

/-- If the step puts a job off, the job is open, and at most this attempt is new to the worker. -/
def PutsOffOpenJobs (P : UsageCalls) (c : Choice TxId Env Err) : Prop :=
  ∀ jobId attempts, IsPuttingOff P c jobId attempts →
    ∀ row, P.state.usageIngestJobs.find? jobId = some row →
      row.status ≠ .processed ∧ row.attempts ≤ attempts + 1

section Runs

variable {toISOString : Int → String} {config : AppConfig} {calls : TxId → UsageCall} {w₀ : World}
  {P P' : UsageCalls}

/-- A step in which only open jobs are put off keeps the jobs. -/
private theorem jobsKept_next (hacts : ∀ tx, (P.threads tx).EachAct (fun _ => True) KeepsOrPutsOff)
    {c : Choice TxId Env Err} (hok : PutsOffOpenJobs P c)
    (hnext : P.next readCommitted c = some P') :
    JobsKept P.state P'.state := by
  cases c with
  | stop tx e =>
    obtain ⟨-, rfl⟩ := next_stop_cases hnext
    exact jobsKept_of_jobs rfl
  | run tx env =>
    obtain ⟨act, nxt, hthread, hact, hstate⟩ := next_eachAct (hacts tx) hnext
    rw [hstate]
    -- a kept step needs no condition; a put-off job was open when its failure was written
    rcases hact with hkept | ⟨jobId, attempts, availableAt, error, rfl⟩
    · exact hkept env P.state
    · unfold failureWrite
      cases hdb : env.dbError with
      | some m =>
        simp only [DbClient.command, mutate, exec_stmt, hdb]
        exact .refl _
      | none =>
        cases hwrite : P.state.updateUsageIngestJob jobId
            (failedJob (attempts + 1) availableAt error) with
        | error e =>
          simp only [DbClient.command, mutate, exec_stmt, hdb, hwrite, Except.map]
          exact .refl _
        | ok w' =>
          simp only [DbClient.command, mutate, exec_stmt, hdb, hwrite, Except.map]
          refine jobsKept_updateUsageIngestJob hwrite (fun _ => rfl)
            (fun _ hprocessed => by cases hprocessed) fun row hrow => ?_
          -- the choice puts this job off, so the condition on runs speaks about its row
          have hputs : IsPuttingOff P (.run tx env) jobId attempts :=
            ⟨tx, env, availableAt, error, nxt, rfl, hdb, hthread⟩
          exact (failedJob_kept_iff (attempts + 1) availableAt error row).mpr
            (hok jobId attempts hputs row hrow)

/-- Every worker's rest still keeps the jobs or puts one off. -/
private theorem eachAct_of_reach {ok : UsageCalls → Choice TxId Env Err → Prop} {start : UsageCalls}
    (hstart : ∀ tx, (start.threads tx).EachAct (fun _ => True) KeepsOrPutsOff)
    (hreach : Reach readCommitted ok start P) (tx : TxId) :
    (P.threads tx).EachAct (fun _ => True) KeepsOrPutsOff :=
  (hreach.eachAct (J := fun _ => True) (A := fun _ => KeepsOrPutsOff) (fun _ _ _ _ _ _ => trivial)
    (fun _ _ _ => trivial) trivial hstart).2 tx

/-- A run in which only open jobs are put off keeps the jobs. -/
private theorem jobsKept_of_reach {start : UsageCalls}
    (hstart : ∀ tx, (start.threads tx).EachAct (fun _ => True) KeepsOrPutsOff)
    (hreach : Reach readCommitted PutsOffOpenJobs start P) : JobsKept start.state P.state := by
  induction hreach with
  | init => exact .refl _
  | step hreach hok hnext ih =>
    exact ih.trans (jobsKept_next (eachAct_of_reach hstart hreach) hok hnext)

/-- As long as jobs are put off only while they are open, by workers that have counted their
    attempts: a processed job stays processed, and dated, and no counter of attempts decreases. -/
theorem processed_isTerminal
    (hreach : Reach readCommitted PutsOffOpenJobs (startCalls toISOString config calls w₀) P)
    (hlater : Reach readCommitted PutsOffOpenJobs P P') {id : Id} {row : UsageIngestJob}
    (hrow : P.state.usageIngestJobs.find? id = some row) :
    ∃ row', P'.state.usageIngestJobs.find? id = some row' ∧ row.attempts ≤ row'.attempts ∧
      (row.status = .processed → row'.status = .processed ∧
        (w₀.JobsDated ∨ row.processedAt.isSome → row'.processedAt.isSome)) := by
  have hstart : ∀ tx, ((startCalls toISOString config calls w₀).threads tx).EachAct (fun _ => True)
      KeepsOrPutsOff := fun tx => eachAct_usageCall toISOString config tx (calls tx)
  have hbefore := jobsKept_of_reach hstart hreach
  have hafter := jobsKept_of_reach (eachAct_of_reach hstart hreach) hlater
  obtain ⟨row', hrow', hkept⟩ := hafter.find? hrow
  refine ⟨row', hrow', hkept.attempts, fun hprocessed => ⟨hkept.status hprocessed, ?_⟩⟩
  rintro (hdated | hdated)
  · exact hkept.processedAt (hbefore.dated hdated row (Table.mem_of_find? hrow) hprocessed)
  · exact hkept.processedAt hdated

end Runs

/-! ### A late failure -/

/-- The database refuses the statement. -/
def refusingEnv (now : Int) (uuid : Id) : Env :=
  { Env.available now uuid with dbError := some "connection closed" }

def drainingWorkers : UsageCalls := startCalls toString queueConfig (fun _ => .drain) queuedWorld

/-- Both workers select the job, and worker 0 records it. -/
def recordedByFirst : List (Choice TxId Env Err) :=
  [.run 0 (.available 60 "r0"), .run 1 (.available 60 "r1")] ++
    List.replicate 7 (.run 0 (.available 60 "r0"))

/-- The transaction of worker 1 is refused, and the worker puts the job off. -/
def refusedToSecond : List (Choice TxId Env Err) :=
  [.run 1 (.available 60 "r1"), .run 1 (refusingEnv 60 "r1")] ++
    List.replicate 3 (.run 1 (.available 60 "r1"))

/-- Worker 1 puts the processed job off. -/
theorem not_processed_isTerminal :
    ¬∀ P P', Reach readCommitted (fun _ _ => True) drainingWorkers P →
      Reach readCommitted (fun _ _ => True) P P' →
        ∀ id row, P.state.usageIngestJobs.find? id = some row →
          ∃ row', P'.state.usageIngestJobs.find? id = some row' ∧ row.attempts ≤ row'.attempts ∧
            (row.status = .processed → row'.status = .processed ∧
              (queuedWorld.JobsDated ∨ row.processedAt.isSome → row'.processedAt.isSome)) := by
  intro h
  -- the job reads PROCESSED after the first worker and FAILED after the second
  have hfacts : ((runSchedule readCommitted recordedByFirst drainingWorkers).bind fun P =>
      (runSchedule readCommitted refusedToSecond P).map fun P' =>
        ((P.state.usageIngestJobs.find? "job").map (·.status),
          (P'.state.usageIngestJobs.find? "job").map (·.status))) =
      some (some .processed, some .failed) := by
    decide +kernel
  obtain ⟨P, hP, hlater⟩ := Option.bind_eq_some_iff.mp hfacts
  obtain ⟨P', hP', hfacts⟩ := Option.map_eq_some_iff.mp hlater
  obtain ⟨hbefore, hafter⟩ := Prod.mk.inj hfacts
  obtain ⟨row, hrow, hprocessed⟩ := Option.map_eq_some_iff.mp hbefore
  obtain ⟨row', hrow', -, hstatus⟩ := h P P' (reach_runSchedule _ .init hP)
    (reach_runSchedule _ .init hP') "job" row hrow
  rw [hrow'] at hafter
  exact nomatch (hstatus hprocessed).1.symm.trans (Option.some.inj hafter)

/-- A worker dies, or all jobs are open after at most one attempt. -/
def openJobs (P : UsageCalls) : Choice TxId Env Err → Bool
  | .stop _ _ => true
  | .run _ _ =>
    P.state.usageIngestJobs.rows.all fun row => row.status ≠ .processed && row.attempts ≤ 1

/-- The condition can be checked on a schedule. -/
private theorem putsOffOpenJobs_of_openJobs {P : UsageCalls} {c : Choice TxId Env Err}
    (h : openJobs P c = true) : PutsOffOpenJobs P c := by
  rintro jobId attempts ⟨tx, env, -, -, -, rfl, -, -⟩ row hrow
  have hopen := List.all_eq_true.mp h row (Table.mem_of_find? hrow)
  simp only [Bool.and_eq_true, decide_eq_true_eq] at hopen
  exact ⟨hopen.1, by omega⟩

/-- Both workers select the job; worker 1 puts it off before worker 0 records it. -/
def refusedThenRecorded : List (Choice TxId Env Err) :=
  [.run 0 (.available 60 "r0"), .run 1 (.available 60 "r1")] ++ refusedToSecond ++
    List.replicate 7 (.run 0 (.available 60 "r0"))

/-- A refused job that is recorded at its second try stays recorded. -/
theorem processed_isTerminal_recorded :
    ∃ P P', runIf readCommitted openJobs refusedThenRecorded drainingWorkers = some P ∧
      runIf readCommitted openJobs [.stop 2 (.database "")] P = some P' ∧
        ∃ row, P'.state.usageIngestJobs.find? "job" = some row ∧ row.status = .processed ∧
          row.processedAt.isSome ∧ 1 ≤ row.attempts := by
  have hfacts : ((runIf readCommitted openJobs refusedThenRecorded drainingWorkers).bind fun P =>
      (runIf readCommitted openJobs [.stop 2 (.database "")] P).map fun _ =>
        (P.state.usageIngestJobs.find? "job").map fun row => (row.status, row.attempts)) =
      some (some (.processed, 1)) := by
    decide +kernel
  obtain ⟨P, hP, hlater⟩ := Option.bind_eq_some_iff.mp hfacts
  obtain ⟨P', hP', hfacts⟩ := Option.map_eq_some_iff.mp hlater
  obtain ⟨row, hrow, hrecorded⟩ := Option.map_eq_some_iff.mp hfacts
  obtain ⟨hprocessed, hattempts⟩ := Prod.mk.inj hrecorded
  -- the job waits in the queue, so none is processed without its time
  have hdated : queuedWorld.JobsDated := by
    intro job hjob h
    obtain rfl := List.mem_singleton.mp hjob
    exact nomatch h
  obtain ⟨row', hrow', hle, hkept⟩ := processed_isTerminal
    (reach_runIf _ (fun _ _ _ => putsOffOpenJobs_of_openJobs) .init hP)
    (reach_runIf _ (fun _ _ _ => putsOffOpenJobs_of_openJobs) .init hP') hrow
  obtain ⟨hstatus, hset⟩ := hkept hprocessed
  exact ⟨P, P', hP, hP', row', hrow', hstatus, hset (.inl hdated), hattempts ▸ hle⟩

end HivePoint
