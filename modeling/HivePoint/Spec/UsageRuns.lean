import HivePoint.Native.UsageIngestWorker
import HivePoint.Spec.OverageWorker
import HivePoint.Spec.Quota

/-!
# The statements of the metering pipelines

Three processes write what a period is billed for: ingestion, the workers that record the
queue, and the overage worker. Any number of their calls run next to each other, each a
program of its own. `UsageStep` says what one statement of such a call does, and
`usageStep_of_next` that every step of every run is one.

The calls only rely on records never being removed.
-/

namespace HivePoint

open Prog Pool

/-! ### The calls -/

inductive UsageCall where
  | ingest (input : RecordUsageInput) (providedSecret : Option String)
  | drain
  | collect

def UsageCall.op (toISOString : Int → String) (config : AppConfig) (tx : TxId) : UsageCall → Op Unit
  | .ingest input providedSecret => ingestUsage config tx input providedSecret
  | .drain => drainQueue config tx
  | .collect => processDueOverageCollection toISOString config

abbrev UsageCalls := Pool TxId World Env Err Unit

/-- The calls before their first statement. -/
def startCalls (toISOString : Int → String) (config : AppConfig) (calls : TxId → UsageCall)
    (w : World) : UsageCalls :=
  ⟨fun tx => (calls tx).op toISOString config tx, w⟩

/-! ### What a statement of any call does -/

/-- The job has been recorded. -/
def World.HasSourceJob (w : World) (jobId : Id) : Prop :=
  ∃ r ∈ w.usageRecords.rows, r.sourceJobId = some jobId

/-- One statement of a call. The writes of a transaction are made by its commit; the commit
    of a job's transaction records the usage and marks the job at once. The snapshot of a
    settlement meets `met`. -/
inductive UsageStep (met : World → Prop) (w w' : World) : Prop where
  | recorded (tx : TxId) (input : UsageRecordWriteInput) (aggregatedAt : Int) (uuid : Id)
    (v : World)
      (h : w.recordUsage input aggregatedAt uuid = .ok v) (hw' : w' = v.releaseLocks tx)
  | processed (tx : TxId) (job : QueueJob) (aggregatedAt : Int) (uuid : Id) (processedAt : Int)
      (v₁ v₂ : World) (hrecord : w.recordUsage (jobRecord job) aggregatedAt uuid = .ok v₁)
      (hjob : v₁.updateUsageIngestJob job.id (processedJob processedAt) = .ok v₂)
      (hw' : w' = v₂.releaseLocks tx)
  | enqueued (row : UsageIngestJob) (hstatus : row.status = .pending)
      (h : w.createUsageIngestJob row = .ok w')
  | marked (jobId : Id) (processedAt : Int) (hrecorded : w.HasSourceJob jobId)
      (h : w.updateUsageIngestJob jobId (processedJob processedAt) = .ok w')
  | failed (jobId : Id) (attempts : Nat) (availableAt : Int) (error : Err)
      (h : w.updateUsageIngestJob jobId (failedJob attempts availableAt error) = .ok w')
  | collected (h : CollectStep met w w')
  | released (tx : TxId) (h : w' = w.releaseLocks tx)

variable {met : World → Prop}

/-- A step may change nothing. -/
theorem UsageStep.refl (w : World) : UsageStep met w w := .collected (.refl w)

/-- What a step's reader met may be told less precisely. -/
theorem UsageStep.mono {met' : World → Prop} {w w' : World} (h : UsageStep met w w')
    (hmet : ∀ seen, met seen → met' seen) : UsageStep met' w w' := by
  cases h with
  | recorded tx input aggregatedAt uuid v h hw' =>
    exact .recorded tx input aggregatedAt uuid v h hw'
  | processed tx job aggregatedAt uuid processedAt v₁ v₂ hrecord hjob hw' =>
    exact .processed tx job aggregatedAt uuid processedAt v₁ v₂ hrecord hjob hw'
  | enqueued row hstatus h => exact .enqueued row hstatus h
  | marked jobId processedAt hrecorded h => exact .marked jobId processedAt hrecorded h
  | failed jobId attempts availableAt error h => exact .failed jobId attempts availableAt error h
  | collected h => exact .collected (h.mono hmet)
  | released tx h => exact .released tx h

/-- `usageIngestJob.update` rewrites one row of one table. -/
theorem updateUsageIngestJob_eq_ok {w w' : World} {id : Id} {data : UsageIngestJob → UsageIngestJob}
    (h : w.updateUsageIngestJob id data = .ok w') :
    ∃ t, w.usageIngestJobs.update? id data = some t ∧ w' = { w with usageIngestJobs := t } := by
  simp only [World.updateUsageIngestJob] at h
  split at h
  · exact nomatch h
  · split at h
    · rename_i t ht
      exact ⟨t, ht, (Except.ok.inj h).symm⟩
    · exact nomatch h

/-- An enqueued job is inserted under a new id. -/
theorem createUsageIngestJob_eq_ok {w w' : World} {row : UsageIngestJob}
    (h : w.createUsageIngestJob row = .ok w') :
    ∃ t, w.usageIngestJobs.insert? row = some t ∧ w' = { w with usageIngestJobs := t } := by
  simp only [World.createUsageIngestJob] at h
  split at h
  · cases h
  · split at h
    · rename_i t ht
      exact ⟨t, ht, (Except.ok.inj h).symm⟩
    · cases h

/-- Records are added at the end, and never removed. -/
def RecordsGrow (w w' : World) : Prop := w.usageRecords.rows <+: w'.usageRecords.rows

/-- Recording usage adds a record behind the others. -/
theorem recordsGrow_recordUsage {w v : World} {input : UsageRecordWriteInput} {aggregatedAt : Int}
    {uuid : Id} (h : w.recordUsage input aggregatedAt uuid = .ok v) : RecordsGrow w v := by
  obtain ⟨records, _, _, hrecords, -, rfl⟩ := recordUsage_eq_ok h
  exact ⟨_, (Table.insert?_rows hrecords).symm⟩

/-- Every step of the usage calls keeps the records that stand. -/
theorem UsageStep.recordsGrow {w w' : World} (h : UsageStep met w w') : RecordsGrow w w' := by
  -- only the two recording steps touch the records, and they append one
  cases h with
  | recorded tx input aggregatedAt uuid v h hw' =>
    subst hw'
    have hgrow := recordsGrow_recordUsage h
    exact hgrow
  | processed tx job aggregatedAt uuid processedAt v₁ v₂ hrecord hjob hw' =>
    obtain ⟨t, -, rfl⟩ := updateUsageIngestJob_eq_ok hjob
    subst hw'
    have hgrow := recordsGrow_recordUsage hrecord
    exact hgrow
  | enqueued row hstatus h =>
    obtain ⟨t, -, rfl⟩ := createUsageIngestJob_eq_ok h
    exact List.prefix_rfl
  | marked jobId processedAt hrecorded h =>
    obtain ⟨t, -, rfl⟩ := updateUsageIngestJob_eq_ok h
    exact List.prefix_rfl
  | failed jobId attempts availableAt error h =>
    obtain ⟨t, -, rfl⟩ := updateUsageIngestJob_eq_ok h
    exact List.prefix_rfl
  | collected h =>
    obtain ⟨_, _, _, _, rfl⟩ := h.rows
    exact List.prefix_rfl
  | released tx h =>
    subst h
    exact List.prefix_rfl

/-! ### The calls among each other -/

/-- Every call relies on the records that are there, and each of its statements is a
    `UsageStep`. -/
def usageContract (met : World → Prop) : Contract World Env where
  permits _ _ _ := True
  rely := RecordsGrow
  guar := UsageStep met
  rely_refl _ := List.prefix_rfl
  rely_trans := List.IsPrefix.trans

/-- The usage steps have no invariant of their own to keep. -/
private theorem stable_usage : Stable (usageContract met) fun _ => True :=
  ⟨fun _ _ _ _ => trivial, fun w _ => .refl w⟩

/-- A read changes nothing. -/
private theorem usage_read {α : Type} {post : Except Err α → World → Prop} (f : World → α)
    (w : World) (hpost : ∀ r w', post r w') : Sat (usageContract met) post (read f) w := by
  refine (sat_stmt _ w).mpr fun w' _ env _ => ?_
  split <;> exact ⟨.refl w', hpost _ _⟩

/-- A write of a call. -/
private theorem usage_command {post : Except Err Unit → World → Prop}
    {f : Env → World → Except Err World} {w : World}
    (hstep : ∀ w' env v, RecordsGrow w w' → f env w' = .ok v → UsageStep met w' v)
    (hpost : ∀ r w', post r w') : Sat (usageContract met) post
      (DbClient.command f : Op Unit) w := by
  refine (sat_stmt _ w).mpr fun w' hrely env _ => ?_
  split
  · exact ⟨.refl w', hpost _ _⟩
  · split
    · rename_i hmade
      exact ⟨hstep w' env _ hrely (except_map_eq_ok hmade), hpost _ _⟩
    · exact ⟨.refl w', hpost _ _⟩

section Calls

variable {toISOString : Int → String} {config : AppConfig} {tx : TxId} {w : World}

/-- Recording usage is one step of the usage calls. -/
private theorem sat_recordUsage (input : UsageRecordWriteInput) :
    Sat (usageContract met) (fun _ _ => True) (recordUsage tx input) w := by
  refine sat_runTransaction ?_
  refine (txSat_recordUsageInTransaction stable_usage input w trivial).mono ?_
  rintro r w₁ ⟨-, hr, -⟩ w₂ -
  refine ⟨.released tx rfl, fun _ _ => trivial, fun a p v hap hv => ⟨?_, trivial⟩⟩
  obtain ⟨aggregatedAt, uuid, rfl⟩ := hr a p hap
  exact .recorded tx input aggregatedAt uuid v hv rfl

/-- Validating an input only reads. -/
private theorem sat_validateUsageRecordInput (input : RecordUsageInput) :
    Sat (usageContract met) (fun _ _ => True) (validateUsageRecordInput input) w := by
  refine (sat_bind _ _ _ w).mpr (usage_read _ w fun r w' => ?_)
  cases r with
  | error e => trivial
  | ok found =>
    cases found with
    | none => trivial
    | some subscription =>
      dsimp only
      split
      · simp only [pure_bind]
        split <;> trivial
      · refine (sat_bind _ _ _ w').mpr ((sat_stmt _ w').mpr fun w₁ _ env _ => ⟨.refl w₁, ?_⟩)
        dsimp only
        split <;> trivial

/-- An ingestion's statements are steps of the usage calls. -/
private theorem sat_ingestUsage (input : RecordUsageInput) (providedSecret : Option String) :
    Sat (usageContract met) (fun _ _ => True) (ingestUsage config tx input providedSecret) w := by
  rw [ingestUsage, assertUsageSecret]
  split
  · trivial
  · show Sat (usageContract met) (fun _ _ => True)
      (if (!config.usageIngestQueueEnabled) = true then createUsageRecord tx input
        else enqueueUsageRecord input) w
    split
    · refine (sat_bind _ _ _ w).mpr ((sat_validateUsageRecordInput input).mono fun r w' _ => ?_)
      cases r with
      | error e => trivial
      | ok record => exact sat_recordUsage record
    · refine (sat_bind _ _ _ w).mpr ((sat_validateUsageRecordInput input).mono fun r w' _ => ?_)
      cases r with
      | error e => trivial
      | ok record =>
        refine (sat_bind _ _ _ w').mpr ((sat_stmt _ w').mpr fun w₁ _ env _ => ⟨.refl w₁, ?_⟩)
        exact usage_command (fun _ _ _ _ hf => .enqueued _ rfl hf) fun _ _ => trivial

end Calls

/-! ### A job's transaction -/

/-- What a job's transaction makes pending. -/
def recordJobPending (job : QueueJob) (aggregatedAt : Int) (uuid : Id) (processedAt : Int) :
    Pending :=
  fun w => w.recordUsage (jobRecord job) aggregatedAt uuid >>= fun w =>
    w.updateUsageIngestJob job.id (processedJob processedAt)

/-- A duplicate source job is one whose record is committed. -/
def TellsDuplicate (jobId : Id) (e : Err) (w : World) : Prop :=
  isDuplicateSourceJobError e = true → w.HasSourceJob jobId

section Job

variable {job : QueueJob} {w : World}

/-- A refused record tells of a duplicate only if one stands. -/
private theorem tellsDuplicate_createUsageRecord {aggregatedAt : Int} {uuid : Id} {e : Err}
    (h : w.createUsageRecord (newUsageRecord (jobRecord job) aggregatedAt uuid) = .error e) :
    TellsDuplicate job.id e w := by
  intro he
  rw [World.createUsageRecord] at h
  split at h
  · -- a count that does not fit is not reported as a duplicate
    obtain rfl := Except.error.inj h
    cases he
  · split at h
    · cases h
    · rename_i hrefused
      obtain rfl := Except.error.inj h
      split at he
      · exact absurd he (by decide)
      · rename_i hfresh
        -- the id is new, so the source job is not
        by_contra hnone
        obtain ⟨t, ht⟩ := Table.insert?_of_fresh (t := w.usageRecords)
          (r := newUsageRecord (jobRecord job) aggregatedAt uuid)
          (Option.not_isSome_iff_eq_none.mp hfresh) fun u hmem v hv r' hr' hcol => by
            obtain rfl := List.mem_singleton.mp hmem
            obtain rfl := Option.some.inj hv
            exact hnone ⟨r', hr', hcol⟩
        cases hrefused.symm.trans ht

/-- A later write of the transaction does not report a duplicate source job. -/
private theorem tellsDuplicate_bind {jobId : Id} {x : Except Err World}
    {f : World → Except Err World} {e : Err} (h : x >>= f = .error e)
    (hx : ∀ e, x = .error e → TellsDuplicate jobId e w)
    (hf : ∀ v e, f v = .error e → isDuplicateSourceJobError e = false) :
    TellsDuplicate jobId e w := by
  cases x with
  | error e' => exact hx e (Except.error.inj h ▸ rfl)
  | ok v => exact fun he => nomatch (hf v e h).symm.trans he

/-- A refused daily bucket is no duplicate record. -/
private theorem not_duplicate_upsertDailyAggregate {row : UsageDailyAggregate} {e : Err}
    (h : w.upsertDailyAggregate row = .error e) : isDuplicateSourceJobError e = false := by
  rw [World.upsertDailyAggregate] at h
  split at h
  · exact Except.error.inj h ▸ rfl
  · split at h
    · cases h
    · exact Except.error.inj h ▸ rfl

/-- A refused endpoint bucket is no duplicate record. -/
private theorem not_duplicate_upsertEndpointDailyAggregate {row : UsageEndpointDailyAggregate}
    {e : Err} (h : w.upsertEndpointDailyAggregate row = .error e) :
    isDuplicateSourceJobError e = false := by
  rw [World.upsertEndpointDailyAggregate] at h
  split at h
  · exact Except.error.inj h ▸ rfl
  · split at h
    · cases h
    · exact Except.error.inj h ▸ rfl

/-- A refused update of a job is no duplicate record. -/
private theorem not_duplicate_updateUsageIngestJob {id : Id}
    {data : UsageIngestJob → UsageIngestJob} {e : Err}
    (h : w.updateUsageIngestJob id data = .error e) :
    isDuplicateSourceJobError e = false := by
  rw [World.updateUsageIngestJob] at h
  split at h
  · exact Except.error.inj h ▸ rfl
  · split at h
    · exact nomatch h
    · exact Except.error.inj h ▸ rfl

/-- Recording a job's usage tells of a duplicate only if one stands. -/
private theorem tellsDuplicate_recordUsage {aggregatedAt : Int} {uuid : Id} {e : Err}
    (h : w.recordUsage (jobRecord job) aggregatedAt uuid = .error e) : TellsDuplicate job.id e w :=
  tellsDuplicate_bind h (fun _ he => tellsDuplicate_createUsageRecord he) fun v e' h' => by
    cases hbucket : v.upsertDailyAggregate (dailyBucket (jobRecord job)) with
    | error e'' =>
      rw [hbucket] at h'
      exact Except.error.inj h' ▸ not_duplicate_upsertDailyAggregate hbucket
    | ok v' =>
      rw [hbucket] at h'
      exact not_duplicate_upsertEndpointDailyAggregate (w := v') h'

/-- A job's whole transaction tells of a duplicate only if one stands. -/
private theorem tellsDuplicate_recordJobPending {aggregatedAt processedAt : Int} {uuid : Id}
    {e : Err} (h : recordJobPending job aggregatedAt uuid processedAt w = .error e) :
    TellsDuplicate job.id e w :=
  tellsDuplicate_bind h (fun _ he => tellsDuplicate_recordUsage he)
    fun _ _ h' => not_duplicate_updateUsageIngestJob h'

/-- A refusal of the database is no duplicate record. -/
private theorem tellsDuplicate_database (jobId : Id) (m : String) (w : World) :
    TellsDuplicate jobId (.database m) w := fun he => nomatch he

/-- The body of a job's transaction makes the recording and the mark pending, and a
    duplicate source job that it reports is committed. -/
private theorem txSatOr_recordJob (job : QueueJob) :
    TxSatOr (usageContract met) (fun _ => True) (recordJob job) .ok
      (fun _ p => ∃ aggregatedAt uuid processedAt,
        p = recordJobPending job aggregatedAt uuid processedAt)
      (TellsDuplicate job.id) := by
  have hdb : ∀ m w, True → TellsDuplicate job.id (.database m) w :=
    fun m w _ => tellsDuplicate_database job.id m w
  -- the three recording statements, one after the other; only the first can tell of a duplicate
  have hrecord : TxSatOr (usageContract met) (fun _ => True)
      (recordUsageInTransaction (jobRecord job)) .ok
      (fun _ p => ∃ aggregatedAt uuid, p = fun w => w.recordUsage (jobRecord job) aggregatedAt uuid)
      (TellsDuplicate job.id) := by
    refine txSatOr_bind (txSatOr_clock (Q := fun _ p => p = .ok) stable_usage fun _ => rfl)
      fun aggregatedAt _ hp => ?_
    subst hp
    refine txSatOr_bind (txSatOr_command (Q := fun _ p => ∃ uuid, p = fun w =>
      w.createUsageRecord (newUsageRecord (jobRecord job) aggregatedAt uuid)) stable_usage hdb
      (fun env w e _ h => tellsDuplicate_createUsageRecord h) fun env => ⟨env.uuid, rfl⟩) ?_
    rintro _ _ ⟨uuid, rfl⟩
    refine txSatOr_bind (txSatOr_command (Q := fun _ p => p = fun w =>
      w.createUsageRecord (newUsageRecord (jobRecord job) aggregatedAt uuid) >>= fun w =>
        w.upsertDailyAggregate (dailyBucket (jobRecord job))) stable_usage hdb
      (fun env w e _ h => tellsDuplicate_bind h (fun _ he => tellsDuplicate_createUsageRecord he)
        fun _ _ h' => not_duplicate_upsertDailyAggregate h') fun env => rfl) fun _ _ hp => ?_
    subst hp
    -- together they are `recordUsage`
    have hchain : ∀ w : World,
        ((w.createUsageRecord (newUsageRecord (jobRecord job) aggregatedAt uuid) >>=
        fun w => w.upsertDailyAggregate (dailyBucket (jobRecord job))) >>= fun w =>
          w.upsertEndpointDailyAggregate (endpointDailyBucket (jobRecord job))) =
        w.recordUsage (jobRecord job) aggregatedAt uuid := by
      intro w
      simp only [World.recordUsage, bind_assoc]
    refine txSatOr_command stable_usage hdb (fun env w e _ h => ?_) fun env =>
      ⟨aggregatedAt, uuid, funext fun w => hchain w⟩
    exact tellsDuplicate_recordUsage ((hchain w).symm.trans h)
  -- then the job is marked, in the same transaction
  refine txSatOr_bind hrecord ?_
  rintro _ _ ⟨aggregatedAt, uuid, rfl⟩
  refine txSatOr_bind (txSatOr_clock (Q := fun _ p => p = fun w =>
    w.recordUsage (jobRecord job) aggregatedAt uuid) stable_usage fun _ => rfl)
    fun processedAt _ hp => ?_
  subst hp
  exact txSatOr_command stable_usage hdb (fun env w e _ h => tellsDuplicate_recordJobPending h)
    fun env => ⟨aggregatedAt, uuid, processedAt, rfl⟩

/-- Processing a job records it and marks it, marks it because its record is there, or
    puts it off. -/
private theorem sat_processJob (tx : TxId) : Sat (usageContract met) (fun _ _ => True)
    (processJob tx job) w := by
  refine (sat_tryCatch _ _ w).mpr ?_
  -- a transaction that ends with an error has met a duplicate or something else
  have htransaction : Sat (usageContract met)
      (fun r w' => ∀ e, r = .error e → TellsDuplicate job.id e w')
        (transaction tx (recordJob job)) w := by
    refine sat_runTransaction ?_
    refine (txSatOr_recordJob job w trivial).mono ?_
    rintro r w₁ ⟨-, hr, hX⟩ w₂ hrely
    refine ⟨.released tx rfl, fun e hfails e' he' => ?_, fun a p v hap hv =>
      ⟨?_, fun _ h => nomatch h⟩⟩
    · obtain rfl := Except.error.inj he'
      rcases hfails with rfl | ⟨m, rfl⟩ | ⟨a, p, hap, hp⟩
      · intro hdup
        obtain ⟨r, hr, hjob⟩ := hX e rfl hdup
        exact ⟨r, hrely.subset hr, hjob⟩
      · exact tellsDuplicate_database job.id m _
      -- the commit itself failed: the pending writes were applied to the tables it found
      · obtain ⟨aggregatedAt, uuid, processedAt, rfl⟩ := hr a p hap
        have htells := tellsDuplicate_recordJobPending hp
        exact htells
    -- the commit succeeded: the record and the job's mark go in together
    · obtain ⟨aggregatedAt, uuid, processedAt, rfl⟩ := hr a p hap
      obtain ⟨v₁, hrecord, hjob⟩ := except_bind_eq_ok.mp hv
      exact .processed tx job aggregatedAt uuid processedAt v₁ v hrecord hjob rfl
  refine htransaction.mono fun r w₁ htells => ?_
  cases r with
  | ok u => trivial
  | error e =>
    dsimp only
    split
    -- after a duplicate the job is marked done, the record being there
    · rename_i hdup
      obtain ⟨record, hrecord, hjob⟩ := htells e rfl hdup
      refine (sat_bind _ _ _ w₁).mpr ((sat_stmt _ w₁).mpr fun w₂ hgrow env _ => ⟨.refl w₂, ?_⟩)
      exact usage_command (fun w₃ env v hgrow' h => .marked job.id _
        ⟨record, hgrow'.subset (hgrow.subset hrecord), hjob⟩ h) fun _ _ => trivial
    -- after anything else it is given back with its next time
    · refine (sat_bind _ _ _ w₁).mpr ?_
      refine (sat_bind _ _ _ w₁).mpr ((sat_stmt _ w₁).mpr fun w₂ _ env _ => ⟨.refl w₂, ?_⟩)
      refine usage_command (fun w₃ env v _ h => .failed job.id _ _ e h) fun r w' => ?_
      cases r <;> trivial

end Job

/-! ### Every step of a run -/

section Runs

variable {toISOString : Int → String} {config : AppConfig} {calls : TxId → UsageCall} {w₀ : World}
  {P P' : UsageCalls} {c : Choice TxId Env Err}

/-- The snapshots of a call: only the overage worker takes any. -/
def UsageCall.snapshots : UsageCall → World → Prop
  | .ingest _ _, _ | .drain, _ => False
  | .collect, _ => True

/-- Every statement of a usage call is a step of the usage calls. -/
private theorem sat_usageCall (call : UsageCall) (tx : TxId) (w : World) :
    Sat (usageContract call.snapshots) (fun _ _ => True) (call.op toISOString config tx) w := by
  cases call with
  | ingest input providedSecret => exact sat_ingestUsage input providedSecret
  | drain =>
    exact BatchJob.sat_cycle (I := fun _ => True) (fun _ _ _ _ => trivial)
      (fun w _ => UsageStep.refl w)
      (fun job w _ => sat_processJob tx) trivial
  | collect =>
    have hsteps := (collectStep_processDueOverageCollection (J := fun _ => True) toISOString config
      w).eachStep fun _ w' w'' h =>
        (h.mono fun _ _ => trivial : CollectStep UsageCall.collect.snapshots w' w'')
    exact hsteps.sat (I := fun _ => True) (fun _ _ _ _ => trivial)
      (fun _ _ _ _ _ h => ⟨UsageStep.collected h, trivial⟩) trivial

/-- Whatever the calls and the order of their statements, every step is a `UsageStep`. -/
private theorem usageStep_of_reach {ok : UsageCalls → Choice TxId Env Err → Prop}
    (hreach : Reach readCommitted ok (startCalls toISOString config calls w₀) P)
    (hnext : P.next readCommitted c = some P') :
    UsageStep (calls c.thread).snapshots P.state P'.state := by
  have hcompatible : Compatible (ε := Err) (α := Unit) readCommitted ok
      (fun tx => (calls tx).op toISOString config tx)
      (fun tx => usageContract (calls tx).snapshots) (fun _ _ _ => True) fun _ => True :=
    { start_sat := fun tx w _ => sat_usageCall (calls tx) tx w
      permits := fun _ _ _ _ _ => trivial
      guar_inv := fun _ _ _ _ _ => trivial
      guar_rely := fun _ _ _ _ _ _ _ h _ _ _ => UsageStep.recordsGrow h
      stop_inv := fun _ _ _ => trivial
      stop_rely := fun _ _ _ _ _ _ _ _ => List.prefix_rfl }
  cases c with
  | run tx env => exact hcompatible.guar_of_next trivial hreach hnext
  | stop tx e =>
    obtain ⟨-, rfl⟩ := next_stop_cases hnext
    exact .released tx rfl

/-- Every statement of a run of usage calls is a step of the usage calls. -/
theorem usageStep_of_next {ok : UsageCalls → Choice TxId Env Err → Prop}
    (hreach : Reach readCommitted ok (startCalls toISOString config calls w₀) P)
    (hnext : P.next readCommitted c = some P') : UsageStep (fun _ => True) P.state P'.state :=
  (usageStep_of_reach hreach hnext).mono fun _ _ => trivial

/-- The snapshot of a settlement is the state that its call has met last. -/
theorem usageStep_of_recall {ok : UsageCalls → (TxId → World) → Choice TxId Env Err → Prop}
    {met : TxId → World}
    (hrun : Recall readCommitted ok (startCalls toISOString config calls w₀) P met)
    (hnext : P.next readCommitted c = some P') :
    UsageStep (· = met c.thread) P.state P'.state := by
  -- ingestions and drains take their steps whatever was met, a collection only from what it met
  cases hcall : calls c.thread with
  | ingest input providedSecret =>
    have hstep := usageStep_of_reach hrun.reach hnext
    rw [hcall] at hstep
    exact hstep.mono fun _ h => h.elim
  | drain =>
    have hstep := usageStep_of_reach hrun.reach hnext
    rw [hcall] at hstep
    exact hstep.mono fun _ h => h.elim
  | collect =>
    have hstart : ((calls c.thread).op toISOString config c.thread).EachStepAfter (fun _ => True)
        (fun m => CollectStep (· = m)) w₀ := by
      rw [hcall]
      exact collectStep_processDueOverageCollection toISOString config w₀
    have hafter := hrun.eachStepAfter_thread hstart
    cases c with
    | run tx env => exact .collected (next_eachStepAfter trivial hafter hnext)
    | stop tx e =>
      obtain ⟨-, rfl⟩ := next_stop_cases hnext
      exact .released tx rfl

end Runs

end HivePoint
