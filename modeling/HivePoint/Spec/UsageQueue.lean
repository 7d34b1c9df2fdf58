import HivePoint.Spec.UsageRuns

/-!
# Queued usage is recorded exactly once

The unique `sourceJobId` makes a recording idempotent: a second transaction for a job is
refused as a whole, and the job is then marked because its record is there. So however the
workers overlap, no job is counted twice, and none is marked without its record.

## Key results

- `RecordedOnce.step`: every statement of every call keeps the ledger and the queue in line
- `queuedUsage_recordedOnce`: what that means in every reachable state
-/

namespace HivePoint

open Prog Pool GroupedSum

/-- A processed job has its record, and both kinds of aggregates are the totals of the
    records of their buckets. -/
structure RecordedOnce (w : World) : Prop where
  processed : ∀ job ∈ w.usageIngestJobs.rows, job.status = .processed → w.HasSourceJob job.id
  daily : Grouped (fun b : UsageDailyAggregate => Row.key b) (·.requestCount)
    w.usageDailyAggregates.rows bucketKey (·.requestCount) w.usageRecords.rows
  endpointDaily : Grouped (fun b : UsageEndpointDailyAggregate => Row.key b) (·.requestCount)
    w.usageEndpointDailyAggregates.rows endpointBucketKey (·.requestCount) w.usageRecords.rows

/-- The records with a job as their source. -/
def World.recordsOfJob (w : World) (jobId : Id) : List UsageRecord :=
  w.usageRecords.rows.filter (·.sourceJobId = some jobId)

/-! ### What a recording does -/

/-- Recording usage keeps the queue's law, and leaves a record of its job. -/
theorem RecordedOnce.recordUsage {w w' : World} (hw : RecordedOnce w)
    {input : UsageRecordWriteInput} {aggregatedAt : Int} {uuid : Id}
    (h : w.recordUsage input aggregatedAt uuid = .ok w') :
    RecordedOnce w' ∧ ∀ jobId, input.sourceJobId = some jobId → w'.HasSourceJob jobId := by
  have hgrow := recordsGrow_recordUsage h
  have hendpoints := recordUsage_endpoints h
  obtain ⟨records, buckets, endpoints, hrecords, hbuckets, rfl⟩ := recordUsage_eq_ok h
  have hrows : records.rows = w.usageRecords.rows ++ [newUsageRecord input aggregatedAt uuid] :=
    Table.insert?_rows hrecords
  refine ⟨⟨fun job hjob hprocessed => ?_, ?_, ?_⟩, fun jobId hjob => ?_⟩
  -- processed jobs keep their records, and each bucket counts the new record
  · obtain ⟨r, hr, hsource⟩ := hw.processed job hjob hprocessed
    exact ⟨r, hgrow.subset hr, hsource⟩
  · show Grouped _ _ buckets.rows _ _ records.rows
    rw [hrows]
    exact hw.daily.add (a := newUsageRecord input aggregatedAt uuid) fun k =>
      sumWhere_upsert? _ hbuckets (fun _ => rfl) (fun _ => rfl) k
  · show Grouped _ _ endpoints.rows _ _ records.rows
    rw [hrows]
    exact hw.endpointDaily.add (a := newUsageRecord input aggregatedAt uuid) fun k =>
      sumWhere_upsert? _ hendpoints (fun _ => rfl) (fun _ => rfl) k
  · refine ⟨newUsageRecord input aggregatedAt uuid, ?_, hjob⟩
    show _ ∈ records.rows
    rw [hrows]
    exact List.mem_append_right _ (List.mem_singleton.mpr rfl)

/-! ### What a statement does -/

/-- Rewriting a job keeps the rest, if a job that becomes processed has its record. -/
theorem RecordedOnce.updateUsageIngestJob {w w' : World} (hw : RecordedOnce w) {id : Id}
    {data : UsageIngestJob → UsageIngestJob} (h : w.updateUsageIngestJob id data = .ok w')
    (hid : ∀ row, (data row).id = row.id)
    (hdata : ∀ row, (data row).status = .processed → w.HasSourceJob id) : RecordedOnce w' := by
  obtain ⟨t, ht, rfl⟩ := updateUsageIngestJob_eq_ok h
  refine ⟨fun job hjob hprocessed => ?_, hw.daily, hw.endpointDaily⟩
  rw [show t.rows = _ from Table.update?_rows ht] at hjob
  obtain ⟨row, hrow, rfl⟩ := List.mem_map.mp hjob
  split at hprocessed
  · rename_i hkey
    have hjobId : (data row).id = id := (hid row).trans hkey
    rw [if_pos hkey, hjobId]
    exact hdata row hprocessed
  · rename_i hkey
    rw [if_neg hkey]
    exact hw.processed row hrow hprocessed

/-- Every statement keeps the ledger and the queue in line. -/
theorem RecordedOnce.step {w w' : World} (hw : RecordedOnce w) (h : UsageStep met w w') :
    RecordedOnce w' := by
  cases h with
  | recorded tx input aggregatedAt uuid v h hw' =>
    subst hw'
    obtain ⟨hv, -⟩ := hw.recordUsage h
    exact ⟨hv.processed, hv.daily, hv.endpointDaily⟩
  | processed tx job aggregatedAt uuid processedAt v₁ v₂ hrecord hjob hw' =>
    subst hw'
    obtain ⟨hv₁, hsource⟩ := hw.recordUsage hrecord
    -- the record that makes the mark right is made by the same commit
    have hv₂ := hv₁.updateUsageIngestJob hjob (fun _ => rfl) fun _ _ => hsource job.id rfl
    exact ⟨hv₂.processed, hv₂.daily, hv₂.endpointDaily⟩
  | enqueued row hstatus h =>
    obtain ⟨t, ht, rfl⟩ := createUsageIngestJob_eq_ok h
    refine ⟨fun job hjob hprocessed => ?_, hw.daily, hw.endpointDaily⟩
    rw [show t.rows = _ from Table.insert?_rows ht] at hjob
    rcases List.mem_append.mp hjob with hjob | hjob
    · exact hw.processed job hjob hprocessed
    · rw [List.mem_singleton.mp hjob, hstatus] at hprocessed
      exact nomatch hprocessed
  | marked jobId processedAt hrecorded h =>
    exact hw.updateUsageIngestJob h (fun _ => rfl) fun _ _ => hrecorded
  | failed jobId attempts availableAt error h =>
    exact hw.updateUsageIngestJob h (fun _ => rfl) fun _ hprocessed => nomatch hprocessed
  | collected h =>
    obtain ⟨_, _, _, _, rfl⟩ := h.rows
    exact ⟨hw.processed, hw.daily, hw.endpointDaily⟩
  | released tx h =>
    subst h
    exact ⟨hw.processed, hw.daily, hw.endpointDaily⟩

/-! ### Every reachable state -/

/-- A job has at most one record: `sourceJobId` is unique. -/
private theorem recordsOfJob_length_le (w : World) (jobId : Id) :
    (w.recordsOfJob jobId).length ≤ 1 := by
  have hunique : (w.usageRecords.rows.filterMap (·.sourceJobId)).Nodup :=
    w.usageRecords.valid.2 _ (List.mem_singleton.mpr rfl)
  rw [World.recordsOfJob]
  generalize w.usageRecords.rows = rows at hunique ⊢
  have hcount : (rows.filter (·.sourceJobId = some jobId)).length =
      (rows.filterMap (·.sourceJobId)).count jobId := by
    clear hunique
    induction rows with
    | nil => rfl
    | cons r rows ih =>
      cases hr : r.sourceJobId with
      | none => simp [hr, ih]
      | some id => by_cases hid : id = jobId <;> simp [hr, ih, hid]
  rw [hcount]
  exact List.nodup_iff_count_le_one.mp hunique jobId

/-- A job with a record is one of `recordsOfJob`. -/
private theorem recordsOfJob_eq_nil_iff {w : World} {jobId : Id} :
    w.recordsOfJob jobId = [] ↔ ¬w.HasSourceJob jobId := by
  simp only [World.recordsOfJob, World.HasSourceJob, List.filter_eq_nil_iff, decide_eq_true_eq,
    not_exists, not_and]

section Runs

variable {toISOString : Int → String} {config : AppConfig} {calls : TxId → UsageCall} {w₀ : World}

/-- The law holds in every reachable state. -/
theorem RecordedOnce.reach (hw₀ : RecordedOnce w₀) {P : UsageCalls}
    (hreach : Reach readCommitted (fun _ _ => True) (startCalls toISOString config calls w₀) P) :
    RecordedOnce P.state := by
  induction hreach with
  | init => exact hw₀
  | step hreach _ hnext ih => exact ih.step (usageStep_of_next hreach hnext)

/-- Whatever ingestions, workers and overage workers do next to each other: a job has at most
    one record, a processed job has exactly one, a job without a record is still pending or
    failed, and every aggregate is the total of the records in its bucket. -/
theorem queuedUsage_recordedOnce (hw₀ : RecordedOnce w₀) {P : UsageCalls}
    (hreach : Reach readCommitted (fun _ _ => True) (startCalls toISOString config calls w₀) P) :
    (∀ job ∈ P.state.usageIngestJobs.rows,
      (P.state.recordsOfJob job.id).length ≤ 1 ∧
        (job.status = .processed → (P.state.recordsOfJob job.id).length = 1) ∧
        (P.state.recordsOfJob job.id = [] → job.status = .pending ∨ job.status = .failed)) ∧
      (∀ b ∈ P.state.usageDailyAggregates.rows, b.requestCount =
        sumWhere (·.requestCount) (fun r => decide (bucketKey r = Row.key b))
          P.state.usageRecords.rows) ∧
      ∀ b ∈ P.state.usageEndpointDailyAggregates.rows, b.requestCount =
        sumWhere (·.requestCount) (fun r => decide (endpointBucketKey r = Row.key b))
          P.state.usageRecords.rows := by
  have hP := hw₀.reach hreach
  refine ⟨fun job hjob => ?_, fun b hb => ?_, fun b hb => ?_⟩
  · have hle := recordsOfJob_length_le P.state job.id
    -- a processed job has a record, and a job without one is open
    refine ⟨hle, fun hprocessed => ?_, fun hnone => ?_⟩
    · have hsome : P.state.recordsOfJob job.id ≠ [] := fun hnil =>
        recordsOfJob_eq_nil_iff.mp hnil (hP.processed job hjob hprocessed)
      have hpos := List.length_pos_iff.mpr hsome
      omega
    · cases hstatus : job.status with
      | pending => exact .inl rfl
      | failed => exact .inr rfl
      | processed =>
        exact absurd (hP.processed job hjob hstatus) (recordsOfJob_eq_nil_iff.mp hnone)
  · rw [← hP.daily (Row.key b), sumWhere_table, Table.find?_key hb]
    rfl
  · rw [← hP.endpointDaily (Row.key b), sumWhere_table, Table.find?_key hb]
    rfl

end Runs

/-! ### Two workers with the same batch -/

/-- The sample configuration with the queue. -/
def queueConfig : AppConfig := { sampleConfig with usageIngestQueueEnabled := true }

/-- A queued usage of 3 requests. -/
def sampleJob : UsageIngestJob where
  id := "job"
  subscriptionId := "sub"
  occurredAt := 50
  endpoint := "/v1"
  requestCount := 3
  status := .pending
  attempts := 0
  availableAt := 50
  processedAt := none
  lastError := none
  createdAt := 50

def queuedWorld : World :=
  { sampleWorld (sampleSubscription .active) with usageIngestJobs := .singleton sampleJob }

/-- Both workers select the job; worker 0 records it, then worker 1 tries to. -/
def overlappingWorkers : List (Choice TxId Env Err) :=
  [.run 0 (.available 60 "r0"), .run 1 (.available 60 "r1")] ++
    List.replicate 7 (.run 0 (.available 60 "r0")) ++ List.replicate 5 (.run 1 (.available 60 "r1"))

/-- Two workers over one queue record each job once. -/
theorem queuedUsage_recordedOnce_overlapping :
    ∃ P, runSchedule readCommitted overlappingWorkers
        (startCalls toString queueConfig (fun _ => .drain) queuedWorld) = some P ∧
      P.state.usageIngestJobs.rows.all (·.status = .processed) ∧
      ∀ job ∈ P.state.usageIngestJobs.rows, (P.state.recordsOfJob job.id).length = 1 := by
  have hprocessed : (runSchedule readCommitted overlappingWorkers
      (startCalls toString queueConfig (fun _ => .drain) queuedWorld)).map
        (fun P => P.state.usageIngestJobs.rows.all (·.status = .processed)) = some true := by
    decide +kernel
  obtain ⟨P, hP, hprocessed⟩ := Option.map_eq_some_iff.mp hprocessed
  have hw₀ : RecordedOnce queuedWorld := by
    refine ⟨fun job hjob h => ?_, fun _ => rfl, fun _ => rfl⟩
    obtain rfl := List.mem_singleton.mp hjob
    exact nomatch h
  have hkept := queuedUsage_recordedOnce hw₀ (reach_runSchedule _ .init hP)
  exact ⟨P, hP, hprocessed, fun job hjob => (hkept.1 job hjob).2.1
    (of_decide_eq_true (List.all_eq_true.mp hprocessed job hjob))⟩

end HivePoint
