import HivePoint.Native.UsageMigrations
import HivePoint.Spec.UsageLedger

/-!
# Usage by endpoint, after the migrations

The migration of the daily aggregates counts the records that are there and marks them as
aggregated. The one of the endpoint aggregates starts with an empty table. So the sum of a
window is right, and the usage by endpoint leaves out what the older records hold in the
whole days of the window.

## Key results

- `sum_addEndpointUsage`: merging rows by endpoint keeps the total of every selection of endpoints
- `SinceMigration.run`: what the two migrations and later recordings leave
- `endpointUsage_afterMigrations`: when the two readers report the records of the window
-/

namespace HivePoint

open Prog GroupedSum

/-! ### Merging by endpoint -/

/-- The total of the items with an endpoint that meets `p`. -/
def itemUsage (p : String → Bool) (items : List UsageEndpointBreakdownItem) : Int :=
  sumWhere (·.requestCount) (fun item => p item.endpoint) items

/-- The request count that is reported for an endpoint. -/
def reportedUsage (items : List UsageEndpointBreakdownItem) (endpoint : String) : Int :=
  ((items.find? (·.endpoint = endpoint)).map (·.requestCount)).getD 0

/-- Rewriting the items of one endpoint leaves the others alone. -/
private theorem map_ite_endpoint {items : List UsageEndpointBreakdownItem} {endpoint : String}
    (h : endpoint ∉ items.map (·.endpoint))
    (f : UsageEndpointBreakdownItem → UsageEndpointBreakdownItem) :
    items.map (fun item => if item.endpoint = endpoint then f item else item) = items := by
  refine (List.map_congr_left fun item hitem => ?_).trans (List.map_id items)
  exact if_neg fun heq : item.endpoint = endpoint => h (heq ▸ List.mem_map_of_mem hitem)

/-- A row is added to its endpoint, or as a new one. -/
theorem addEndpointRow_endpoints (target : List UsageEndpointBreakdownItem)
    (row : UsageEndpointBreakdownItem) :
    (addEndpointRow target row).map (·.endpoint) =
      if row.endpoint ∈ target.map (·.endpoint) then target.map (·.endpoint)
      else target.map (·.endpoint) ++ [row.endpoint] := by
  have hany : target.any (·.endpoint = row.endpoint) = true ↔
      row.endpoint ∈ target.map (·.endpoint) := by
    simp
  unfold addEndpointRow
  by_cases hmem : row.endpoint ∈ target.map (·.endpoint)
  · rw [if_pos (hany.mpr hmem), if_pos hmem, List.map_map]
    refine List.map_congr_left fun item _ => ?_
    simp only [Function.comp_apply]
    split <;> rfl
  · rw [if_neg fun h => hmem (hany.mp h), if_neg hmem, List.map_append, List.map_singleton]

/-- A row is added to the item of its endpoint. -/
private theorem sum_addEndpointRow (p : String → Bool) {target : List UsageEndpointBreakdownItem}
    (hnodup : (target.map (·.endpoint)).Nodup) (row : UsageEndpointBreakdownItem) :
    itemUsage p (addEndpointRow target row) =
      itemUsage p target + if p row.endpoint then row.requestCount else 0 := by
  unfold addEndpointRow itemUsage
  split
  · -- its item stands between the items of other endpoints
    rename_i hany
    obtain ⟨item, hitem, hendpoint⟩ := List.any_eq_true.mp hany
    have hendpoint : item.endpoint = row.endpoint := of_decide_eq_true hendpoint
    obtain ⟨before, after, rfl⟩ := List.append_of_mem hitem
    rw [List.map_append, List.map_cons, hendpoint] at hnodup
    have hother := (List.nodup_middle.mp hnodup).notMem
    rw [List.mem_append, not_or] at hother
    rw [List.map_append, List.map_cons, if_pos hendpoint, map_ite_endpoint hother.1,
      map_ite_endpoint hother.2]
    simp only [sumWhere_append, sumWhere_cons, hendpoint]
    split <;> omega
  · rw [sumWhere_append, sumWhere_cons, sumWhere_nil, add_zero]

/-- The endpoints of merged rows are those of the rows, each once. -/
private theorem addEndpointUsage_endpoints {target : List UsageEndpointBreakdownItem}
    (hnodup : (target.map (·.endpoint)).Nodup) (rows : List UsageEndpointBreakdownItem) :
    ((addEndpointUsage target rows).map (·.endpoint)).Nodup ∧
      ∀ endpoint ∈ (addEndpointUsage target rows).map (·.endpoint),
        endpoint ∈ target.map (·.endpoint) ∨ endpoint ∈ rows.map (·.endpoint) := by
  induction rows generalizing target with
  | nil => exact ⟨hnodup, fun _ h => .inl h⟩
  -- a row that is new to the list keeps the endpoints apart
  | cons row rows ih =>
    have hrow := addEndpointRow_endpoints target row
    have hnext : ((addEndpointRow target row).map (·.endpoint)).Nodup := by
      rw [hrow]
      split
      · exact hnodup
      · rename_i hfresh
        exact List.nodup_append.mpr ⟨hnodup, List.nodup_singleton _, by
          rintro a ha b hb rfl
          exact hfresh (List.mem_singleton.mp hb ▸ ha)⟩
    refine ⟨(ih hnext).1, fun endpoint hendpoint => ?_⟩
    -- an endpoint of the merged list was there, or is the row's
    rcases (ih hnext).2 endpoint hendpoint with h | h
    · rw [hrow] at h
      split at h
      · exact .inl h
      · rcases List.mem_append.mp h with h | h
        · exact .inl h
        · exact .inr (List.mem_singleton.mp h ▸ List.mem_cons_self)
    · exact .inr (List.mem_cons_of_mem _ h)

/-- Merging rows by endpoint keeps the total of every selection of endpoints. -/
theorem sum_addEndpointUsage (p : String → Bool) {target : List UsageEndpointBreakdownItem}
    (hnodup : (target.map (·.endpoint)).Nodup) (rows : List UsageEndpointBreakdownItem) :
    itemUsage p (addEndpointUsage target rows) = itemUsage p target + itemUsage p rows := by
  induction rows generalizing target with
  | nil => exact (add_zero _).symm
  | cons row rows ih =>
    have hnext : ((addEndpointRow target row).map (·.endpoint)).Nodup :=
      (addEndpointUsage_endpoints hnodup [row]).1
    have hrest : itemUsage p (row :: rows) =
        (if p row.endpoint then row.requestCount else 0) + itemUsage p rows := sumWhere_cons ..
    show itemUsage p (addEndpointUsage (addEndpointRow target row) rows) = _
    rw [ih hnext, sum_addEndpointRow p hnodup, hrest, add_assoc]

/-- Merging keeps the usage. -/
theorem sum_addEndpointUsage_nil (p : String → Bool) (rows : List UsageEndpointBreakdownItem) :
    itemUsage p (addEndpointUsage [] rows) = itemUsage p rows := by
  have hnil : ([] : List UsageEndpointBreakdownItem).map (·.endpoint) = [] := rfl
  rw [sum_addEndpointUsage p (hnil ▸ List.nodup_nil)]
  exact zero_add _

/-- What is reported for an endpoint is the total of its items, of which there is at most one. -/
theorem reportedUsage_eq {items : List UsageEndpointBreakdownItem}
    (hnodup : (items.map (·.endpoint)).Nodup) (endpoint : String) :
    reportedUsage items endpoint = itemUsage (fun e => decide (e = endpoint)) items :=
  (sumWhere_of_nodup _ hnodup endpoint).symm

/-! ### The query -/

/-- The rows that `listEndpointUsageForWindow` merges. -/
def World.endpointSlices (w : World) (subscriptionId : Id) (s e : Int) :
    List UsageEndpointBreakdownItem :=
  let cut := cutWindow s e
  let raw := fun gte lt => if gte < lt then
    w.groupRecordsByEndpoint subscriptionId fun r => gte ≤ r.occurredAt && r.occurredAt < lt
    else []
  raw s cut.startPartialEnd ++
    (if cut.fullDaysStart < cut.fullDaysEnd then
      w.groupBucketsByEndpoint subscriptionId cut.fullDaysStart cut.fullDaysEnd ++
        w.groupRecordsByEndpoint subscriptionId fun r => r.aggregatedAt.isNone &&
          (cut.fullDaysStart ≤ r.occurredAt && r.occurredAt < cut.fullDaysEnd)
      else []) ++
    raw cut.endPartialStart e

/-- The query of a window ranks what its slices hold. -/
theorem exec_listEndpointUsageForWindow {env : Env} (hdb : env.dbError = none)
    (localeCompare : String → String → Ordering) (w : World) (subscriptionId : Id) {s e : Int}
    (hse : s < e) (limit : Nat) :
    (listEndpointUsageForWindow localeCompare subscriptionId s e limit :
      Op (List UsageEndpointBreakdownItem)).exec env w =
      (.ok (((addEndpointUsage [] (w.endpointSlices subscriptionId s e)).mergeSort
        (endpointOrder localeCompare)).take limit), w) := by
  -- each slice is queried only if it is not empty
  have hslice : ∀ (query : Int → Int → Op (List UsageEndpointBreakdownItem))
      (val : Int → Int → List UsageEndpointBreakdownItem) (a b : Int),
      (∀ a b, (query a b).exec env w = (.ok (val a b), w)) →
      (querySlice query [] a b).exec env w = (.ok (if a < b then val a b else []), w) := by
    intro query val a b hquery
    rw [querySlice]
    split
    · exact hquery a b
    · rfl
  have hraw := fun a b => hslice (groupRawUsageByEndpoint subscriptionId)
    (fun gte lt => w.groupRecordsByEndpoint subscriptionId fun r =>
      gte ≤ r.occurredAt && r.occurredAt < lt) a b fun _ _ => exec_read hdb _ w
  have hfull := fun a b => hslice (groupFullDaysByEndpoint subscriptionId)
    (fun gte lt => w.groupBucketsByEndpoint subscriptionId gte lt ++
      w.groupRecordsByEndpoint subscriptionId fun r => r.aggregatedAt.isNone &&
        (gte ≤ r.occurredAt && r.occurredAt < lt)) a b fun a b => by
      simp only [groupFullDaysByEndpoint, DbClient.query, exec_bind, exec_read hdb, exec_pure]
  simp only [listEndpointUsageForWindow, ge_iff_le, not_le.mpr hse, if_false, exec_bind,
    hraw, hfull,
    exec_pure, World.endpointSlices]

/-! ### Since the migrations -/

/-- The records of a subscription for the endpoints that meet `p`. -/
def selectEndpoints (subscriptionId : Id) (p : String → Bool) (r : UsageRecord) : Bool :=
  r.subscriptionId = subscriptionId && p r.endpoint

/-- All records are aggregated, and the buckets by endpoint are the totals of those that were
    `recorded` after the `legacy` ones. -/
structure SinceMigration (legacy recorded : List UsageRecord) (w : World) : Prop where
  rows : w.usageRecords.rows = legacy ++ recorded
  aggregated : ∀ r ∈ w.usageRecords.rows, r.aggregatedAt.isSome
  buckets : Grouped (fun b : UsageEndpointDailyAggregate => Row.key b) (·.requestCount)
    w.usageEndpointDailyAggregates.rows endpointBucketKey (·.requestCount) recorded
  counted : ∀ b ∈ w.usageEndpointDailyAggregates.rows, ∃ r ∈ recorded,
    endpointBucketKey r = Row.key b

/-- The migration marks every record as aggregated. -/
private theorem usageRecords_migrateUsage (now : Int) (w : World) :
    (migrateUsage now w).usageRecords.rows =
      w.usageRecords.rows.map fun r => { r with aggregatedAt := some now } := by
  show List.map _ (List.map _ _) = _
  rw [List.map_map]
  rfl

/-- After the migration the old records are bucketed. -/
private theorem sinceMigration_migrateUsage (now : Int) (w : World) :
    SinceMigration (migrateUsage now w).usageRecords.rows [] (migrateUsage now w) := by
  refine ⟨(List.append_nil _).symm, fun r hr => ?_, fun _ => rfl, fun b hb => nomatch hb⟩
  rw [usageRecords_migrateUsage] at hr
  obtain ⟨_, -, rfl⟩ := List.mem_map.mp hr
  rfl

/-- The backfill of the daily aggregates is exact. -/
private theorem migrateUsage_aggregatesExact (now : Int) (w : World) :
    (migrateUsage now w).AggregatesExact := by
  have hgrouped : Grouped (fun b : UsageDailyAggregate => Row.key b) (·.requestCount)
      (migrateUsage now w).usageDailyAggregates.rows bucketKey (·.requestCount)
      w.addAggregatedAt.usageRecords.rows :=
    grouped_of_dedup (fun _ => rfl) fun k => rfl
  intro k
  rw [hgrouped k, usageRecords_migrateUsage]
  -- all records are aggregated now, and no other column has changed
  show sumWhere _ _ (List.map _ w.usageRecords.rows) = _
  simp only [sumWhere, List.filter_map, List.map_map, List.filter_filter]
  congr 2
  refine List.filter_congr fun r _ => ?_
  simp only [bucketKey, Function.comp_apply, Option.isSome_some, Bool.and_true]
  exact decide_eq_decide.mpr Iff.rfl

/-- A record added after the migration is bucketed with the others. -/
theorem SinceMigration.recordUsage {legacy recorded : List UsageRecord} {w w' : World}
    (hw : SinceMigration legacy recorded w) {input : UsageRecordWriteInput} {aggregatedAt : Int}
    {uuid : Id} (h : w.recordUsage input aggregatedAt uuid = .ok w') :
    SinceMigration legacy (recorded ++ [newUsageRecord input aggregatedAt uuid]) w' := by
  have hendpoints := recordUsage_endpoints h
  obtain ⟨records, buckets, endpoints, hrecords, -, rfl⟩ := recordUsage_eq_ok h
  have hrows : records.rows = w.usageRecords.rows ++ [newUsageRecord input aggregatedAt uuid] :=
    Table.insert?_rows hrecords
  constructor
  · show records.rows = _
    rw [hrows, hw.rows, List.append_assoc]
  -- every record is aggregated, the new one by its own write
  · intro r hr
    rcases List.mem_append.mp (hrows ▸ hr) with hr | hr
    · exact hw.aggregated r hr
    · obtain rfl := List.mem_singleton.mp hr
      rfl
  · exact hw.buckets.add (a := newUsageRecord input aggregatedAt uuid) fun k =>
      sumWhere_upsert? _ hendpoints (fun _ => rfl) (fun _ => rfl) k
  -- every bucket counts some record, the new one included
  · intro b hb
    rcases Table.key_of_mem_upsert? hendpoints (fun _ => rfl) hb with ⟨b₀, hb₀, hkey⟩ | hkey
    · obtain ⟨r, hr, hrkey⟩ := hw.counted b₀ hb₀
      exact ⟨r, List.mem_append_left _ hr, hrkey.trans hkey⟩
    · exact ⟨newUsageRecord input aggregatedAt uuid,
        List.mem_append_right _ (List.mem_singleton_self _), hkey.symm⟩

/-- Later recordings keep it so. -/
theorem SinceMigration.run {now : Int} {w₀ w : World}
    (hrun : RecordingRun (migrateUsage now w₀) w) :
    ∃ recorded, SinceMigration (migrateUsage now w₀).usageRecords.rows recorded w := by
  induction hrun with
  | start => exact ⟨[], sinceMigration_migrateUsage now w₀⟩
  | record _ _ _ _ hrun ih =>
    obtain ⟨recorded, hw⟩ := ih
    rcases runs_recordUsage hrun with rfl | ⟨_, _, _, hrecord, rfl⟩
    · exact ⟨recorded, hw.rows, hw.aggregated, hw.buckets, hw.counted⟩
    · have hw' := hw.recordUsage hrecord
      exact ⟨_, hw'.rows, hw'.aggregated, hw'.buckets, hw'.counted⟩

/-! ### What the usage by endpoint counts -/

section Slices

variable {legacy recorded : List UsageRecord} {w : World} (subscriptionId : Id) (p : String → Bool)

/-- Grouped records are summed by their endpoints. -/
private theorem sum_groupRecordsByEndpoint (w : World) (where_ : UsageRecord → Bool) :
    itemUsage p (w.groupRecordsByEndpoint subscriptionId where_) =
      sumWhere (·.requestCount) (fun r => selectEndpoints subscriptionId p r && where_ r)
        w.usageRecords.rows := by
  rw [World.groupRecordsByEndpoint, sum_addEndpointUsage_nil]
  simp only [itemUsage, sumWhere, List.filter_map, List.map_map,
    List.filter_filter, Function.comp_def, selectEndpoints]
  congr 2
  refine List.filter_congr fun r _ => ?_
  rw [Bool.and_comm, Bool.and_right_comm]

/-- The buckets of whole days count what has been recorded on them since the migrations. -/
private theorem SinceMigration.sum_groupBucketsByEndpoint (hw : SinceMigration legacy recorded w)
    {gte lt : Int} (hgte : IsDayStart gte) (hlt : IsDayStart lt) :
    itemUsage p (w.groupBucketsByEndpoint subscriptionId gte lt) =
      usageOf recorded (selectEndpoints subscriptionId p) gte lt := by
  have hbuckets := hw.buckets.sum_filter fun k => decide (k.1 = subscriptionId) && p k.2.2 &&
    (decide (gte ≤ k.2.1) && decide (k.2.1 < lt))
  simp only [endpointBucketKey, le_getUtcDayStart_iff hgte, getUtcDayStart_lt_iff hlt] at hbuckets
  refine Eq.trans ?_ hbuckets
  rw [World.groupBucketsByEndpoint, sum_addEndpointUsage_nil]
  simp only [itemUsage, sumWhere, List.filter_map, List.map_map,
    List.filter_filter, Function.comp_def]
  congr 2
  refine List.filter_congr fun b _ => ?_
  show (p b.endpoint && (decide (b.subscriptionId = subscriptionId) && _)) = _
  rw [← Bool.and_assoc, Bool.and_comm (p b.endpoint)]
  rfl

/-- The usage by endpoint leaves out what was there before the migrations, in the whole days
    of the window. -/
theorem SinceMigration.sum_endpointSlices (hw : SinceMigration legacy recorded w) {s e : Int}
    (hse : s < e) :
    itemUsage p (w.endpointSlices subscriptionId s e) +
        usageOf legacy (selectEndpoints subscriptionId p) (cutWindow s e).fullDaysStart
          (cutWindow s e).fullDaysEnd =
      usageOf w.usageRecords.rows (selectEndpoints subscriptionId p) s e := by
  obtain ⟨hstart, hend, -, -⟩ := cutWindow_spec s e
  have hraw : ∀ gte lt, itemUsage p (if gte < lt then
      w.groupRecordsByEndpoint subscriptionId fun r =>
        decide (gte ≤ r.occurredAt) && decide (r.occurredAt < lt) else []) =
      if gte < lt then usageOf w.usageRecords.rows (selectEndpoints subscriptionId p) gte lt
      else 0 := by
    intro gte lt
    split
    · exact sum_groupRecordsByEndpoint subscriptionId p w _
    · rfl
  -- no record waits for its aggregation
  have hpending : ∀ gte lt, itemUsage p (w.groupRecordsByEndpoint subscriptionId fun r =>
      r.aggregatedAt.isNone && (decide (gte ≤ r.occurredAt) && decide (r.occurredAt < lt))) =
        0 := by
    intro gte lt
    rw [sum_groupRecordsByEndpoint]
    refine sumWhere_eq_zero fun r hr h => ?_
    have := hw.aggregated r hr
    cases hr : r.aggregatedAt <;> simp [hr] at this h
  have happend : ∀ l₁ l₂, itemUsage p (l₁ ++ l₂) = itemUsage p l₁ + itemUsage p l₂ :=
    fun l₁ l₂ => sumWhere_append _ _ l₁ l₂
  have hfull : itemUsage p (if (cutWindow s e).fullDaysStart < (cutWindow s e).fullDaysEnd then
        w.groupBucketsByEndpoint subscriptionId (cutWindow s e).fullDaysStart
          (cutWindow s e).fullDaysEnd ++
        w.groupRecordsByEndpoint subscriptionId fun r => r.aggregatedAt.isNone &&
          (decide ((cutWindow s e).fullDaysStart ≤ r.occurredAt) &&
            decide (r.occurredAt < (cutWindow s e).fullDaysEnd)) else []) +
      usageOf legacy (selectEndpoints subscriptionId p) (cutWindow s e).fullDaysStart
        (cutWindow s e).fullDaysEnd =
      if (cutWindow s e).fullDaysStart < (cutWindow s e).fullDaysEnd then
        usageOf w.usageRecords.rows (selectEndpoints subscriptionId p) (cutWindow s e).fullDaysStart
          (cutWindow s e).fullDaysEnd
      else 0 := by
    split
    · rw [happend, hpending, hw.sum_groupBucketsByEndpoint subscriptionId p hstart.1 hend.1,
        hw.rows,
        usageOf, usageOf, usageOf, sumWhere_append]
      omega
    · rename_i hempty
      rw [usageOf_of_le legacy _ (not_lt.mp hempty)]
      rfl
  rw [← cutWindow_sum (R := usageOf w.usageRecords.rows (selectEndpoints subscriptionId p))
    (F := usageOf w.usageRecords.rows (selectEndpoints subscriptionId p))
    (fun _ _ h => usageOf_of_le _ _ h) (fun _ _ _ hab hbc => usageOf_split _ _ hab hbc)
    (fun _ _ _ _ => rfl) hse, ← hfull, ← hraw, ← hraw]
  simp only [World.endpointSlices, happend]
  omega

end Slices

/-! ### Which endpoints are reported -/

/-- The endpoints of a subscription's records in a window, each once. -/
def World.endpointsIn (w : World) (subscriptionId : Id) (gte lt : Int) : List String :=
  ((w.usageRecords.rows.filter fun r => r.subscriptionId = subscriptionId &&
    (gte ≤ r.occurredAt && r.occurredAt < lt)).map (·.endpoint)).dedup

/-- The endpoints of a window. -/
theorem mem_endpointsIn {w : World} {subscriptionId : Id} {gte lt : Int} {endpoint : String} :
    endpoint ∈ w.endpointsIn subscriptionId gte lt ↔ ∃ r ∈ w.usageRecords.rows,
      r.subscriptionId = subscriptionId ∧ (gte ≤ r.occurredAt ∧ r.occurredAt < lt) ∧
        r.endpoint = endpoint := by
  unfold World.endpointsIn
  simp only [List.mem_dedup, List.mem_map, List.mem_filter, Bool.and_eq_true, decide_eq_true_eq,
    and_assoc]

/-- Merged endpoints are apart, and are those of the rows. -/
theorem addEndpointUsage_nil_endpoints (rows : List UsageEndpointBreakdownItem) :
    ((addEndpointUsage [] rows).map (·.endpoint)).Nodup ∧
      ∀ endpoint ∈ (addEndpointUsage [] rows).map (·.endpoint),
        endpoint ∈ rows.map (·.endpoint) := by
  have hnil : ([] : List UsageEndpointBreakdownItem).map (·.endpoint) = [] := rfl
  obtain ⟨hnodup, hmem⟩ := addEndpointUsage_endpoints (hnil ▸ List.nodup_nil) rows
  refine ⟨hnodup, fun endpoint h => ?_⟩
  rcases hmem endpoint h with h | h
  · exact nomatch h
  · exact h

/-- Raw records of a part of the window. -/
private theorem groupRecordsByEndpoint_endpoints {w : World} {subscriptionId : Id}
    {gte lt s e : Int} {where_ : UsageRecord → Bool}
    (hwhere : ∀ r, where_ r = true → gte ≤ r.occurredAt ∧ r.occurredAt < lt) (hs : s ≤ gte)
    (he : lt ≤ e) {endpoint : String}
    (h : endpoint ∈ (w.groupRecordsByEndpoint subscriptionId where_).map (·.endpoint)) :
    endpoint ∈ w.endpointsIn subscriptionId s e := by
  have hrows := (addEndpointUsage_nil_endpoints _).2 endpoint h
  simp only [List.map_map, List.mem_map, List.mem_filter, Bool.and_eq_true,
    decide_eq_true_eq] at hrows
  obtain ⟨r, ⟨hr, hsub, hr'⟩, rfl⟩ := hrows
  obtain ⟨hgte, hlt⟩ := hwhere r hr'
  exact mem_endpointsIn.mpr ⟨r, hr, hsub, ⟨hs.trans hgte, hlt.trans_le he⟩, rfl⟩

/-- Buckets of whole days of the window. -/
private theorem SinceMigration.groupBucketsByEndpoint_endpoints {legacy recorded : List UsageRecord}
    {w : World} (hw : SinceMigration legacy recorded w) {subscriptionId : Id} {gte lt s e : Int}
    (hgte : IsDayStart gte) (hlt : IsDayStart lt) (hs : s ≤ gte) (he : lt ≤ e) {endpoint : String}
    (h : endpoint ∈ (w.groupBucketsByEndpoint subscriptionId gte lt).map (·.endpoint)) :
    endpoint ∈ w.endpointsIn subscriptionId s e := by
  have hrows := (addEndpointUsage_nil_endpoints _).2 endpoint h
  simp only [List.map_map, List.mem_map, List.mem_filter, Bool.and_eq_true,
    decide_eq_true_eq] at hrows
  obtain ⟨b, ⟨hb, hsub, hday⟩, rfl⟩ := hrows
  obtain ⟨r, hr, hkey⟩ := hw.counted b hb
  obtain ⟨hrsub, hdate, hendpoint⟩ :
      r.subscriptionId = b.subscriptionId ∧ getUtcDayStart r.occurredAt = b.bucketDate ∧
        r.endpoint = b.endpoint := by
    simpa [endpointBucketKey, Row.key] using hkey
  rw [← hdate, le_getUtcDayStart_iff hgte, getUtcDayStart_lt_iff hlt] at hday
  exact mem_endpointsIn.mpr ⟨r, hw.rows ▸ List.mem_append_right _ hr, hrsub.trans hsub,
    ⟨hs.trans hday.1, hday.2.trans_le he⟩, hendpoint⟩

/-- Only endpoints of records of the window are reported. -/
theorem SinceMigration.endpointSlices_endpoints {legacy recorded : List UsageRecord} {w : World}
    (hw : SinceMigration legacy recorded w) {subscriptionId : Id} {s e : Int} {endpoint : String}
    (h : endpoint ∈ (w.endpointSlices subscriptionId s e).map (·.endpoint)) :
    endpoint ∈ w.endpointsIn subscriptionId s e := by
  obtain ⟨hstart, hend, hpart, hrest⟩ := cutWindow_spec s e
  have hrange : ∀ gte lt (r : UsageRecord),
      (decide (gte ≤ r.occurredAt) && decide (r.occurredAt < lt)) = true →
        gte ≤ r.occurredAt ∧ r.occurredAt < lt := fun _ _ _ h => by
    simpa using h
  simp only [World.endpointSlices, List.map_append, List.mem_append] at h
  -- the endpoint comes from the head, from the full days or from the tail
  rcases h with (h | h) | h
  · split at h
    · exact groupRecordsByEndpoint_endpoints (hrange s _) le_rfl (hpart ▸ min_le_right _ _) h
    · exact nomatch h
  · split at h
    · rw [List.map_append, List.mem_append] at h
      rcases h with h | h
      · exact hw.groupBucketsByEndpoint_endpoints hstart.1 hend.1 hstart.2 hend.2 h
      · exact groupRecordsByEndpoint_endpoints
          (fun r hr => hrange _ _ r (Bool.and_eq_true_iff.mp hr).2) hstart.2 hend.2 h
    · exact nomatch h
  · split at h
    · refine groupRecordsByEndpoint_endpoints (hrange _ e) ?_ le_rfl h
      have := hstart.2
      omega
    · exact nomatch h

/-! ### The two readers -/

/-- The requests of a subscription to one endpoint. -/
def World.endpointUsageIn (w : World) (subscriptionId : Id) (endpoint : String)
    (gte lt : Int) : Int :=
  usageOf w.usageRecords.rows (selectEndpoints subscriptionId fun e => decide (e = endpoint)) gte lt

/-- The usage by endpoint is that of the records of the window, and adds up to the window's sum. -/
def ReportsEndpointUsage (env : Env) (localeCompare : String → String → Ordering) (w : World)
    (subscriptionId : Id) (s e : Int) (limit : Nat) : Prop :=
  ∃ items total,
    (listEndpointUsageForWindow localeCompare subscriptionId s e limit :
      Op (List UsageEndpointBreakdownItem)).exec env w = (.ok items, w) ∧
    (sumUsageForWindow subscriptionId s e : Op Int).exec env w = (.ok total, w) ∧
    (∀ endpoint, reportedUsage items endpoint = w.endpointUsageIn subscriptionId endpoint s e) ∧
    (items.map (·.requestCount)).sum = total

/-- With room for all endpoints of the window, what is reported is what the slices hold. -/
private theorem SinceMigration.exec_listEndpointUsage {legacy recorded : List UsageRecord}
    {w : World} (hw : SinceMigration legacy recorded w) {env : Env} (hdb : env.dbError = none)
    (localeCompare : String → String → Ordering) {subscriptionId : Id} {s e : Int} (hse : s < e)
    {limit : Nat} (hlimit : (w.endpointsIn subscriptionId s e).length ≤ limit) :
    ∃ items, (listEndpointUsageForWindow localeCompare subscriptionId s e limit :
        Op (List UsageEndpointBreakdownItem)).exec env w = (.ok items, w) ∧
      (items.map (·.endpoint)).Nodup ∧
      ∀ p, itemUsage p items = itemUsage p (w.endpointSlices subscriptionId s e) := by
  obtain ⟨hnodup, hmem⟩ := addEndpointUsage_nil_endpoints (w.endpointSlices subscriptionId s e)
  have hsort := List.mergeSort_perm (addEndpointUsage [] (w.endpointSlices subscriptionId s e))
    (endpointOrder localeCompare)
  -- the slice cuts nothing off
  have hlength : ((addEndpointUsage [] (w.endpointSlices subscriptionId s e)).mergeSort
      (endpointOrder localeCompare)).length ≤ limit := by
    have hsub := (hnodup.subperm fun endpoint h =>
      hw.endpointSlices_endpoints (hmem endpoint h)).length_le
    rw [List.length_map] at hsub
    rw [hsort.length_eq]
    exact hsub.trans hlimit
  refine ⟨(addEndpointUsage [] (w.endpointSlices subscriptionId s e)).mergeSort
    (endpointOrder localeCompare), ?_, ?_, fun p => ?_⟩
  · rw [exec_listEndpointUsageForWindow hdb localeCompare w subscriptionId hse limit,
      List.take_of_length_le hlength]
  · exact ((hsort.map _).nodup_iff).mpr hnodup
  · rw [← sum_addEndpointUsage_nil p (w.endpointSlices subscriptionId s e)]
    exact ((hsort.filter _).map _).sum_eq

/-- The migrations leave the usage on record alone. -/
private theorem endpointUsageIn_migrateUsage (now : Int) (w : World) (subscriptionId : Id)
    (endpoint : String) (gte lt : Int) :
    (migrateUsage now w).endpointUsageIn subscriptionId endpoint gte lt =
      w.endpointUsageIn subscriptionId endpoint gte lt := by
  rw [World.endpointUsageIn, usageRecords_migrateUsage]
  simp only [World.endpointUsageIn, usageOf, sumWhere, List.filter_map, List.map_map]
  rfl

/-- A subscription without usage of any endpoint has none altogether. -/
private theorem usageOf_eq_zero {records : List UsageRecord} {subscriptionId : Id} {gte lt : Int}
    (h : ∀ endpoint, usageOf records
      (selectEndpoints subscriptionId fun e => decide (e = endpoint)) gte lt = 0) :
    usageOf records (selectEndpoints subscriptionId fun _ => true) gte lt = 0 := by
  have hgrouped : Grouped (fun item : UsageEndpointBreakdownItem => item.endpoint)
      (·.requestCount) []
      (fun r : UsageRecord => r.endpoint) (·.requestCount)
      (records.filter fun r => selectEndpoints subscriptionId (fun _ => true) r &&
        (decide (gte ≤ r.occurredAt) && decide (r.occurredAt < lt))) := by
    intro endpoint
    rw [sumWhere_nil, ← h endpoint, usageOf, sumWhere, sumWhere, List.filter_filter]
    congr 2
    refine List.filter_congr fun r _ => ?_
    simp only [selectEndpoints, Bool.and_true]
    rw [Bool.and_comm (decide (r.subscriptionId = subscriptionId)), Bool.and_assoc]
  have htotal := hgrouped.sum_filter fun _ => true
  rw [sumWhere_nil, sumWhere, List.filter_true] at htotal
  exact htotal.symm

/-- After the migrations and any recordings, the two readers report the records of a window if
    and only if the records from before the migrations hold no usage of any endpoint in the
    whole days of the window. -/
theorem endpointUsage_afterMigrations {now : Int} {w₀ w : World}
    (hrun : RecordingRun (migrateUsage now w₀) w) {env : Env} (hdb : env.dbError = none)
    (localeCompare : String → String → Ordering) (subscriptionId : Id) (s e : Int) {limit : Nat}
    (hlimit : (w.endpointsIn subscriptionId s e).length ≤ limit) :
    ReportsEndpointUsage env localeCompare w subscriptionId s e limit ↔
      ∀ endpoint, w₀.endpointUsageIn subscriptionId endpoint (cutWindow s e).fullDaysStart
        (cutWindow s e).fullDaysEnd = 0 := by
  obtain ⟨recorded, hw⟩ := SinceMigration.run hrun
  have htotal := exec_sumUsageForWindow hdb
    (hrun.aggregatesExact (migrateUsage_aggregatesExact now w₀)) subscriptionId s e
  by_cases hse : s < e
  · obtain ⟨items, hitems, hnodup, husage⟩ := hw.exec_listEndpointUsage hdb localeCompare hse hlimit
    have hreported : ∀ endpoint, reportedUsage items endpoint +
        w₀.endpointUsageIn subscriptionId endpoint (cutWindow s e).fullDaysStart
          (cutWindow s e).fullDaysEnd = w.endpointUsageIn subscriptionId endpoint s e := by
      intro endpoint
      rw [reportedUsage_eq hnodup, husage, ← endpointUsageIn_migrateUsage now]
      exact hw.sum_endpointSlices subscriptionId _ hse
    constructor
    · rintro ⟨items', _, hitems', -, hreports, -⟩ endpoint
      rw [hitems] at hitems'
      obtain rfl := Except.ok.inj (Prod.mk.inj hitems').1
      have hsum := hreported endpoint
      have hreport := hreports endpoint
      omega
    · intro hnone
      refine ⟨items, _, hitems, htotal, fun endpoint => ?_, ?_⟩
      · rw [← hreported endpoint, hnone endpoint, add_zero]
      · have hlegacy : usageOf (migrateUsage now w₀).usageRecords.rows
            (selectEndpoints subscriptionId fun _ => true) (cutWindow s e).fullDaysStart
            (cutWindow s e).fullDaysEnd = 0 :=
          usageOf_eq_zero fun endpoint =>
            (endpointUsageIn_migrateUsage now w₀ subscriptionId endpoint _ _).trans (hnone endpoint)
        have hslices := hw.sum_endpointSlices subscriptionId (fun _ => true) hse
        rw [hlegacy, add_zero, ← husage, itemUsage, sumWhere, List.filter_true] at hslices
        rw [hslices, World.usageIn, usageOf]
        simp only [selectEndpoints, Bool.and_true]
  · -- an empty window
    have hempty : e ≤ s := not_lt.mp hse
    obtain ⟨hstart, hend, -, -⟩ := cutWindow_spec s e
    refine iff_of_true ⟨[], _, ?_, htotal, fun endpoint => ?_, ?_⟩ fun endpoint => ?_
    · simp only [listEndpointUsageForWindow, ge_iff_le, hempty, if_true, exec_pure]
    · exact (usageOf_of_le _ _ hempty).symm
    · exact (usageIn_of_le w subscriptionId hempty).symm
    · exact usageOf_of_le _ _ (hend.2.trans (hempty.trans hstart.2))

/-! ### Usage from before the migrations -/

/-- 7 requests in the first hour, on record before the migrations. -/
def legacyUsage : World :=
  { World.empty with
    usageRecords := .singleton ⟨"r0", "sub", none, none, 3000000, "/v1", 7⟩ }

/-- The whole first day: the window's sum counts the 7 requests, the usage by endpoint is empty. -/
theorem not_endpointUsage_afterMigrations :
    ¬∀ (now : Int) (w₀ w : World), RecordingRun (migrateUsage now w₀) w →
      ∀ env : Env, env.dbError = none → ∀ (localeCompare : String → String → Ordering)
        (subscriptionId : Id) (s e : Int) (limit : Nat),
        (w.endpointsIn subscriptionId s e).length ≤ limit →
        ReportsEndpointUsage env localeCompare w subscriptionId s e limit := by
  intro h
  obtain ⟨items, total, hitems, -, hreports, -⟩ := h 0 legacyUsage _ .start (.available 0 "r1") rfl
    (fun _ _ => .eq) "sub" 0 msPerDay 5 (by decide +kernel)
  have hnone : ((listEndpointUsageForWindow (fun _ _ => .eq) "sub" 0 msPerDay 5 :
      Op (List UsageEndpointBreakdownItem)).exec (.available 0 "r1")
      (migrateUsage 0 legacyUsage)).1 = .ok [] := by
    decide +kernel
  rw [hitems] at hnone
  obtain rfl := Except.ok.inj hnone
  have hseven : (migrateUsage 0 legacyUsage).endpointUsageIn "sub" "/v1" 0 msPerDay = 7 := by
    decide +kernel
  exact absurd ((hreports "/v1").trans hseven) (by decide)

/-- The second day begins with 3 more requests. -/
def recordedUsage : World :=
  ((recordUsage 0 ⟨"sub", msPerDay + 5, "/v1", 3, none⟩).exec (.available 0 "r1")
    (migrateUsage 0 legacyUsage)).2

/-- Usage recorded after the migration of older records. -/
private theorem recordedUsage_run : RecordingRun (migrateUsage 0 legacyUsage) recordedUsage :=
  .record .start 0 ⟨"sub", msPerDay + 5, "/v1", 3, none⟩ _
    (runs_exec (Env.available 0 "r1") trivial _ _)

/-- From the middle of the first day: the older record counts in the part of that day. -/
theorem endpointUsage_afterMigrations_partialDay :
    recordedUsage.endpointUsageIn "sub" "/v1" 2000000 (2 * msPerDay) = 10 ∧
      ReportsEndpointUsage (.available 0 "r2") (fun _ _ => .eq) recordedUsage "sub" 2000000
        (2 * msPerDay) 5 := by
  refine ⟨by decide +kernel, (endpointUsage_afterMigrations recordedUsage_run rfl _ "sub" 2000000
    (2 * msPerDay) (by decide +kernel)).mpr fun endpoint => sumWhere_eq_zero fun r hr h => ?_⟩
  obtain rfl := List.mem_singleton.mp hr
  rw [Bool.and_eq_true, Bool.and_eq_true] at h
  exact absurd h.2.1 (by decide +kernel)

end HivePoint
