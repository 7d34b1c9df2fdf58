import HivePoint.ForStd.GroupedSum
import HivePoint.Native.UsageAggregation
import HivePoint.Spec.Transactions

/-!
# The usage ledger is exact

The daily aggregates are right when they are the totals of the aggregated records by
subscription and UTC day (`World.AggregatesExact`). Recording usage keeps them right,
and while they are, the hybrid `sumUsageForWindow` of raw records and aggregates is the
plain sum over the records of the window.
-/

namespace HivePoint

open Prog GroupedSum

/-! ### Days -/

/-- A day starts before its instants. -/
private theorem getUtcDayStart_le (t : Int) : getUtcDayStart t ≤ t := setUTCMidnight_le t

/-- The next day starts after them. -/
private theorem lt_getNextUtcDayStart (t : Int) : t < getNextUtcDayStart t :=
  lt_addUTCDays_setUTCMidnight t

/-- The start of a UTC day. -/
def IsDayStart (t : Int) : Prop := getUtcDayStart t = t

/-- The start of a day is one. -/
private theorem isDayStart_getUtcDayStart (t : Int) : IsDayStart (getUtcDayStart t) := by
  simp only [IsDayStart, getUtcDayStart, setUTCMidnight, msPerDay, msPerHour, msPerMinute]
  omega

/-- The start of the next day is one. -/
private theorem isDayStart_getNextUtcDayStart (t : Int) : IsDayStart (getNextUtcDayStart t) := by
  simp only [IsDayStart, getNextUtcDayStart, getUtcDayStart, addUTCDays, setUTCMidnight, msPerDay,
    msPerHour, msPerMinute]
  omega

/-- The four `getUTC*` comparisons recognise the starts of days. -/
private theorem isUtcDayBoundary_iff (t : Int) : isUtcDayBoundary t = true ↔ IsDayStart t := by
  simp only [isUtcDayBoundary, Bool.and_eq_true, decide_eq_true_eq]
  simp only [getUTCHours, getUTCMinutes, getUTCSeconds, getUTCMilliseconds, IsDayStart,
    getUtcDayStart, setUTCMidnight, msPerDay, msPerHour, msPerMinute]
  omega

/-- A day that starts at `day` or later is a day of an instant not before `day`. -/
theorem le_getUtcDayStart_iff {day : Int} (hday : IsDayStart day) (t : Int) :
    day ≤ getUtcDayStart t ↔ day ≤ t := by
  simp only [IsDayStart, getUtcDayStart, setUTCMidnight, msPerDay, msPerHour, msPerMinute] at hday ⊢
  omega

/-- An instant is of an earlier day if it is before the later one's start. -/
theorem getUtcDayStart_lt_iff {day : Int} (hday : IsDayStart day) (t : Int) :
    getUtcDayStart t < day ↔ t < day := by
  rw [← not_le, ← not_le, le_getUtcDayStart_iff hday]

/-! ### The ledger -/

/-- The requests of the records that meet `p` and have `gte ≤ occurredAt < lt`. -/
def usageOf (records : List UsageRecord) (p : UsageRecord → Bool) (gte lt : Int) : Int :=
  sumWhere (·.requestCount)
    (fun r => p r && (decide (gte ≤ r.occurredAt) && decide (r.occurredAt < lt))) records

/-- The requests of a subscription with `gte ≤ occurredAt < lt`. -/
def World.usageIn (w : World) (subscriptionId : Id) (gte lt : Int) : Int :=
  sumWhere (·.requestCount)
    (fun r => decide (r.subscriptionId = subscriptionId) &&
      (decide (gte ≤ r.occurredAt) && decide (r.occurredAt < lt))) w.usageRecords.rows

/-- The subscription and UTC day in whose bucket a record is counted. -/
def bucketKey (r : UsageRecord) : Id × Int := (r.subscriptionId, getUtcDayStart r.occurredAt)

/-- The subscription, UTC day and endpoint in whose bucket a record is counted. -/
def endpointBucketKey (r : UsageRecord) : Id × Int × String :=
  (r.subscriptionId, getUtcDayStart r.occurredAt, r.endpoint)

/-- Every bucket is the total of the aggregated records of its subscription and day: a
    record with `aggregatedAt` set is counted once, one without is not counted. -/
def World.AggregatesExact (w : World) : Prop :=
  Grouped (fun b : UsageDailyAggregate => Row.key b) (·.requestCount) w.usageDailyAggregates.rows
    bucketKey (·.requestCount) (w.usageRecords.rows.filter (·.aggregatedAt.isSome))

/-- Nothing is used in an empty window. -/
theorem usageOf_of_le (records : List UsageRecord) (p : UsageRecord → Bool) {gte lt : Int}
    (h : lt ≤ gte) : usageOf records p gte lt = 0 := by
  refine sumWhere_eq_zero fun r _ hr => ?_
  simp only [Bool.and_eq_true, decide_eq_true_eq] at hr
  omega

/-- A window can be cut at any instant inside it. -/
theorem usageOf_split (records : List UsageRecord) (p : UsageRecord → Bool) {a b c : Int}
    (hab : a ≤ b) (hbc : b ≤ c) :
    usageOf records p a c = usageOf records p a b + usageOf records p b c := by
  rw [usageOf, usageOf, usageOf, ← sumWhere_or]
  · refine sumWhere_congr fun r _ => ?_
    rw [Bool.eq_iff_iff]
    simp only [Bool.or_eq_true, Bool.and_eq_true, decide_eq_true_eq]
    by_cases hr : p r = true
    · simp only [hr, true_and]
      omega
    · simp [hr]
  · intro r _
    simp only [Bool.and_eq_true, decide_eq_true_eq]
    omega

/-- Nothing is used in an empty window. -/
theorem usageIn_of_le (w : World) (subscriptionId : Id) {gte lt : Int} (h : lt ≤ gte) :
    w.usageIn subscriptionId gte lt = 0 :=
  usageOf_of_le w.usageRecords.rows _ h

/-- A window's usage is that of its two parts. -/
private theorem usageIn_split (w : World) (subscriptionId : Id) {a b c : Int} (hab : a ≤ b)
    (hbc : b ≤ c) :
    w.usageIn subscriptionId a c = w.usageIn subscriptionId a b + w.usageIn subscriptionId b c :=
  usageOf_split w.usageRecords.rows _ hab hbc

/-- The two sums of `sumFullDays`: the buckets, and the records that are not in them yet. -/
def World.fullDaysUsage (w : World) (subscriptionId : Id) (gte lt : Int) : Int :=
  w.sumBuckets subscriptionId gte lt + w.sumRecords subscriptionId fun r =>
    r.aggregatedAt.isNone && (gte ≤ r.occurredAt && r.occurredAt < lt)

/-- Over whole days, the buckets and the records that are not aggregated yet give the usage. -/
private theorem fullDaysUsage_eq {w : World} (hw : w.AggregatesExact) (subscriptionId : Id)
    {gte lt : Int} (hgte : IsDayStart gte) (hlt : IsDayStart lt) :
    w.fullDaysUsage subscriptionId gte lt = w.usageIn subscriptionId gte lt := by
  -- the buckets hold the aggregated records, the raw slice those that are pending
  have hbuckets := hw.sum_filter fun k => decide (k.1 = subscriptionId) &&
    (decide (gte ≤ k.2) && decide (k.2 < lt))
  have haggregated : w.sumBuckets subscriptionId gte lt =
      sumWhere (·.requestCount) (fun r => r.aggregatedAt.isSome &&
        (decide (r.subscriptionId = subscriptionId) &&
          (decide (gte ≤ r.occurredAt) && decide (r.occurredAt < lt)))) w.usageRecords.rows := by
    refine hbuckets.trans ?_
    simp only [sumWhere, List.filter_filter, bucketKey, le_getUtcDayStart_iff hgte,
      getUtcDayStart_lt_iff hlt]
    exact sumWhere_congr fun r _ => Bool.and_comm _ _
  -- every record of the days is one or the other
  have hraw : w.sumRecords subscriptionId (fun r =>
        r.aggregatedAt.isNone && (gte ≤ r.occurredAt && r.occurredAt < lt)) =
      sumWhere (·.requestCount) (fun r => r.aggregatedAt.isNone &&
        (decide (r.subscriptionId = subscriptionId) &&
          (decide (gte ≤ r.occurredAt) && decide (r.occurredAt < lt)))) w.usageRecords.rows := by
    exact sumWhere_congr fun r _ => Bool.and_left_comm _ _ _
  rw [World.fullDaysUsage, haggregated, hraw, ← sumWhere_or]
  · refine sumWhere_congr fun r _ => ?_
    cases r.aggregatedAt <;> simp
  · intro r _
    cases r.aggregatedAt <;> simp

/-! ### The window sum -/

/-- What the four cuts of a window are. -/
theorem cutWindow_spec (s e : Int) :
    (IsDayStart (cutWindow s e).fullDaysStart ∧ s ≤ (cutWindow s e).fullDaysStart) ∧
      (IsDayStart (cutWindow s e).fullDaysEnd ∧ (cutWindow s e).fullDaysEnd ≤ e) ∧
      (cutWindow s e).startPartialEnd = min (cutWindow s e).fullDaysStart e ∧
      (cutWindow s e).endPartialStart =
        max (cutWindow s e).fullDaysEnd (cutWindow s e).startPartialEnd := by
  refine ⟨?_, ⟨isDayStart_getUtcDayStart e, getUtcDayStart_le e⟩, ?_, ?_⟩
  · simp only [cutWindow]
    split
    · rename_i hs
      exact ⟨(isUtcDayBoundary_iff s).mp hs, le_refl s⟩
    · exact ⟨isDayStart_getNextUtcDayStart s, (lt_getNextUtcDayStart s).le⟩
  · simp only [cutWindow]
    omega
  · simp only [cutWindow]
    omega

/-- The slices into which a window is cut make up the window: `R` is the sum over raw
    records and `F` the one over whole days. -/
theorem cutWindow_sum {R F : Int → Int → Int} (hempty : ∀ a b, b ≤ a → R a b = 0)
    (hsplit : ∀ a b c, a ≤ b → b ≤ c → R a c = R a b + R b c)
    (hdays : ∀ a b, IsDayStart a → IsDayStart b → F a b = R a b) {s e : Int} (hse : s < e) :
    (if s < (cutWindow s e).startPartialEnd then R s (cutWindow s e).startPartialEnd else 0) +
        (if (cutWindow s e).fullDaysStart < (cutWindow s e).fullDaysEnd then
          F (cutWindow s e).fullDaysStart (cutWindow s e).fullDaysEnd else 0) +
        (if (cutWindow s e).endPartialStart < e then R (cutWindow s e).endPartialStart e else 0) =
      R s e := by
  obtain ⟨hstart, hend, hpart, hrest⟩ := cutWindow_spec s e
  generalize cutWindow s e = cut at *
  have hraw : ∀ a b, (if a < b then R a b else 0) = R a b := by
    intro a b
    split
    · rfl
    · rename_i hab
      exact (hempty a b (not_lt.mp hab)).symm
  rw [hraw, hraw]
  by_cases hfull : cut.fullDaysStart < cut.fullDaysEnd
  · -- a partial day, whole days, a partial day
    rw [if_pos hfull, hpart, hrest, min_eq_left (by omega), max_eq_left (by omega),
      hdays _ _ hstart.1 hend.1, hsplit s cut.fullDaysEnd e (by omega) hend.2,
      hsplit s cut.fullDaysStart cut.fullDaysEnd hstart.2 hfull.le]
  · -- no whole day: the two partial days meet
    have hmeet : cut.endPartialStart = cut.startPartialEnd := by omega
    rw [if_neg hfull, hmeet, add_zero, ← hsplit s cut.startPartialEnd e (by omega) (by omega)]

/-- The hybrid sum over a window. -/
def World.windowUsage (w : World) (subscriptionId : Id) (s e : Int) : Int :=
  if s ≥ e then 0
  else
    let cut := cutWindow s e
    let slice (sum : Id → Int → Int → Int) (gte lt : Int) : Int :=
      if gte < lt then sum subscriptionId gte lt else 0
    slice w.usageIn s cut.startPartialEnd + slice w.fullDaysUsage cut.fullDaysStart
      cut.fullDaysEnd +
      slice w.usageIn cut.endPartialStart e

/-- With exact aggregates a window's total is its usage. -/
theorem windowUsage_of_exact {w : World} (hw : w.AggregatesExact) (subscriptionId : Id)
    (s e : Int) :
    w.windowUsage subscriptionId s e = w.usageIn subscriptionId s e := by
  unfold World.windowUsage
  split
  · rename_i hse
    exact (usageIn_of_le w subscriptionId hse).symm
  · rename_i hse
    exact cutWindow_sum (fun _ _ h => usageIn_of_le w subscriptionId h)
      (fun _ _ _ hab hbc => usageIn_split w subscriptionId hab hbc)
      (fun _ _ ha hb => fullDaysUsage_eq hw subscriptionId ha hb) (not_le.mp hse)

/-- A query of a window answers its total. -/
theorem exec_windowUsage {env : Env} (hdb : env.dbError = none) (w : World) (subscriptionId : Id)
    (s e : Int) :
    (sumUsageForWindow subscriptionId s e : Op Int).exec env w =
      (.ok (w.windowUsage subscriptionId s e), w) := by
  -- each slice is queried only if it is not empty
  have hslice : ∀ (query : Int → Int → Op Int) (val : Int → Int → Int) (a b : Int),
      (∀ a b, (query a b).exec env w = (.ok (val a b), w)) →
      (querySlice query 0 a b).exec env w = (.ok (if a < b then val a b else 0), w) := by
    intro query val a b hquery
    rw [querySlice]
    split
    · exact hquery a b
    · rfl
  have hraw := fun a b => hslice (sumRawUsage subscriptionId) (w.usageIn subscriptionId) a b
    fun _ _ => exec_read hdb _ w
  have hfull := fun a b => hslice (sumFullDays subscriptionId) (w.fullDaysUsage subscriptionId) a b
    fun a b => by
      simp only [sumFullDays, sumDailyAggregateUsage, sumPendingRawUsage, DbClient.query, exec_bind,
        exec_read hdb, exec_pure, World.fullDaysUsage]
  unfold sumUsageForWindow World.windowUsage
  split
  · rfl
  · simp only [exec_bind, hraw, hfull, exec_pure]

/-- While the aggregates are exact, the hybrid sum returns the usage of the window. -/
theorem exec_sumUsageForWindow {env : Env} (hdb : env.dbError = none) {w : World}
    (hw : w.AggregatesExact) (subscriptionId : Id) (s e : Int) :
    (sumUsageForWindow subscriptionId s e : Op Int).exec env w =
      (.ok (w.usageIn subscriptionId s e), w) := by
  rw [exec_windowUsage hdb, windowUsage_of_exact hw]

/-! ### Recording -/

/-- The three writes of `recordUsageInTransaction` on a state. -/
def World.recordUsage (w : World) (input : UsageRecordWriteInput) (aggregatedAt : Int) (uuid : Id) :
    Except Err World := do
  let w ← w.createUsageRecord (newUsageRecord input aggregatedAt uuid)
  let w ← w.upsertDailyAggregate (dailyBucket input)
  w.upsertEndpointDailyAggregate (endpointDailyBucket input)

/-- The counts of a recording fit their columns: its own, and those of the two buckets that it is
    added to. -/
structure World.CanCount (w : World) (input : UsageRecordWriteInput) : Prop where
  record : FitsInt4 input.requestCount
  day : FitsInt4 (w.dailyCount (Row.key (dailyBucket input)) + input.requestCount)
  endpointDay :
    FitsInt4 (w.endpointDailyCount (Row.key (endpointDailyBucket input)) + input.requestCount)

instance (w : World) (input : UsageRecordWriteInput) : Decidable (w.CanCount input) :=
  decidable_of_iff (FitsInt4 input.requestCount ∧
      FitsInt4 (w.dailyCount (Row.key (dailyBucket input)) + input.requestCount) ∧
      FitsInt4 (w.endpointDailyCount (Row.key (endpointDailyBucket input)) + input.requestCount))
    ⟨fun ⟨h₁, h₂, h₃⟩ => ⟨h₁, h₂, h₃⟩, fun h => ⟨h.record, h.day, h.endpointDay⟩⟩

/-- `usageRecord.create` adds a row to one table. -/
theorem createUsageRecord_eq_ok {w w' : World} {row : UsageRecord}
    (h : w.createUsageRecord row = .ok w') :
    FitsInt4 row.requestCount ∧
      ∃ t, w.usageRecords.insert? row = some t ∧ w' = { w with usageRecords := t } := by
  rw [World.createUsageRecord] at h
  split at h
  · cases h
  · rename_i hfits
    split at h
    · rename_i t ht
      exact ⟨not_not.mp hfits, t, ht, (Except.ok.inj h).symm⟩
    · cases h

/-- `usageDailyAggregate.upsert` writes one table. -/
theorem upsertDailyAggregate_eq_ok {w w' : World} {row : UsageDailyAggregate}
    (h : w.upsertDailyAggregate row = .ok w') :
    FitsInt4 (w.dailyCount (Row.key row) + row.requestCount) ∧
      ∃ t, w.usageDailyAggregates.upsert? row (fun b =>
          { b with requestCount := b.requestCount + row.requestCount }) = some t ∧
        w' = { w with usageDailyAggregates := t } := by
  rw [World.upsertDailyAggregate] at h
  split at h
  · cases h
  · rename_i hfits
    split at h
    · rename_i t ht
      exact ⟨not_not.mp hfits, t, ht, (Except.ok.inj h).symm⟩
    · cases h

/-- `usageEndpointDailyAggregate.upsert` writes one table. -/
theorem upsertEndpointDailyAggregate_eq_ok {w w' : World} {row : UsageEndpointDailyAggregate}
    (h : w.upsertEndpointDailyAggregate row = .ok w') :
    FitsInt4 (w.endpointDailyCount (Row.key row) + row.requestCount) ∧
      ∃ t, w.usageEndpointDailyAggregates.upsert? row (fun b =>
          { b with requestCount := b.requestCount + row.requestCount }) = some t ∧
        w' = { w with usageEndpointDailyAggregates := t } := by
  rw [World.upsertEndpointDailyAggregate] at h
  split at h
  · cases h
  · rename_i hfits
    split at h
    · rename_i t ht
      exact ⟨not_not.mp hfits, t, ht, (Except.ok.inj h).symm⟩
    · cases h

/-- The three writes of a recording, and that its counts fit. -/
private theorem recordUsage_writes {w w' : World} {input : UsageRecordWriteInput}
    {aggregatedAt : Int} {uuid : Id} (h : w.recordUsage input aggregatedAt uuid = .ok w') :
    w.CanCount input ∧ ∃ records buckets endpoints,
      w.usageRecords.insert? (newUsageRecord input aggregatedAt uuid) = some records ∧
      w.usageDailyAggregates.upsert? (dailyBucket input)
        (fun b => { b with requestCount := b.requestCount + input.requestCount }) = some buckets ∧
      w.usageEndpointDailyAggregates.upsert? (endpointDailyBucket input)
        (fun b => { b with requestCount := b.requestCount + input.requestCount }) =
          some endpoints ∧
      w' = { w with
        usageRecords := records
        usageDailyAggregates := buckets
        usageEndpointDailyAggregates := endpoints } := by
  -- the three writes, each with the bound of its column
  obtain ⟨w₁, hrecord, h⟩ := except_bind_eq_ok.mp h
  obtain ⟨w₂, hbucket, hendpoint⟩ := except_bind_eq_ok.mp h
  obtain ⟨hfits, records, hrecords, rfl⟩ := createUsageRecord_eq_ok hrecord
  obtain ⟨hday, buckets, hbuckets, rfl⟩ := upsertDailyAggregate_eq_ok hbucket
  obtain ⟨hendpointDay, endpoints, hendpoints, rfl⟩ := upsertEndpointDailyAggregate_eq_ok hendpoint
  exact ⟨⟨hfits, hday, hendpointDay⟩, records, buckets, endpoints, hrecords, hbuckets, hendpoints,
    rfl⟩

/-- Recording adds one record, and its count to the bucket of its day; the endpoint
    aggregates are the third and last table it writes. -/
theorem recordUsage_eq_ok {w w' : World} {input : UsageRecordWriteInput} {aggregatedAt : Int}
    {uuid : Id} (h : w.recordUsage input aggregatedAt uuid = .ok w') :
    ∃ records buckets endpoints,
      w.usageRecords.insert? (newUsageRecord input aggregatedAt uuid) = some records ∧
      w.usageDailyAggregates.upsert? (dailyBucket input)
        (fun b => { b with requestCount := b.requestCount + input.requestCount }) = some buckets ∧
      w' = { w with
        usageRecords := records
        usageDailyAggregates := buckets
        usageEndpointDailyAggregates := endpoints } := by
  obtain ⟨-, records, buckets, endpoints, hrecords, hbuckets, -, hw'⟩ := recordUsage_writes h
  exact ⟨records, buckets, endpoints, hrecords, hbuckets, hw'⟩

/-- The endpoint aggregates are the third table that a recording writes. -/
theorem recordUsage_endpoints {w w' : World} {input : UsageRecordWriteInput} {aggregatedAt : Int}
    {uuid : Id} (h : w.recordUsage input aggregatedAt uuid = .ok w') :
    w.usageEndpointDailyAggregates.upsert? (endpointDailyBucket input)
      (fun b => { b with requestCount := b.requestCount + input.requestCount }) =
        some w'.usageEndpointDailyAggregates := by
  obtain ⟨-, records, buckets, endpoints, -, -, hendpoints, rfl⟩ := recordUsage_writes h
  exact hendpoints

/-- What has been recorded could be counted. -/
theorem canCount_of_recordUsage {w w' : World} {input : UsageRecordWriteInput} {aggregatedAt : Int}
    {uuid : Id} (h : w.recordUsage input aggregatedAt uuid = .ok w') : w.CanCount input :=
  (recordUsage_writes h).1

/-- With a fresh uuid, and without a source job, nothing but a count that does not fit stands in
    the way of a recording. -/
theorem recordUsage_of_fresh {w : World} (input : UsageRecordWriteInput) {uuid : Id}
    (hsource : input.sourceJobId = none) (huuid : w.usageRecords.find? uuid = none)
    (hcount : w.CanCount input) (aggregatedAt : Int) :
    ∃ w', w.recordUsage input aggregatedAt uuid = .ok w' := by
  -- the record's id is free, and the upserts always succeed
  obtain ⟨records, hrecords⟩ := Table.insert?_of_fresh
    (r := newUsageRecord input aggregatedAt uuid) huuid fun u hmem v hv => by
      obtain rfl := List.mem_singleton.mp hmem
      exact nomatch hsource.symm.trans hv
  obtain ⟨buckets, hbuckets⟩ := w.usageDailyAggregates.upsert?_of_uniques_nil rfl
    (dailyBucket input)
    (f := fun b => { b with requestCount := b.requestCount + input.requestCount }) fun _ => rfl
  obtain ⟨endpoints, hendpoints⟩ := w.usageEndpointDailyAggregates.upsert?_of_uniques_nil rfl
    (endpointDailyBucket input)
    (f := fun b => { b with requestCount := b.requestCount + input.requestCount }) fun _ => rfl
  -- each count fits its column
  have hrecord : w.createUsageRecord (newUsageRecord input aggregatedAt uuid) =
      .ok { w with usageRecords := records } := by
    have hfits : FitsInt4 (newUsageRecord input aggregatedAt uuid).requestCount := hcount.record
    simp only [World.createUsageRecord, hfits, not_true_eq_false, if_false, hrecords]
  have hbucket : { w with usageRecords := records }.upsertDailyAggregate (dailyBucket input) =
      .ok { w with usageRecords := records, usageDailyAggregates := buckets } := by
    have hfits : FitsInt4 ({ w with usageRecords := records }.dailyCount
        (Row.key (dailyBucket input)) + (dailyBucket input).requestCount) := hcount.day
    simp only [World.upsertDailyAggregate, hfits, not_true_eq_false, if_false]
    simp only [dailyBucket] at hbuckets ⊢
    simp only [hbuckets]
  have hendpoint : { w with
        usageRecords := records
        usageDailyAggregates := buckets }.upsertEndpointDailyAggregate (endpointDailyBucket input) =
      .ok { w with
        usageRecords := records
        usageDailyAggregates := buckets
        usageEndpointDailyAggregates := endpoints } := by
    have hfits : FitsInt4 ({ w with
        usageRecords := records
        usageDailyAggregates := buckets }.endpointDailyCount
          (Row.key (endpointDailyBucket input)) + (endpointDailyBucket input).requestCount) :=
      hcount.endpointDay
    simp only [World.upsertEndpointDailyAggregate, hfits, not_true_eq_false, if_false]
    simp only [endpointDailyBucket] at hendpoints ⊢
    simp only [hendpoints]
  exact ⟨_, except_bind_eq_ok.mpr ⟨_, hrecord, except_bind_eq_ok.mpr ⟨_, hbucket, hendpoint⟩⟩⟩

/-- Recording keeps the aggregates exact. -/
theorem recordUsage_aggregatesExact {w w' : World} {input : UsageRecordWriteInput}
    {aggregatedAt : Int} {uuid : Id} (hw : w.AggregatesExact)
    (h : w.recordUsage input aggregatedAt uuid = .ok w') : w'.AggregatesExact := by
  obtain ⟨records, buckets, endpoints, hrecords, hbuckets, rfl⟩ := recordUsage_eq_ok h
  simp only [World.AggregatesExact, Table.insert?_rows hrecords, List.filter_append]
  exact hw.add (a := newUsageRecord input aggregatedAt uuid) fun k =>
    sumWhere_upsert? _ hbuckets (fun _ => rfl) (fun _ => rfl) k

/-- Recording adds its count to the windows that contain it. -/
theorem recordUsage_usageIn {w w' : World} {input : UsageRecordWriteInput} {aggregatedAt : Int}
    {uuid : Id} (h : w.recordUsage input aggregatedAt uuid = .ok w') (subscriptionId : Id)
    (gte lt : Int) :
    w'.usageIn subscriptionId gte lt = w.usageIn subscriptionId gte lt +
      if input.subscriptionId = subscriptionId ∧ gte ≤ input.occurredAt ∧ input.occurredAt < lt then
        input.requestCount
      else 0 := by
  obtain ⟨records, buckets, endpoints, hrecords, -, rfl⟩ := recordUsage_eq_ok h
  simp only [World.usageIn, Table.insert?_rows hrecords, sumWhere_append, sumWhere_cons,
    sumWhere_nil, add_zero, newUsageRecord, Bool.and_eq_true, decide_eq_true_eq]

section Runs

variable {E : Env → Prop} {w w' : World}

/-- Inside a transaction, recording adds its three writes to the pending ones. -/
private theorem runs_recordUsageInTransaction {input : UsageRecordWriteInput} {pending : Pending}
    {r : Except Err (Unit × Pending)}
    (h : Runs E ((recordUsageInTransaction input : TxM Unit) pending) w r w') :
    w' = w ∧ ∀ u p, r = .ok (u, p) →
      ∃ aggregatedAt uuid, p = fun v => pending v >>= fun v =>
        v.recordUsage input aggregatedAt uuid := by
  simp only [recordUsageInTransaction, tx_bind] at h
  -- the clock and the three commands, each added to what is pending
  rcases runs_bind.mp h with ⟨e, hclock, rfl⟩ | ⟨⟨aggregatedAt, p₀⟩, w₁, hclock, h₁⟩
  · obtain ⟨_, hlift, -⟩ := runs_txLift hclock
    exact ⟨(runs_clock hlift).1, fun _ _ h => nomatch h⟩
  obtain ⟨_, hlift, hp₀⟩ := runs_txLift hclock
  obtain ⟨-, rfl⟩ := hp₀ _ _ rfl
  obtain ⟨rfl, -⟩ := runs_clock hlift
  rcases runs_bind.mp h₁ with ⟨e, hrecord, rfl⟩ | ⟨⟨_, p₁⟩, w₂, hrecord, h₂⟩
  · exact ⟨(runs_txCommand hrecord).1, fun _ _ h => nomatch h⟩
  obtain ⟨rfl, hp₁⟩ := runs_txCommand hrecord
  obtain ⟨env, -, rfl⟩ := hp₁ _ _ rfl
  rcases runs_bind.mp h₂ with ⟨e, hbucket, rfl⟩ | ⟨⟨_, p₂⟩, w₃, hbucket, h₃⟩
  · exact ⟨(runs_txCommand hbucket).1, fun _ _ h => nomatch h⟩
  obtain ⟨rfl, hp₂⟩ := runs_txCommand hbucket
  obtain ⟨_, -, rfl⟩ := hp₂ _ _ rfl
  obtain ⟨rfl, hp₃⟩ := runs_txCommand h₃
  refine ⟨rfl, fun u p hup => ?_⟩
  obtain ⟨_, -, rfl⟩ := hp₃ _ _ hup
  refine ⟨aggregatedAt, env.uuid, funext fun v => ?_⟩
  simp only [World.recordUsage, bind_assoc]

/-- A `recordUsage` call records its input, or nothing. -/
theorem runs_recordUsage {tx : TxId} {input : UsageRecordWriteInput} {r : Except Err Unit}
    (h : Runs E (recordUsage tx input) w r w') :
    w' = w.releaseLocks tx ∨ ∃ aggregatedAt uuid w₁,
      w.recordUsage input aggregatedAt uuid = .ok w₁ ∧ w' = w₁.releaseLocks tx := by
  obtain ⟨rb, w₁, hbody, hend⟩ := runs_transaction h
  obtain ⟨rfl, hp⟩ := runs_recordUsageInTransaction hbody
  rcases hend with ⟨-, rfl⟩ | ⟨_, p, w₂, rfl, -, hcommit, rfl⟩
  · exact .inl rfl
  · obtain ⟨aggregatedAt, uuid, rfl⟩ := hp _ _ rfl
    exact .inr ⟨aggregatedAt, uuid, w₂, hcommit, rfl⟩

end Runs

section Exec

variable {env : Env} (hdb : env.dbError = none) {w w' : World} {input : UsageRecordWriteInput}
include hdb

/-- Inside a transaction, a recording that can be made becomes pending. -/
theorem exec_recordUsageInTransaction (h : w.recordUsage input env.now env.uuid = .ok w') :
    ∃ p : Pending, ((recordUsageInTransaction input : TxM Unit) .ok).exec env w =
      (.ok ((), p), w) ∧ p w = .ok w' := by
  obtain ⟨w₁, h₁, h⟩ := except_bind_eq_ok.mp h
  obtain ⟨w₂, h₂, h₃⟩ := except_bind_eq_ok.mp h
  have hclock : ((liftM clock : TxM Int) .ok).exec env w = (.ok (env.now, .ok), w) := rfl
  -- what is pending after the record, after the daily bucket and after the endpoint's
  let record : Pending := fun w => .ok w >>= fun w =>
    w.createUsageRecord (newUsageRecord input env.now env.uuid)
  let bucket : Pending := fun w => record w >>= fun w => w.upsertDailyAggregate (dailyBucket input)
  let endpoint : Pending := fun w =>
    bucket w >>= fun w => w.upsertEndpointDailyAggregate (endpointDailyBucket input)
  have hbucket₁ : bucket w = .ok w₂ := except_bind_eq_ok.mpr ⟨w₁, h₁, h₂⟩
  have hendpoint₁ : endpoint w = .ok w' := except_bind_eq_ok.mpr ⟨w₂, hbucket₁, h₃⟩
  have hrecord : ((DbClient.command fun e w =>
      w.createUsageRecord (newUsageRecord input env.now e.uuid) : TxM Unit) .ok).exec env w =
        (.ok ((), record), w) := exec_txCommand hdb h₁
  have hbucket : ((DbClient.command fun _ w =>
      w.upsertDailyAggregate (dailyBucket input) : TxM Unit) record).exec env w =
        (.ok ((), bucket), w) := exec_txCommand hdb hbucket₁
  have hendpoint : ((DbClient.command fun _ w =>
      w.upsertEndpointDailyAggregate (endpointDailyBucket input) : TxM Unit) bucket).exec env w =
        (.ok ((), endpoint), w) := exec_txCommand hdb hendpoint₁
  refine ⟨endpoint, ?_, hendpoint₁⟩
  simp only [recordUsageInTransaction, tx_bind, exec_bind, hclock, hrecord, hbucket, hendpoint]

/-- A recording that cannot be made stops at its first write that is refused. -/
theorem exec_recordUsageInTransaction_error {e : Err}
    (h : w.recordUsage input env.now env.uuid = .error e) :
    ((recordUsageInTransaction input : TxM Unit) .ok).exec env w = (.error e, w) := by
  have hclock : ((liftM clock : TxM Int) .ok).exec env w = (.ok (env.now, .ok), w) := rfl
  let record : Pending := fun w => .ok w >>= fun w =>
    w.createUsageRecord (newUsageRecord input env.now env.uuid)
  let bucket : Pending := fun w => record w >>= fun w => w.upsertDailyAggregate (dailyBucket input)
  -- the error is the first one that a write of the three gives
  cases h₁ : record w with
  | error e₁ =>
    have heq : e₁ = e := by
      rw [World.recordUsage, show w.createUsageRecord _ = .error e₁ from h₁] at h
      exact Except.error.inj h
    have hrecord : ((DbClient.command fun e w =>
        w.createUsageRecord (newUsageRecord input env.now e.uuid) : TxM Unit) .ok).exec env w =
          (.error e₁, w) := exec_txCommand_error hdb h₁
    simp only [recordUsageInTransaction, tx_bind, exec_bind, hclock, hrecord, heq]
  | ok w₁ =>
    have hrecord : ((DbClient.command fun e w =>
        w.createUsageRecord (newUsageRecord input env.now e.uuid) : TxM Unit) .ok).exec env w =
          (.ok ((), record), w) := exec_txCommand hdb h₁
    have h : (w₁.upsertDailyAggregate (dailyBucket input) >>= fun w =>
        w.upsertEndpointDailyAggregate (endpointDailyBucket input)) = .error e := by
      rw [World.recordUsage, show w.createUsageRecord _ = .ok w₁ from h₁] at h
      exact h
    cases h₂ : w₁.upsertDailyAggregate (dailyBucket input) with
    | error e₂ =>
      have heq : e₂ = e := by
        rw [h₂] at h
        exact Except.error.inj h
      have hbucket : ((DbClient.command fun _ w =>
          w.upsertDailyAggregate (dailyBucket input) : TxM Unit) record).exec env w =
            (.error e₂, w) := exec_txCommand_error hdb (by rw [h₁]; exact h₂)
      simp only [recordUsageInTransaction, tx_bind, exec_bind, hclock, hrecord, hbucket, heq]
    | ok w₂ =>
      have hbucket₁ : bucket w = .ok w₂ := except_bind_eq_ok.mpr ⟨w₁, h₁, h₂⟩
      have hbucket : ((DbClient.command fun _ w =>
          w.upsertDailyAggregate (dailyBucket input) : TxM Unit) record).exec env w =
            (.ok ((), bucket), w) := exec_txCommand hdb hbucket₁
      have h₃ : w₂.upsertEndpointDailyAggregate (endpointDailyBucket input) = .error e := by
        rw [h₂] at h
        exact h
      have hendpoint : ((DbClient.command fun _ w =>
          w.upsertEndpointDailyAggregate (endpointDailyBucket input) : TxM Unit) bucket).exec env
            w =
            (.error e, w) := exec_txCommand_error hdb (by rw [hbucket₁]; exact h₃)
      simp only [recordUsageInTransaction, tx_bind, exec_bind, hclock, hrecord, hbucket, hendpoint]

/-- A `recordUsage` call records its input when the database executes its statements. -/
theorem exec_recordUsage (h : w.recordUsage input env.now env.uuid = .ok w') (tx : TxId) :
    (recordUsage tx input).exec env w = (.ok (), w'.releaseLocks tx) := by
  obtain ⟨p, hbody, hcommit⟩ := exec_recordUsageInTransaction hdb h
  exact exec_transaction_ok hdb hbody hcommit

/-- It throws what stands in the way of the recording. -/
theorem exec_recordUsage_error {e : Err} (h : w.recordUsage input env.now env.uuid = .error e)
    (tx : TxId) : (recordUsage tx input).exec env w = (.error e, w.releaseLocks tx) :=
  exec_transaction_error (exec_recordUsageInTransaction_error hdb h)

end Exec

/-- `w'` is left by a sequence of `recordUsage` calls that starts in `w`. -/
inductive RecordingRun (w : World) : World → Prop where
  | start : RecordingRun w w
  | record {w₁ w₂ : World} (h : RecordingRun w w₁) (tx : TxId) (input : UsageRecordWriteInput)
      (r : Except Err Unit) (hrun : Runs (fun _ => True) (recordUsage tx input) w₁ r w₂) :
      RecordingRun w w₂

/-- The aggregates stay exact over a whole run. -/
theorem RecordingRun.aggregatesExact {w w' : World} (h : RecordingRun w w')
    (hw : w.AggregatesExact) : w'.AggregatesExact := by
  induction h with
  | start => exact hw
  | record _ _ _ _ hrun ih =>
    rcases runs_recordUsage hrun with rfl | ⟨_, _, _, hrecord, rfl⟩
    · exact ih
    · have hexact := recordUsage_aggregatesExact ih hrecord
      exact hexact

/-- The hybrid read model is exact: after any sequence of recordings that starts with
    exact aggregates, the window sum is the sum over the records of the window, and 0 over
    an empty window. -/
theorem sumUsageForWindow_exact {w₀ w : World} (hw₀ : w₀.AggregatesExact)
    (hrun : RecordingRun w₀ w) {env : Env} (hdb : env.dbError = none) (subscriptionId : Id)
    (s e : Int) :
    (sumUsageForWindow subscriptionId s e : Op Int).exec env w =
        (.ok (w.usageIn subscriptionId s e), w) ∧
      (e ≤ s → w.usageIn subscriptionId s e = 0) :=
  ⟨exec_sumUsageForWindow hdb (hrun.aggregatesExact hw₀) subscriptionId s e,
    usageIn_of_le w subscriptionId⟩

/-- A record of 5 requests on the second day that waits for the backfill. -/
def pendingRecord : UsageRecord :=
  ⟨"old", "sub", none, none, msPerDay + 10, "/v1", 5⟩

def pendingLedger : World := { World.empty with usageRecords := .singleton pendingRecord }

/-- It is followed by recordings on the first, the second and the third day. -/
def threeDays : World :=
  let record := fun (w : World) (occurredAt requestCount : Int) (id : Id) =>
    ((recordUsage 0 ⟨"sub", occurredAt, "/v1", requestCount, none⟩).exec (.available 0 id) w).2
  record (record (record pendingLedger 3 7 "r1") (msPerDay + 20) 11 "r2") (2 * msPerDay + 4) 13 "r3"

/-- The records of three days, pending ones among them. -/
private theorem threeDays_run : RecordingRun pendingLedger threeDays :=
  ((RecordingRun.start.record 0 ⟨"sub", 3, "/v1", 7, none⟩ _
      (runs_exec (Env.available 0 "r1") trivial _ _)).record
    0 ⟨"sub", msPerDay + 20, "/v1", 11, none⟩ _
      (runs_exec (Env.available 0 "r2") trivial _ _)).record
      0 ⟨"sub", 2 * msPerDay + 4, "/v1", 13, none⟩ _
        (runs_exec (Env.available 0 "r3") trivial _ _)

/-- The window takes a part of the first day, the second one from its bucket and the pending
    record, and a part of the third. -/
theorem sumUsageForWindow_exact_threeDays :
    threeDays.usageIn "sub" 2 (2 * msPerDay + 5) = 36 ∧
      (sumUsageForWindow "sub" 2 (2 * msPerDay + 5) : Op Int).exec (.available 0 "r4") threeDays =
        (.ok (threeDays.usageIn "sub" 2 (2 * msPerDay + 5)), threeDays) := by
  refine ⟨by decide +kernel, ?_⟩
  have hpending : pendingLedger.AggregatesExact := fun _ => rfl
  exact (sumUsageForWindow_exact hpending threeDays_run rfl "sub" 2 (2 * msPerDay + 5)).1

end HivePoint
