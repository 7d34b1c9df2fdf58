import HivePoint.Spec.EndpointUsage

/-!
# The ranking of the endpoints

In a database that holds nothing but recorded usage, `listEndpointUsageForWindow` reports the
first places of one ranking: the endpoints with a record in the window, each with the exact
sum of its records there.

## Key results

- `RecordingRun.bucketed`: every record is counted in a bucket of its endpoint
- `mem_endpointSlices_endpoints`: the slices of a window hold the endpoints of its records
- `listEndpointUsage_exact`: what is returned is the ranking, cut to the limit
-/

namespace HivePoint

open Prog GroupedSum

/-! ### Which endpoints are merged -/

/-- Merged rows have the endpoints of the rows. -/
private theorem mem_addEndpointUsage {target rows : List UsageEndpointBreakdownItem}
    {endpoint : String} :
    endpoint ∈ (addEndpointUsage target rows).map (·.endpoint) ↔
      endpoint ∈ target.map (·.endpoint) ∨ endpoint ∈ rows.map (·.endpoint) := by
  induction rows generalizing target with
  | nil => simp only [addEndpointUsage, List.foldl_nil, List.map_nil, List.not_mem_nil, or_false]
  | cons row rows ih =>
    show endpoint ∈ (addEndpointUsage (addEndpointRow target row) rows).map (·.endpoint) ↔ _
    rw [ih, addEndpointRow_endpoints, List.map_cons, List.mem_cons]
    split
    · rename_i hmem
      constructor
      · exact fun h => h.imp_right .inr
      · rintro (h | rfl | h)
        · exact .inl h
        · exact .inl hmem
        · exact .inr h
    · rw [List.mem_append, List.mem_singleton, or_assoc]

/-- The endpoints of merged usage are those of the rows. -/
private theorem mem_addEndpointUsage_nil {rows : List UsageEndpointBreakdownItem}
    {endpoint : String} :
    endpoint ∈ (addEndpointUsage [] rows).map (·.endpoint) ↔ endpoint ∈ rows.map (·.endpoint) := by
  rw [mem_addEndpointUsage]
  exact or_iff_right (List.not_mem_nil)

/-- A record's endpoint is in the grouped records. -/
private theorem mem_groupRecordsByEndpoint {w : World} {subscriptionId : Id}
    {where_ : UsageRecord → Bool} {r : UsageRecord} (hr : r ∈ w.usageRecords.rows)
    (hsub : r.subscriptionId = subscriptionId) (hwhere : where_ r = true) :
    r.endpoint ∈ (w.groupRecordsByEndpoint subscriptionId where_).map (·.endpoint) := by
  refine mem_addEndpointUsage_nil.mpr ?_
  simp only [List.map_map, List.mem_map, List.mem_filter, Bool.and_eq_true, decide_eq_true_eq]
  exact ⟨r, ⟨hr, hsub, hwhere⟩, rfl⟩

/-- A bucket's endpoint is in the grouped buckets. -/
private theorem mem_groupBucketsByEndpoint {w : World} {subscriptionId : Id} {gte lt : Int}
    {b : UsageEndpointDailyAggregate} (hb : b ∈ w.usageEndpointDailyAggregates.rows)
    (hsub : b.subscriptionId = subscriptionId) (hgte : gte ≤ b.bucketDate)
    (hlt : b.bucketDate < lt) :
    b.endpoint ∈ (w.groupBucketsByEndpoint subscriptionId gte lt).map (·.endpoint) := by
  refine mem_addEndpointUsage_nil.mpr ?_
  simp only [List.map_map, List.mem_map, List.mem_filter, Bool.and_eq_true, decide_eq_true_eq]
  exact ⟨b, ⟨hb, hsub, hgte, hlt⟩, rfl⟩

/-! ### Every record has a bucket -/

/-- Every record is counted in a bucket of its subscription, day and endpoint. -/
def World.EndpointsBucketed (w : World) : Prop :=
  ∀ r ∈ w.usageRecords.rows, (w.usageEndpointDailyAggregates.find? (endpointBucketKey r)).isSome

/-- Recording usage buckets its endpoint. -/
theorem World.EndpointsBucketed.recordUsage {w w' : World} (hw : w.EndpointsBucketed)
    {input : UsageRecordWriteInput} {aggregatedAt : Int} {uuid : Id}
    (h : w.recordUsage input aggregatedAt uuid = .ok w') : w'.EndpointsBucketed := by
  have hendpoints := recordUsage_endpoints h
  obtain ⟨records, buckets, endpoints, hrecords, -, rfl⟩ := recordUsage_eq_ok h
  intro r hr
  have hfind := Table.isSome_find?_upsert? hendpoints (fun _ => rfl) (endpointBucketKey r)
  rcases (Table.mem_insert? hrecords).mp hr with hr | rfl
  · exact hfind.mpr (.inr (hw r hr))
  · exact hfind.mpr (.inl rfl)

/-- Every endpoint stays bucketed through a run. -/
theorem RecordingRun.bucketed {w₀ w : World} (hrun : RecordingRun w₀ w)
    (hw₀ : w₀.EndpointsBucketed) : w.EndpointsBucketed := by
  induction hrun with
  | start => exact hw₀
  | record _ _ _ _ hrun ih =>
    rcases runs_recordUsage hrun with rfl | ⟨_, _, _, hrecord, rfl⟩
    · exact ih
    · exact fun r hr => ih.recordUsage hrecord r hr

/-- Nothing has been recorded in an empty world. -/
private theorem sinceMigration_empty : SinceMigration [] [] World.empty :=
  ⟨rfl, fun _ h => (nomatch h), fun _ => rfl, fun _ h => nomatch h⟩

/-- Recordings in an empty database leave no older usage. -/
private theorem RecordingRun.sinceMigration {w : World} (hrun : RecordingRun .empty w) :
    ∃ recorded, SinceMigration [] recorded w := by
  induction hrun with
  | start => exact ⟨[], sinceMigration_empty⟩
  | record _ _ _ _ hrun ih =>
    obtain ⟨recorded, hw⟩ := ih
    rcases runs_recordUsage hrun with rfl | ⟨_, _, _, hrecord, rfl⟩
    · exact ⟨recorded, hw.rows, hw.aggregated, hw.buckets, hw.counted⟩
    · have hw' := hw.recordUsage hrecord
      exact ⟨_, hw'.rows, hw'.aggregated, hw'.buckets, hw'.counted⟩

/-- The endpoints of the records of a window are in one of its slices. -/
theorem mem_endpointSlices_endpoints {w : World} (hw : w.EndpointsBucketed) {subscriptionId : Id}
    {s e : Int} {endpoint : String} (h : endpoint ∈ w.endpointsIn subscriptionId s e) :
    endpoint ∈ (w.endpointSlices subscriptionId s e).map (·.endpoint) := by
  obtain ⟨r, hr, hsub, ⟨hs, he⟩, rfl⟩ := mem_endpointsIn.mp h
  obtain ⟨⟨hstart, -⟩, ⟨hend, -⟩, hpart, hrest⟩ := cutWindow_spec s e
  have hraw : ∀ {gte lt : Int}, gte ≤ r.occurredAt → r.occurredAt < lt →
      r.endpoint ∈ (if gte < lt then w.groupRecordsByEndpoint subscriptionId fun r =>
        gte ≤ r.occurredAt && r.occurredAt < lt else []).map (·.endpoint) := by
    intro gte lt hgte hlt
    rw [if_pos (hgte.trans_lt hlt)]
    refine mem_groupRecordsByEndpoint hr hsub ?_
    simp only [Bool.and_eq_true, decide_eq_true_eq]
    exact ⟨hgte, hlt⟩
  simp only [World.endpointSlices, List.map_append, List.mem_append]
  by_cases hhead : r.occurredAt < (cutWindow s e).startPartialEnd
  · exact .inl (.inl (hraw hs hhead))
  · by_cases htail : (cutWindow s e).endPartialStart ≤ r.occurredAt
    · exact .inr (hraw htail he)
    · -- neither in the first nor in the last part, so on one of the whole days
      have hgte : (cutWindow s e).fullDaysStart ≤ r.occurredAt := by omega
      have hlt : r.occurredAt < (cutWindow s e).fullDaysEnd := by omega
      refine .inl (.inr ?_)
      rw [if_pos (hgte.trans_lt hlt), List.map_append, List.mem_append]
      obtain ⟨b, hb⟩ := Option.isSome_iff_exists.mp (hw r hr)
      obtain ⟨hbsub, hdate, hendpoint⟩ :
          b.subscriptionId = r.subscriptionId ∧ b.bucketDate = getUtcDayStart r.occurredAt ∧
            b.endpoint = r.endpoint := by
        simpa [endpointBucketKey, Row.key] using Table.key_of_find? hb
      refine .inl (hendpoint ▸ mem_groupBucketsByEndpoint (Table.mem_of_find? hb)
        (hbsub.trans hsub) ?_ ?_)
      · rw [hdate]
        exact (le_getUtcDayStart_iff hstart _).mpr hgte
      · rw [hdate]
        exact (getUtcDayStart_lt_iff hend _).mpr hlt

/-! ### The order of the report -/

section Order

variable {localeCompare : String → String → Ordering}

/-- An item is reported before another one: more requests, or as many and the first name. -/
def RanksBefore (localeCompare : String → String → Ordering)
    (left right : UsageEndpointBreakdownItem) : Prop :=
  right.requestCount < left.requestCount ∨
    right.requestCount = left.requestCount ∧ localeCompare left.endpoint right.endpoint = .lt

/-- The order: more requests first, then the endpoint's name. -/
private theorem endpointOrder_iff {left right : UsageEndpointBreakdownItem} :
    endpointOrder localeCompare left right = true ↔
      right.requestCount < left.requestCount ∨ right.requestCount = left.requestCount ∧
        (localeCompare left.endpoint right.endpoint).isLE = true := by
  simp only [endpointOrder, Bool.or_eq_true, Bool.and_eq_true, decide_eq_true_eq]

variable [Std.TransCmp localeCompare]

/-- The order is transitive. -/
private theorem endpointOrder_trans (a b c : UsageEndpointBreakdownItem)
    (hab : endpointOrder localeCompare a b = true) (hbc : endpointOrder localeCompare b c = true) :
    endpointOrder localeCompare a c = true := by
  rw [endpointOrder_iff] at hab hbc ⊢
  rcases hab with hab | ⟨hab, hle⟩ <;> rcases hbc with hbc | ⟨hbc, hle'⟩
  · exact .inl (hbc.trans hab)
  · exact .inl (hbc ▸ hab)
  · exact .inl (hab ▸ hbc)
  · exact .inr ⟨hbc.trans hab, Std.TransCmp.isLE_trans hle hle'⟩

/-- The order is total. -/
private theorem endpointOrder_total (a b : UsageEndpointBreakdownItem) :
    (endpointOrder localeCompare a b || endpointOrder localeCompare b a) = true := by
  rw [Bool.or_eq_true, endpointOrder_iff, endpointOrder_iff]
  rcases lt_trichotomy a.requestCount b.requestCount with hlt | heq | hgt
  · exact .inr (.inl hlt)
  · have hswap : localeCompare a.endpoint b.endpoint = (localeCompare b.endpoint a.endpoint).swap :=
      Std.OrientedCmp.eq_swap
    cases hcmp : localeCompare b.endpoint a.endpoint with
    | lt => exact .inr (.inr ⟨heq, rfl⟩)
    | eq => exact .inr (.inr ⟨heq, rfl⟩)
    | gt =>
      rw [hcmp] at hswap
      exact .inl (.inr ⟨heq.symm, hswap ▸ rfl⟩)
  · exact .inl (.inl hgt)

/-- Without a repeated endpoint the sorted items are strictly ordered. -/
private theorem mergeSort_ranksBefore [Std.LawfulEqCmp localeCompare]
    {items : List UsageEndpointBreakdownItem} (hnodup : (items.map (·.endpoint)).Nodup) :
    (items.mergeSort (endpointOrder localeCompare)).Pairwise (RanksBefore localeCompare) := by
  have hsorted : (items.mergeSort (endpointOrder localeCompare)).Pairwise
      fun a b => endpointOrder localeCompare a b = true :=
    List.pairwise_mergeSort endpointOrder_trans endpointOrder_total items
  have hdistinct : (items.mergeSort (endpointOrder localeCompare)).Pairwise
      fun a b => a.endpoint ≠ b.endpoint :=
    List.pairwise_map.mp (((List.mergeSort_perm items _).map _).nodup_iff.mpr hnodup)
  refine (hsorted.and hdistinct).imp fun {a b} ⟨hle, hne⟩ => ?_
  rcases endpointOrder_iff.mp hle with hlt | ⟨heq, hle⟩
  · exact .inl hlt
  · refine .inr ⟨heq, ?_⟩
    cases hcmp : localeCompare a.endpoint b.endpoint with
    | lt => rfl
    | eq => exact absurd (Std.LawfulEqCmp.eq_of_compare hcmp) hne
    | gt =>
      rw [hcmp] at hle
      exact nomatch hle

end Order

/-! ### The report -/

/-- The endpoints with a record in the window, each once and with the sum of its records there,
    in the order of the report. -/
structure IsEndpointRanking (localeCompare : String → String → Ordering) (w : World)
    (subscriptionId : Id) (s e : Int) (ranking : List UsageEndpointBreakdownItem) : Prop where
  nodup : (ranking.map (·.endpoint)).Nodup
  mem_iff : ∀ item, item ∈ ranking ↔ item.endpoint ∈ w.endpointsIn subscriptionId s e ∧
    item.requestCount = w.endpointUsageIn subscriptionId item.endpoint s e
  ordered : ranking.Pairwise (RanksBefore localeCompare)

/-- A ranking is as long as the endpoints are many. -/
theorem IsEndpointRanking.length_eq {localeCompare : String → String → Ordering} {w : World}
    {subscriptionId : Id} {s e : Int} {ranking : List UsageEndpointBreakdownItem}
    (h : IsEndpointRanking localeCompare w subscriptionId s e ranking) :
    ranking.length = (w.endpointsIn subscriptionId s e).length := by
  have hdedup : (w.endpointsIn subscriptionId s e).Nodup := List.nodup_dedup _
  have hperm : (ranking.map (·.endpoint)).Perm (w.endpointsIn subscriptionId s e) := by
    rw [List.perm_ext_iff_of_nodup h.nodup hdedup]
    intro endpoint
    rw [List.mem_map]
    constructor
    · rintro ⟨item, hitem, rfl⟩
      exact ((h.mem_iff item).mp hitem).1
    · intro hmem
      let item : UsageEndpointBreakdownItem :=
        ⟨endpoint, w.endpointUsageIn subscriptionId endpoint s e⟩
      exact ⟨item, (h.mem_iff item).mpr ⟨hmem, rfl⟩, rfl⟩
  rw [← hperm.length_eq, List.length_map]

/-- The item of an endpoint that occurs once has what is reported for it. -/
private theorem reportedUsage_of_mem {items : List UsageEndpointBreakdownItem}
    (hnodup : (items.map (·.endpoint)).Nodup) {item : UsageEndpointBreakdownItem}
    (hitem : item ∈ items) : reportedUsage items item.endpoint = item.requestCount := by
  unfold reportedUsage
  cases hfind : items.find? (·.endpoint = item.endpoint) with
  | none => exact absurd (List.find?_eq_none.mp hfind item hitem) (by simp)
  | some item' =>
    have hendpoint : item'.endpoint = item.endpoint := by simpa using List.find?_some hfind
    rw [List.inj_on_of_nodup_map hnodup (List.mem_of_find?_eq_some hfind) hitem hendpoint]
    rfl

section Report

variable {w : World} (hrun : RecordingRun .empty w) (subscriptionId : Id) {s e : Int}
include hrun

/-- What the query merges are the endpoints of the window with their usage. -/
private theorem RecordingRun.mergedUsage (hse : s < e) :
    ((addEndpointUsage [] (w.endpointSlices subscriptionId s e)).map (·.endpoint)).Nodup ∧
      (∀ endpoint, endpoint ∈ (addEndpointUsage [] (w.endpointSlices subscriptionId s e)).map
        (·.endpoint) ↔ endpoint ∈ w.endpointsIn subscriptionId s e) ∧
      ∀ p, itemUsage p (addEndpointUsage [] (w.endpointSlices subscriptionId s e)) =
        usageOf w.usageRecords.rows (selectEndpoints subscriptionId p) s e := by
  obtain ⟨recorded, hw⟩ := hrun.sinceMigration
  have hbucketed : w.EndpointsBucketed := hrun.bucketed fun _ h => nomatch h
  refine ⟨(addEndpointUsage_nil_endpoints _).1, fun endpoint => ?_, fun p => ?_⟩
  · rw [mem_addEndpointUsage_nil]
    exact ⟨hw.endpointSlices_endpoints, mem_endpointSlices_endpoints hbucketed⟩
  · have hsum := hw.sum_endpointSlices subscriptionId p hse
    have hnone : usageOf [] (selectEndpoints subscriptionId p) (cutWindow s e).fullDaysStart
        (cutWindow s e).fullDaysEnd = 0 := rfl
    rw [hnone, add_zero] at hsum
    rw [sum_addEndpointUsage_nil, hsum]

/-- Sorted, they are the ranking of the window. -/
theorem RecordingRun.ranking (localeCompare : String → String → Ordering)
    [Std.TransCmp localeCompare] [Std.LawfulEqCmp localeCompare] (hse : s < e) :
    IsEndpointRanking localeCompare w subscriptionId s e
      ((addEndpointUsage [] (w.endpointSlices subscriptionId s e)).mergeSort
        (endpointOrder localeCompare)) := by
  obtain ⟨hnodup, hmem, husage⟩ := hrun.mergedUsage subscriptionId hse
  have hperm := List.mergeSort_perm (addEndpointUsage [] (w.endpointSlices subscriptionId s e))
    (endpointOrder localeCompare)
  -- every item tells its endpoint's own usage
  have hcount : ∀ item ∈ addEndpointUsage [] (w.endpointSlices subscriptionId s e),
      item.requestCount = w.endpointUsageIn subscriptionId item.endpoint s e := by
    intro item hitem
    rw [← reportedUsage_of_mem hnodup hitem, reportedUsage_eq hnodup, husage]
    rfl
  refine ⟨(hperm.map _).nodup_iff.mpr hnodup, fun item => ?_, mergeSort_ranksBefore hnodup⟩
  rw [hperm.mem_iff]
  -- an item with the endpoint and its usage is the merged one
  constructor
  · exact fun hitem => ⟨(hmem _).mp (List.mem_map_of_mem hitem), hcount item hitem⟩
  · rintro ⟨hendpoint, hrequests⟩
    obtain ⟨item', hitem', heq⟩ := List.mem_map.mp ((hmem _).mpr hendpoint)
    have hsame : item' = item := by
      cases item
      cases item'
      obtain rfl : _ = _ := heq
      simpa using (hcount _ hitem').trans hrequests.symm
    exact hsame ▸ hitem'

/-- The endpoint read model is exact: after any recordings in an empty database, the query
    returns the first `limit` places of the ranking of the window. When all endpoints of the
    window have room, their counts add up to the sum of the window. -/
theorem listEndpointUsage_exact (localeCompare : String → String → Ordering)
    [Std.TransCmp localeCompare] [Std.LawfulEqCmp localeCompare] {env : Env}
    (hdb : env.dbError = none) (s e : Int) (limit : Nat) :
    ∃ ranking total, IsEndpointRanking localeCompare w subscriptionId s e ranking ∧
      (listEndpointUsageForWindow localeCompare subscriptionId s e limit :
        Op (List UsageEndpointBreakdownItem)).exec env w = (.ok (ranking.take limit), w) ∧
      (sumUsageForWindow subscriptionId s e : Op Int).exec env w = (.ok total, w) ∧
      ((w.endpointsIn subscriptionId s e).length ≤ limit →
        ((ranking.take limit).map (·.requestCount)).sum = total) := by
  have htotal := exec_sumUsageForWindow hdb (hrun.aggregatesExact fun _ => rfl) subscriptionId s e
  by_cases hse : s < e
  · have hranking := hrun.ranking subscriptionId localeCompare hse
    refine ⟨_, _, hranking, exec_listEndpointUsageForWindow hdb localeCompare w subscriptionId hse
      limit, htotal, fun hlimit => ?_⟩
    rw [List.take_of_length_le (hranking.length_eq.trans_le hlimit),
      ((List.mergeSort_perm _ _).map _).sum_eq]
    have husage := (hrun.mergedUsage subscriptionId hse).2.2 fun _ => true
    rw [itemUsage, sumWhere, List.filter_true] at husage
    rw [husage, World.usageIn, usageOf]
    simp only [selectEndpoints, Bool.and_true]
  · -- no record lies in an empty window
    have hempty : e ≤ s := not_lt.mp hse
    have hnone : ∀ endpoint, endpoint ∉ w.endpointsIn subscriptionId s e := by
      intro endpoint h
      obtain ⟨r, -, -, hr, -⟩ := mem_endpointsIn.mp h
      omega
    refine ⟨[], _, ⟨List.nodup_nil, fun item => ?_, .nil⟩, ?_, htotal, fun _ => ?_⟩
    · exact iff_of_false List.not_mem_nil fun h => hnone _ h.1
    · simp only [listEndpointUsageForWindow, ge_iff_le, hempty, if_true, exec_pure, List.take_nil]
    · rw [List.take_nil]
      exact (usageIn_of_le w subscriptionId hempty).symm

end Report

/-- Usage of one endpoint on the first day and of another one on the second. -/
def twoEndpoints : World :=
  ((recordUsage 0 ⟨"sub", msPerDay + 5, "/v2", 4, none⟩).exec (.available 0 "r2")
    ((recordUsage 0 ⟨"sub", 3, "/v1", 7, none⟩).exec (.available 0 "r1") .empty).2).2

/-- Two endpoints recorded one after the other. -/
private theorem twoEndpoints_run : RecordingRun .empty twoEndpoints :=
  (RecordingRun.start.record 0 ⟨"sub", 3, "/v1", 7, none⟩ _
      (runs_exec (Env.available 0 "r1") trivial _ _)).record
    0 ⟨"sub", msPerDay + 5, "/v2", 4, none⟩ _ (runs_exec (Env.available 0 "r2") trivial _ _)

/-- Two are asked for and two have usage, so what is reported adds up to all of it. -/
theorem listEndpointUsage_exact_two :
    (twoEndpoints.endpointsIn "sub" 0 (2 * msPerDay)).length = 2 ∧
      ∃ ranking total, IsEndpointRanking compare twoEndpoints "sub" 0 (2 * msPerDay) ranking ∧
        (listEndpointUsageForWindow compare "sub" 0 (2 * msPerDay) 2 :
          Op (List UsageEndpointBreakdownItem)).exec (.available 0 "r3") twoEndpoints =
            (.ok (ranking.take 2), twoEndpoints) ∧
        (sumUsageForWindow "sub" 0 (2 * msPerDay) : Op Int).exec (.available 0 "r3") twoEndpoints =
          (.ok total, twoEndpoints) ∧
        ((ranking.take 2).map (·.requestCount)).sum = total := by
  have htwo : (twoEndpoints.endpointsIn "sub" 0 (2 * msPerDay)).length = 2 := by decide +kernel
  have hdb : (Env.available 0 "r3").dbError = none := rfl
  obtain ⟨ranking, total, hranking, hlisted, htotal, hsum⟩ :=
    listEndpointUsage_exact twoEndpoints_run "sub" compare hdb 0 (2 * msPerDay) 2
  exact ⟨htwo, ranking, total, hranking, hlisted, htotal, hsum htwo.le⟩

end HivePoint
