import HivePoint.Native.UsageAggregation

/-!
# The migrations of the usage tables

`20260319133000_add_usage_daily_aggregates` and
`20260320163000_add_usage_endpoint_daily_aggregates`. A state has the columns and tables of
the final schema. Before a migration adds one there is nothing in it, so whatever the state
holds there is overwritten.
-/

namespace HivePoint

/-! ### Daily aggregates -/

/-- `ALTER TABLE "UsageRecord" ADD COLUMN "aggregatedAt" TIMESTAMP(3)` -/
def World.addAggregatedAt (w : World) : World :=
  { w with
    usageRecords := w.usageRecords.mapRows (fun r => { r with aggregatedAt := none })
      (fun _ => rfl) (fun u hu _ => by rw [List.mem_singleton.mp hu]) }

/-- `date_trunc('day', _)`, of a UTC timestamp -/
def dateTruncDay (timestamp : Int) : Int := timestamp / msPerDay * msPerDay

/-- `SELECT "subscriptionId", date_trunc('day', "occurredAt"), SUM("requestCount") ...
    GROUP BY "subscriptionId", date_trunc('day', "occurredAt")` -/
def selectDailyUsage (records : List UsageRecord) : List UsageDailyAggregate :=
  (records.map fun r => (r.subscriptionId, dateTruncDay r.occurredAt)).dedup.map fun group =>
    { subscriptionId := group.1
      bucketDate := group.2
      requestCount := sumRequestCount (·.requestCount) <| records.filter fun r =>
        (r.subscriptionId, dateTruncDay r.occurredAt) = group }

/-- `CREATE TABLE "UsageDailyAggregate"` and the `INSERT INTO` of what is selected. -/
def World.createUsageDailyAggregate (w : World) : World :=
  { w with
    usageDailyAggregates := {
      rows := selectDailyUsage w.usageRecords.rows
      valid := by
        refine ⟨?_, fun u hu => nomatch hu⟩
        rw [selectDailyUsage, List.map_map]
        exact (List.map_id _).symm ▸ List.nodup_dedup _ } }

/-- `UPDATE "UsageRecord" SET "aggregatedAt" = CURRENT_TIMESTAMP WHERE "aggregatedAt" IS NULL` -/
def World.setAggregatedAt (now : Int) (w : World) : World :=
  { w with
    usageRecords := w.usageRecords.mapRows
      (fun r => if r.aggregatedAt.isNone then { r with aggregatedAt := some now } else r)
      (fun r => by split <;> rfl)
      (fun u hu r => by rw [List.mem_singleton.mp hu]; split <;> rfl) }

def addUsageDailyAggregates (now : Int) (w : World) : World :=
  w.addAggregatedAt.createUsageDailyAggregate.setAggregatedAt now

/-! ### Daily aggregates by endpoint -/

/-- `CREATE TABLE "UsageEndpointDailyAggregate"`; nothing is inserted. -/
def addUsageEndpointDailyAggregates (w : World) : World :=
  { w with usageEndpointDailyAggregates := .empty }

/-- Both migrations, one after the other. -/
def migrateUsage (now : Int) (w : World) : World :=
  addUsageEndpointDailyAggregates (addUsageDailyAggregates now w)

end HivePoint
