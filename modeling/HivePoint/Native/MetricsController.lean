import HivePoint.ForStd.OrderedMap
import HivePoint.ForStd.Text
import HivePoint.Native.OperationalMonitoring

/-!
# HttpMetricsService and MetricsController

The counters of `http-metrics.service.ts`, which the request observability feeds, and the page
that `metrics.controller.ts` makes of them and of the monitoring snapshot.

A duration is a floating point number of milliseconds: `δ`, with the sum, the maximum and the
rendering with three digits that the page needs. `localeCompare` is that of the runtime's locale.
-/

namespace HivePoint

/-! ### HttpMetricsService -/

structure HttpMetricRecord (δ : Type) where
  method : Text
  path : Text
  statusCode : Nat
  durationMs : δ

structure HttpMetricSnapshotItem (δ : Type) where
  method : Text
  path : Text
  statusCode : Nat
  count : Nat
  durationSumMs : δ
  durationMaxMs : δ

/-- `String(n)` -/
def natText (n : Nat) : Text := Nat.toDigits 10 n

def intText : Int → Text
  | .ofNat n => natText n
  | .negSucc n => '-' :: natText (n + 1)

section HttpMetrics

variable {δ : Type}

/-- `${metric.method}:${metric.path}:${metric.statusCode}` -/
def HttpMetricRecord.key (metric : HttpMetricRecord δ) : Text :=
  metric.method ++ ':' :: (metric.path ++ ':' :: natText metric.statusCode)

/-- The entry of a key after one more request. -/
def observeRequest [Add δ] [Max δ] (existing : Option (HttpMetricSnapshotItem δ))
    (metric : HttpMetricRecord δ) : HttpMetricSnapshotItem δ :=
  match existing with
  | none =>
    { method := metric.method
      path := metric.path
      statusCode := metric.statusCode
      count := 1
      durationSumMs := metric.durationMs
      durationMaxMs := metric.durationMs }
  | some existing =>
    { existing with
      count := existing.count + 1
      durationSumMs := existing.durationSumMs + metric.durationMs
      durationMaxMs := max existing.durationMaxMs metric.durationMs }

/-- `requestMetrics` -/
abbrev RequestMetrics (δ : Type) := OrderedMap Text (HttpMetricSnapshotItem δ)

def recordRequest [Add δ] [Max δ] (requestMetrics : RequestMetrics δ)
    (metric : HttpMetricRecord δ) :
    RequestMetrics δ :=
  requestMetrics.set metric.key (observeRequest (requestMetrics.get? metric.key) metric)

/-- The order in which `getSnapshot` sorts. -/
def compareItems (localeCompare : Text → Text → Int) (a b : HttpMetricSnapshotItem δ) : Int :=
  if a.path = b.path then
    if a.method = b.method then a.statusCode - b.statusCode
    else localeCompare a.method b.method
  else localeCompare a.path b.path

def getSnapshot (localeCompare : Text → Text → Int) (requestMetrics : RequestMetrics δ) :
    List (HttpMetricSnapshotItem δ) :=
  requestMetrics.values.mergeSort fun a b => compareItems localeCompare a b ≤ 0

end HttpMetrics

/-! ### Labels -/

/-- `text.replace(/c/g, replacement)` for one character. -/
def replaceChar (c : Char) (replacement : Text) (t : Text) : Text :=
  t.flatMap fun a => if a = c then replacement else [a]

def escapeLabelValue (value : Text) : Text :=
  replaceChar (Char.ofNat 0x22) ['\\', Char.ofNat 0x22]
    (replaceChar '\n' ['\\', 'n'] (replaceChar '\\' ['\\', '\\'] value))

def formatLabels (labels : List (Text × Text)) : Text :=
  if labels = [] then []
  else
    '{' :: List.intercalate [',']
      (labels.map fun label =>
        label.1 ++ '=' :: Char.ofNat 0x22 :: escapeLabelValue label.2 ++ [Char.ofNat 0x22]) ++ ['}']

/-! ### The page -/

/-- The lines about one metric: what stands in its `HELP` and `TYPE` lines, and its samples with
    their labels and values. -/
structure MetricFamily where
  name : String
  help : String
  type : String
  samples : List (List (Text × Text) × Text)

def MetricFamily.helpLine (family : MetricFamily) : Text :=
  "# HELP ".toList ++ family.name.toList ++ ' ' :: family.help.toList

def MetricFamily.typeLine (family : MetricFamily) : Text :=
  "# TYPE ".toList ++ family.name.toList ++ ' ' :: family.type.toList

def MetricFamily.lines (family : MetricFamily) : List Text :=
  family.helpLine :: family.typeLine ::
    family.samples.map fun (labels, value) =>
      family.name.toList ++ formatLabels labels ++ ' ' :: value

/-- The labels of the samples of an item. -/
def requestLabels (method path : Text) (statusCode : Nat) : List (Text × Text) :=
  [("method".toList, method), ("path".toList, path), ("status_code".toList, natText statusCode)]

def flag (b : Bool) : Text := if b then ['1'] else ['0']

def label (name value : String) : List (Text × Text) := [(name.toList, value.toList)]

section Families

variable {δ : Type} (toFixed : δ → Text) (httpMetrics : List (HttpMetricSnapshotItem δ))

/-- A metric with one sample for each item. -/
def httpFamily (name help type : String) (value : HttpMetricSnapshotItem δ → Text) :
    MetricFamily where
  name
  help
  type
  samples := httpMetrics.map fun item =>
    (requestLabels item.method item.path item.statusCode, value item)

def httpFamilies : List MetricFamily :=
  [httpFamily httpMetrics "hivepoint_http_requests_total"
      "Total HTTP requests handled by the backend" "counter" fun item => natText item.count,
    httpFamily httpMetrics "hivepoint_http_request_duration_ms_sum"
      "Total observed HTTP request duration in milliseconds" "counter" fun item =>
        toFixed item.durationSumMs,
    httpFamily httpMetrics "hivepoint_http_request_duration_ms_count"
      "Number of HTTP duration observations" "counter" fun item => natText item.count,
    httpFamily httpMetrics "hivepoint_http_request_duration_ms_max"
      "Maximum observed HTTP request duration in milliseconds" "gauge" fun item =>
        toFixed item.durationMaxMs]

end Families

/-- The values of `AppConfigService` that the page shows. -/
structure MetricsPageConfig where
  monitoring : MonitoringConfig
  alertDeliveryEnabled : Bool
  alertDeliveryTargetCount : Nat

section Page

variable (config : MetricsPageConfig)

def snapshotFamilies (snapshot : OperationalMetricsSnapshot) (auditLogsLast24h : Nat) :
    List MetricFamily :=
  [⟨"hivepoint_usage_ingest_jobs", "Number of usage ingest jobs by status", "gauge",
      [(label "status" "pending", natText snapshot.usageIngestPendingJobs),
        (label "status" "failed", natText snapshot.usageIngestFailedJobs)]⟩,
    ⟨"hivepoint_usage_ingest_oldest_pending_age_seconds",
      "Age in seconds of the oldest queued usage ingest job", "gauge",
      [([], intText snapshot.usageIngestOldestPendingAgeSeconds)]⟩,
    ⟨"hivepoint_background_job_lease_present", "Whether a background job lease is present", "gauge",
      [(label "job" "usage_ingest_queue", flag snapshot.usageIngestLeasePresent),
        (label "job" "billing_reconciliation", flag snapshot.billingReconciliationLeasePresent),
        (label "job" "billing_overage_collection",
          flag snapshot.billingOverageCollectionLeasePresent)]⟩,
    ⟨"hivepoint_background_job_lease_seconds_until_expiry",
      "Seconds until the background job lease expires", "gauge",
      [(label "job" "usage_ingest_queue", intText snapshot.usageIngestLeaseSecondsUntilExpiry),
        (label "job" "billing_reconciliation",
          intText snapshot.billingReconciliationLeaseSecondsUntilExpiry),
        (label "job" "billing_overage_collection",
          intText snapshot.billingOverageCollectionLeaseSecondsUntilExpiry)]⟩,
    ⟨"hivepoint_subscriptions", "Number of subscriptions by status", "gauge",
      [(label "status" "past_due", natText snapshot.subscriptionsPastDue)]⟩,
    ⟨"hivepoint_audit_logs_created_last_24h",
      "Audit log rows created in the last 24 hours", "gauge",
      [([], natText auditLogsLast24h)]⟩]

def countAlerts (alerts : ActiveAlerts) (severity : AlertSeverity) : Nat :=
  (alerts.alerts.filter (·.severity = severity)).length

def alertFamilies (alerts : ActiveAlerts) : List MetricFamily :=
  [⟨"hivepoint_operational_alerts_active", "Number of active operational alerts by severity",
      "gauge",
      [(label "severity" "danger", natText (countAlerts alerts .danger)),
        (label "severity" "warning", natText (countAlerts alerts .warning))]⟩,
    ⟨"hivepoint_alert_delivery_enabled", "Whether external alert delivery is enabled", "gauge",
      [([], flag config.alertDeliveryEnabled)]⟩,
    ⟨"hivepoint_alert_delivery_webhook_configured",
      "Whether an external alert delivery webhook URL is configured", "gauge",
      [([], flag (config.alertDeliveryTargetCount > 0))]⟩,
    ⟨"hivepoint_alert_delivery_target_count",
      "Number of configured external alert delivery targets", "gauge",
      [([], natText config.alertDeliveryTargetCount)]⟩]

variable {δ : Type} (toFixed : δ → Text)

def metricFamilies (httpMetrics : List (HttpMetricSnapshotItem δ))
    (snapshot : OperationalMetricsSnapshot) (auditLogsLast24h : Nat) : List MetricFamily :=
  httpFamilies toFixed httpMetrics ++ snapshotFamilies snapshot auditLogsLast24h ++
    alertFamilies config (deriveOperationalAlerts config.monitoring snapshot)

/-- `${lines.join('\n')}\n` -/
def pageText (lines : List Text) : Text := List.intercalate ['\n'] lines ++ ['\n']

/-- The counters are read before the first statement is sent. -/
def getMetrics (localeCompare : Text → Text → Int) (requestMetrics : RequestMetrics δ) :
    AlertOp Text := do
  let httpMetrics := getSnapshot localeCompare requestMetrics
  let now ← clock.zoom AlertWorld.dbLens (·.db) id
  let (snapshot, auditLogsLast24h) ← getMetricsSnapshotWithAuditLogs config.monitoring now
  return pageText
    ((metricFamilies config toFixed httpMetrics snapshot auditLogsLast24h).flatMap (·.lines))

end Page

end HivePoint
