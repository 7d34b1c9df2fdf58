import HivePoint.Spec.AlertDelivery

/-!
# The cooldown of the notifications

What the monitoring derives from rows that stay as they are. The alerts of most kinds stay as they
are with them; some report a number of seconds, which the time changes, and their fingerprint with
it.

## Key results

- `alert_eq_of_seconds`: an alert of unchanged rows, but for the seconds it reports
- `cooldown_spaces_deliveries`: at most one delivery in a cooldown
-/

namespace HivePoint

open Prog

/-! ### The snapshot of a state -/

section Monitoring

variable (config : MonitoringConfig)

/-- Is the lease of the job looked up? -/
def MonitoringConfig.looksUp : BackgroundJob → Bool
  | .usageIngest => config.app.usageIngestQueueEnabled
  | .reconciliation => config.stripeJob config.app.billingReconciliationEnabled
  | .overageCollection => config.stripeJob config.app.billingOverageCollectionEnabled
  | _ => false

def AlertWorld.monitoredLease (w : AlertWorld) (job : BackgroundJob) : Option BackgroundJobLease :=
  if config.looksUp job then w.leases.leases.find? job.leaseName else none

/-- What `getMetricsSnapshot` finds. -/
def AlertWorld.snapshot (w : AlertWorld) (now : Int) : OperationalMetricsSnapshot where
  usageIngestPendingJobs := w.db.countJobs .pending
  usageIngestFailedJobs := w.db.countJobs .failed
  usageIngestOldestPendingAgeSeconds := ageSeconds now w.db.oldestPendingUsageJob
  usageIngestLeasePresent := (w.monitoredLease config .usageIngest).isSome
  usageIngestLeaseSecondsUntilExpiry :=
    secondsUntilExpiry now (w.monitoredLease config .usageIngest)
  billingReconciliationLeasePresent := (w.monitoredLease config .reconciliation).isSome
  billingReconciliationLeaseSecondsUntilExpiry :=
    secondsUntilExpiry now (w.monitoredLease config .reconciliation)
  billingOverageCollectionLeasePresent := (w.monitoredLease config .overageCollection).isSome
  billingOverageCollectionLeaseSecondsUntilExpiry :=
    secondsUntilExpiry now (w.monitoredLease config .overageCollection)
  subscriptionsPastDue := w.db.countPastDue

end Monitoring

variable {permits : AlertEnv → AlertWorld → Prop} {α : Type} {w w' : AlertWorld}

/-- A read is answered or refused, and changes nothing. -/
private theorem sat_readDatabase {f : World → α} {post : Except Err α → AlertWorld → Prop}
    (hok : post (.ok (f w.db)) w) (herror : ∀ e, post (.error e) w) :
    (readDatabase f).Sat (alertContract permits) post w := by
  have hread : (read f).Sat (.alone fun _ => True)
      (fun r db => db = w.db ∧ (r = .ok (f w.db) ∨ ∃ e, r = .error e)) w.db := by
    refine (sat_stmt _ _).mpr fun db hdb env _ => ⟨trivial, ?_⟩
    obtain rfl : w.db = db := hdb
    cases env.dbError with
    | some m => exact ⟨rfl, .inr ⟨_, rfl⟩⟩
    | none => exact ⟨rfl, .inl rfl⟩
  refine (sat_zoom AlertWorld.dbLens _ _ _ w hread).mono ?_
  rintro r w' ⟨r₀, db, rfl, rfl, rfl, rfl | ⟨e, rfl⟩⟩
  · exact hok
  · exact herror e

/-- A lease is looked up where it is monitored. -/
private theorem sat_findLease {enabled : Bool} {job : BackgroundJob}
    {post : Except Err (Option BackgroundJobLease) → AlertWorld → Prop}
    (hok : post (.ok (if enabled then w.leases.leases.find? job.leaseName else none)) w)
    (herror : ∀ e, post (.error e) w) :
    (findLease enabled job).Sat (alertContract permits) post w := by
  unfold findLease
  split
  · rename_i henabled
    rw [if_pos henabled] at hok
    exact sat_alertRead hok fun _ m _ _ => herror (.database m)
  · rename_i hdisabled
    rw [if_neg hdisabled] at hok
    exact hok

/-- The alerts that the monitoring finds. -/
private theorem sat_listOperationalAlerts (config : MonitoringConfig) (now : Int) (w : AlertWorld) :
    (listOperationalAlerts config now).Sat (alertContract permits)
      (fun r w' => SameAlerts w w' ∧ ∀ active, r = .ok active →
        active = deriveOperationalAlerts config (w.snapshot config now)) w := by
  have hfail (e : Err) : SameAlerts w w ∧ ∀ active, Except.error e = Except.ok active →
      active = deriveOperationalAlerts config (w.snapshot config now) :=
    ⟨.refl w, fun _ hr => nomatch hr⟩
  refine (sat_bind _ _ _ w).mpr ?_
  unfold getMetricsSnapshot
  refine (sat_bind _ _ _ w).mpr (sat_readDatabase ?_ hfail)
  refine (sat_bind _ _ _ w).mpr (sat_readDatabase ?_ hfail)
  refine (sat_bind _ _ _ w).mpr (sat_readDatabase ?_ hfail)
  refine (sat_bind _ _ _ w).mpr (sat_readDatabase ?_ hfail)
  refine (sat_bind _ _ _ w).mpr (sat_findLease ?_ hfail)
  refine (sat_bind _ _ _ w).mpr (sat_findLease ?_ hfail)
  refine (sat_bind _ _ _ w).mpr (sat_findLease ?_ hfail)
  exact ⟨.refl w, fun active hr => (Except.ok.inj hr).symm⟩

/-! ### Unchanged rows -/

/-- The rows that the alerts are derived from are the same. -/
structure SameRows (w w' : AlertWorld) : Prop where
  usageIngestJobs : w'.db.usageIngestJobs = w.db.usageIngestJobs
  subscriptions : w'.db.subscriptions = w.db.subscriptions
  leases : ∀ job ∈ [BackgroundJob.usageIngest, .reconciliation, .overageCollection],
    w'.leases.leases.find? job.leaseName = w.leases.leases.find? job.leaseName

/-- The rows are the same as themselves. -/
theorem SameRows.refl (w : AlertWorld) : SameRows w w := ⟨rfl, rfl, fun _ _ => rfl⟩

/-- The same rows have the same monitored leases. -/
private theorem SameRows.monitoredLease (h : SameRows w w') (config : MonitoringConfig)
    (job : BackgroundJob) :
    w'.monitoredLease config job = w.monitoredLease config job := by
  unfold AlertWorld.monitoredLease
  cases job with
  | usageIngest => rw [h.leases _ (by simp)]
  | reconciliation => rw [h.leases _ (by simp)]
  | overageCollection => rw [h.leases _ (by simp)]
  | managedRetry => rfl
  | alertDelivery => rfl
  | metricsHistory => rfl

/-- The same rows give the same snapshot. -/
theorem SameRows.snapshot (h : SameRows w w') (config : MonitoringConfig) (now : Int) :
    w'.snapshot config now = w.snapshot config now := by
  have hjobs := h.usageIngestJobs
  have hsubscriptions := h.subscriptions
  simp only [AlertWorld.snapshot, h.monitoredLease, World.countJobs, World.oldestPendingUsageJob,
    World.countPastDue, hjobs, hsubscriptions]

/-- The number of seconds that an alert of the kind reports, if it reports any. -/
def reportedSeconds (config : MonitoringConfig) (w : AlertWorld) (now : Int)
    (kind : AlertKind) : Int :=
  if kind = usageIngestOldPendingJobKind then ageSeconds now w.db.oldestPendingUsageJob
  else if kind = usageIngestWorkerStaleKind then
    secondsUntilExpiry now (w.monitoredLease config .usageIngest)
  else if kind = billingReconciliationStaleKind then
    secondsUntilExpiry now (w.monitoredLease config .reconciliation)
  else if kind = billingOverageCollectionStaleKind then
    secondsUntilExpiry now (w.monitoredLease config .overageCollection)
  else 0

section Alerts

variable {config : MonitoringConfig} {snapshot : OperationalMetricsSnapshot}
  {alert : OperationalAlert}

/-- An alert comes from one of the rules. -/
private theorem mem_alertRules (h : alert ∈ (deriveOperationalAlerts config snapshot).alerts) :
    alert ∈ (alertRules config snapshot).map (·.2) := by
  have hactive : alert ∈ activeAlerts config snapshot := List.mem_mergeSort.mp h
  obtain ⟨rule, hrule, rfl⟩ := List.mem_map.mp hactive
  exact List.mem_map_of_mem (List.mem_filter.mp hrule).1

/-- There is one alert of each kind. -/
private theorem alert_eq_of_kind {other : OperationalAlert}
    (h : alert ∈ (alertRules config snapshot).map (·.2))
    (hother : other ∈ (alertRules config snapshot).map (·.2)) (hkind : alert.kind = other.kind) :
    alert = other := by
  have hnodup : (((alertRules config snapshot).map (·.2)).map (·.kind)).Nodup := by
    rw [List.map_map]
    exact alertRules_nodup config snapshot
  exact List.inj_on_of_nodup_map hnodup h hother hkind

/-- The alert of unchanged rows is the same as long as it reports the same number of seconds. -/
theorem alert_eq_of_seconds {now now' : Int} {alert' : OperationalAlert}
    (h : alert ∈ (deriveOperationalAlerts config (w.snapshot config now)).alerts)
    (h' : alert' ∈ (deriveOperationalAlerts config (w.snapshot config now')).alerts)
    (hkind : alert'.kind = alert.kind)
    (hseconds : reportedSeconds config w now' alert.kind =
      reportedSeconds config w now alert.kind) :
    alert' = alert := by
  have hrule' := mem_alertRules h'
  -- the rules have different kinds, so both alerts come from one rule
  have hsame (other : OperationalAlert)
      (hother : other ∈ (alertRules config (w.snapshot config now')).map (·.2))
      (heq : other.kind = alert.kind) : alert' = other :=
    alert_eq_of_kind hrule' hother (hkind.trans heq.symm)
  have hrule := mem_alertRules h
  simp only [alertRules, List.map_cons, List.map_nil, List.mem_cons, List.not_mem_nil,
    or_false] at hrule
  -- four rules tell an age in seconds; the rest of what they tell is in the rows
  rcases hrule with rfl | rfl | rfl | rfl | rfl | rfl | rfl
  · exact hsame (usageIngestFailedJobsAlert (w.snapshot config now')) (by simp [alertRules]) rfl
  · exact hsame (usageIngestBacklogAlert (w.snapshot config now')) (by simp [alertRules]) rfl
  · rw [hsame (usageIngestWorkerStaleAlert (w.snapshot config now')) (by simp [alertRules]) rfl]
    have hequal : (w.snapshot config now').usageIngestLeaseSecondsUntilExpiry =
        (w.snapshot config now).usageIngestLeaseSecondsUntilExpiry := hseconds
    simp only [usageIngestWorkerStaleAlert, hequal]
    rfl
  · rw [hsame (usageIngestOldPendingJobAlert config (w.snapshot config now'))
      (by simp [alertRules]) rfl]
    have hequal : (w.snapshot config now').usageIngestOldestPendingAgeSeconds =
        (w.snapshot config now).usageIngestOldestPendingAgeSeconds := hseconds
    simp only [usageIngestOldPendingJobAlert, hequal]
  · rw [hsame (billingReconciliationStaleAlert (w.snapshot config now')) (by simp [alertRules]) rfl]
    have hequal : (w.snapshot config now').billingReconciliationLeaseSecondsUntilExpiry =
        (w.snapshot config now).billingReconciliationLeaseSecondsUntilExpiry := hseconds
    simp only [billingReconciliationStaleAlert, hequal]
    rfl
  · rw [hsame (billingOverageCollectionStaleAlert (w.snapshot config now'))
      (by simp [alertRules]) rfl]
    have hequal : (w.snapshot config now').billingOverageCollectionLeaseSecondsUntilExpiry =
        (w.snapshot config now).billingOverageCollectionLeaseSecondsUntilExpiry := hseconds
    simp only [billingOverageCollectionStaleAlert, hequal]
    rfl
  · exact hsame (subscriptionsPastDueHighAlert (w.snapshot config now')) (by simp [alertRules]) rfl

end Alerts

/-! ### Runs of cycles with unchanged rows -/

section Runs

variable (permits : AlertEnv → AlertWorld → Prop) (api : UrlApi) (sha256 : Text → String)
  (targets : List AlertDeliveryTarget) (cooldownSeconds : Nat) (monitoring : MonitoringConfig)

/-- Completed cycles from `w₀` on, latest first, at increasing times, in which `kind` is active of
    the rows of `w₀`. Between them only the rows of the targets have to stay as they are. -/
inductive QuietRun (kind : AlertKind) (w₀ : AlertWorld) : AlertWorld → List CycleRecord → Prop
  | start : QuietRun kind w₀ w₀ []
  | cycle {w w' : AlertWorld} {history : List CycleRecord} {result : SyncResult}
      (hrun : QuietRun kind w₀ w history) (config : AlertDeliveryConfig)
      (hconfig : config.alertDeliveryTargets = .ok targets)
      (hcooldown : config.alertDeliveryCooldownSeconds = cooldownSeconds) (now : Int)
      (hlater : ∀ c ∈ history, c.now < now) (hrows : SameRows w₀ w)
      (hactive : kind ∈ (deriveOperationalAlerts monitoring (w.snapshot monitoring now)).kinds)
      (sent : List Notification)
      (hcycle : RunsWhere permits (syncOperationalAlerts api sha256 config
        (listOperationalAlerts monitoring now) now) w (.ok result) w')
      (hacquired : AcquiredLease w w') (hsent : w'.notifications = sent ++ w.notifications) :
      QuietRun kind w₀ w'
        (⟨now, deriveOperationalAlerts monitoring (w.snapshot monitoring now), sent⟩ :: history)
  | others {w w' : AlertWorld} {history : List CycleRecord} (hrun : QuietRun kind w₀ w history)
      (htargets : w'.targetStates = w.targetStates) : QuietRun kind w₀ w' history

/-- The instants at which the target has accepted a notification of the alert, latest first. -/
def deliveryTimes (p : AlertKind × String) (history : List CycleRecord) : List Int :=
  history.flatMap fun c => (c.sent.filter fun n => n.isFor p && n.delivered).map fun _ => c.now

variable {permits api sha256 targets cooldownSeconds monitoring} {kind : AlertKind}
  {w₀ : AlertWorld} {history : List CycleRecord} {now : Int} {p : AlertKind × String}

/-- A change of the delivery's own lease keeps the rows. -/
private theorem sameRows_set {ℓ : LeaseWorld}
    (h : ∀ name, name ≠ BackgroundJob.alertDelivery.leaseName →
    ℓ.leases.find? name = w.leases.leases.find? name) : SameRows w
      (AlertWorld.leasesLens.set ℓ w) := by
  refine ⟨rfl, rfl, fun job hjob => h job.leaseName ?_⟩
  simp only [List.mem_cons, List.not_mem_nil, or_false] at hjob
  rcases hjob with rfl | rfl | rfl <;> decide

/-- A cycle in such a run, of one alert and one target. -/
private theorem pairTold_of_monitoring {config : AlertDeliveryConfig}
    (hconfig : config.alertDeliveryTargets = .ok targets)
    (hcooldown : config.alertDeliveryCooldownSeconds = cooldownSeconds) {result : SyncResult}
    (hcycle : RunsWhere permits (syncOperationalAlerts api sha256 config
      (listOperationalAlerts monitoring now) now) w (.ok result) w')
        (hacquired : AcquiredLease w w')
    (p : AlertKind × String) :
    PairTold permits sha256 cooldownSeconds targets now
      (deriveOperationalAlerts monitoring (w.snapshot monitoring now)) p w w' := by
  obtain ⟨_, rfl, htold⟩ := (sat_syncOperationalAlerts_told hconfig (fun ℓ hothers =>
    (sameRows_set hothers).snapshot monitoring now ▸ sat_listOperationalAlerts monitoring now _) now
    p).runsWhere hcycle result rfl hacquired
  exact hcooldown ▸ htold

/-- The cycles see the rows of `w₀`. -/
theorem QuietRun.active (hrun : QuietRun permits api sha256 targets cooldownSeconds monitoring
    kind w₀ w
    history) : ∀ c ∈ history,
      c.active = deriveOperationalAlerts monitoring (w₀.snapshot monitoring c.now) ∧
        kind ∈ c.active.kinds := by
  induction hrun with
  | start => exact fun _ hc => nomatch hc
  | cycle _ _ _ _ now _ hrows hactive _ _ _ _ ih =>
    intro c hc
    rcases List.mem_cons.mp hc with rfl | hc
    · exact ⟨by rw [hrows.snapshot], hactive⟩
    · exact ih c hc
  | others _ _ ih => exact ih

/-- The alert is the same in all of them if it reports the same number of seconds. -/
theorem QuietRun.fingerprint (hrun : QuietRun permits api sha256 targets cooldownSeconds
    monitoring kind
    w₀ w history) (hseconds : ∀ c ∈ history, ∀ c' ∈ history,
      reportedSeconds monitoring w₀ c.now kind = reportedSeconds monitoring w₀ c'.now kind)
    (targetKey : String) :
    ∃ f, ∀ c ∈ history, (c.tick sha256 (kind, targetKey)).active = some f := by
  have hactive := hrun.active
  have htick (c : CycleRecord) (alert : OperationalAlert) (halert : alert ∈ c.active.alerts)
      (hkind : alert.kind = kind) :
      (c.tick sha256 (kind, targetKey)).active = some (buildFingerprint sha256 alert) := by
    rw [← hkind]
    exact congrArg (Option.map (buildFingerprint sha256)) (find?_active halert)
  -- every cycle derives the first one's alert again, with its fingerprint
  cases history with
  | nil => exact ⟨"", fun _ hc => nomatch hc⟩
  | cons first rest =>
    obtain ⟨hfirst, hkind⟩ := hactive first List.mem_cons_self
    obtain ⟨alert, halert, rfl⟩ := List.mem_map.mp hkind
    refine ⟨buildFingerprint sha256 alert, fun c hc => ?_⟩
    obtain ⟨hderived, hkind'⟩ := hactive c hc
    obtain ⟨alert', halert', hsame⟩ := List.mem_map.mp hkind'
    have hequal : alert' = alert := by
      rw [hfirst] at halert
      rw [hderived] at halert'
      exact alert_eq_of_seconds halert halert' hsame (hseconds c hc first List.mem_cons_self)
    exact htick c alert (hequal ▸ halert') rfl

/-- The database executes the statement that records a delivery of the alert. -/
def ExecutesRecords (kind : AlertKind) (env : AlertEnv) (_ : AlertWorld) : Prop :=
  ∀ targetKey, env.refuses (.markTargetDeliverySuccess kind targetKey) = none

/-- The cycles are a stretch of the notifier. -/
theorem QuietRun.stretch {target : AlertDeliveryTarget} (htarget : target ∈ targets)
    (hrun : QuietRun (ExecutesRecords kind) api sha256 targets cooldownSeconds monitoring kind w₀ w
      history) {f : String} (hf : ∀ c ∈ history, (c.tick sha256 (kind, target.key)).active =
        some f) :
    Reminder.Stretch (cooldownSeconds * 1000) f (history.map (·.tick sha256 (kind, target.key)))
      (w.memo (kind, target.key)) := by
  induction hrun with
  | start => exact .start _
  | cycle _ config hconfig hcooldown now _ _ hactive sent hcycle hacquired hsent ih =>
    obtain ⟨alert, halert, hkind⟩ := List.mem_map.mp hactive
    have htold := pairTold_of_monitoring hconfig hcooldown hcycle hacquired (alert.kind, target.key)
    have hstep := htold.step halert htarget hsent fun _ : True => fun env _ hexecutes =>
      hkind ▸ hexecutes target.key
    rw [hkind] at hstep
    exact .cycle (ih fun c hc => hf c (List.mem_cons_of_mem _ hc)) hstep (hf _ List.mem_cons_self)
  | others _ htargets ih =>
    rw [AlertWorld.memo, htargets]
    exact ih hf

/-- There is at most one notification in a cycle. -/
private theorem QuietRun.deliveryTimes {target : AlertDeliveryTarget} (htarget : target ∈ targets)
    (hrun : QuietRun permits api sha256 targets cooldownSeconds monitoring kind w₀ w history) :
    deliveryTimes (kind, target.key) history =
      Reminder.deliveries (history.map (·.tick sha256 (kind, target.key))) := by
  induction hrun with
  | start => rfl
  | @cycle w w' history result _ config hconfig hcooldown now _ _ hactive sent hcycle hacquired
    hsent ih =>
    obtain ⟨alert, halert, rfl⟩ := List.mem_map.mp hactive
    have htold := pairTold_of_monitoring hconfig hcooldown hcycle hacquired (alert.kind, target.key)
    obtain ⟨memo, own, houtcome, htells⟩ := htold.own alert halert target htarget rfl
    have hown := htells.filter_sent hsent
    -- the newest cycle's own notifications are what the reminder sends then
    rw [List.map_cons, Reminder.deliveries_cons, ← ih, HivePoint.deliveryTimes, List.flatMap_cons,
      ← HivePoint.deliveryTimes]
    have hdelivered : (sent.filter fun n => n.isFor (alert.kind, target.key) && n.delivered) =
        own.filter (·.delivered) := by
      rw [← hown, List.filter_filter]
      exact List.filter_congr fun n _ => Bool.and_comm _ _
    rw [tick_eq, hown]
    show ((sent.filter fun n => n.isFor (alert.kind, target.key) && n.delivered).map fun _ =>
        now) ++ _ = _
    rw [hdelivered]
    -- a quiet pair sends nothing, a due one what is recorded
    cases houtcome with
    | quiet hdue => rfl
    | notify n recorded _ _ _ _ _ =>
      cases hn : n.delivered <;> simp [hn]
  | others _ _ ih => exact ih

/-- As long as an accepted notification is recorded, and the alert reports the same number of
    seconds, a target accepts at most one in a cooldown. -/
theorem cooldown_spaces_deliveries
    (hrun : QuietRun (ExecutesRecords kind) api sha256 targets cooldownSeconds monitoring kind w₀ w
      history)
    (hseconds : ∀ c ∈ history, ∀ c' ∈ history,
      reportedSeconds monitoring w₀ c.now kind = reportedSeconds monitoring w₀ c'.now kind)
    {target : AlertDeliveryTarget} (htarget : target ∈ targets) (start : Int) :
    ((deliveryTimes (kind, target.key) history).filter fun t =>
      start ≤ t && t < start + cooldownSeconds * 1000).length ≤ 1 := by
  obtain ⟨f, hf⟩ := hrun.fingerprint hseconds target.key
  rw [hrun.deliveryTimes htarget]
  exact (hrun.stretch htarget hf).atMostOne (by omega) start

end Runs

/-! ### A sample -/

/-- One usage job, which has been waiting or has failed since 0. -/
def jobWorld (status : UsageIngestJobStatus) : AlertWorld :=
  { AlertWorld.empty with
    db := { World.empty with
      usageIngestJobs := .singleton ⟨"job", "sub", 0, "/v1", 1, status, 0, 0, none, none, 0⟩ } }

def sampleMonitoring : MonitoringConfig :=
  ⟨{ sampleConfig with paymentProvider := .mock }, sampleAlertConfig.leases⟩

/-- One cycle with the monitoring service; the target accepts the notifications. -/
def quietCycle (now : Int) (w : AlertWorld) : Except Err SyncResult × AlertWorld :=
  (syncOperationalAlerts sampleUrlApi String.ofList sampleAlertConfig
    (listOperationalAlerts sampleMonitoring now) now).exec (sampleAlertEnv true fun _ => none) w

/-- After 400 seconds. -/
def firstCycle (status : UsageIngestJobStatus) : AlertWorld :=
  (quietCycle 400000 (jobWorld status)).2

/-- After another minute. -/
def secondCycle (status : UsageIngestJobStatus) : AlertWorld :=
  (quietCycle 460000 (firstCycle status)).2

/-- The two cycles. -/
def twoCycles (status : UsageIngestJobStatus) (sent sent' : List Notification) : List CycleRecord :=
  [⟨460000, deriveOperationalAlerts sampleMonitoring
    ((firstCycle status).snapshot sampleMonitoring 460000),
      sent'⟩,
    ⟨400000, deriveOperationalAlerts sampleMonitoring
      ((jobWorld status).snapshot sampleMonitoring 400000),
      sent⟩]

/-- What is evaluated: both cycles end, with one delivery and with those of `sent'`, and nothing
    that is monitored changes. -/
def TwoCycles (kind : AlertKind) (status : UsageIngestJobStatus) (sent sent' : List Notification) :
    Prop :=
  ((quietCycle 400000 (jobWorld status)).1 = .ok ⟨⟨1, 0⟩, 0⟩ ∧
    (quietCycle 460000 (firstCycle status)).1 = .ok ⟨⟨sent'.length, 0⟩, 0⟩) ∧
  ((firstCycle status).leases.acquired.length ≠ (jobWorld status).leases.acquired.length ∧
    (secondCycle status).leases.acquired.length ≠ (firstCycle status).leases.acquired.length) ∧
  ((firstCycle status).notifications = sent ++ (jobWorld status).notifications ∧
    (secondCycle status).notifications = sent' ++ (firstCycle status).notifications) ∧
  ((firstCycle status).db.usageIngestJobs.rows = (jobWorld status).db.usageIngestJobs.rows ∧
    (firstCycle status).db.subscriptions.rows = (jobWorld status).db.subscriptions.rows ∧
    ∀ job ∈ [BackgroundJob.usageIngest, .reconciliation, .overageCollection],
      (firstCycle status).leases.leases.find? job.leaseName =
        (jobWorld status).leases.leases.find? job.leaseName) ∧
  kind ∈ (deriveOperationalAlerts sampleMonitoring
      ((jobWorld status).snapshot sampleMonitoring 400000)).kinds ∧
    kind ∈ (deriveOperationalAlerts sampleMonitoring
      ((firstCycle status).snapshot sampleMonitoring 460000)).kinds

/-- Two cycles over the same rows are a run. -/
private theorem quietRun_of_twoCycles {permits : AlertEnv → AlertWorld → Prop}
    (hpermits : ∀ w, permits (sampleAlertEnv true fun _ => none) w) {kind : AlertKind}
    {status : UsageIngestJobStatus} {sent sent' : List Notification}
    (h : TwoCycles kind status sent sent') :
    QuietRun permits sampleUrlApi String.ofList [⟨"webhook", "https://api.example/v1".toList⟩] 900
      sampleMonitoring kind (jobWorld status) (secondCycle status)
        (twoCycles status sent sent') := by
  obtain ⟨⟨hok, hok'⟩, ⟨hacquired, hacquired'⟩, ⟨hsent, hsent'⟩, ⟨hjobs, hsubscriptions, hleases⟩,
    hactive, hactive'⟩ := h
  have hcycle (now : Int) (w : AlertWorld) : RunsWhere permits (syncOperationalAlerts sampleUrlApi
      String.ofList sampleAlertConfig (listOperationalAlerts sampleMonitoring now) now) w
      (quietCycle now w).1 (quietCycle now w).2 := runsWhere_exec _ hpermits _ w
  have hfirst := hcycle 400000 (jobWorld status)
  have hsecond := hcycle 460000 (firstCycle status)
  rw [hok] at hfirst
  rw [hok'] at hsecond
  refine .cycle (.cycle .start sampleAlertConfig sampleAlertConfig_targets rfl 400000
    (fun _ hc => nomatch hc) (.refl _) hactive sent hfirst
      (acquiredLease_of_length hacquired) hsent)
    sampleAlertConfig sampleAlertConfig_targets rfl 460000 (fun c hc => ?_)
    ⟨Table.eq_of_rows hjobs, Table.eq_of_rows hsubscriptions, hleases⟩ hactive' sent' hsecond
    (acquiredLease_of_length hacquired') hsent'
  obtain rfl := List.mem_singleton.mp hc
  show (400000 : Int) < 460000
  decide

/-- A failed job is told of once in two cycles. -/
private theorem twoCycles_failed :
    TwoCycles usageIngestFailedJobsKind .failed (firstCycle .failed).notifications [] := by
  unfold TwoCycles
  decide +kernel

/-- The notification of the waiting job. -/
def waitingNotification (now : Int) : Notification :=
  ⟨"webhook", usageIngestOldPendingJobAlert sampleMonitoring
    ((jobWorld .pending).snapshot sampleMonitoring now), now, now, false, true⟩

/-- A waiting job is told of in both cycles. -/
private theorem twoCycles_pending :
    TwoCycles usageIngestOldPendingJobKind .pending [waitingNotification 400000]
      [waitingNotification 460000] := by
  unfold TwoCycles
  decide +kernel

/-- The alert of a failed job is delivered once. -/
theorem cooldown_spaces_deliveries_failed :
    ((deliveryTimes (usageIngestFailedJobsKind, "webhook")
      (twoCycles .failed (firstCycle .failed).notifications [])).filter fun t =>
        (0 : Int) ≤ t && t < 0 + (900 : Nat) * 1000).length ≤ 1 :=
  cooldown_spaces_deliveries (quietRun_of_twoCycles (fun _ _ => rfl) twoCycles_failed)
    (fun _ _ _ _ => rfl) List.mem_cons_self 0

/-- The message of the alert of a waiting job has another number of seconds in each cycle. -/
theorem not_cooldown_spaces_deliveries :
    ¬∀ (api : UrlApi) (sha256 : Text → String) (targets : List AlertDeliveryTarget)
        (cooldownSeconds : Nat) (monitoring : MonitoringConfig) (kind : AlertKind)
        (w₀ w : AlertWorld) (history : List CycleRecord) (target : AlertDeliveryTarget)
        (start : Int),
      QuietRun (fun _ _ => True) api sha256 targets cooldownSeconds monitoring kind w₀ w history →
      target ∈ targets →
      ((deliveryTimes (kind, target.key) history).filter fun t =>
        start ≤ t && t < start + cooldownSeconds * 1000).length ≤ 1 := by
  intro h
  have honce := h _ _ _ _ _ _ _ _ _ _ 0 (quietRun_of_twoCycles (fun _ => trivial) twoCycles_pending)
    List.mem_cons_self
  revert honce
  decide +kernel

end HivePoint
