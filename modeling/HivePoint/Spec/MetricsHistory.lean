import HivePoint.ForStd.Pool
import HivePoint.Native.OperationalMetricsHistory
import HivePoint.Spec.Statements

/-!
# The metrics history keeps what is within its retention

Any number of instances of the backend capture snapshots, cycle after cycle, and may stop at any
statement; whatever else goes on leaves the points alone. They share a clock that does not go
back, and any time may pass between two statements. No deletion reaches a point that is within
the shortest retention among the instances, so a summary has no gap there.

## Key results

- `Retained.create`, `Retained.delete`: what the two statements that change the points keep.
- `retained_of_reach`: the invariant of every run.
- `getHistorySummary_complete`: a summary is in ascending order, shows only what was captured, and
  leaves out no point within the retention that is newer than one that it shows.
-/

namespace HivePoint

open Prog Pool

/-! ### Processes -/

/-- The points, and the clock of the cycles, stay as they are. -/
def LeavesPoints (w w' : HistoryWorld) : Prop :=
  w'.points = w.points ∧ w'.created = w.created ∧ w'.clock = w.clock

/-- A process that shares the database. -/
inductive HistoryProcess where
  /-- an instance of the service, and how many cycles it runs -/
  | service (config : MetricsHistoryConfig) (cycles : Nat)
  | other (op : HistoryOp Unit) (quiet : op.EachStep LeavesPoints)

def HistoryProcess.run (leaseOwnerId : String) : HistoryProcess → HistoryOp Unit
  | .service config cycles =>
    forEachCatching (fun _ => runScheduledCapture config leaseOwnerId) (List.replicate cycles ())
  | .other op _ => op

/-- Does the process keep points for at least so many days? -/
def HistoryProcess.Retains (days : Nat) : HistoryProcess → Prop
  | .service config _ => days ≤ config.operationalMetricsHistoryRetentionDays
  | .other _ _ => True

/-- The clock does not go back, whoever reads it. -/
def historyScheduler : Scheduler String HistoryWorld AlertEnv where
  permits _ _ w w' := w.clock ≤ w'.clock
  cleanup _ w := w

abbrev HistoryPool := Pool String HistoryWorld AlertEnv Err Unit

/-- The processes, by their ids, before their first statement. -/
def startHistory (processes : String → HistoryProcess) (w : HistoryWorld) : HistoryPool :=
  ⟨fun id => (processes id).run id, w⟩

/-! ### The invariant -/

/-- The first instant that is no further back than `days`. -/
def HistoryWorld.windowStart (days : Nat) (w : HistoryWorld) : Int := addUTCDays w.clock (-days)

/-- What is stored was captured, and what was captured is still stored as long as it is within
    `days`. -/
structure Retained (days : Nat) (w : HistoryWorld) : Prop where
  stored : ∀ p ∈ w.points.rows, p ∈ w.created
  sampled : ∀ p ∈ w.created, p.capturedAt ≤ w.clock
  kept : ∀ p ∈ w.created, w.windowStart days ≤ p.capturedAt → p ∈ w.points.rows

section Invariant

variable {days : Nat} {w w' : HistoryWorld}

/-- A deletion at an earlier instant, with a longer retention, deletes less. -/
private theorem retentionCutoff_le {config : MetricsHistoryConfig} {now : Int}
    (hnow : now ≤ w.clock) (hdays : days ≤ config.operationalMetricsHistoryRetentionDays) :
    config.retentionCutoff now ≤ w.windowStart days := by
  unfold MetricsHistoryConfig.retentionCutoff HistoryWorld.windowStart addUTCDays msPerDay msPerHour
    msPerMinute
  omega

/-- The window moves on with the clock. -/
private theorem windowStart_mono (hclock : w.clock ≤ w'.clock) :
    w.windowStart days ≤ w'.windowStart days := by
  unfold HistoryWorld.windowStart addUTCDays
  omega

/-- The window moves on as time passes. -/
theorem Retained.tick (h : Retained days w) {now : Int} (hnow : w.clock ≤ now) :
    Retained days { w with clock := now } := by
  refine ⟨h.stored, fun p hp => (h.sampled p hp).trans hnow, fun p hp hwindow => ?_⟩
  have hmono : w.windowStart days ≤ HistoryWorld.windowStart days { w with clock := now } :=
    windowStart_mono hnow
  exact h.kept p hp (hmono.trans hwindow)

/-- A point of now is in the window. -/
theorem Retained.create (h : Retained days w) {point : OperationalMetricsHistoryPoint}
    (hnow : point.capturedAt ≤ w.clock) {points : Table OperationalMetricsHistoryPoint}
    (hinsert : w.points.insert? point = some points) :
    Retained days { w with points := points, created := point :: w.created } := by
  have hrows : points.rows = w.points.rows ++ [point] := Table.ofRows?_eq_some hinsert
  refine ⟨fun p hp => ?_, fun p hp => ?_, fun p hp hwindow => ?_⟩
  · show p ∈ point :: w.created
    rw [hrows, List.mem_append, List.mem_singleton] at hp
    cases hp with
    | inl hp => exact List.mem_cons_of_mem _ (h.stored p hp)
    | inr hp => exact hp ▸ List.mem_cons_self
  · cases List.mem_cons.mp hp with
    | inl hp => exact hp ▸ hnow
    | inr hp => exact h.sampled p hp
  · show p ∈ points.rows
    rw [hrows, List.mem_append, List.mem_singleton]
    cases List.mem_cons.mp hp with
    | inl hp => exact .inr hp
    | inr hp => exact .inl (h.kept p hp hwindow)

/-- What is deleted has left the window. -/
theorem Retained.delete (h : Retained days w) {cutoff : Int}
    (hcutoff : cutoff ≤ w.windowStart days) :
    Retained days { w with points := w.points.deleteWhere (·.capturedAt < cutoff) } := by
  refine ⟨fun p hp => ?_, h.sampled, fun p hp hwindow => ?_⟩
  · exact h.stored p (List.mem_of_mem_filter hp)
  · refine List.mem_filter.mpr ⟨h.kept p hp hwindow, ?_⟩
    -- the point is within the window, so the deletion does not reach it
    have hwindow : w.windowStart days ≤ p.capturedAt := hwindow
    simp only [Bool.not_eq_true', decide_eq_false_iff_not, not_lt]
    omega

/-- The history stays retained while its points are untouched. -/
private theorem Retained.of_leavesPoints (h : Retained days w) (hsame : LeavesPoints w w') :
    Retained days w' := by
  obtain ⟨hpoints, hcreated, hclock⟩ := hsame
  have hwindow : w'.windowStart days = w.windowStart days := by
    unfold HistoryWorld.windowStart
    rw [hclock]
  constructor
  · rw [hpoints, hcreated]
    exact h.stored
  · rw [hcreated, hclock]
    exact h.sampled
  · rw [hpoints, hcreated, hwindow]
    exact h.kept

/-! ### The contracts -/

/-- The clock goes on, and the invariant is kept. -/
def KeepsHistory (days : Nat) (w w' : HistoryWorld) : Prop :=
  w.clock ≤ w'.clock ∧ (Retained days w → Retained days w')

def historyContract (days : Nat) : Contract HistoryWorld AlertEnv where
  permits _ w w' := w.clock ≤ w'.clock
  rely := KeepsHistory days
  guar := KeepsHistory days
  rely_refl _ := ⟨le_rfl, id⟩
  rely_trans h₁ h₂ := ⟨h₁.1.trans h₂.1, h₂.2 ∘ h₁.2⟩

/-- The invariant, with an instant that has passed. -/
structure RetainedSince (days : Nat) (now : Int) (w : HistoryWorld) : Prop where
  retained : Retained days w
  passed : now ≤ w.clock

/-- A retained history stays retained by steps that keep it. -/
theorem RetainedSince.mono {now : Int} (h : RetainedSince days now w)
    (hkeeps : KeepsHistory days w w') :
    RetainedSince days now w' :=
  ⟨hkeeps.2 h.retained, h.passed.trans hkeeps.1⟩

/-- Leaving the points alone keeps the history. -/
private theorem LeavesPoints.keepsHistory (h : LeavesPoints w w') : KeepsHistory days w w' :=
  ⟨le_of_eq h.2.2.symm, fun hretained => hretained.of_leavesPoints h⟩

/-- Statements that leave the points alone keep the invariant. -/
private theorem sat_of_leavesPoints {α : Type} {op : HistoryOp α} (hop : op.EachStep LeavesPoints)
    {now : Int} (h : RetainedSince days now w) :
    op.Sat (historyContract days) (fun _ w' => RetainedSince days now w') w := by
  refine hop.sat (fun _ _ hI hrely => hI.mono hrely) (fun s s' _ hI _ hstep => ?_) h
  have hkeeps : KeepsHistory days s s' := hstep.keepsHistory
  exact ⟨hkeeps, hI.mono hkeeps⟩

/-- The rest of monitoring leaves the points alone. -/
private theorem eachStep_onMonitored {α : Type} (op : AlertOp α) :
    (onMonitored op).EachStep LeavesPoints := by
  refine (eachStep_zoom HistoryWorld.monitoredLens id id op).mono fun s s' h => ?_
  obtain ⟨monitored, rfl⟩ := h
  exact ⟨rfl, rfl, rfl⟩

/-- A statement about the points keeps the invariant if what it does when it is executed does. -/
private theorem sat_historyStatement {α : Type} {now : Int}
    {f : AlertEnv → HistoryWorld → Except Err (α × HistoryWorld)}
    (hf : ∀ env s a s', RetainedSince days now s → f env s = .ok (a, s') →
      s'.clock = s.clock ∧ Retained days s') (h : RetainedSince days now w) :
    (historyStatement f).Sat (historyContract days) (fun _ w' => RetainedSince days now w') w := by
  rw [historyStatement, sat_stmt]
  intro s hrely env _
  have hs : RetainedSince days now s := h.mono hrely
  -- a refused statement leaves the history as it was
  have hrefused : KeepsHistory days s s ∧ RetainedSince days now s := ⟨⟨le_rfl, id⟩, hs⟩
  cases env.db.dbError with
  | some m => exact hrefused
  | none =>
    dsimp only
    cases hresult : f env s with
    | error e => exact hrefused
    | ok result =>
      obtain ⟨a, s'⟩ := result
      obtain ⟨hclock, hretained⟩ := hf env s a s' hs hresult
      exact ⟨⟨le_of_eq hclock.symm, fun _ => hretained⟩, hretained, hs.passed.trans
        (le_of_eq hclock.symm)⟩

/-! ### A cycle -/

/-- Adding a point keeps the history. -/
private theorem sat_createPoint {now : Int} (snapshot : OperationalMetricsSnapshot)
    (auditLogsLast24h : Nat) (h : RetainedSince days now w) :
    (createPoint now snapshot auditLogsLast24h).Sat (historyContract days)
      (fun _ w' => RetainedSince days now w') w := by
  refine sat_historyStatement (fun env s a s' hs hresult => ?_) h
  dsimp only at hresult
  split at hresult
  · rename_i points hinsert
    simp only [Except.ok.injEq, Prod.mk.injEq, true_and] at hresult
    subst hresult
    exact ⟨rfl, hs.retained.create hs.passed hinsert⟩
  · cases hresult

/-- Deleting points that left the window keeps the history. -/
private theorem sat_deletePointsBefore {config : MetricsHistoryConfig} {now : Int}
    (hdays : days ≤ config.operationalMetricsHistoryRetentionDays) (h : RetainedSince days now w) :
    (deletePointsBefore (config.retentionCutoff now)).Sat (historyContract days)
      (fun _ w' => RetainedSince days now w') w := by
  refine sat_historyStatement (fun env s a s' hs hresult => ?_) h
  simp only [Except.ok.injEq, Prod.mk.injEq] at hresult
  obtain ⟨-, rfl⟩ := hresult
  exact ⟨rfl, hs.retained.delete (retentionCutoff_le hs.passed hdays)⟩

/-- A cycle keeps the invariant, whatever happened since it read the clock. -/
private theorem sat_captureMetricsSnapshot {config : MetricsHistoryConfig} {now : Int}
    (hdays : days ≤ config.operationalMetricsHistoryRetentionDays) (leaseOwnerId : String)
    (h : RetainedSince days now w) :
    (captureMetricsSnapshot config leaseOwnerId now).Sat (historyContract days)
      (fun _ w' => RetainedSince days now w') w := by
  unfold captureMetricsSnapshot
  by_cases henabled : (!config.operationalMetricsHistoryEnabled) = true
  · rw [if_pos henabled]
    exact h
  · rw [if_neg henabled]
    refine sat_bind_inv (sat_of_leavesPoints (eachStep_onMonitored _) h) fun acquired w₁ h₁ => ?_
    by_cases hacquired : (!acquired) = true
    · rw [if_pos hacquired]
      exact h₁
    · rw [if_neg hacquired]
      refine sat_bind_inv (sat_of_leavesPoints (eachStep_onMonitored _) h₁)
        fun (snapshot, logs) w₂ h₂ => ?_
      refine sat_bind_inv (sat_createPoint snapshot logs h₂) fun _ w₃ h₃ => ?_
      exact sat_bind_inv (sat_deletePointsBefore hdays h₃) fun _ _ h₄ => h₄

/-- A scheduled capture keeps the history. -/
private theorem sat_runScheduledCapture {config : MetricsHistoryConfig}
    (hdays : days ≤ config.operationalMetricsHistoryRetentionDays) (leaseOwnerId : String)
    (h : Retained days w) :
    (runScheduledCapture config leaseOwnerId).Sat (historyContract days)
      (fun _ w' => Retained days w') w := by
  unfold runScheduledCapture historyClock
  rw [sat_bind, sat_stmt]
  intro s hrely env hpermits
  have hs := (hrely.2 h).tick hpermits
  refine ⟨⟨hpermits, fun hretained => hretained.tick hpermits⟩, ?_⟩
  have hsince : RetainedSince days env.db.now { s with clock := env.db.now } := ⟨hs, le_rfl⟩
  have hcycle := sat_captureMetricsSnapshot hdays leaseOwnerId hsince
  have hcaught := sat_tryCatch_inv
    (sat_bind_inv hcycle fun _ _ h' => (sat_pure (ε := Err) () _).mpr h')
    fun _ _ h' => (sat_pure (ε := Err) () _).mpr h'
  exact hcaught.mono fun _ _ h' => h'.retained

/-- Every process keeps the history. -/
theorem HistoryProcess.sat_run {process : HistoryProcess} (hdays : process.Retains days)
    (id : String) (h : Retained days w) :
    (process.run id).Sat (historyContract days) (fun _ w' => Retained days w') w := by
  cases process with
  | service config cycles =>
    exact sat_forEachCatching h fun _ _ _ h' => sat_runScheduledCapture hdays id h'
  | other op quiet =>
    have hsince : RetainedSince days w.clock w := ⟨h, le_rfl⟩
    exact (sat_of_leavesPoints quiet hsince).mono fun _ _ h' => h'.retained

/-! ### Every run -/

/-- The processes keep the history whatever the others do. -/
private theorem history_compatible {processes : String → HistoryProcess}
    (hdays : ∀ id, (processes id).Retains days) :
    Compatible historyScheduler (fun _ _ => True) (fun id => (processes id).run id)
      (fun _ => historyContract days) (fun _ _ w => Retained days w) (Retained days) :=
  .of_same (fun id _ h => HistoryProcess.sat_run (hdays id) id h)
    (fun _ _ w w' h => of_decide_eq_true (p := w.clock ≤ w'.clock) h) (fun _ _ h => h)
    (fun _ _ h hrely => hrely.2 h) fun _ _ => ⟨le_rfl, id⟩

/-- Every reachable history is retained. -/
theorem retained_of_reach {processes : String → HistoryProcess}
    (hdays : ∀ id, (processes id).Retains days) (hstart : Retained days w) {P : HistoryPool}
    (hreach : Reach historyScheduler (fun _ _ => True) (startHistory processes w) P) :
    Retained days P.state :=
  ((history_compatible hdays).sound hstart hreach).inv

end Invariant

/-! ### The summary -/

/-- What stands behind in a sorted list comes after what stands before. -/
private theorem le_of_mem_drop {α : Type} {key : α → Int} {l : List α} {n : Nat}
    (hsorted : l.Pairwise fun a b => key b ≤ key a) {a b : α} (ha : a ∈ l.drop n)
    (hb : b ∈ l.take n) : key a ≤ key b := by
  rw [← List.take_append_drop n l] at hsorted
  exact (List.pairwise_append.mp hsorted).2.2 b hb a ha

/-- The stored points, the latest first. -/
def HistoryWorld.latestFirst (w : HistoryWorld) : List OperationalMetricsHistoryPoint :=
  w.points.rows.mergeSort fun a b => b.capturedAt ≤ a.capturedAt

/-- The latest points come first. -/
private theorem HistoryWorld.pairwise_latestFirst (w : HistoryWorld) :
    w.latestFirst.Pairwise fun a b => b.capturedAt ≤ a.capturedAt := by
  have htrans : ∀ a b c : OperationalMetricsHistoryPoint,
      decide (b.capturedAt ≤ a.capturedAt) = true → decide (c.capturedAt ≤ b.capturedAt) = true →
        decide (c.capturedAt ≤ a.capturedAt) = true := by
    intro a b c hab hbc
    simp only [decide_eq_true_eq] at hab hbc ⊢
    omega
  have htotal : ∀ a b : OperationalMetricsHistoryPoint,
      (decide (b.capturedAt ≤ a.capturedAt) || decide (a.capturedAt ≤ b.capturedAt)) = true := by
    intro a b
    simp only [Bool.or_eq_true, decide_eq_true_eq]
    omega
  have hsorted := List.pairwise_mergeSort htrans htotal w.points.rows
  exact hsorted.imp fun h => of_decide_eq_true h

/-- What the summary reads. -/
private theorem getHistorySummary_eq_ok {config : MetricsHistoryConfig} {limit : Int}
    {env : AlertEnv} {w w' : HistoryWorld} {summary : OperationalMetricsHistorySummary}
    (h : (getHistorySummary config limit).exec env w = (.ok summary, w')) :
    summary.items = (w.latestFirst.take (summarySize limit)).reverse := by
  unfold getHistorySummary findLatestPoints historyStatement at h
  rw [exec_bind, exec_stmt] at h
  cases hrefused : env.db.dbError with
  | some m => simp [hrefused] at h
  | none =>
    simp only [hrefused, exec_pure, Prod.mk.injEq, Except.ok.injEq] at h
    rw [← h.1]
    rfl

/-- In every state that a run reaches, a summary is in ascending order and has at most 500 points,
    all of which were captured; and a captured point within the shortest retention is shown,
    unless the summary is full of points that are at least as new. -/
theorem getHistorySummary_complete {days : Nat} {processes : String → HistoryProcess}
    (hdays : ∀ id, (processes id).Retains days) {w : HistoryWorld} (hempty : w.created = [])
    (hpoints : w.points.rows = []) {P : HistoryPool}
    (hreach : Reach historyScheduler (fun _ _ => True) (startHistory processes w) P)
    {config : MetricsHistoryConfig} {limit : Int} {env : AlertEnv} {w' : HistoryWorld}
    {summary : OperationalMetricsHistorySummary}
    (hsummary : (getHistorySummary config limit).exec env P.state = (.ok summary, w')) :
    summary.items.Pairwise (fun a b => a.capturedAt ≤ b.capturedAt) ∧
    summary.items.length ≤ 500 ∧
    (∀ p ∈ summary.items, p ∈ P.state.created) ∧
    ∀ p ∈ P.state.created, P.state.windowStart days ≤ p.capturedAt →
      p ∈ summary.items ∨ (summary.items.length = summarySize limit ∧
        ∀ q ∈ summary.items, p.capturedAt ≤ q.capturedAt) := by
  have hstart : Retained days w := by
    constructor
    · rw [hpoints]
      exact fun p hp => absurd hp List.not_mem_nil
    · rw [hempty]
      exact fun p hp => absurd hp List.not_mem_nil
    · rw [hempty]
      exact fun p hp => absurd hp List.not_mem_nil
  have hretained := retained_of_reach hdays hstart hreach
  have hsorted := P.state.pairwise_latestFirst
  have hmem : ∀ p, p ∈ P.state.latestFirst ↔ p ∈ P.state.points.rows := fun p => List.mem_mergeSort
  rw [getHistorySummary_eq_ok hsummary]
  refine ⟨?_, ?_, fun p hp => ?_, fun p hp hwindow => ?_⟩
  · rw [List.pairwise_reverse]
    exact hsorted.sublist (List.take_sublist _ _)
  · rw [List.length_reverse, List.length_take]
    unfold summarySize
    omega
  · rw [List.mem_reverse] at hp
    exact hretained.stored p ((hmem p).mp (List.mem_of_mem_take hp))
  · have hstored := (hmem p).mpr (hretained.kept p hp hwindow)
    rw [← List.take_append_drop (summarySize limit) P.state.latestFirst, List.mem_append] at hstored
    cases hstored with
    | inl htake => exact .inl (List.mem_reverse.mpr htake)
    | inr hdrop =>
      -- the point stands behind the ones that are shown
      refine .inr ⟨?_, fun q hq => le_of_mem_drop hsorted hdrop (List.mem_reverse.mp hq)⟩
      have hpos := List.length_pos_of_mem hdrop
      rw [List.length_drop] at hpos
      rw [List.length_reverse, List.length_take]
      omega

/-! ### One instance -/

def sampleHistoryConfig : MetricsHistoryConfig :=
  ⟨⟨sampleConfig, ⟨5, 60, 300, 20, 30, 60⟩⟩, true, 60, 30⟩

def sampleHistoryEnv (now : Int) (uuid : Id) : AlertEnv where
  db := .available now uuid
  lease := ⟨now, none⟩
  net := { lookup := fun _ _ => none, remote := fun _ => none }
  refuses _ := none

def emptyHistory : HistoryWorld :=
  ⟨⟨.empty, ⟨.empty, 0, []⟩, .empty, .empty, .empty, []⟩, .empty, [], 0⟩

def sampleProcesses (_ : String) : HistoryProcess := .service sampleHistoryConfig 2

/-- Two cycles of one process, of twelve statements each. -/
def sampleCaptures : List (Choice String AlertEnv Err) :=
  List.replicate 12 (.run "a" (sampleHistoryEnv 5 "p")) ++
    List.replicate 12 (.run "a" (sampleHistoryEnv 8 "q"))

/-- Two captures are both in the summary, in their order. -/
theorem getHistorySummary_complete_two : ∃ P summary w',
    runSchedule historyScheduler sampleCaptures (startHistory sampleProcesses emptyHistory) =
      some P ∧
    (getHistorySummary sampleHistoryConfig 72).exec (sampleHistoryEnv 9 "r") P.state =
      (.ok summary, w') ∧
    summary.items.map (fun p => (p.id, p.capturedAt)) = [("p", 5), ("q", 8)] ∧
    summary.items.Pairwise (fun a b => a.capturedAt ≤ b.capturedAt) ∧
    ∀ p ∈ P.state.created, P.state.windowStart 30 ≤ p.capturedAt →
      p ∈ summary.items ∨ (summary.items.length = summarySize 72 ∧
        ∀ q ∈ summary.items, p.capturedAt ≤ q.capturedAt) := by
  obtain ⟨P, hP⟩ := Option.isSome_iff_exists.mp
    (show (runSchedule historyScheduler sampleCaptures
      (startHistory sampleProcesses emptyHistory)).isSome by decide +kernel)
  have hfound : (runSchedule historyScheduler sampleCaptures
      (startHistory sampleProcesses emptyHistory)).map (fun P =>
        (P.state.points.rows.map fun p => (p.id, p.capturedAt),
          ((getHistorySummary sampleHistoryConfig 72).exec (sampleHistoryEnv 9 "r")
            P.state).1.toOption.isSome)) = some ([("p", 5), ("q", 8)], true) := by
    decide +kernel
  rw [hP] at hfound
  obtain ⟨hrows, hsome⟩ := Prod.mk.inj (Option.some.inj hfound)
  obtain ⟨summary, hsummary⟩ := Option.isSome_iff_exists.mp hsome
  have hexec : (getHistorySummary sampleHistoryConfig 72).exec (sampleHistoryEnv 9 "r") P.state =
      (.ok summary, ((getHistorySummary sampleHistoryConfig 72).exec (sampleHistoryEnv 9 "r")
        P.state).2) := by
    refine Prod.ext ?_ rfl
    cases hresult : ((getHistorySummary sampleHistoryConfig 72).exec (sampleHistoryEnv 9 "r")
        P.state).1 with
    | error e =>
      rw [hresult] at hsummary
      cases hsummary
    | ok a =>
      rw [hresult] at hsummary
      exact congrArg Except.ok (Option.some.inj hsummary)
  have hcomplete := @getHistorySummary_complete 30 sampleProcesses (fun _ => le_refl 30)
    emptyHistory
    rfl rfl P (reach_runSchedule _ .init hP) sampleHistoryConfig 72 _ _ summary hexec
  -- the two points are sorted when they are read, and turned around afterwards
  have hperm := (P.state.points.rows.mergeSort_perm fun a b => b.capturedAt ≤ a.capturedAt).map
    fun p => (p.id, p.capturedAt)
  rw [hrows, List.perm_pair] at hperm
  have hsorted : (P.state.latestFirst.map fun p => (p.id, p.capturedAt)).Pairwise
      fun a b => b.2 ≤ a.2 := List.pairwise_map.mpr P.state.pairwise_latestFirst
  have hsize : P.state.latestFirst.take (summarySize 72) = P.state.latestFirst := by
    apply List.take_of_length_le
    have hlength := congrArg List.length hrows
    rw [List.length_map] at hlength
    rw [HistoryWorld.latestFirst, List.length_mergeSort, hlength]
    decide
  have hids : summary.items.map (fun p => (p.id, p.capturedAt)) = [("p", 5), ("q", 8)] := by
    rw [getHistorySummary_eq_ok hexec, hsize, List.map_reverse]
    cases hperm with
    | inl hasc =>
      rw [HistoryWorld.latestFirst, hasc] at hsorted
      simp at hsorted
    | inr hdesc =>
      rw [HistoryWorld.latestFirst, hdesc]
      rfl
  exact ⟨P, summary, _, hP, hexec, hids, hcomplete.1, hcomplete.2.2.2⟩

end HivePoint
