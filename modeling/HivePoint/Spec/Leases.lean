import HivePoint.ForStd.Pool
import HivePoint.Native.BackgroundJobLease

/-!
# Leases of background jobs exclude each other

Any number of workers, each with an owner id of its own, run one cycle after the other and
try to acquire the lease of their job before each. They read one shared clock that does not
go back, and any time may pass between a read of the clock and the transaction after it.

## Key results

- `acquireLease_cases`: what an acquisition finds and leaves.
- `Kept.acquire`: it follows the acquisition before it, as `Grant.Follows` says.
- `leases_exclude`: after an acquisition no other worker acquires the lease before it has
  expired, by the clock that it has read.
-/

namespace HivePoint

open Prog Pool

/-! ### One transaction -/

/-- The row that the transaction has just read is still there for its `updateMany`. -/
private theorem updateManyLeases_of_find? {leases : Table BackgroundJobLease} {leaseName : String}
    {lease : BackgroundJobLease} (hfound : leases.find? leaseName = some lease)
    (ownerId : String) (expiresAt : Int) :
    updateManyLeases lease ownerId expiresAt leases =
      ((leases.update? leaseName fun row => { row with ownerId, expiresAt }).map (1, ·)).getD
        (0, leases) := by
  have hname : lease.name = leaseName := Table.key_of_find? hfound
  unfold updateManyLeases
  rw [hname, hfound]
  cases leases.update? leaseName fun row => { row with ownerId, expiresAt } <;> simp

/-- An acquisition is refused without effect. Or the lease is free, its owner's, or expired;
    then the owner has it until `expiresAt`, and no other lease changes. -/
theorem acquireLease_cases (leaseName leaseOwnerId : String) (now expiresAt : Int)
    (leases : Table BackgroundJobLease) :
    acquireLease leaseName leaseOwnerId now expiresAt leases = (false, leases) ∨
      ∃ leases', acquireLease leaseName leaseOwnerId now expiresAt leases = (true, leases') ∧
        (∀ row, leases.find? leaseName = some row →
          row.ownerId = leaseOwnerId ∨ row.expiresAt ≤ now) ∧
        ∀ name, leases'.find? name =
          if name = leaseName then some ⟨leaseName, leaseOwnerId, expiresAt⟩ else leases.find?
            name := by
  unfold acquireLease
  -- a new lease is inserted; an old one is taken over if it is the owner's or has expired
  cases hfound : leases.find? leaseName with
  | none =>
    dsimp only
    cases hinsert : leases.insert? ⟨leaseName, leaseOwnerId, expiresAt⟩ with
    | none => exact .inl rfl
    | some leases' =>
      exact .inr ⟨leases', rfl, fun _ h => (nomatch h), fun name =>
        Table.find?_insert? hinsert name⟩
  | some lease =>
    have hname : lease.name = leaseName := Table.key_of_find? hfound
    dsimp only
    split
    · exact .inl rfl
    · rename_i hfree
      have hfree' : lease.ownerId = leaseOwnerId ∨ lease.expiresAt ≤ now := by
        by_contra hheld
        obtain ⟨howner, hexpires⟩ := not_or.mp hheld
        exact hfree (by simp [howner, Int.not_le.mp hexpires])
      rw [updateManyLeases_of_find? hfound]
      cases hupdate : leases.update? leaseName fun row =>
          { row with ownerId := leaseOwnerId, expiresAt := expiresAt } with
      | none => exact .inl rfl
      | some leases' =>
        refine .inr ⟨leases', rfl, fun row hrow => ?_, fun name => ?_⟩
        · obtain rfl := Option.some.inj hrow
          exact hfree'
        · rw [Table.find?_update? hupdate fun _ => rfl, hfound]
          split
          · rw [Option.map_some, hname]
          · rfl

/-! ### The workers -/

/-- A worker process: its job, its configuration, and how many cycles it runs. -/
structure LeaseWorker where
  job : BackgroundJob
  config : LeaseConfig
  cycles : Nat

def LeaseWorker.duration (worker : LeaseWorker) : Int :=
  worker.job.getLeaseDurationMilliseconds worker.config

/-- Its cycles, one after the other; a cycle that throws is logged. -/
def LeaseWorker.run (worker : LeaseWorker) (leaseOwnerId : String) : LeaseOp Unit :=
  forEachCatching (fun _ => do let _ ← worker.job.tryAcquireLease worker.config leaseOwnerId)
    (List.replicate worker.cycles ())

/-- A worker's leases do not end before they start. -/
private theorem LeaseWorker.duration_nonneg (worker : LeaseWorker) : 0 ≤ worker.duration := by
  unfold LeaseWorker.duration BackgroundJob.getLeaseDurationMilliseconds
  omega

/-- The clock does not go back, whoever reads it. -/
def leaseScheduler : Scheduler String LeaseWorld LeaseEnv where
  permits _ _ w w' := w.clock ≤ w'.clock
  cleanup _ w := w

abbrev LeasePool := Pool String LeaseWorld LeaseEnv LeaseError Unit

/-- The workers, by their owner ids, before their first cycle. -/
def startWorkers (workers : String → LeaseWorker) (w : LeaseWorld) : LeasePool :=
  ⟨fun leaseOwnerId => (workers leaseOwnerId).run leaseOwnerId, w⟩

/-! ### The invariant -/

/-- The acquisitions of one lease, latest first. -/
def LeaseWorld.grants (w : LeaseWorld) (leaseName : String) : List (Grant String Int) :=
  (w.acquired.filter fun g => g.1 = leaseName).map (·.2)

/-- The acquisitions of one owner. -/
def LeaseWorld.grantsOf (w : LeaseWorld) (leaseOwnerId : String) :
    List (String × Grant String Int) :=
  w.acquired.filter fun g => g.2.owner = leaseOwnerId

/-- Each acquisition followed the one before it, and the latest one is on record. -/
structure Kept (workers : String → LeaseWorker) (w : LeaseWorld) : Prop where
  sampled : ∀ g ∈ w.acquired, g.2.start ≤ w.clock
  duration : ∀ g ∈ w.acquired, g.2.finish = g.2.start + (workers g.2.owner).duration
  ordered : ∀ leaseName, Grant.Ordered (w.grants leaseName)
  row : ∀ leaseName g, (w.grants leaseName).head? = some g → ∃ row,
    w.leases.find? leaseName = some row ∧ row.ownerId = g.owner ∧ row.expiresAt = g.finish

section Invariant

variable {workers : String → LeaseWorker} {w w' : LeaseWorld} {leaseOwnerId : String}

/-- The clock goes on. -/
theorem Kept.tick (h : Kept workers w) {now : Int} (hnow : w.clock ≤ now) :
    Kept workers { w with clock := now } :=
  ⟨fun g hg => (h.sampled g hg).trans hnow, h.duration, h.ordered, h.row⟩

/-- The acquisitions of one lease are among all of them. -/
private theorem LeaseWorld.mem_of_grants {leaseName : String} {g : Grant String Int}
    (h : g ∈ w.grants leaseName) : (leaseName, g) ∈ w.acquired := by
  obtain ⟨⟨name, g⟩, hg, rfl⟩ := List.mem_map.mp h
  obtain ⟨hmem, hname⟩ := List.mem_filter.mp hg
  obtain rfl : name = leaseName := of_decide_eq_true hname
  exact hmem

/-- What an acquisition adds follows what is on record, if the owner has read the clock after
    all its earlier acquisitions. -/
theorem Kept.acquire (h : Kept workers w) {leaseName : String} {now : Int}
    (hclock : now ≤ w.clock) (hown : ∀ g ∈ w.grantsOf leaseOwnerId, g.2.start ≤ now)
    {leases : Table BackgroundJobLease}
    (hfree : ∀ row, w.leases.find? leaseName = some row →
      row.ownerId = leaseOwnerId ∨ row.expiresAt ≤ now)
    (hleases : ∀ name, leases.find? name = if name = leaseName then
      some ⟨leaseName, leaseOwnerId, now + (workers leaseOwnerId).duration⟩
      else w.leases.find? name) :
    Kept workers { w with
      leases := leases
      acquired :=
        (leaseName, ⟨leaseOwnerId, now, now + (workers leaseOwnerId).duration⟩) ::
          w.acquired } := by
  have hduration := (workers leaseOwnerId).duration_nonneg
  have hgrants : ∀ name, LeaseWorld.grants { w with
      leases := leases
      acquired := (leaseName, ⟨leaseOwnerId, now, now + (workers leaseOwnerId).duration⟩) ::
        w.acquired } name =
      if name = leaseName then
        ⟨leaseOwnerId, now, now + (workers leaseOwnerId).duration⟩ :: w.grants leaseName
      else w.grants name := by
    intro name
    unfold LeaseWorld.grants
    by_cases hname : name = leaseName
    · subst hname
      simp
    · rw [if_neg hname, List.filter_cons_of_neg (by simpa using Ne.symm hname)]
  constructor
  · intro g hg
    rcases List.mem_cons.mp hg with rfl | hg
    · exact hclock
    · exact h.sampled g hg
  · intro g hg
    rcases List.mem_cons.mp hg with rfl | hg
    · rfl
    · exact h.duration g hg
  · intro name
    rw [hgrants]
    split
    · refine (h.ordered leaseName).cons (le_add_of_nonneg_right hduration) fun latest hlatest => ?_
      obtain ⟨row, hrow, howner, hfinish⟩ := h.row leaseName latest hlatest
      have hmem := LeaseWorld.mem_of_grants (List.mem_of_mem_head? hlatest)
      rcases hfree row hrow with hsame | hexpired
      · -- a renewal: the latest acquisition was the owner's own
        have hlatestOwner : latest.owner = leaseOwnerId := howner.symm.trans hsame
        have hstart := hown _ (List.mem_filter.mpr ⟨hmem, by simp [hlatestOwner]⟩)
        refine .inl ⟨hlatestOwner.symm, hstart, ?_⟩
        rw [h.duration _ hmem, hlatestOwner]
        exact Int.add_le_add_right hstart _
      · exact .inr (hfinish ▸ hexpired)
    · exact h.ordered name
  · intro name g hg
    rw [hgrants] at hg
    rw [hleases]
    split at hg
    · rename_i hname
      obtain rfl := Option.some.inj hg
      exact ⟨_, if_pos hname, rfl, rfl⟩
    · rename_i hname
      rw [if_neg hname]
      exact h.row name g hg

/-! ### The contracts -/

/-- While a worker waits, the others keep the invariant, the clock goes on, and only the
    worker itself adds acquisitions of its own. -/
def leaseContract (workers : String → LeaseWorker) (leaseOwnerId : String) :
    Contract LeaseWorld LeaseEnv where
  permits _ w w' := w.clock ≤ w'.clock
  rely w w' := w.clock ≤ w'.clock ∧ (Kept workers w → Kept workers w') ∧
    w'.grantsOf leaseOwnerId = w.grantsOf leaseOwnerId
  guar w w' := w.clock ≤ w'.clock ∧ (Kept workers w → Kept workers w') ∧
    ∀ other, other ≠ leaseOwnerId → w'.grantsOf other = w.grantsOf other
  rely_refl _ := ⟨le_rfl, id, rfl⟩
  rely_trans h₁ h₂ := ⟨h₁.1.trans h₂.1, h₂.2.1 ∘ h₁.2.1, h₂.2.2.trans h₁.2.2⟩

/-- An acquisition is its owner's. -/
private theorem LeaseWorld.grantsOf_cons (leases : Table BackgroundJobLease) (clock : Int)
    (acquired : List (String × Grant String Int)) {g : String × Grant String Int} {other : String}
    (hother : other ≠ g.2.owner) :
    LeaseWorld.grantsOf ⟨leases, clock, g :: acquired⟩ other =
      LeaseWorld.grantsOf ⟨leases, clock, acquired⟩ other :=
  List.filter_cons_of_neg (by simpa using Ne.symm hother)

/-- The transaction keeps the invariant, whatever was committed since the clock was read. -/
private theorem leaseTransaction_sat {now : Int} (leaseName : String) (hkept : Kept workers w)
    (hnow : now ≤ w.clock) (hown : ∀ g ∈ w.grantsOf leaseOwnerId, g.2.start ≤ now) :
    (leaseTransaction leaseName leaseOwnerId now (now + (workers leaseOwnerId).duration)).Sat
      (leaseContract workers leaseOwnerId) (fun _ w' => Kept workers w') w := by
  unfold leaseTransaction
  rw [sat_stmt]
  intro w₁ hrely env _
  obtain ⟨hclock, hkept₁, hgrants⟩ := hrely
  have hkept₁ := hkept₁ hkept
  -- the transaction fails, or it acquires a lease that was free
  cases env.transactionError with
  | some error => exact ⟨⟨le_rfl, id, fun _ _ => rfl⟩, hkept₁⟩
  | none =>
    dsimp only
    rcases acquireLease_cases leaseName leaseOwnerId now
      (now + (workers leaseOwnerId).duration) w₁.leases with heq | ⟨leases, heq, hfree, hleases⟩
    · rw [heq]
      exact ⟨⟨le_rfl, id, fun _ _ => rfl⟩, hkept₁⟩
    · rw [heq]
      have hacquired := hkept₁.acquire (hnow.trans hclock) (hgrants ▸ hown) hfree hleases
      exact ⟨⟨le_rfl, fun _ => hacquired, fun other hother =>
        LeaseWorld.grantsOf_cons leases w₁.clock w₁.acquired hother⟩, hacquired⟩

/-- One attempt keeps the invariant. -/
private theorem tryAcquireLease_sat (hkept : Kept workers w) :
    ((workers leaseOwnerId).job.tryAcquireLease (workers leaseOwnerId).config leaseOwnerId).Sat
      (leaseContract workers leaseOwnerId) (fun _ w' => Kept workers w') w := by
  unfold BackgroundJob.tryAcquireLease leaseClock
  rw [sat_bind, sat_stmt]
  intro w₁ hrely env hpermits
  have hkept₁ := hrely.2.1 hkept
  refine ⟨⟨hpermits, fun h => h.tick hpermits, fun _ _ => rfl⟩, ?_⟩
  -- what the worker has acquired so far was sampled before this instant
  have hown : ∀ g ∈ LeaseWorld.grantsOf { w₁ with clock := env.now } leaseOwnerId,
      g.2.start ≤ env.now := fun g hg =>
    (hkept₁.tick hpermits).sampled g (List.mem_of_mem_filter hg)
  dsimp only
  rw [sat_tryCatch]
  refine (leaseTransaction_sat _ (hkept₁.tick hpermits) le_rfl hown).mono fun r w' hw' => ?_
  cases r with
  | ok _ => exact hw'
  | error error =>
    dsimp only
    split <;> exact hw'

/-- A worker keeps the invariant, cycle after cycle. -/
theorem LeaseWorker.sat_run (hkept : Kept workers w) :
    ((workers leaseOwnerId).run leaseOwnerId).Sat (leaseContract workers leaseOwnerId)
      (fun _ w' => Kept workers w') w := by
  unfold LeaseWorker.run
  refine sat_forEachCatching hkept fun _ _ w' hw' => ?_
  rw [sat_bind]
  refine (tryAcquireLease_sat hw').mono fun r w'' hw'' => ?_
  cases r <;> exact hw''

/-- The workers' contracts fit together. -/
private theorem leaseContracts_compatible (workers : String → LeaseWorker) :
    Compatible leaseScheduler (fun _ _ => True) (fun t => (workers t).run t)
      (leaseContract workers) (fun _ _ w => Kept workers w) (Kept workers) where
  start_sat _ _ hkept := LeaseWorker.sat_run hkept
  permits _ _ w w' h := of_decide_eq_true (p := w.clock ≤ w'.clock) h
  guar_inv _ _ _ hkept hguar := hguar.2.1 hkept
  guar_rely _ _ _ _ _ _ _ hguar u hu _ := ⟨hguar.1, hguar.2.1, hguar.2.2 u hu⟩
  stop_inv _ _ h := h
  stop_rely _ _ _ _ _ _ _ _ := ⟨le_rfl, id, rfl⟩

end Invariant

/-! ### Mutual exclusion -/

/-- Before any worker has acquired a lease, whatever the table holds. -/
private theorem Kept.of_acquired_nil {workers : String → LeaseWorker} {w : LeaseWorld}
    (h : w.acquired = []) : Kept workers w := by
  have hgrants : ∀ leaseName, w.grants leaseName = [] := fun leaseName => by
    simp [LeaseWorld.grants, h]
  constructor
  · simp [h]
  · simp [h]
  · exact fun leaseName => hgrants leaseName ▸ Grant.Ordered.nil
  · intro leaseName g hg
    rw [hgrants] at hg
    exact nomatch hg

/-- Of any two acquisitions of a lease by different workers, the later one read the clock
    after the earlier one had expired. -/
theorem leases_exclude (workers : String → LeaseWorker) (leases : Table BackgroundJobLease)
    (clock : Int) {P : LeasePool}
    (hreach : Reach leaseScheduler (fun _ _ => True) (startWorkers workers ⟨leases, clock, []⟩) P)
    (leaseName : String) : (P.state.grants leaseName).Pairwise Grant.Excludes :=
  (((leaseContracts_compatible workers).sound (Kept.of_acquired_nil rfl) hreach).inv.ordered
    leaseName).excludes

/-! ### A takeover -/

def sampleLeaseWorker : LeaseWorker := ⟨.managedRetry, ⟨5, 60, 300, 20, 30, 60⟩, 2⟩

/-- `a` acquires the lease, `b` is refused half a minute later, and takes it over after a
    minute. -/
def leaseTakeover : List (Choice String LeaseEnv LeaseError) :=
  [.run "a" ⟨0, none⟩, .run "a" ⟨0, none⟩, .run "b" ⟨30000, none⟩, .run "b" ⟨30000, none⟩,
    .run "b" ⟨60000, none⟩, .run "b" ⟨60000, none⟩]

/-- An expired lease is taken over by another worker. -/
theorem leases_exclude_takeover : ∃ P,
    runSchedule leaseScheduler leaseTakeover
      (startWorkers (fun _ => sampleLeaseWorker) ⟨.empty, 0, []⟩) = some P ∧
    P.state.grants "billing:managed-retry" = [⟨"b", 60000, 120000⟩, ⟨"a", 0, 60000⟩] ∧
    (P.state.grants "billing:managed-retry").Pairwise Grant.Excludes := by
  obtain ⟨P, hP⟩ := Option.isSome_iff_exists.mp
    (show (runSchedule leaseScheduler leaseTakeover
      (startWorkers (fun _ => sampleLeaseWorker) ⟨.empty, 0, []⟩)).isSome by decide +kernel)
  have hgrants : (runSchedule leaseScheduler leaseTakeover
      (startWorkers (fun _ => sampleLeaseWorker) ⟨.empty, 0, []⟩)).map
        (·.state.grants "billing:managed-retry") =
      some [⟨"b", 60000, 120000⟩, ⟨"a", 0, 60000⟩] := by decide +kernel
  rw [hP] at hgrants
  exact ⟨P, hP, Option.some.inj hgrants, leases_exclude (fun _ => sampleLeaseWorker) .empty 0
    (reach_runSchedule _ .init hP) "billing:managed-retry"⟩

end HivePoint
