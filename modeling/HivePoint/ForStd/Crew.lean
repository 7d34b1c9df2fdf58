import HivePoint.ForStd.RelyGuarantee

/-!
# Crews of batch workers

A `BatchJob` is what a periodic background worker does in one cycle: a few queries,
each of which returns a batch of keys, and a `handle` program that is run for every
key of a batch, with its exceptions swallowed.

A `Crew` is any number of workers on one job over one shared state, interleaved
statement by statement. A worker may stop at any point and start a new cycle later,
and other processes may change the state by atomic events.

`Crew.Reach ok c₀ c` says that `c` is reached from `c₀` by moves that all meet `ok`.
-/

/-- The queries and the handler of a periodic worker. A query that throws ends the cycle. -/
structure BatchJob (κ σ ι ε : Type) where
  queries : List (ι → σ → Except ε (List κ))
  handle : κ → Prog σ ι ε Unit

/-- Where a worker is in its cycle: before its next key or query, or handling a key. -/
inductive Phase (κ σ ι ε : Type) where
  | between (keys : List κ) (queries : List (ι → σ → Except ε (List κ)))
  | handling (key : κ) (p : Prog σ ι ε Unit) (keys : List κ)
      (queries : List (ι → σ → Except ε (List κ)))

/-- One move of a crew: a worker goes on or stops, or another process acts. -/
inductive Move (ω β ι : Type) where
  | work (w : ω) (i : ι)
  | stop (w : ω)
  | event (b : β) (i : ι)

/-- The workers and the state they share. -/
structure Crew (ω κ σ ι ε : Type) where
  phase : ω → Phase κ σ ι ε
  state : σ

variable {ω κ σ ι ε β : Type}

/-! ### A cycle as a program -/

/-- The rest of a cycle, from its remaining queries. -/
def BatchJob.cycleFrom (job : BatchJob κ σ ι ε) :
    List (ι → σ → Except ε (List κ)) → Prog σ ι ε Unit
  | [] => pure ()
  | q :: qs => do
    let keys ← Prog.stmt fun i s => (q i s, s)
    Prog.forEachCatching job.handle keys
    job.cycleFrom qs

/-- One cycle of the worker. -/
def BatchJob.cycle (job : BatchJob κ σ ι ε) : Prog σ ι ε Unit := job.cycleFrom job.queries

section Cycle

variable {job : BatchJob κ σ ι ε}

/-- A cycle does what its handler does. -/
theorem BatchJob.eachStep_cycle {R : σ → σ → Prop} (hrefl : ∀ s, R s s)
    (h : ∀ k, (job.handle k).EachStep R) : job.cycle.EachStep R := by
  have hfrom : ∀ qs, (job.cycleFrom qs).EachStep R := by
    intro qs
    induction qs with
    | nil => trivial
    | cons q qs ih =>
      exact Prog.eachStep_bind (Prog.eachStep_stmt fun _ s => hrefl s) fun ks =>
        Prog.eachStep_bind (Prog.eachStep_forEachCatching fun k _ => h k) fun _ => ih
  exact hfrom job.queries

/-- A cycle's steps are those of its elements' handlers. -/
theorem BatchJob.eachStepAfter_cycle {J : σ → Prop} {R : σ → σ → σ → Prop}
    (hrefl : ∀ m s, R m s s) (h : ∀ k m, (job.handle k).EachStepAfter J R m) (m : σ) :
    job.cycle.EachStepAfter J R m := by
  have hfrom : ∀ qs m, (job.cycleFrom qs).EachStepAfter J R m := by
    intro qs
    induction qs with
    | nil => exact fun _ => trivial
    | cons q qs ih =>
      exact fun m => Prog.eachStepAfter_stmt_bind (fun _ s _ => hrefl m s) fun _ s ks _ _ =>
        Prog.eachStepAfter_bind (Prog.eachStepAfter_forEachCatching (fun k _ => h k) s)
          fun _ m => ih m
  exact hfrom job.queries m

/-- A cycle sends its queries, which change nothing, and what its handler sends. -/
theorem BatchJob.eachAct_cycle {J : σ → Prop} {A : (ι → σ → σ) → Prop} (hquery : A fun _ s => s)
    (h : ∀ k, (job.handle k).EachAct J A) : job.cycle.EachAct J A := by
  have hfrom : ∀ qs, (job.cycleFrom qs).EachAct J A := by
    intro qs
    induction qs with
    | nil => trivial
    | cons q qs ih =>
      exact Prog.eachAct_bind (Prog.eachAct_stmt hquery) fun ks =>
        Prog.eachAct_bind (Prog.eachAct_forEachCatching fun k _ => h k) fun _ => ih
  exact hfrom job.queries

/-- A cycle keeps what its handler keeps. -/
theorem BatchJob.sat_cycle {C : Contract σ ι} {I : σ → Prop}
    (hrely : ∀ s s', I s → C.rely s s' → I s') (hguar : ∀ s, I s → C.guar s s)
    (h : ∀ k s, I s → (job.handle k).Sat C (fun _ s' => I s') s) {s : σ} (hs : I s) :
    job.cycle.Sat C (fun _ s' => I s') s := by
  -- by induction on the queries: each answers with keys, whose handlers keep the invariant
  have hfrom : ∀ qs s, I s → (job.cycleFrom qs).Sat C (fun _ s' => I s') s := by
    intro qs
    induction qs with
    | nil => exact fun s hs => hs
    | cons q qs ih =>
      intro s hs
      rw [BatchJob.cycleFrom, Prog.sat_bind, Prog.sat_stmt]
      intro s' hs' i _
      have hI := hrely s s' hs hs'
      refine ⟨hguar s' hI, ?_⟩
      cases q i s' with
      | error e => exact hI
      | ok ks =>
        refine (Prog.sat_bind _ _ _ s').mpr ?_
        refine (Prog.sat_forEachCatching hI fun k _ s hs => h k s hs).mono fun r s₁ hs₁ => ?_
        cases r with
        | error e => exact hs₁
        | ok u => exact ih s₁ hs₁
  exact hfrom job.queries s hs

end Cycle

namespace Crew

/-- A worker outside its cycle. -/
def idle : Phase κ σ ι ε := .between [] []

/-- The crew in state `s` with no worker in its cycle. -/
def resting (s : σ) : Crew ω κ σ ι ε := ⟨fun _ => idle, s⟩

/-- What worker `w`'s next move makes of its phase and of the state. -/
def advance (job : BatchJob κ σ ι ε) (i : ι) (s : σ) : Phase κ σ ι ε → Phase κ σ ι ε × σ
  | .between [] [] => (.between [] job.queries, s)
  | .between [] (q :: qs) =>
    match q i s with
    | .ok keys => (.between keys qs, s)
    | .error _ => (idle, s)
  | .between (k :: ks) qs => (.handling k (job.handle k) ks qs, s)
  | .handling _ (.done _) ks qs => (.between ks qs, s)
  | .handling k (.step act next) ks qs => (.handling k (next i s) ks qs, act i s)

variable [DecidableEq ω]

/-- The crew after one move. -/
def next (job : BatchJob κ σ ι ε) (act : β → ι → σ → σ) (c : Crew ω κ σ ι ε) :
    Move ω β ι → Crew ω κ σ ι ε
  | .work w i =>
    let p := advance job i c.state (c.phase w)
    ⟨Function.update c.phase w p.1, p.2⟩
  | .stop w => ⟨Function.update c.phase w idle, c.state⟩
  | .event b i => ⟨c.phase, act b i c.state⟩

/-- The crew after a list of moves. -/
def runMoves (job : BatchJob κ σ ι ε) (act : β → ι → σ → σ) (c : Crew ω κ σ ι ε)
    (moves : List (Move ω β ι)) : Crew ω κ σ ι ε :=
  moves.foldl (next job act) c

section Next

variable {job : BatchJob κ σ ι ε} {act : β → ι → σ → σ} {c : Crew ω κ σ ι ε} {w w' : ω} {i : ι}

/-- A worker's move changes the state by its own advance. -/
@[simp] theorem next_work_state : (c.next job act (.work w i)).state =
    (advance job i c.state (c.phase w)).2 := rfl

/-- A worker's move changes its phase by its own advance. -/
@[simp] theorem next_work_phase : (c.next job act (.work w i)).phase w =
    (advance job i c.state (c.phase w)).1 := Function.update_self ..

/-- A worker's move leaves the others' phases. -/
theorem next_work_phase_of_ne (h : w' ≠ w) :
    (c.next job act (.work w i)).phase w' = c.phase w' := Function.update_of_ne h ..

/-- A worker that stops leaves the state as it is. -/
@[simp] theorem next_stop_state : (c.next job act (.stop w)).state = c.state := rfl

/-- A worker that stops is idle. -/
@[simp] theorem next_stop_phase : (c.next job act (.stop w)).phase w = idle :=
  Function.update_self ..

/-- A worker that stops leaves the others' phases. -/
theorem next_stop_phase_of_ne (h : w' ≠ w) :
    (c.next job act (.stop w)).phase w' = c.phase w' := Function.update_of_ne h ..

end Next

/-- `c` is reached from `c₀` by moves that all meet `ok`. -/
inductive Reach (job : BatchJob κ σ ι ε) (act : β → ι → σ → σ)
    (ok : Crew ω κ σ ι ε → Move ω β ι → Prop) (c₀ : Crew ω κ σ ι ε) : Crew ω κ σ ι ε → Prop where
  | init : Reach job act ok c₀ c₀
  | move {c : Crew ω κ σ ι ε} (h : Reach job act ok c₀ c) (m : Move ω β ι) (hok : ok c m) :
      Reach job act ok c₀ (c.next job act m)

variable {job : BatchJob κ σ ι ε} {act : β → ι → σ → σ}
  {ok : Crew ω κ σ ι ε → Move ω β ι → Prop} {c₀ c c' : Crew ω κ σ ι ε}

/-- What the first crew satisfies and every move keeps holds in every reached crew. -/
theorem Reach.induct {P : Crew ω κ σ ι ε → Prop} (hinit : P c₀)
    (hmove : ∀ c m, P c → ok c m → P (c.next job act m)) (h : Reach job act ok c₀ c) : P c := by
  induction h with
  | init => exact hinit
  | move _ m hok ih => exact hmove _ m ih hok

/-- A run may be continued by another one. -/
theorem Reach.trans (h₁ : Reach job act ok c₀ c) (h₂ : Reach job act ok c c') :
    Reach job act ok c₀ c' := by
  induction h₂ with
  | init => exact h₁
  | move _ m hok ih => exact ih.move m hok

/-- Any list of moves is a run without conditions. -/
theorem reach_runMoves (moves : List (Move ω β ι)) (c : Crew ω κ σ ι ε) :
    Reach job act (fun _ _ => True) c (c.runMoves job act moves) := by
  induction moves generalizing c with
  | nil => exact .init
  | cons m moves ih => exact (Reach.init.move m trivial).trans (ih _)

/-- Running a list of moves, none of which `check` may refuse. -/
def runIf (job : BatchJob κ σ ι ε) (act : β → ι → σ → σ)
    (check : Crew ω κ σ ι ε → Move ω β ι → Bool) (c : Crew ω κ σ ι ε) :
    List (Move ω β ι) → Option (Crew ω κ σ ι ε)
  | [] => some c
  | m :: moves => if check c m then runIf job act check (c.next job act m) moves else none

/-- A list of moves that a sufficient check lets through is a run. -/
theorem reach_runIf {check : Crew ω κ σ ι ε → Move ω β ι → Bool}
    (hcheck : ∀ c m, check c m = true → ok c m) {moves : List (Move ω β ι)}
    (h : c.runIf job act check moves = some c') : Reach job act ok c c' := by
  induction moves generalizing c with
  | nil =>
    obtain rfl := Option.some.inj h
    exact .init
  | cons m moves ih =>
    rw [runIf] at h
    split at h
    · rename_i hm
      exact (Reach.init.move m (hcheck c m hm)).trans (ih h)
    · cases h

end Crew

/-! ### What a worker's handler keeps -/

namespace Phase

/-- The worker is handling the key. -/
def Handles (k : κ) : Phase κ σ ι ε → Prop
  | .between _ _ => False
  | .handling k' _ _ _ => k' = k

/-- The handler that is being run keeps its contract and ends in `post`. -/
def Sat (C : Contract σ ι) (post : κ → Except ε Unit → σ → Prop) (s : σ) :
    Phase κ σ ι ε → Prop
  | .between _ _ => True
  | .handling k p _ _ => p.Sat C (post k) s

variable {C : Contract σ ι} {post : κ → Except ε Unit → σ → Prop} {s s' : σ} {φ : Phase κ σ ι ε}

/-- The others do not disturb it, if they do not disturb how it ends. -/
theorem Sat.interfere (h : φ.Sat C post s) (hrely : C.rely s s')
    (hpost : ∀ k r, post k r s → post k r s') : φ.Sat C post s' := by
  cases φ with
  | between keys queries => trivial
  | handling k p keys queries =>
    cases p with
    | done r => exact hpost k r h
    | step act next => exact Prog.Sat.interfere h hrely

/-- The worker's next move keeps its guarantee. What is left to show is the contract of a
    handler that begins. -/
theorem Sat.advance {job : BatchJob κ σ ι ε} {i : ι} (h : φ.Sat C post s) (hguar : C.guar s s)
    (hpermits : ∀ s', C.permits i s s')
    (hstart : ∀ k keys queries, φ = .between (k :: keys) queries →
      (job.handle k).Sat C (post k) s) :
    C.guar s (Crew.advance job i s φ).2 ∧
      (Crew.advance job i s φ).1.Sat C post (Crew.advance job i s φ).2 := by
  -- between two handlings the next one starts, inside one its next statement runs
  cases φ with
  | between keys queries =>
    cases keys with
    | cons k keys => exact ⟨hguar, hstart k keys queries rfl⟩
    | nil =>
      cases queries with
      | nil => exact ⟨hguar, trivial⟩
      | cons q queries =>
        rw [Crew.advance]
        cases q i s <;> exact ⟨hguar, trivial⟩
  | handling k p keys queries =>
    cases p with
    | done r => exact ⟨hguar, trivial⟩
    | step act next => exact h s (C.rely_refl s) i (hpermits _)

end Phase
