import HivePoint.ForStd.RelyGuarantee

/-!
# Pools of programs

A `Pool` is a family of programs over one shared state. At each step the scheduler
lets one unfinished program send its next statement, or stops it there. Which
statements it lets through (row locks, for one) and what a stopped program leaves
behind are the `Scheduler`'s.

`Pool.Reach ok P₀ P` says that `P` is reached from `P₀` by steps that all meet `ok`.
`Pool.Compatible` collects what the programs have to promise each other, and
`Pool.Compatible.sound` concludes that every reachable program still satisfies its
contract. `Pool.Recall` is the same run, which remembers what each program has met last.
-/

/-- One step of a pool: program `t` sends its statement under the answer `i`, or stops. -/
inductive Choice (τ ι ε : Type) : Type where
  | run (t : τ) (i : ι)
  | stop (t : τ) (e : ε)

/-- The program that takes the step. -/
def Choice.thread {τ ι ε : Type} : Choice τ ι ε → τ
  | .run t _ | .stop t _ => t

/-- The scheduler of a pool. -/
structure Scheduler (τ σ ι : Type) where
  /-- May `t` send a statement that takes the state from the first to the second? -/
  permits : τ → ι → σ → σ → Bool
  /-- What is left of the state when `t` stops between two statements. -/
  cleanup : τ → σ → σ

/-- Every statement may be sent at any time, and a stopped program leaves the state alone. -/
def Scheduler.free {τ σ ι : Type} : Scheduler τ σ ι where
  permits _ _ _ _ := true
  cleanup _ s := s

/-- The same scheduler, with statements let through only if they take the state as `allowed`
    says. -/
def Scheduler.allowing {τ σ ι : Type} (S : Scheduler τ σ ι) (allowed : σ → σ → Prop)
    [DecidableRel allowed] : Scheduler τ σ ι where
  permits t i s s' := S.permits t i s s' && decide (allowed s s')
  cleanup := S.cleanup

/-- Programs over one shared state. -/
structure Pool (τ σ ι ε α : Type) where
  threads : τ → Prog σ ι ε α
  state : σ

namespace Pool

variable {τ σ ι ε α : Type} [DecidableEq τ]

/-- The pool after one step, if the step is possible. -/
def next (S : Scheduler τ σ ι) (P : Pool τ σ ι ε α) : Choice τ ι ε → Option (Pool τ σ ι ε α)
  | .run t i =>
    match P.threads t with
    | .done _ => none
    | .step act next =>
      if S.permits t i P.state (act i P.state) then
        some ⟨Function.update P.threads t (next i P.state), act i P.state⟩
      else none
  | .stop t e =>
    match P.threads t with
    | .done _ => none
    | .step _ _ => some ⟨Function.update P.threads t (.done (.error e)), S.cleanup t P.state⟩

/-- Take the steps of a schedule one after the other. -/
def runSchedule (S : Scheduler τ σ ι) : List (Choice τ ι ε) → Pool τ σ ι ε α →
    Option (Pool τ σ ι ε α)
  | [], P => some P
  | c :: cs, P => (P.next S c).bind (runSchedule S cs)

/-- `P` is reached from `P₀` by steps that all meet `ok`. -/
inductive Reach (S : Scheduler τ σ ι) (ok : Pool τ σ ι ε α → Choice τ ι ε → Prop)
    (P₀ : Pool τ σ ι ε α) : Pool τ σ ι ε α → Prop where
  | init : Reach S ok P₀ P₀
  | step {P P' : Pool τ σ ι ε α} {c : Choice τ ι ε} (h : Reach S ok P₀ P) (hok : ok P c)
      (hnext : P.next S c = some P') : Reach S ok P₀ P'

variable {S : Scheduler τ σ ι} {ok : Pool τ σ ι ε α → Choice τ ι ε → Prop}

/-- A run may be continued by another one. -/
theorem Reach.trans {P₀ P P' : Pool τ σ ι ε α} (h₁ : Reach S ok P₀ P) (h₂ : Reach S ok P P') :
    Reach S ok P₀ P' := by
  induction h₂ with
  | init => exact h₁
  | step _ hok hnext ih => exact ih.step hok hnext

/-- A schedule whose steps are all possible reaches its last pool. -/
theorem reach_runSchedule {P₀ P P' : Pool τ σ ι ε α} (cs : List (Choice τ ι ε))
    (h : Reach S (fun _ _ => True) P₀ P) (hrun : runSchedule S cs P = some P') :
    Reach S (fun _ _ => True) P₀ P' := by
  induction cs generalizing P with
  | nil =>
    obtain rfl := Option.some.inj hrun
    exact h
  | cons c cs ih =>
    obtain ⟨P₁, h₁, h₂⟩ := Option.bind_eq_some_iff.mp hrun
    exact ih (h.step trivial h₁) h₂

/-- Take the steps of a schedule while each of them takes the state as `allowed` says. -/
def runWhile (S : Scheduler τ σ ι) (allowed : σ → σ → Prop) [DecidableRel allowed] :
    List (Choice τ ι ε) → Pool τ σ ι ε α → Option (Pool τ σ ι ε α)
  | [], P => some P
  | c :: cs, P =>
    (P.next S c).bind fun P' =>
      if allowed P.state P'.state then runWhile S allowed cs P' else none

/-- Steps that are all allowed reach their last pool. -/
theorem reach_runWhile {allowed : σ → σ → Prop} [DecidableRel allowed] {P₀ P P' : Pool τ σ ι ε α}
    (cs : List (Choice τ ι ε))
    (h : Reach S (fun P c => ∀ P', P.next S c = some P' → allowed P.state P'.state) P₀ P)
    (hrun : runWhile S allowed cs P = some P') :
    Reach S (fun P c => ∀ P', P.next S c = some P' → allowed P.state P'.state) P₀ P' := by
  induction cs generalizing P with
  | nil =>
    obtain rfl := Option.some.inj hrun
    exact h
  | cons c cs ih =>
    obtain ⟨P₁, hnext, hrun⟩ := Option.bind_eq_some_iff.mp hrun
    split at hrun
    · rename_i hallowed
      refine ih (h.step (fun P₂ hnext₂ => ?_) hnext) hrun
      obtain rfl := Option.some.inj (hnext.symm.trans hnext₂)
      exact hallowed
    · exact nomatch hrun

/-- Take the steps of a schedule while each of them passes a check. -/
def runIf (S : Scheduler τ σ ι) (check : Pool τ σ ι ε α → Choice τ ι ε → Bool) :
    List (Choice τ ι ε) → Pool τ σ ι ε α → Option (Pool τ σ ι ε α)
  | [], P => some P
  | c :: cs, P => if check P c then (P.next S c).bind (runIf S check cs) else none

/-- Choices that pass a check for `ok` reach their last pool. -/
theorem reach_runIf {check : Pool τ σ ι ε α → Choice τ ι ε → Bool} {P₀ P P' : Pool τ σ ι ε α}
    (cs : List (Choice τ ι ε)) (hcheck : ∀ P, ∀ c ∈ cs, check P c = true → ok P c)
    (h : Reach S ok P₀ P) (hrun : runIf S check cs P = some P') : Reach S ok P₀ P' := by
  induction cs generalizing P with
  | nil =>
    obtain rfl := Option.some.inj hrun
    exact h
  | cons c cs ih =>
    rw [runIf] at hrun
    split at hrun
    · rename_i hpassed
      obtain ⟨P₁, hnext, hrun⟩ := Option.bind_eq_some_iff.mp hrun
      exact ih (fun P c' hc' => hcheck P c' (List.mem_cons_of_mem _ hc'))
        (h.step (hcheck P c List.mem_cons_self hpassed) hnext) hrun
    · exact nomatch hrun

/-- What a step by `t` is: its program was unfinished and went on with one statement. -/
theorem next_run_cases {P P' : Pool τ σ ι ε α} {t : τ} {i : ι} (h : P.next S (.run t i) = some P') :
    ∃ act nxt, P.threads t = .step act nxt ∧ S.permits t i P.state (act i P.state) = true ∧
      P' = ⟨Function.update P.threads t (nxt i P.state), act i P.state⟩ := by
  simp only [next] at h
  split at h
  · exact nomatch h
  · rename_i act nxt hthread
    split at h
    · rename_i hperm
      exact ⟨act, nxt, hthread, hperm, (Option.some.inj h).symm⟩
    · exact nomatch h

/-- What stopping `t` is: its program was unfinished and ends with the exception. -/
theorem next_stop_cases {P P' : Pool τ σ ι ε α} {t : τ} {e : ε}
    (h : P.next S (.stop t e) = some P') :
    (∃ act nxt, P.threads t = .step act nxt) ∧
      P' = ⟨Function.update P.threads t (.done (.error e)), S.cleanup t P.state⟩ := by
  simp only [next] at h
  split at h
  · exact nomatch h
  · rename_i act nxt hthread
    exact ⟨⟨act, nxt, hthread⟩, (Option.some.inj h).symm⟩

/-- What is reached by steps that are all allowed, the stricter scheduler reaches. -/
theorem Reach.allowing {allowed : σ → σ → Prop} [DecidableRel allowed] {P₀ P : Pool τ σ ι ε α}
    (h : Reach S (fun P c => ∀ P', P.next S c = some P' → allowed P.state P'.state) P₀ P) :
    Reach (S.allowing allowed) (fun _ _ => True) P₀ P := by
  induction h with
  | init => exact .init
  | @step P P' c _ hok hnext ih =>
    refine ih.step (c := c) trivial ?_
    have hallowed := hok P' hnext
    cases c with
    | run t i =>
      obtain ⟨act, nxt, hthread, hperm, rfl⟩ := next_run_cases hnext
      simp only [next, hthread, Scheduler.allowing, hperm, Bool.true_and, decide_eq_true hallowed,
        if_true]
    | stop t e => exact hnext

/-- A step changes no other program. -/
theorem next_threads_of_ne {P P' : Pool τ σ ι ε α} {c : Choice τ ι ε} (h : P.next S c = some P')
    {u : τ} (hu : u ≠ c.thread) : P'.threads u = P.threads u := by
  cases c with
  | run t i =>
    obtain ⟨_, _, -, -, rfl⟩ := next_run_cases h
    exact Function.update_of_ne hu ..
  | stop t e =>
    obtain ⟨-, rfl⟩ := next_stop_cases h
    exact Function.update_of_ne hu ..

/-- A schedule leaves the programs alone that it does not name. -/
theorem threads_runSchedule {P P' : Pool τ σ ι ε α} (cs : List (Choice τ ι ε)) {u : τ}
    (hu : ∀ c ∈ cs, u ≠ c.thread) (hrun : runSchedule S cs P = some P') :
    P'.threads u = P.threads u := by
  induction cs generalizing P with
  | nil => exact Option.some.inj hrun ▸ rfl
  | cons c cs ih =>
    obtain ⟨P₁, hnext, hrun⟩ := Option.bind_eq_some_iff.mp hrun
    rw [ih (fun c' hc' => hu c' (List.mem_cons_of_mem _ hc')) hrun,
      next_threads_of_ne hnext (hu c List.mem_cons_self)]

/-- What the statements of each program are at the start they are in every reachable pool. -/
theorem Reach.stepsOr {Q : τ → Prog σ ι ε α → Prop} {R : τ → σ → σ → Prop} {P₀ P : Pool τ σ ι ε α}
    (hstart : ∀ t, (P₀.threads t).StepsOr (Q t) (R t)) (hreach : Reach S ok P₀ P) (t : τ) :
    (P.threads t).StepsOr (Q t) (R t) := by
  induction hreach with
  | init => exact hstart t
  | @step P P' c hreach _ hnext ih =>
    by_cases ht : t = c.thread
    · subst ht
      cases c with
      | run t i =>
        obtain ⟨act, nxt, hthread, -, rfl⟩ := next_run_cases hnext
        simp only [Choice.thread] at ih ⊢
        rw [hthread] at ih
        simpa using (ih i P.state).2
      | stop t e =>
        obtain ⟨-, rfl⟩ := next_stop_cases hnext
        simp only [Choice.thread, Function.update_self]
        trivial
    · rw [next_threads_of_ne hnext ht]
      exact ih

/-- A statement takes the state as `R` says, or is sent by a program that meets `Q`. -/
theorem next_stepsOr {Q : Prog σ ι ε α → Prop} {R : σ → σ → Prop} {P P' : Pool τ σ ι ε α} {t : τ}
    {i : ι} (h : (P.threads t).StepsOr Q R) (hnext : P.next S (.run t i) = some P') :
    R P.state P'.state ∨ Q (P.threads t) := by
  obtain ⟨act, nxt, hthread, -, rfl⟩ := next_run_cases hnext
  rw [hthread] at h ⊢
  exact (h i P.state).1

/-- Invariants of the states that all statements keep, and what the programs send in such
    states, hold in every reachable pool. -/
theorem Reach.eachAct {J : σ → Prop} {A : τ → (ι → σ → σ) → Prop} {P₀ P : Pool τ σ ι ε α}
    (hkept : ∀ t act, A t act → ∀ i s, J s → J (act i s))
    (hcleanup : ∀ t s, J s → J (S.cleanup t s)) (hJ : J P₀.state)
    (hstart : ∀ t, (P₀.threads t).EachAct J (A t)) (hreach : Reach S ok P₀ P) :
    J P.state ∧ ∀ t, (P.threads t).EachAct J (A t) := by
  induction hreach with
  | init => exact ⟨hJ, hstart⟩
  | @step P P' c hreach _ hnext ih =>
    obtain ⟨hJ, hacts⟩ := ih
    cases c with
    | run t i =>
      obtain ⟨act, nxt, hthread, -, rfl⟩ := next_run_cases hnext
      have hact := hacts t
      rw [hthread] at hact
      refine ⟨hkept t act hact.1 i _ hJ, fun u => ?_⟩
      by_cases hu : u = t
      · subst hu
        simpa using hact.2 i P.state hJ
      · simpa [Function.update_of_ne hu] using hacts u
    | stop t e =>
      obtain ⟨-, rfl⟩ := next_stop_cases hnext
      refine ⟨hcleanup t _ hJ, fun u => ?_⟩
      by_cases hu : u = t
      · subst hu
        simp only [Function.update_self]
        trivial
      · simpa [Function.update_of_ne hu] using hacts u

/-- A step by `t` sends one of its statements. -/
theorem next_eachAct {J : σ → Prop} {A : (ι → σ → σ) → Prop} {P P' : Pool τ σ ι ε α} {t : τ} {i : ι}
    (h : (P.threads t).EachAct J A) (hnext : P.next S (.run t i) = some P') :
    ∃ act nxt, P.threads t = .step act nxt ∧ A act ∧ P'.state = act i P.state := by
  obtain ⟨act, nxt, hthread, -, rfl⟩ := next_run_cases hnext
  rw [hthread] at h
  exact ⟨act, nxt, hthread, h.1, rfl⟩

/-! ### Remembering what a program has met -/

/-- A run that remembers for each program the state that its latest statement met, and the first
    state for a program that has not sent one. -/
inductive Recall (S : Scheduler τ σ ι)
    (ok : Pool τ σ ι ε α → (τ → σ) → Choice τ ι ε → Prop) (P₀ : Pool τ σ ι ε α) :
    Pool τ σ ι ε α → (τ → σ) → Prop where
  | init : Recall S ok P₀ P₀ fun _ => P₀.state
  | step {P P' : Pool τ σ ι ε α} {met : τ → σ} {c : Choice τ ι ε} (h : Recall S ok P₀ P met)
      (hok : ok P met c) (hnext : P.next S c = some P') :
      Recall S ok P₀ P' (Function.update met c.thread P.state)

section Recall

variable {ok' : Pool τ σ ι ε α → (τ → σ) → Choice τ ι ε → Prop} {P₀ P P' : Pool τ σ ι ε α}
  {met : τ → σ} {c : Choice τ ι ε}

/-- It is a run. -/
theorem Recall.reach (h : Recall S ok' P₀ P met) : Reach S (fun _ _ => True) P₀ P := by
  induction h with
  | init => exact .init
  | step _ _ hnext ih => exact ih.step trivial hnext

/-- Every run can be remembered. -/
theorem Reach.recall (h : Reach S ok P₀ P) : ∃ met, Recall S (fun P _ c => ok P c) P₀ P met := by
  induction h with
  | init => exact ⟨_, .init⟩
  | step _ hok hnext ih =>
    obtain ⟨met, hrun⟩ := ih
    exact ⟨_, hrun.step hok hnext⟩

/-- What a program does after what it has met, it does in every reachable pool, as long as all
    programs keep `J`. -/
theorem Recall.eachStepAfter {J : σ → Prop} {R : τ → σ → σ → σ → Prop}
    (hkept : ∀ t m s s', J s → R t m s s' → J s') (hcleanup : ∀ t s, J s → J (S.cleanup t s))
    (hJ : J P₀.state) (hstart : ∀ t, (P₀.threads t).EachStepAfter J (R t) P₀.state)
    (h : Recall S ok' P₀ P met) : J P.state ∧ ∀ t, (P.threads t).EachStepAfter J (R t) (met t) := by
  induction h with
  | init => exact ⟨hJ, hstart⟩
  | @step P P' met c _ _ hnext ih =>
    obtain ⟨hJ, hsteps⟩ := ih
    cases c with
    | run t i =>
      obtain ⟨act, nxt, hthread, -, rfl⟩ := next_run_cases hnext
      have hstep := hsteps t
      rw [hthread] at hstep
      refine ⟨hkept t _ _ _ hJ (hstep i P.state hJ).1, fun u => ?_⟩
      by_cases hu : u = t
      · subst hu
        simpa [Choice.thread] using (hstep i P.state hJ).2
      · simpa [Choice.thread, Function.update_of_ne hu] using hsteps u
    | stop t e =>
      obtain ⟨-, rfl⟩ := next_stop_cases hnext
      refine ⟨hcleanup t _ hJ, fun u => ?_⟩
      by_cases hu : u = t
      · subst hu
        simp only [Function.update_self]
        trivial
      · simpa [Choice.thread, Function.update_of_ne hu] using hsteps u

/-- The same of one program. -/
theorem Recall.eachStepAfter_thread {R : σ → σ → σ → Prop} {t : τ}
    (hstart : (P₀.threads t).EachStepAfter (fun _ => True) R P₀.state)
    (h : Recall S ok' P₀ P met) : (P.threads t).EachStepAfter (fun _ => True) R (met t) := by
  have hall : ∀ u, (P₀.threads u).EachStepAfter (fun _ => True)
      (if u = t then R else fun _ _ _ => True) P₀.state := by
    intro u
    split
    · rename_i hu
      exact hu ▸ hstart
    · exact Prog.eachStepAfter_of_forall (fun _ _ _ => trivial) _
  have hthread := (h.eachStepAfter (J := fun _ => True) (fun _ _ _ _ _ _ => trivial)
    (fun _ _ _ => trivial) trivial hall).2 t
  rwa [if_pos rfl] at hthread

/-- What the next statement of a program does after what the one before it has met. -/
theorem next_eachStepAfter {J : σ → Prop} {R : σ → σ → σ → Prop} {t : τ} {i : ι} {m : σ}
    (hJ : J P.state) (h : (P.threads t).EachStepAfter J R m)
    (hnext : P.next S (.run t i) = some P') : R m P.state P'.state := by
  obtain ⟨act, nxt, hthread, -, rfl⟩ := next_run_cases hnext
  rw [hthread] at h
  exact (h i P.state hJ).1

/-- What the steps keep of each state holds between what a program has met and what is there
    now. -/
theorem Recall.since {K : σ → σ → Prop} (hrefl : ∀ s, K s s)
    (htrans : ∀ {s₁ s₂ s₃}, K s₁ s₂ → K s₂ s₃ → K s₁ s₃)
    (hstep : ∀ {P P' : Pool τ σ ι ε α} {c}, Reach S (fun _ _ => True) P₀ P →
      P.next S c = some P' → K P.state P'.state)
    (h : Recall S ok' P₀ P met) (t : τ) : K (met t) P.state := by
  induction h with
  | init => exact hrefl _
  | @step P P' met c h _ hnext ih =>
    have hstep := hstep h.reach hnext
    by_cases ht : t = c.thread
    · subst ht
      rwa [Function.update_self]
    · rw [Function.update_of_ne ht]
      exact htrans ih hstep

end Recall

/-! ### Running a schedule while it is remembered -/

/-- Take the steps of a schedule while each of them takes the state as `allowed` says after what
    its program has met. -/
def recallWhile (S : Scheduler τ σ ι) (allowed : σ → σ → σ → Prop) [∀ m, DecidableRel (allowed m)] :
    List (Choice τ ι ε) → Pool τ σ ι ε α × (τ → σ) → Option (Pool τ σ ι ε α × (τ → σ))
  | [], H => some H
  | c :: cs, H =>
    (H.1.next S c).bind fun P' =>
      if allowed (H.2 c.thread) H.1.state P'.state then
        recallWhile S allowed cs (P', Function.update H.2 c.thread H.1.state)
      else none

/-- Steps that are all allowed reach their last pool. -/
theorem recall_recallWhile {allowed : σ → σ → σ → Prop} [∀ m, DecidableRel (allowed m)]
    (P₀ : Pool τ σ ι ε α) {H H' : Pool τ σ ι ε α × (τ → σ)} (cs : List (Choice τ ι ε))
    (h : Recall S (fun P met c => ∀ P', P.next S c = some P' →
      allowed (met c.thread) P.state P'.state) P₀ H.1 H.2)
    (hrun : recallWhile S allowed cs H = some H') :
    Recall S (fun P met c => ∀ P', P.next S c = some P' →
      allowed (met c.thread) P.state P'.state) P₀ H'.1 H'.2 := by
  induction cs generalizing H with
  | nil =>
    obtain rfl := Option.some.inj hrun
    exact h
  | cons c cs ih =>
    obtain ⟨P₁, hnext, hrun⟩ := Option.bind_eq_some_iff.mp hrun
    split at hrun
    · rename_i hallowed
      refine ih (h.step (fun P₂ hnext₂ => ?_) hnext) hrun
      obtain rfl := Option.some.inj (hnext.symm.trans hnext₂)
      exact hallowed
    · cases hrun

/-! ### Counting steps -/

/-- How many steps of the schedule take the state as `p` says. -/
def countSteps (S : Scheduler τ σ ι) (p : σ → σ → Prop) [DecidableRel p] :
    List (Choice τ ι ε) → Pool τ σ ι ε α → Nat
  | [], _ => 0
  | c :: cs, P =>
    match P.next S c with
    | some P' => (if p P.state P'.state then 1 else 0) + countSteps S p cs P'
    | none => 0

/-- A flag that no step takes down is still up after a schedule. -/
private theorem keeps_runSchedule {flag : σ → Prop} {P₀ P P' : Pool τ σ ι ε α}
    (hkept : ∀ P P' : Pool τ σ ι ε α, ∀ c : Choice τ ι ε, Reach S (fun _ _ => True) P₀ P →
      P.next S c = some P' → flag P.state → flag P'.state)
    (hreach : Reach S (fun _ _ => True) P₀ P) (cs : List (Choice τ ι ε))
    (hrun : runSchedule S cs P = some P') (hP : flag P.state) : flag P'.state := by
  induction cs generalizing P with
  | nil =>
    obtain rfl := Option.some.inj hrun
    exact hP
  | cons c cs ih =>
    obtain ⟨P₁, hnext, hrun⟩ := Option.bind_eq_some_iff.mp hrun
    exact ih (hreach.step trivial hnext) hrun (hkept P P₁ c hreach hnext hP)

/-- If no step takes a flag down, and the steps that are as `p` says are those that raise it,
    then a schedule has one such step if it raises the flag, and none otherwise. -/
theorem countSteps_eq {p : σ → σ → Prop} [DecidableRel p] (flag : σ → Prop) [DecidablePred flag]
    {P₀ P P' : Pool τ σ ι ε α}
    (hkept : ∀ P P' : Pool τ σ ι ε α, ∀ c : Choice τ ι ε, Reach S (fun _ _ => True) P₀ P →
      P.next S c = some P' → flag P.state → flag P'.state)
    (hraised : ∀ P P' : Pool τ σ ι ε α, ∀ c : Choice τ ι ε, Reach S (fun _ _ => True) P₀ P →
      P.next S c = some P' → (p P.state P'.state ↔ ¬flag P.state ∧ flag P'.state))
    (hreach : Reach S (fun _ _ => True) P₀ P) (cs : List (Choice τ ι ε))
    (hrun : runSchedule S cs P = some P') :
    countSteps S p cs P = if ¬flag P.state ∧ flag P'.state then 1 else 0 := by
  induction cs generalizing P with
  | nil =>
    obtain rfl := Option.some.inj hrun
    rw [if_neg fun h => h.1 h.2]
    rfl
  | cons c cs ih =>
    obtain ⟨P₁, hnext, hrun⟩ := Option.bind_eq_some_iff.mp hrun
    have hrest := ih (hreach.step trivial hnext) hrun
    have hstep := hraised P P₁ c hreach hnext
    have hkeep := hkept P P₁ c hreach hnext
    have hend := keeps_runSchedule hkept (hreach.step trivial hnext) cs hrun
    simp only [countSteps, hnext, hrest, hstep]
    by_cases hP : flag P.state
    · -- up from the start: no step raises it
      simp only [hP, hkeep hP, not_true_eq_false, false_and, if_false, Nat.add_zero]
    · by_cases hP₁ : flag P₁.state
      · simp only [hP, hP₁, hend hP₁, not_true_eq_false, not_false_eq_true, false_and, true_and,
          if_true, if_false, Nat.add_zero]
      · simp only [hP, hP₁, not_false_eq_true, true_and, and_false, if_false, Nat.zero_add]

/-! ### Contracts that fit together -/

/-- `u` has sent its first statement and has not ended. -/
def Running (start : τ → Prog σ ι ε α) (P : Pool τ σ ι ε α) (u : τ) : Prop :=
  P.threads u ≠ start u ∧ ∀ r, P.threads u ≠ .done r

/-- The contracts `C` of the programs `start` fit together around the invariant `I`: each
    program starts in any state of the invariant and keeps it, and while the steps meet
    `ok` no step breaks the rely of a running program. -/
structure Compatible (S : Scheduler τ σ ι) (ok : Pool τ σ ι ε α → Choice τ ι ε → Prop)
    (start : τ → Prog σ ι ε α) (C : τ → Contract σ ι) (post : τ → Except ε α → σ → Prop)
    (I : σ → Prop) : Prop where
  start_sat : ∀ t s, I s → (start t).Sat (C t) (post t) s
  permits : ∀ t i s s', S.permits t i s s' = true → (C t).permits i s s'
  guar_inv : ∀ t s s', I s → (C t).guar s s' → I s'
  guar_rely : ∀ P t i s', I P.state → ok P (.run t i) → S.permits t i P.state s' = true →
    (C t).guar P.state s' → ∀ u, u ≠ t → Running start P u → (C u).rely P.state s'
  stop_inv : ∀ t s, I s → I (S.cleanup t s)
  stop_rely : ∀ P t e, I P.state → ok P (.stop t e) → ∀ u, u ≠ t → Running start P u →
    (C u).rely P.state (S.cleanup t P.state)

/-- Every program has not started, has ended, or still satisfies its contract. -/
structure Sound (start : τ → Prog σ ι ε α) (C : τ → Contract σ ι)
    (post : τ → Except ε α → σ → Prop) (I : σ → Prop) (P : Pool τ σ ι ε α) : Prop where
  inv : I P.state
  sat : ∀ t, P.threads t = start t ∨ (∃ r, P.threads t = .done r) ∨
    (P.threads t).Sat (C t) (post t) P.state

section Rule

variable {start : τ → Prog σ ι ε α} {C : τ → Contract σ ι} {post : τ → Except ε α → σ → Prop}
  {I : σ → Prop}

omit [DecidableEq τ] in
/-- A program that is about to send a statement satisfies its contract. -/
private theorem Sound.sat_of_step (hc : Compatible S ok start C post I) {P : Pool τ σ ι ε α}
    (hs : Sound start C post I P) {t : τ} {act : ι → σ → σ} {nxt : ι → σ → Prog σ ι ε α}
    (hthread : P.threads t = .step act nxt) :
    Prog.Sat (C t) (post t) (.step act nxt) P.state := by
  rcases hs.sat t with h | ⟨r, h⟩ | h
  · rw [← hthread, h]
    exact hc.start_sat t _ hs.inv
  · rw [hthread] at h
    exact nomatch h
  · rwa [hthread] at h

omit [DecidableEq τ] in
/-- Interference: a step of another program that keeps the rely keeps the contract. -/
private theorem Sound.sat_other {P : Pool τ σ ι ε α} (hs : Sound start C post I P) {s' : σ} {u : τ}
    (hrely : Running start P u → (C u).rely P.state s') :
    P.threads u = start u ∨ (∃ r, P.threads u = .done r) ∨ (P.threads u).Sat (C u) (post u) s' := by
  by_cases hrun : Running start P u
  · rcases hs.sat u with h | h | h
    · exact .inl h
    · exact .inr (.inl h)
    · cases hthread : P.threads u with
      | done r => exact .inr (.inl ⟨r, rfl⟩)
      | step act nxt =>
        rw [hthread] at h
        exact .inr (.inr (h.interfere (hrely hrun)))
  · simp only [Running, ne_eq, not_and, not_forall, not_not] at hrun
    by_cases hst : P.threads u = start u
    · exact .inl hst
    · exact .inr (.inl (hrun hst))

/-- One step keeps a pool sound. -/
theorem Sound.next (hc : Compatible S ok start C post I) {P P' : Pool τ σ ι ε α}
    (hs : Sound start C post I P) {c : Choice τ ι ε} (hok : ok P c) (hnext : P.next S c = some P') :
    Sound start C post I P' := by
  cases c with
  | run t i =>
    obtain ⟨act, nxt, hthread, hperm, rfl⟩ := next_run_cases hnext
    have hsat := hs.sat_of_step hc hthread P.state ((C t).rely_refl _) i (hc.permits _ _ _ _ hperm)
    refine ⟨hc.guar_inv t _ _ hs.inv hsat.1, fun u => ?_⟩
    by_cases hu : u = t
    · subst hu
      exact .inr (.inr (by simpa using hsat.2))
    · simpa [Function.update_of_ne hu] using
        hs.sat_other fun hrun => hc.guar_rely P t i _ hs.inv hok hperm hsat.1 u hu hrun
  | stop t e =>
    obtain ⟨-, rfl⟩ := next_stop_cases hnext
    refine ⟨hc.stop_inv t _ hs.inv, fun u => ?_⟩
    by_cases hu : u = t
    · subst hu
      exact .inr (.inl ⟨.error e, by simp⟩)
    · simpa [Function.update_of_ne hu] using
        hs.sat_other fun hrun => hc.stop_rely P t e hs.inv hok u hu hrun

/-- Compatible contracts hold in every reachable pool. -/
theorem Compatible.sound (hc : Compatible S ok start C post I) {s₀ : σ} (h₀ : I s₀)
    {P : Pool τ σ ι ε α} (hreach : Reach S ok ⟨start, s₀⟩ P) : Sound start C post I P := by
  induction hreach with
  | init => exact ⟨h₀, fun _ => .inl rfl⟩
  | step _ hok hnext ih => exact ih.next hc hok hnext

/-- The statement that ends a program leaves the state in its postcondition. -/
theorem Compatible.post_of_finish (hc : Compatible S ok start C post I) {s₀ : σ} (h₀ : I s₀)
    {P P' : Pool τ σ ι ε α} (hreach : Reach S ok ⟨start, s₀⟩ P) {t : τ} {i : ι}
    (hnext : P.next S (.run t i) = some P') {r : Except ε α} (hr : P'.threads t = .done r) :
    post t r P'.state := by
  obtain ⟨act, nxt, hthread, hperm, rfl⟩ := next_run_cases hnext
  have hsat := (hc.sound h₀ hreach).sat_of_step hc hthread P.state ((C t).rely_refl _) i
    (hc.permits _ _ _ _ hperm)
  simp only [Function.update_self] at hr
  have hpost := hsat.2
  rw [hr] at hpost
  exact hpost

/-- Each statement that a program sends keeps its guarantee. -/
theorem Compatible.guar_of_next (hc : Compatible S ok start C post I) {s₀ : σ} (h₀ : I s₀)
    {P P' : Pool τ σ ι ε α} (hreach : Reach S ok ⟨start, s₀⟩ P) {t : τ} {i : ι}
    (hnext : P.next S (.run t i) = some P') : (C t).guar P.state P'.state := by
  obtain ⟨act, nxt, hthread, hperm, rfl⟩ := next_run_cases hnext
  exact ((hc.sound h₀ hreach).sat_of_step hc hthread P.state ((C t).rely_refl _) i
    (hc.permits _ _ _ _ hperm)).1

omit [DecidableEq τ] in
/-- Programs with one contract fit together if each of them may do what all rely on. -/
theorem Compatible.of_same {D : Contract σ ι}
    (hstart : ∀ t s, I s → (start t).Sat D (post t) s)
    (hpermits : ∀ t i s s', S.permits t i s s' = true → D.permits i s s')
    (hguar : ∀ s s', D.guar s s' → D.rely s s') (hinv : ∀ s s', I s → D.rely s s' → I s')
    (hcleanup : ∀ t s, D.rely s (S.cleanup t s)) :
    Compatible S ok start (fun _ => D) post I where
  start_sat := hstart
  permits := hpermits
  guar_inv := fun _ s s' hs h => hinv s s' hs (hguar s s' h)
  guar_rely := fun _ _ _ _ _ _ _ h _ _ _ => hguar _ _ h
  stop_inv := fun t s hs => hinv s _ hs (hcleanup t s)
  stop_rely := fun _ t _ _ _ _ _ _ => hcleanup t _

end Rule

end Pool
