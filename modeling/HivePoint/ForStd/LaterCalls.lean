import HivePoint.ForStd.Pool

/-!
# Calls that begin later

Programs that all respect one relation `R` with each of their statements, and rely on nothing else
of each other (`Contract.mutual`), fit together from any state on (`Pool.Reach.mutual`): a run
takes its first state to its last as `R` says, and what a program has established when it ended,
if `R` keeps it, is there for the programs that begin later.
-/

/-- The contract of a program that respects `R`, among others that do. -/
def Contract.mutual {σ ι : Type} (R : σ → σ → Prop) (hrefl : ∀ s, R s s)
    (htrans : ∀ {s₁ s₂ s₃}, R s₁ s₂ → R s₂ s₃ → R s₁ s₃) : Contract σ ι where
  permits _ _ _ := True
  rely := R
  guar := R
  rely_refl := hrefl
  rely_trans := htrans

namespace Prog

variable {σ ι ε α : Type} {R : σ → σ → Prop} {hrefl : ∀ s, R s s}
  {htrans : ∀ {s₁ s₂ s₃}, R s₁ s₂ → R s₂ s₃ → R s₁ s₃} {p : Prog σ ι ε α}

/-- Statements that respect `R`, and what the program returns, next to what `R` keeps. -/
theorem EachStep.sat_mutual {I : σ → Prop} {B : α → Prop} {s : σ} (hp : p.EachStep R)
    (hB : p.Returns B) (hI : ∀ s s', R s s' → I s → I s') (hs : I s) :
    p.Sat (.mutual R hrefl htrans) (fun r s' => I s' ∧ ∀ a, r = .ok a → B a) s := by
  induction p generalizing s with
  | done r =>
    refine ⟨hs, fun a ha => ?_⟩
    rw [ha] at hB
    exact hB
  | step act next ih =>
    intro s' hrely i _
    have hkept := hI s s' hrely hs
    exact ⟨(hp i s').1, ih i s' (hp i s').2 (hB i s') (hI s' _ (hp i s').1 hkept)⟩

/-- Steps within a relation keep it, whatever the others do. -/
theorem EachStep.sat_respects {s : σ} (hp : p.EachStep R) :
    p.Sat (.mutual R hrefl htrans) (fun _ _ => True) s :=
  (hp.sat_mutual (returns_true p) (fun _ _ _ _ => trivial) (I := fun _ => True) trivial).mono
    fun _ _ _ => trivial

/-- What a program that has ended has ended with. -/
def result? : Prog σ ι ε α → Option (Except ε α)
  | .done r => some r
  | .step _ _ => none

/-- A program with a result is done. -/
theorem eq_done_of_result? {r : Except ε α} (h : p.result? = some r) : p = .done r := by
  cases p with
  | done r' => rw [Option.some.inj h]
  | step act next => cases h

end Prog

namespace Pool

variable {τ σ ι ε α : Type} [DecidableEq τ] {S : Scheduler τ σ ι}
  {ok : Pool τ σ ι ε α → Choice τ ι ε → Prop} {R : σ → σ → Prop} {hrefl : ∀ s, R s s}
  {htrans : ∀ {s₁ s₂ s₃}, R s₁ s₂ → R s₂ s₃ → R s₁ s₃} {post : τ → Except ε α → σ → Prop}

/-- What each statement of a program does, the rest of the program's statements do, too. -/
theorem Reach.eachStep {P₀ P : Pool τ σ ι ε α} {t : τ} (hstart : (P₀.threads t).EachStep R)
    (hreach : Reach S ok P₀ P) : (P.threads t).EachStep R := by
  induction hreach with
  | init => exact hstart
  | @step P P' c _ _ hnext ih =>
    by_cases ht : t = c.thread
    · subst ht
      cases c with
      | run t i =>
        obtain ⟨act, nxt, hthread, -, rfl⟩ := next_run_cases hnext
        simp only [Choice.thread] at ih ⊢
        rw [hthread] at ih
        simpa using (ih i P.state).2
      | stop t e =>
        obtain ⟨-, rfl⟩ := next_stop_cases hnext
        simp only [Choice.thread, Function.update_self]
        trivial
    · rw [next_threads_of_ne hnext ht]
      exact ih

/-- A schedule whose steps are allowed wherever they are taken. -/
theorem reach_runSchedule_of {P₀ P P' : Pool τ σ ι ε α} (cs : List (Choice τ ι ε))
    (hcs : ∀ c ∈ cs, ∀ P, ok P c) (h : Reach S ok P₀ P) (hrun : runSchedule S cs P = some P') :
    Reach S ok P₀ P' := by
  induction cs generalizing P with
  | nil =>
    obtain rfl := Option.some.inj hrun
    exact h
  | cons c cs ih =>
    obtain ⟨P₁, hnext, hrun⟩ := Option.bind_eq_some_iff.mp hrun
    exact ih (fun c' hc' => hcs c' (List.mem_cons_of_mem _ hc'))
      (h.step (hcs c List.mem_cons_self P) hnext) hrun

/-- A program that has ended sends nothing any more. -/
theorem next_thread_ne_done {P P' : Pool τ σ ι ε α} {c : Choice τ ι ε}
    (hnext : P.next S c = some P') (r : Except ε α) : P.threads c.thread ≠ .done r := by
  intro hdone
  cases c with
  | run t i =>
    obtain ⟨act, nxt, hthread, -⟩ := next_run_cases hnext
    have h := hthread.symm.trans hdone
    cases h
  | stop t e =>
    obtain ⟨⟨act, nxt, hthread⟩, -⟩ := next_stop_cases hnext
    have h := hthread.symm.trans hdone
    cases h

/-- A program that is done stays done. -/
theorem Reach.threads_of_done {P₀ P : Pool τ σ ι ε α} {t : τ} {r : Except ε α}
    (hdone : P₀.threads t = .done r) (hreach : Reach S ok P₀ P) : P.threads t = .done r := by
  induction hreach with
  | init => exact hdone
  | @step P P' c _ _ hnext ih =>
    by_cases ht : t = c.thread
    · exact absurd (ht ▸ ih) (next_thread_ne_done hnext r)
    · rw [next_threads_of_ne hnext ht]
      exact ih

/-- One step, of a program that respects `R`. -/
private theorem next_mutual {P P' : Pool τ σ ι ε α} {A : τ → Prop}
    (hstop : ∀ t s, R s (S.cleanup t s)) (hpost : ∀ t r s s', R s s' → post t r s → post t r s')
    (herror : ∀ t e s, post t (.error e) s)
    (hsat : ∀ t, A t → (P.threads t).Sat (.mutual R hrefl htrans) (post t) P.state)
    {c : Choice τ ι ε} (hc : A c.thread) (hnext : P.next S c = some P') :
    R P.state P'.state ∧
      ∀ t, A t → (P'.threads t).Sat (.mutual R hrefl htrans) (post t) P'.state := by
  -- the others' programs go on from the state after the step
  have hother : ∀ t s', A t → R P.state s' →
      (P.threads t).Sat (.mutual R hrefl htrans) (post t) s' := by
    intro t s' hA hR
    have ht := hsat t hA
    revert ht
    cases P.threads t with
    | done r => exact fun ht => hpost t r _ _ hR ht
    | step act nxt => exact fun ht => ht.interfere hR
  cases c with
  | run t i =>
    obtain ⟨act, nxt, hthread, -, rfl⟩ := next_run_cases hnext
    have ht := hsat t hc
    rw [hthread] at ht
    obtain ⟨hR, hrest⟩ := ht P.state (hrefl _) i trivial
    refine ⟨hR, fun u hu => ?_⟩
    by_cases hut : u = t
    · subst hut
      simpa using hrest
    · simpa [Function.update_of_ne hut] using hother u _ hu hR
  | stop t e =>
    obtain ⟨-, rfl⟩ := next_stop_cases hnext
    refine ⟨hstop t _, fun u hu => ?_⟩
    by_cases hut : u = t
    · subst hut
      simp only [Function.update_self]
      exact herror u e _
    · simpa [Function.update_of_ne hut] using hother u _ hu (hstop t _)

/-- In a run in which only programs of `A` take steps, and these respect `R`, they do so from the
    first state to the last and keep their postconditions from where they end. -/
theorem Reach.mutual {P₀ P : Pool τ σ ι ε α} {A : τ → Prop}
    (hA : ∀ {P P' : Pool τ σ ι ε α} {c}, ok P c → P.next S c = some P' → Reach S ok P₀ P →
      A c.thread)
    (hstop : ∀ t s, R s (S.cleanup t s))
    (hpost : ∀ t r s s', R s s' → post t r s → post t r s') (herror : ∀ t e s, post t (.error e) s)
    (hsat : ∀ t, A t → (P₀.threads t).Sat (.mutual R hrefl htrans) (post t) P₀.state)
    (hreach : Reach S ok P₀ P) :
    R P₀.state P.state ∧
      ∀ t, A t → (P.threads t).Sat (.mutual R hrefl htrans) (post t) P.state := by
  induction hreach with
  | init => exact ⟨hrefl _, hsat⟩
  | step hreach hok hnext ih =>
    obtain ⟨hR, hrest⟩ := next_mutual hstop hpost herror ih.2 (hA hok hnext hreach) hnext
    exact ⟨htrans ih.1 hR, hrest⟩

end Pool
