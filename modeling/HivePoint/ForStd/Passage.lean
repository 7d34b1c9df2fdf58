import HivePoint.ForStd.Zoom

/-!
# One program among others

`Prog.pass` takes a program through a list of visits: its first statement meets the answer and the
state of the first visit, its next statement those of the second, and so on. What happens to the
state between two visits is left open. A `Passage` keeps the steps of the program itself.

## Key results

- `Prog.pass_bind_ok`: the passage of a sequence is that of its parts
- `Prog.EachStep.pass`: what every statement does is seen in every step of a passage
- `Prog.exists_step_zoom`: the steps of a program on a part of the state
-/

/-- The steps of a program, each from the state that it met to the one that it left, the result if
    the visits were enough for one, and the visits that were left over. -/
structure Passage (σ ι ε α : Type) where
  steps : List (σ × σ)
  result : Option (Except ε α)
  left : List (ι × σ)

namespace Prog

variable {σ ι ε α β : Type}

def pass : Prog σ ι ε α → List (ι × σ) → Passage σ ι ε α
  | .done r, visits => ⟨[], some r, visits⟩
  | .step _ _, [] => ⟨[], none, []⟩
  | .step act next, (i, s) :: visits =>
    { (next i s).pass visits with steps := (s, act i s) :: ((next i s).pass visits).steps }

section Pass

variable {p : Prog σ ι ε α} {visits : List (ι × σ)}

/-- A value needs no visit. -/
@[simp] theorem pass_pure (a : α) (visits : List (ι × σ)) :
    (pure a : Prog σ ι ε α).pass visits = ⟨[], some (.ok a), visits⟩ := rfl

/-- Neither does an error. -/
@[simp] theorem pass_throw (e : ε) (visits : List (ι × σ)) :
    (throw e : Prog σ ι ε α).pass visits = ⟨[], some (.error e), visits⟩ := rfl

/-- A statement that is not visited has no result. -/
@[simp] theorem pass_stmt_nil (f : ι → σ → Except ε α × σ) :
    (stmt f).pass [] = ⟨[], none, []⟩ := rfl

/-- A statement that is visited takes one step. -/
@[simp] theorem pass_stmt_cons (f : ι → σ → Except ε α × σ) (i : ι) (s : σ)
    (visits : List (ι × σ)) :
    (stmt f).pass ((i, s) :: visits) = ⟨[(s, (f i s).2)], some (f i s).1, visits⟩ := rfl

/-! ### Sequences -/

section Bind

variable {g : α → Prog σ ι ε β}

/-- After a statement that succeeds, the rest goes on from the next visit. -/
theorem result_stmt_bind_ok {f : ι → σ → Except ε α × σ} {i : ι} {s : σ} {a : α}
    (h : (f i s).1 = .ok a) :
    ((stmt f >>= g).pass ((i, s) :: visits)).result = ((g a).pass visits).result := by
  show ((Prog.bind (.done (f i s).1) g).pass visits).result = _
  rw [h]
  rfl

/-- After a statement that fails, the program has ended. -/
theorem result_stmt_bind_error {f : ι → σ → Except ε α × σ} {i : ι} {s : σ} {e : ε}
    (h : (f i s).1 = .error e) :
    ((stmt f >>= g).pass ((i, s) :: visits)).result = some (.error e) := by
  show ((Prog.bind (.done (f i s).1) g).pass visits).result = _
  rw [h]
  rfl

/-- The second part begins where the first has returned. -/
theorem pass_bind_ok {a : α} (h : (p.pass visits).result = some (.ok a)) :
    (p >>= g).pass visits =
      ⟨(p.pass visits).steps ++ ((g a).pass (p.pass visits).left).steps,
        ((g a).pass (p.pass visits).left).result, ((g a).pass (p.pass visits).left).left⟩ := by
  rw [bind_eq]
  induction p generalizing visits with
  | done r =>
    obtain rfl := Option.some.inj h
    rfl
  | step act next ih =>
    cases visits with
    | nil => cases h
    | cons visit visits =>
      have hrest := ih visit.1 visit.2 h
      simp only [Prog.bind, pass, hrest, List.cons_append]

/-- What the first part throws skips the second. -/
theorem pass_bind_error {e : ε} (h : (p.pass visits).result = some (.error e)) :
    (p >>= g).pass visits = ⟨(p.pass visits).steps, some (.error e), (p.pass visits).left⟩ := by
  rw [bind_eq]
  induction p generalizing visits with
  | done r =>
    obtain rfl := Option.some.inj h
    rfl
  | step act next ih =>
    cases visits with
    | nil => cases h
    | cons visit visits =>
      have hrest := ih visit.1 visit.2 h
      simp only [Prog.bind, pass, hrest]

/-- The visits may end in the first part. -/
theorem pass_bind_none (h : (p.pass visits).result = none) :
    (p >>= g).pass visits = ⟨(p.pass visits).steps, none, (p.pass visits).left⟩ := by
  rw [bind_eq]
  induction p generalizing visits with
  | done r => cases h
  | step act next ih =>
    cases visits with
    | nil => rfl
    | cons visit visits =>
      have hrest := ih visit.1 visit.2 h
      simp only [Prog.bind, pass, hrest]

end Bind

section TryCatch

variable {handler : ε → Prog σ ι ε α}

/-- A program that succeeds is not caught. -/
theorem pass_tryCatch_ok {a : α} (h : (p.pass visits).result = some (.ok a)) :
    (tryCatch p handler : Prog σ ι ε α).pass visits = p.pass visits := by
  rw [tryCatch_eq]
  induction p generalizing visits with
  | done r =>
    obtain rfl := Option.some.inj h
    rfl
  | step act next ih =>
    cases visits with
    | nil => cases h
    | cons visit visits =>
      have hrest := ih visit.1 visit.2 h
      simp only [Prog.tryCatch, pass, hrest]

/-- The handler begins where the program has thrown. -/
theorem pass_tryCatch_error {e : ε} (h : (p.pass visits).result = some (.error e)) :
    (tryCatch p handler : Prog σ ι ε α).pass visits =
      ⟨(p.pass visits).steps ++ ((handler e).pass (p.pass visits).left).steps,
        ((handler e).pass (p.pass visits).left).result,
        ((handler e).pass (p.pass visits).left).left⟩ := by
  rw [tryCatch_eq]
  -- induction on the program: a step is handed on, the end is caught
  induction p generalizing visits with
  | done r =>
    obtain rfl := Option.some.inj h
    rfl
  | step act next ih =>
    cases visits with
    | nil => cases h
    | cons visit visits =>
      have hrest := ih visit.1 visit.2 h
      simp only [Prog.tryCatch, pass, hrest, List.cons_append]

/-- A program that is not done is not caught. -/
theorem pass_tryCatch_none (h : (p.pass visits).result = none) :
    ((tryCatch p handler : Prog σ ι ε α).pass visits).result = none := by
  rw [tryCatch_eq]
  induction p generalizing visits with
  | done r => cases h
  | step act next ih =>
    cases visits with
    | nil => rfl
    | cons visit visits => exact ih visit.1 visit.2 h

end TryCatch

/-! ### Steps and results -/

/-- What every statement does to the state. -/
theorem EachStep.pass {R : σ → σ → Prop} (hp : p.EachStep R) :
    ∀ step ∈ (p.pass visits).steps, R step.1 step.2 := by
  induction p generalizing visits with
  | done r =>
    intro step hstep
    cases hstep
  | step act next ih =>
    intro step hstep
    cases visits with
    | nil => cases hstep
    | cons visit visits =>
      cases List.mem_cons.mp hstep with
      | inl hfirst => exact hfirst ▸ (hp visit.1 visit.2).1
      | inr hrest => exact ih visit.1 visit.2 (hp visit.1 visit.2).2 step hrest

end Pass

/-! ### Alone -/

/-- The visits of a program that is run alone. -/
def visitsAlone (i : ι) : Prog σ ι ε α → σ → List (ι × σ)
  | .done _, _ => []
  | .step act next, s => (i, s) :: (next i s).visitsAlone i (act i s)

/-- Its passage has the result of the run. -/
theorem result_visitsAlone (i : ι) (p : Prog σ ι ε α) (s : σ) :
    (p.pass (p.visitsAlone i s)).result = some (p.exec i s).1 := by
  induction p generalizing s with
  | done r => rfl
  | step act next ih => exact ih i s (act i s)

/-! ### On a part of the state -/

section Zoom

variable {τ κ ε' : Type} {l : Lens τ σ} {env : κ → ι} {err : ε → ε'} {p : Prog σ ι ε α}

/-- What a visit shows of the part. -/
def partVisit (l : Lens τ σ) (env : κ → ι) (visit : κ × τ) : ι × σ := (env visit.1, l.get visit.2)

/-- The result of a program on a part of the state is that of its visits to the part. -/
theorem result_zoom (visits : List (κ × τ)) :
    ((p.zoom l env err).pass visits).result =
      (p.pass (visits.map (partVisit l env))).result.map (Except.mapError err) := by
  induction p generalizing visits with
  | done r => rfl
  | step act next ih =>
    cases visits with
    | nil => rfl
    | cons visit visits => exact ih (env visit.1) (l.get visit.2) visits

/-- A step on the whole is a step on the part. -/
theorem exists_step_of_zoom {visits : List (κ × τ)} {step : τ × τ}
    (h : step ∈ ((p.zoom l env err).pass visits).steps) :
    ∃ s, (l.get step.1, s) ∈ (p.pass (visits.map (partVisit l env))).steps ∧
      step.2 = l.set s step.1 := by
  induction p generalizing visits with
  | done r => cases h
  | step act next ih =>
    cases visits with
    | nil => cases h
    | cons visit visits =>
      -- the step is the first one, or comes later
      cases List.mem_cons.mp h with
      | inl hfirst =>
        subst hfirst
        exact ⟨act (env visit.1) (l.get visit.2), List.mem_cons_self, rfl⟩
      | inr hrest =>
        obtain ⟨s, hs, hstep⟩ := ih (env visit.1) (l.get visit.2) hrest
        exact ⟨s, List.mem_cons_of_mem _ hs, hstep⟩

/-- Each step on the part is a step on the whole. -/
theorem exists_step_zoom {visits : List (κ × τ)} {step : σ × σ}
    (h : step ∈ (p.pass (visits.map (partVisit l env))).steps) :
    ∃ t, l.get t = step.1 ∧ (t, l.set step.2 t) ∈ ((p.zoom l env err).pass visits).steps := by
  induction p generalizing visits with
  | done r => cases h
  | step act next ih =>
    cases visits with
    | nil => cases h
    | cons visit visits =>
      -- the step is the first one, or comes later
      cases List.mem_cons.mp h with
      | inl hfirst =>
        subst hfirst
        exact ⟨visit.2, rfl, List.mem_cons_self⟩
      | inr hrest =>
        obtain ⟨t, ht, hstep⟩ := ih (env visit.1) (l.get visit.2) hrest
        exact ⟨t, ht, List.mem_cons_of_mem _ hstep⟩

end Zoom

end Prog
