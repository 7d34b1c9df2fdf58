import Mathlib

/-!
# Programs over a shared state, one statement at a time

A `Prog σ ι ε α` is a program that talks to a shared state `σ` through atomic
statements. Each statement sees the state and one answer `ι` of its environment
(the clock, a remote reply, a failure), changes the state, and continues. The
program ends with a value or an exception of type `ε`.

The same program is read in several ways:

* `Prog.exec` runs it alone, every statement under one environment answer;
* `Prog.Runs` runs it alone, each statement under its own answer, and `Prog.RunsWhere` under an
  answer that the state permits;
* `Prog.feed` runs it alone under a list of answers, and stops when they run out;

`Prog.EachStep` says what each of its statements does to the state (`Prog.EachStepAfter` tells
which state the statement before it has met), `Prog.Returns` what it returns, and `RelyGuarantee`
interleaves its statements with those of other programs.
-/

/-- A program over `σ`: finished with a result, or about to send one statement. -/
inductive Prog (σ ι ε α : Type) : Type where
  | done (r : Except ε α)
  | step (act : ι → σ → σ) (next : ι → σ → Prog σ ι ε α)

namespace Prog

variable {σ ι ε α β γ : Type}

def isDone : Prog σ ι ε α → Bool
  | .done _ => true
  | .step _ _ => false

/-- A program has finished exactly when it is a result. -/
theorem isDone_iff {p : Prog σ ι ε α} : p.isDone = true ↔ ∃ r, p = .done r := by
  cases p <;> simp [isDone]

/-! ### Sequencing and exceptions -/

/-- Continue with `g` once `p` has returned; an exception of `p` skips `g`. -/
protected def bind : Prog σ ι ε α → (α → Prog σ ι ε β) → Prog σ ι ε β
  | .done (.ok a), g => g a
  | .done (.error e), _ => .done (.error e)
  | .step act next, g => .step act fun i s => (next i s).bind g

/-- Continue with `h` when `p` throws. -/
protected def tryCatch : Prog σ ι ε α → (ε → Prog σ ι ε α) → Prog σ ι ε α
  | .done (.ok a), _ => .done (.ok a)
  | .done (.error e), h => h e
  | .step act next, h => .step act fun i s => (next i s).tryCatch h

/-- One atomic statement, given by its result and its effect. -/
def stmt (f : ι → σ → Except ε α × σ) : Prog σ ι ε α :=
  .step (fun i s => (f i s).2) fun i s => .done (f i s).1

/-- The result of `p` as a value. -/
def attempt : Prog σ ι ε α → Prog σ ι ε (Except ε α)
  | .done r => .done (.ok r)
  | .step act next => .step act fun i s => (next i s).attempt

instance : Monad (Prog σ ι ε) where
  pure a := .done (.ok a)
  bind := Prog.bind

instance : MonadExceptOf ε (Prog σ ι ε) where
  throw e := .done (.error e)
  tryCatch := Prog.tryCatch

/-- Run `p` and `q`, also when `p` throws, and throw what the first of them has thrown. -/
def both (p q : Prog σ ι ε Unit) : Prog σ ι ε Unit :=
  p.attempt >>= fun r => q.attempt >>= fun r' => .done (r >>= fun _ => r')

/-- The monad's bind is `Prog.bind`. -/
theorem bind_eq (p : Prog σ ι ε α) (g : α → Prog σ ι ε β) : p >>= g = p.bind g := rfl

/-- The monad's `tryCatch` is `Prog.tryCatch`. -/
theorem tryCatch_eq (p : Prog σ ι ε α) (h : ε → Prog σ ι ε α) :
    (tryCatch p h : Prog σ ι ε α) = p.tryCatch h := rfl

instance : LawfulMonad (Prog σ ι ε) :=
  .mk' _
    (fun p => by
      change p.bind pure = p
      induction p with
      | done r => cases r <;> rfl
      | step act next ih => exact congrArg (Prog.step act) (funext fun i => funext fun s => ih i s))
    (fun _ _ => rfl)
    (fun p f g => by
      change (p.bind f).bind g = p.bind fun a => (f a).bind g
      induction p with
      | done r => cases r <;> rfl
      | step act next ih => exact congrArg (Prog.step act) (funext fun i => funext fun s => ih i s))

/-! ### Running alone under one environment answer -/

/-- Run `p` alone from `s`; every statement gets the answer `i`. -/
def exec (i : ι) : Prog σ ι ε α → σ → Except ε α × σ
  | .done r, s => (r, s)
  | .step act next, s => (next i s).exec i (act i s)

/-- Running a result leaves the state as it is. -/
@[simp] theorem exec_pure (i : ι) (a : α) (s : σ) :
    (pure a : Prog σ ι ε α).exec i s = (.ok a, s) := rfl

/-- Running an error leaves the state as it is. -/
@[simp] theorem exec_throw (i : ι) (e : ε) (s : σ) :
    (throw e : Prog σ ι ε α).exec i s = (.error e, s) := rfl

/-- Running a statement is its one step. -/
@[simp] theorem exec_stmt (i : ι) (f : ι → σ → Except ε α × σ) (s : σ) :
    (stmt f).exec i s = f i s := rfl

/-- What `>>=` does to a result: continue on success, pass an exception on. -/
@[simp] theorem exec_bind (i : ι) (p : Prog σ ι ε α) (g : α → Prog σ ι ε β) (s : σ) :
    (p >>= g).exec i s =
      match p.exec i s with
      | (.ok a, s') => (g a).exec i s'
      | (.error e, s') => (.error e, s') := by
  rw [bind_eq]
  induction p generalizing s with
  | done r => cases r <;> rfl
  | step act next ih => exact ih i s (act i s)

/-- The handler runs from the state in which the body failed. -/
@[simp] theorem exec_tryCatch (i : ι) (p : Prog σ ι ε α) (h : ε → Prog σ ι ε α) (s : σ) :
    (tryCatch p h : Prog σ ι ε α).exec i s =
      match p.exec i s with
      | (.ok a, s') => (.ok a, s')
      | (.error e, s') => (h e).exec i s' := by
  rw [tryCatch_eq]
  induction p generalizing s with
  | done r => cases r <;> rfl
  | step act next ih => exact ih i s (act i s)

/-- What leaves the state as it is may follow. -/
theorem exec_bind_snd (i : ι) {p : Prog σ ι ε α} {g : α → Prog σ ι ε β} (s : σ)
    (hg : ∀ a s, ((g a).exec i s).2 = s) : ((p >>= g).exec i s).2 = (p.exec i s).2 := by
  rw [exec_bind]
  cases h : p.exec i s with
  | mk r s' =>
    cases r with
    | ok a => exact hg a s'
    | error e => rfl

/-- A handler that leaves the state alone cannot be seen in the final state. -/
theorem exec_tryCatch_snd (i : ι) {p : Prog σ ι ε α} {h : ε → Prog σ ι ε α} (s : σ)
    (hh : ∀ e s, ((h e).exec i s).2 = s) :
    ((tryCatch p h : Prog σ ι ε α).exec i s).2 = (p.exec i s).2 := by
  rw [exec_tryCatch]
  cases hp : p.exec i s with
  | mk r s' =>
    cases r with
    | ok a => rfl
    | error e => exact hh e s'

/-! ### Running alone, each statement under its own answer -/

/-- `p` run alone from `s` can end with `r` in `s'` when each of its statements gets
    some answer that satisfies `E`. -/
inductive Runs (E : ι → Prop) : Prog σ ι ε α → σ → Except ε α → σ → Prop where
  | done (r : Except ε α) (s : σ) : Runs E (.done r) s r s
  | step {act : ι → σ → σ} {next : ι → σ → Prog σ ι ε α} {s s' : σ} {r : Except ε α}
      (i : ι) (hi : E i) (h : Runs E (next i s) (act i s) r s') :
      Runs E (.step act next) s r s'

/-- A result has one run, which does nothing. -/
@[simp] theorem runs_pure {E : ι → Prop} {a : α} {s s' : σ} {r : Except ε α} :
    Runs E (pure a : Prog σ ι ε α) s r s' ↔ r = .ok a ∧ s' = s := by
  constructor
  · rintro ⟨⟩
    exact ⟨rfl, rfl⟩
  · rintro ⟨rfl, rfl⟩
    exact .done _ _

/-- An error has one run, which does nothing. -/
@[simp] theorem runs_throw {E : ι → Prop} {e : ε} {s s' : σ} {r : Except ε α} :
    Runs E (throw e : Prog σ ι ε α) s r s' ↔ r = .error e ∧ s' = s := by
  constructor
  · rintro ⟨⟩
    exact ⟨rfl, rfl⟩
  · rintro ⟨rfl, rfl⟩
    exact .done _ _

/-- A single statement is run under one answer. -/
theorem runs_stmt {E : ι → Prop} {f : ι → σ → Except ε α × σ} {s s' : σ} {r : Except ε α} :
    Runs E (stmt f) s r s' ↔ ∃ i, E i ∧ f i s = (r, s') := by
  constructor
  · rintro (_ | ⟨i, hi, ⟨⟩⟩)
    exact ⟨i, hi, rfl⟩
  · rintro ⟨i, hi, heq⟩
    obtain ⟨rfl, rfl⟩ := Prod.mk.inj heq
    exact .step i hi (.done _ _)

/-- A run of `p >>= g` is a run of `p` that throws, or one that returns followed by a run
    of `g`. -/
theorem runs_bind {E : ι → Prop} {p : Prog σ ι ε α} {g : α → Prog σ ι ε β} {s s' : σ}
    {r : Except ε β} :
    Runs E (p >>= g) s r s' ↔
      (∃ e, Runs E p s (.error e) s' ∧ r = .error e) ∨
        ∃ a s₁, Runs E p s (.ok a) s₁ ∧ Runs E (g a) s₁ r s' := by
  rw [bind_eq]
  constructor
  -- forwards: by induction on the program before the bind
  · intro h
    induction p generalizing s with
    | done r₁ =>
      cases r₁ with
      | error e =>
        cases h
        exact .inl ⟨e, .done _ _, rfl⟩
      | ok a => exact .inr ⟨a, s, .done _ _, h⟩
    | step act next ih =>
      cases h with
      | step i hi h =>
        rcases ih i s h with ⟨e, he, hr⟩ | ⟨a, s₁, ha, hg⟩
        · exact .inl ⟨e, .step i hi he, hr⟩
        · exact .inr ⟨a, s₁, .step i hi ha, hg⟩
  -- backwards: by induction on the run of that program, whose result is fixed first
  · rintro (⟨e, h, rfl⟩ | ⟨a, s₁, h, hg⟩)
    · generalize hr : (Except.error e : Except ε α) = r₁ at h
      induction h with
      | done r s => exact hr ▸ .done _ s
      | step i hi _ ih => exact .step i hi (ih hr)
    · generalize hr : (Except.ok a : Except ε α) = r₁ at h
      induction h with
      | done r s => exact hr ▸ hg
      | step i hi _ ih => exact .step i hi (ih hg hr)

/-- A run of `try p catch h` is a run of `p` that returns, or one that throws followed by a
    run of the handler. -/
theorem runs_tryCatch {E : ι → Prop} {p : Prog σ ι ε α} {h : ε → Prog σ ι ε α} {s s' : σ}
    {r : Except ε α} :
    Runs E (tryCatch p h : Prog σ ι ε α) s r s' ↔
      (∃ a, Runs E p s (.ok a) s' ∧ r = .ok a) ∨
        ∃ e s₁, Runs E p s (.error e) s₁ ∧ Runs E (h e) s₁ r s' := by
  rw [tryCatch_eq]
  constructor
  -- forwards: by induction on the guarded program
  · intro hrun
    induction p generalizing s with
    | done r₁ =>
      cases r₁ with
      | ok a =>
        cases hrun
        exact .inl ⟨a, .done _ _, rfl⟩
      | error e => exact .inr ⟨e, s, .done _ _, hrun⟩
    | step act next ih =>
      cases hrun with
      | step i hi hrun =>
        rcases ih i s hrun with ⟨a, ha, hr⟩ | ⟨e, s₁, he, hh⟩
        · exact .inl ⟨a, .step i hi ha, hr⟩
        · exact .inr ⟨e, s₁, .step i hi he, hh⟩
  -- backwards: by induction on the run of the guarded program
  · rintro (⟨a, hrun, rfl⟩ | ⟨e, s₁, hrun, hh⟩)
    · generalize hr : (Except.ok a : Except ε α) = r₁ at hrun
      induction hrun with
      | done r s => exact hr ▸ .done _ s
      | step i hi _ ih => exact .step i hi (ih hr)
    · generalize hr : (Except.error e : Except ε α) = r₁ at hrun
      induction hrun with
      | done r s => exact hr ▸ hh
      | step i hi _ ih => exact .step i hi (ih hh hr)

/-- `exec` is one of the runs. -/
theorem runs_exec {E : ι → Prop} (i : ι) (hi : E i) (p : Prog σ ι ε α) (s : σ) :
    Runs E p s (p.exec i s).1 (p.exec i s).2 := by
  induction p generalizing s with
  | done r => exact .done r s
  | step act next ih => exact .step i hi (ih i s (act i s))

/-- The same where each answer is permitted in the state that its statement meets. -/
inductive RunsWhere (permits : ι → σ → Prop) :
    Prog σ ι ε α → σ → Except ε α → σ → Prop where
  | done (r : Except ε α) (s : σ) : RunsWhere permits (.done r) s r s
  | step {act : ι → σ → σ} {next : ι → σ → Prog σ ι ε α} {s s' : σ} {r : Except ε α}
      (i : ι) (hi : permits i s) (h : RunsWhere permits (next i s) (act i s) r s') :
      RunsWhere permits (.step act next) s r s'

/-- Where an input is permitted in every state, running on it alone is a permitted run. -/
theorem runsWhere_exec {permits : ι → σ → Prop} (i : ι) (hi : ∀ s, permits i s)
    (p : Prog σ ι ε α) (s : σ) : RunsWhere permits p s (p.exec i s).1 (p.exec i s).2 := by
  induction p generalizing s with
  | done r => exact .done r s
  | step act next ih => exact .step i (hi s) (ih i s (act i s))

/-! ### Running alone until the process stops -/

/-- `p` run alone from `s`, its statements under the answers of a list: its result, unless the
    answers have run out, those that are left, and the state. -/
def feed : Prog σ ι ε α → List ι → σ → Option (Except ε α) × List ι × σ
  | .done r, is, s => (some r, is, s)
  | .step _ _, [], s => (none, [], s)
  | .step act next, i :: is, s => (next i s).feed is (act i s)

/-- A result takes no input. -/
@[simp] theorem feed_pure (a : α) (is : List ι) (s : σ) :
    (pure a : Prog σ ι ε α).feed is s = (some (.ok a), is, s) := rfl

/-- An error takes no input. -/
@[simp] theorem feed_throw (e : ε) (is : List ι) (s : σ) :
    (throw e : Prog σ ι ε α).feed is s = (some (.error e), is, s) := rfl

/-- A statement waits while there is no input. -/
@[simp] theorem feed_stmt_nil (f : ι → σ → Except ε α × σ) (s : σ) :
    (stmt f).feed [] s = (none, [], s) := rfl

/-- A statement takes one input. -/
@[simp] theorem feed_stmt_cons (f : ι → σ → Except ε α × σ) (i : ι) (is : List ι) (s : σ) :
    (stmt f).feed (i :: is) s = (some (f i s).1, is, (f i s).2) := rfl

/-- The continuation is fed what the first program left over. -/
theorem feed_bind (p : Prog σ ι ε α) (g : α → Prog σ ι ε β) (is : List ι) (s : σ) :
    (p >>= g).feed is s =
      match p.feed is s with
      | (some (.ok a), is', s') => (g a).feed is' s'
      | (some (.error e), is', s') => (some (.error e), is', s')
      | (none, is', s') => (none, is', s') := by
  rw [bind_eq]
  induction p generalizing is s with
  | done r => cases r <;> rfl
  | step act next ih =>
    cases is with
    | nil => rfl
    | cons i is => exact ih i s is (act i s)

/-- The handler is fed what the failing body left over. -/
theorem feed_tryCatch (p : Prog σ ι ε α) (h : ε → Prog σ ι ε α) (is : List ι) (s : σ) :
    (tryCatch p h : Prog σ ι ε α).feed is s =
      match p.feed is s with
      | (some (.ok a), is', s') => (some (.ok a), is', s')
      | (some (.error e), is', s') => (h e).feed is' s'
      | (none, is', s') => (none, is', s') := by
  rw [tryCatch_eq]
  induction p generalizing is s with
  | done r => cases r <;> rfl
  | step act next ih =>
    cases is with
    | nil => rfl
    | cons i is => exact ih i s is (act i s)

/-! ### What every statement does -/

/-- Every statement of `p`, in whatever state and under whatever answer it is sent, takes
    the state as `R` says. -/
def EachStep (R : σ → σ → Prop) : Prog σ ι ε α → Prop
  | .done _ => True
  | .step act next => ∀ i s, R s (act i s) ∧ (next i s).EachStep R

section EachStep

variable {R : σ → σ → Prop}

/-- A result takes no step. -/
@[simp] theorem eachStep_pure (a : α) : (pure a : Prog σ ι ε α).EachStep R := trivial

/-- An error takes no step. -/
@[simp] theorem eachStep_throw (e : ε) : (throw e : Prog σ ι ε α).EachStep R := trivial

/-- A statement's only step is the change it makes. -/
theorem eachStep_stmt {f : ι → σ → Except ε α × σ} (h : ∀ i s, R s (f i s).2) :
    (stmt f).EachStep R := fun i s => ⟨h i s, trivial⟩

/-- The steps of a bind are those of its parts. -/
theorem eachStep_bind {p : Prog σ ι ε α} {g : α → Prog σ ι ε β} (hp : p.EachStep R)
    (hg : ∀ a, (g a).EachStep R) : (p >>= g).EachStep R := by
  rw [bind_eq]
  induction p with
  | done r =>
    cases r with
    | ok a => exact hg a
    | error e => trivial
  | step act next ih => exact fun i s => ⟨(hp i s).1, ih i s (hp i s).2⟩

/-- The steps of a guarded program are those of the body and of the handler. -/
theorem eachStep_tryCatch {p : Prog σ ι ε α} {h : ε → Prog σ ι ε α} (hp : p.EachStep R)
    (hh : ∀ e, (h e).EachStep R) : (tryCatch p h : Prog σ ι ε α).EachStep R := by
  rw [tryCatch_eq]
  induction p with
  | done r =>
    cases r with
    | ok a => trivial
    | error e => exact hh e
  | step act next ih => exact fun i s => ⟨(hp i s).1, ih i s (hp i s).2⟩

/-- Steps within a relation are within a wider one. -/
theorem EachStep.mono {R' : σ → σ → Prop} {p : Prog σ ι ε α} (hp : p.EachStep R)
    (hR : ∀ s s', R s s' → R' s s') : p.EachStep R' := by
  induction p with
  | done r => trivial
  | step act next ih => exact fun i s => ⟨hR _ _ (hp i s).1, ih i s (hp i s).2⟩

end EachStep

/-- What every statement keeps, a run keeps. -/
theorem EachStep.runs {R : σ → σ → Prop} {E : ι → Prop} {p : Prog σ ι ε α} (hp : p.EachStep R)
    {I : σ → Prop} (hI : ∀ s s', R s s' → I s → I s') {s s' : σ} {r : Except ε α}
    (h : Runs E p s r s') (hs : I s) : I s' := by
  induction h with
  | done r s => exact hs
  | step i _ _ ih => exact ih (hp i _).2 (hI _ _ (hp i _).1 hs)

/-- It is kept wherever the process stops. -/
theorem EachStep.feed {R : σ → σ → Prop} {p : Prog σ ι ε α} (hp : p.EachStep R) {I : σ → Prop}
    (hI : ∀ s s', R s s' → I s → I s') (is : List ι) {s : σ} (hs : I s) : I (p.feed is s).2.2 := by
  induction p generalizing is s with
  | done r => exact hs
  | step act next ih =>
    cases is with
    | nil => exact hs
    | cons i is => exact ih i s (hp i s).2 is (hI _ _ (hp i s).1 hs)

/-! ### What every statement does, after the one before it -/

/-- As long as the states meet `J`, every statement of `p` takes the state as `R m` says, where
    `m` is the state that the statement before it met, and the given one for the first. -/
def EachStepAfter (J : σ → Prop) (R : σ → σ → σ → Prop) : Prog σ ι ε α → σ → Prop
  | .done _, _ => True
  | .step act next, m => ∀ i s, J s → R m s (act i s) ∧ (next i s).EachStepAfter J R s

section EachStepAfter

variable {J : σ → Prop} {R : σ → σ → σ → Prop} {m : σ}

/-- A result takes no step. -/
@[simp] theorem eachStepAfter_pure (a : α) : (pure a : Prog σ ι ε α).EachStepAfter J R m := trivial

/-- An error takes no step. -/
@[simp] theorem eachStepAfter_throw (e : ε) : (throw e : Prog σ ι ε α).EachStepAfter J R m :=
  trivial

/-- What follows a statement may rely on what it has returned in the state that it met. -/
theorem eachStepAfter_stmt_bind {f : ι → σ → Except ε α × σ} {g : α → Prog σ ι ε β}
    (h : ∀ i s, J s → R m s (f i s).2)
    (hg : ∀ i s a, J s → (f i s).1 = .ok a → (g a).EachStepAfter J R s) :
    (stmt f >>= g).EachStepAfter J R m := by
  refine fun i s hs => ⟨h i s hs, ?_⟩
  show Prog.EachStepAfter J R (Prog.bind (.done (f i s).1) g) s
  cases hr : (f i s).1 with
  | ok a => exact hg i s a hs hr
  | error e => trivial

/-- The steps of a bind are those of its parts, the second from any state it may have read. -/
theorem eachStepAfter_bind {p : Prog σ ι ε α} {g : α → Prog σ ι ε β} (hp : p.EachStepAfter J R m)
    (hg : ∀ a m, (g a).EachStepAfter J R m) : (p >>= g).EachStepAfter J R m := by
  rw [bind_eq]
  induction p generalizing m with
  | done r =>
    cases r with
    | ok a => exact hg a m
    | error e => trivial
  | step act next ih => exact fun i s hs => ⟨(hp i s hs).1, ih i s (hp i s hs).2⟩

/-- The steps of a guarded program are those of the body and of the handler. -/
private theorem eachStepAfter_tryCatch {p : Prog σ ι ε α} {h : ε → Prog σ ι ε α}
    (hp : p.EachStepAfter J R m) (hh : ∀ e m, (h e).EachStepAfter J R m) :
    (tryCatch p h : Prog σ ι ε α).EachStepAfter J R m := by
  rw [tryCatch_eq]
  induction p generalizing m with
  | done r =>
    cases r with
    | ok a => trivial
    | error e => exact hh e m
  | step act next ih => exact fun i s hs => ⟨(hp i s hs).1, ih i s (hp i s hs).2⟩

/-- What every statement does whatever the one before it has met. -/
theorem EachStep.after {R₀ : σ → σ → Prop} {p : Prog σ ι ε α} (hp : p.EachStep R₀)
    (h : ∀ m s s', R₀ s s' → R m s s') : p.EachStepAfter J R m := by
  induction p generalizing m with
  | done r => trivial
  | step act next ih => exact fun i s _ => ⟨h m _ _ (hp i s).1, ih i s (hp i s).2⟩

/-- A relation that holds of every step is kept by every program. -/
theorem eachStepAfter_of_forall (h : ∀ m s s', R m s s') (p : Prog σ ι ε α) :
    p.EachStepAfter J R m := by
  induction p generalizing m with
  | done r => trivial
  | step act next ih => exact fun i s _ => ⟨h m s _, ih i s⟩

/-- Without a condition on the states, a relation of two states is enough. -/
theorem EachStepAfter.eachStep {R₀ : σ → σ → Prop} {p : Prog σ ι ε α}
    (hp : p.EachStepAfter (fun _ => True) R m) (h : ∀ m s s', R m s s' → R₀ s s') :
    p.EachStep R₀ := by
  induction p generalizing m with
  | done r => trivial
  | step act next ih => exact fun i s => ⟨h m _ _ (hp i s trivial).1, ih i s (hp i s trivial).2⟩

end EachStepAfter

/-! ### What is returned -/

/-- Every value that `p` returns, whatever it is answered, meets `B`. -/
def Returns (B : α → Prop) : Prog σ ι ε α → Prop
  | .done (.ok a) => B a
  | .done (.error _) => True
  | .step _ next => ∀ i s, (next i s).Returns B

section Returns

variable {B : α → Prop} {C : β → Prop}

/-- What a result returns. -/
@[simp] theorem returns_pure {a : α} : (pure a : Prog σ ι ε α).Returns B ↔ B a := .rfl

/-- An error returns nothing. -/
@[simp] theorem returns_throw (e : ε) : (throw e : Prog σ ι ε α).Returns B := trivial

/-- Every program returns something. -/
theorem returns_true (p : Prog σ ι ε α) : p.Returns fun _ => True := by
  induction p with
  | done r => cases r <;> trivial
  | step act next ih => exact fun i s => ih i s

/-- What is returned may be told less precisely. -/
theorem Returns.mono {B' : α → Prop} {p : Prog σ ι ε α} (hp : p.Returns B)
    (h : ∀ a, B a → B' a) : p.Returns B' := by
  induction p with
  | done r =>
    cases r with
    | ok a => exact h a hp
    | error e => trivial
  | step act next ih => exact fun i s => ih i s (hp i s)

/-- What a statement returns is what it answers in some state. -/
theorem returns_stmt {f : ι → σ → Except ε α × σ} (h : ∀ i s a, (f i s).1 = .ok a → B a) :
    (stmt f).Returns B := by
  intro i s
  show Prog.Returns B (.done (f i s).1)
  cases hr : (f i s).1 with
  | ok a => exact h i s a hr
  | error e => trivial

/-- What a bind returns, the continuation run only on values the first program returns. -/
theorem returns_bind {p : Prog σ ι ε α} {g : α → Prog σ ι ε β} (hp : p.Returns B)
    (hg : ∀ a, B a → (g a).Returns C) : (p >>= g).Returns C := by
  rw [bind_eq]
  induction p with
  | done r =>
    cases r with
    | ok a => exact hg a hp
    | error e => trivial
  | step act next ih => exact fun i s => ih i s (hp i s)

/-- A guarded program returns what its body or its handler returns. -/
theorem returns_tryCatch {p : Prog σ ι ε α} {h : ε → Prog σ ι ε α} (hp : p.Returns B)
    (hh : ∀ e, (h e).Returns B) : (tryCatch p h : Prog σ ι ε α).Returns B := by
  rw [tryCatch_eq]
  induction p with
  | done r =>
    cases r with
    | ok a => exact hp
    | error e => exact hh e
  | step act next ih => exact fun i s => ih i s (hp i s)

/-- What follows may rely on what has been returned. -/
theorem eachStep_bind_returns {R : σ → σ → Prop} {p : Prog σ ι ε α} {g : α → Prog σ ι ε β}
    (hp : p.EachStep R) (hB : p.Returns B) (hg : ∀ a, B a → (g a).EachStep R) :
    (p >>= g).EachStep R := by
  rw [bind_eq]
  induction p with
  | done r =>
    cases r with
    | ok a => exact hg a hB
    | error e => trivial
  | step act next ih => exact fun i s => ⟨(hp i s).1, ih i s (hp i s).2 (hB i s)⟩

end Returns

/-- Every statement of `p` takes the state as `R` says, or is sent by a rest of `p` that
    meets `Q`. -/
def StepsOr (Q : Prog σ ι ε α → Prop) (R : σ → σ → Prop) : Prog σ ι ε α → Prop
  | .done _ => True
  | .step act next => ∀ i s, (R s (act i s) ∨ Q (.step act next)) ∧ (next i s).StepsOr Q R

section StepsOr

variable {Q : Prog σ ι ε α → Prop} {R : σ → σ → Prop}

/-- A result takes no step. -/
@[simp] theorem stepsOr_pure (a : α) : (pure a : Prog σ ι ε α).StepsOr Q R := trivial

/-- An error takes no step. -/
@[simp] theorem stepsOr_throw (e : ε) : (throw e : Prog σ ι ε α).StepsOr Q R := trivial

/-- Steps of the one kind are steps of either kind. -/
theorem EachStep.stepsOr {p : Prog σ ι ε α} (hp : p.EachStep R) : p.StepsOr Q R := by
  induction p with
  | done r => trivial
  | step act next ih => exact fun i s => ⟨.inl (hp i s).1, ih i s (hp i s).2⟩

/-- What comes first takes the state as `R` says, what follows may also be one of `Q`. -/
theorem stepsOr_bind {p : Prog σ ι ε β} {g : β → Prog σ ι ε α} (hp : p.EachStep R)
    (hg : ∀ b, (g b).StepsOr Q R) : (p >>= g).StepsOr Q R := by
  rw [bind_eq]
  induction p with
  | done r =>
    cases r with
    | ok b => exact hg b
    | error e => trivial
  | step act next ih => exact fun i s => ⟨.inl (hp i s).1, ih i s (hp i s).2⟩

end StepsOr

/-! ### Which statements are sent -/

/-- As long as the states meet `J`, every statement that `p` sends is one of `A`. -/
def EachAct (J : σ → Prop) (A : (ι → σ → σ) → Prop) : Prog σ ι ε α → Prop
  | .done _ => True
  | .step act next => A act ∧ ∀ i s, J s → (next i s).EachAct J A

section EachAct

variable {J : σ → Prop} {A : (ι → σ → σ) → Prop}

/-- A result makes no statement. -/
@[simp] theorem eachAct_pure (a : α) : (pure a : Prog σ ι ε α).EachAct J A := trivial

/-- An error makes no statement. -/
@[simp] theorem eachAct_throw (e : ε) : (throw e : Prog σ ι ε α).EachAct J A := trivial

/-- A statement's only action is its own. -/
theorem eachAct_stmt {f : ι → σ → Except ε α × σ} (h : A fun i s => (f i s).2) :
    (stmt f).EachAct J A := ⟨h, fun _ _ _ => trivial⟩

/-- The actions of a bind are those of its parts. -/
theorem eachAct_bind {p : Prog σ ι ε α} {g : α → Prog σ ι ε β} (hp : p.EachAct J A)
    (hg : ∀ a, (g a).EachAct J A) : (p >>= g).EachAct J A := by
  rw [bind_eq]
  induction p with
  | done r =>
    cases r with
    | ok a => exact hg a
    | error e => trivial
  | step act next ih => exact ⟨hp.1, fun i s hs => ih i s (hp.2 i s hs)⟩

/-- What follows a statement may rely on what it has returned in a state that meets `J`. -/
theorem eachAct_stmt_bind {f : ι → σ → Except ε α × σ} {g : α → Prog σ ι ε β}
    (h : A fun i s => (f i s).2)
    (hg : ∀ i s a, J s → (f i s).1 = .ok a → (g a).EachAct J A) : (stmt f >>= g).EachAct J A := by
  refine ⟨h, fun i s hs => ?_⟩
  show Prog.EachAct J A (Prog.bind (.done (f i s).1) g)
  cases hr : (f i s).1 with
  | ok a => exact hg i s a hs hr
  | error e => trivial

/-- The actions of a guarded program are those of the body and of the handler. -/
theorem eachAct_tryCatch {p : Prog σ ι ε α} {h : ε → Prog σ ι ε α} (hp : p.EachAct J A)
    (hh : ∀ e, (h e).EachAct J A) : (tryCatch p h : Prog σ ι ε α).EachAct J A := by
  rw [tryCatch_eq]
  induction p with
  | done r =>
    cases r with
    | ok a => trivial
    | error e => exact hh e
  | step act next ih => exact ⟨hp.1, fun i s hs => ih i s (hp.2 i s hs)⟩

/-- Statements that take every state as `R` says, if `A` has all of these. -/
theorem EachStep.eachAct {R : σ → σ → Prop} {p : Prog σ ι ε α} (hp : p.EachStep R)
    (hA : ∀ act : ι → σ → σ, (∀ i s, R s (act i s)) → A act) : p.EachAct J A := by
  induction p with
  | done r => trivial
  | step act next ih => exact ⟨hA act fun i s => (hp i s).1, fun i s _ => ih i s (hp i s).2⟩

end EachAct

/-! ### Repeating a program over a list -/

/-- `for (const k of ks) { try { handle(k) } catch {} }`. -/
def forEachCatching (handle : κ → Prog σ ι ε Unit) : List κ → Prog σ ι ε Unit
  | [] => pure ()
  | k :: ks => do
    tryCatch (handle k) fun _ => pure ()
    forEachCatching handle ks

/-- The loop's steps are those of its elements' handlers. -/
theorem eachStep_forEachCatching {R : σ → σ → Prop} {handle : κ → Prog σ ι ε Unit} {ks : List κ}
    (h : ∀ k ∈ ks, (handle k).EachStep R) : (forEachCatching handle ks).EachStep R := by
  induction ks with
  | nil => trivial
  | cons k ks ih =>
    exact eachStep_bind (eachStep_tryCatch (h k List.mem_cons_self) fun _ => trivial)
      fun _ => ih fun k' hk' => h k' (List.mem_cons_of_mem _ hk')

/-- The loop's actions are those of its elements' handlers. -/
theorem eachAct_forEachCatching {J : σ → Prop} {A : (ι → σ → σ) → Prop}
    {handle : κ → Prog σ ι ε Unit} {ks : List κ} (h : ∀ k ∈ ks, (handle k).EachAct J A) :
    (forEachCatching handle ks).EachAct J A := by
  induction ks with
  | nil => trivial
  | cons k ks ih =>
    exact eachAct_bind (eachAct_tryCatch (h k List.mem_cons_self) fun _ => trivial)
      fun _ => ih fun k' hk' => h k' (List.mem_cons_of_mem _ hk')

/-- The loop's steps are those of its elements' handlers, each from any state read before. -/
theorem eachStepAfter_forEachCatching {J : σ → Prop} {R : σ → σ → σ → Prop}
    {handle : κ → Prog σ ι ε Unit} {ks : List κ} (h : ∀ k ∈ ks, ∀ m, (handle k).EachStepAfter J R m)
    (m : σ) : (forEachCatching handle ks).EachStepAfter J R m := by
  induction ks generalizing m with
  | nil => trivial
  | cons k ks ih =>
    exact eachStepAfter_bind
      (eachStepAfter_tryCatch (h k List.mem_cons_self m) fun _ _ => trivial)
      fun _ m => ih (fun k' hk' => h k' (List.mem_cons_of_mem _ hk')) m

end Prog
