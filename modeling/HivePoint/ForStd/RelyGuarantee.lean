import HivePoint.ForStd.Prog

/-!
# Rely-guarantee reasoning about programs

A `Contract` says which statements the scheduler lets a program send (`permits`),
what the other programs may do to the state between two of its statements (`rely`)
and what each of its own statements does (`guar`). `Sat C post p s` says that `p`,
started in `s`, keeps its guarantee as long as the others keep the rely, and that
`post` holds at the statement that ends it.

With the rely `Eq` nobody interferes, and `Sat` is a weakest precondition for
running alone (`Sat.runs`).
-/

/-- The assumptions and commitments of one program that shares its state. -/
structure Contract (σ ι : Type) where
  permits : ι → σ → σ → Prop
  rely : σ → σ → Prop
  guar : σ → σ → Prop
  rely_refl : ∀ s, rely s s
  rely_trans : ∀ {s₁ s₂ s₃}, rely s₁ s₂ → rely s₂ s₃ → rely s₁ s₃

/-- The contract of a program that runs alone: environment answers satisfy `E`,
    nobody interferes, nothing is promised to others. -/
def Contract.alone {σ ι : Type} (E : ι → Prop) : Contract σ ι where
  permits i _ _ := E i
  rely := Eq
  guar _ _ := True
  rely_refl _ := rfl
  rely_trans := Eq.trans

/-- The same where the answer to a statement depends on the state that it meets. -/
def Contract.aloneWhere {σ ι : Type} (permits : ι → σ → Prop) : Contract σ ι where
  permits i s _ := permits i s
  rely := Eq
  guar _ _ := True
  rely_refl _ := rfl
  rely_trans := Eq.trans

namespace Prog

variable {σ ι ε α β : Type}

/-- `p`, started in `s` under the contract `C`, keeps the guarantee at each of its
    statements and ends in `post`. -/
def Sat (C : Contract σ ι) (post : Except ε α → σ → Prop) : Prog σ ι ε α → σ → Prop
  | .done r, s => post r s
  | .step act next, s => ∀ s', C.rely s s' → ∀ i, C.permits i s' (act i s') →
      C.guar s' (act i s') ∧ Sat C post (next i s') (act i s')

variable {C : Contract σ ι} {post : Except ε α → σ → Prop}

/-! ### Rules -/

/-- A result does nothing. -/
@[simp] theorem sat_pure (a : α) (s : σ) : Sat C post (pure a) s ↔ post (.ok a) s := Iff.rfl

/-- An error does nothing. -/
@[simp] theorem sat_throw (e : ε) (s : σ) : Sat C post (throw e) s ↔ post (.error e) s := Iff.rfl

/-- A single statement: whatever the others did before it, it keeps the guarantee and
    its result meets `post`. -/
theorem sat_stmt (f : ι → σ → Except ε α × σ) (s : σ) :
    Sat C post (stmt f) s ↔ ∀ s', C.rely s s' → ∀ i, C.permits i s' (f i s').2 →
      C.guar s' (f i s').2 ∧ post (f i s').1 (f i s').2 := Iff.rfl

/-- Sequencing: the first program has to end where the second one can start. -/
theorem sat_bind (p : Prog σ ι ε α) (g : α → Prog σ ι ε β) (post : Except ε β → σ → Prop) (s : σ) :
    Sat C post (p >>= g) s ↔
      Sat C (fun r s' => match r with
        | .ok a => Sat C post (g a) s'
        | .error e => post (.error e) s') p s := by
  rw [bind_eq]
  induction p generalizing s with
  | done r => cases r <;> exact Iff.rfl
  | step act next ih =>
    constructor
    · intro h s' hrely i hperm
      exact ⟨(h s' hrely i hperm).1, (ih i s' _).mp (h s' hrely i hperm).2⟩
    · intro h s' hrely i hperm
      exact ⟨(h s' hrely i hperm).1, (ih i s' _).mpr (h s' hrely i hperm).2⟩

/-- Catching: a program that throws has to end where its handler can start. -/
theorem sat_tryCatch (p : Prog σ ι ε α) (h : ε → Prog σ ι ε α) (s : σ) :
    Sat C post (tryCatch p h) s ↔
      Sat C (fun r s' => match r with
        | .ok a => post (.ok a) s'
        | .error e => Sat C post (h e) s') p s := by
  rw [tryCatch_eq]
  induction p generalizing s with
  | done r => cases r <;> exact Iff.rfl
  | step act next ih =>
    constructor
    · intro hs s' hrely i hperm
      exact ⟨(hs s' hrely i hperm).1, (ih i s' _).mp (hs s' hrely i hperm).2⟩
    · intro hs s' hrely i hperm
      exact ⟨(hs s' hrely i hperm).1, (ih i s' _).mpr (hs s' hrely i hperm).2⟩

/-- A weaker postcondition. -/
theorem Sat.mono {post' : Except ε α → σ → Prop} {p : Prog σ ι ε α} {s : σ}
    (h : Sat C post p s) (hpost : ∀ r s', post r s' → post' r s') : Sat C post' p s := by
  induction p generalizing s with
  | done r => exact hpost r s h
  | step act next ih =>
    intro s' hrely i hperm
    exact ⟨(h s' hrely i hperm).1, ih i s' (h s' hrely i hperm).2⟩

/-- A postcondition that always holds. -/
theorem sat_of_forall (hguar : ∀ s s', C.guar s s') (hpost : ∀ r s', post r s') (p : Prog σ ι ε α)
    (s : σ) : Sat C post p s := by
  induction p generalizing s with
  | done r => exact hpost r s
  | step act next ih => exact fun s' _ i _ => ⟨hguar _ _, ih i s' (act i s')⟩

/-- Before a statement the others may act: an unfinished program stays `Sat` under its rely. -/
theorem Sat.interfere {act : ι → σ → σ} {next : ι → σ → Prog σ ι ε α} {s s' : σ}
    (h : Sat C post (.step act next) s) (hrely : C.rely s s') : Sat C post (.step act next) s' :=
  fun s'' hrely' => h s'' (C.rely_trans hrely hrely')

/-- An attempt ends with what its program ends with. -/
theorem sat_attempt {post : Except ε (Except ε α) → σ → Prop} (p : Prog σ ι ε α) (s : σ) :
    Sat C post p.attempt s ↔ Sat C (fun r s' => post (.ok r) s') p s := by
  induction p generalizing s with
  | done r => exact Iff.rfl
  | step act next ih =>
    simp only [attempt, Sat, ih]

/-- Both programs run, and the result is an exception if one of theirs is. -/
theorem sat_both {post : Except ε Unit → σ → Prop} (p q : Prog σ ι ε Unit) (s : σ) :
    Sat C post (both p q) s ↔
      Sat C (fun r s' => Sat C (fun r' s'' => post (r >>= fun _ => r') s'') q s') p s := by
  rw [both, sat_bind, sat_attempt]
  simp only [sat_bind, sat_attempt, Sat]

/-- What programs establish when they return, one after the other. -/
theorem sat_bind_ok {P : α → σ → Prop} {Q : β → σ → Prop} {s : σ} {p : Prog σ ι ε α}
    {g : α → Prog σ ι ε β} (hp : Sat C (fun r s' => ∀ a, r = .ok a → P a s') p s)
    (hg : ∀ a s', P a s' → Sat C (fun r s'' => ∀ b, r = .ok b → Q b s'') (g a) s') :
    Sat C (fun r s' => ∀ b, r = .ok b → Q b s') (p >>= g) s := by
  refine (sat_bind p g _ s).mpr (hp.mono fun r s' hs' => ?_)
  cases r with
  | ok a => exact hg a s' (hs' a rfl)
  | error e => exact fun _ hr => nomatch hr

section Invariant

variable {I : σ → Prop} {s : σ}

/-- Programs that keep `I` keep it one after the other. -/
theorem sat_bind_inv {p : Prog σ ι ε α} {g : α → Prog σ ι ε β}
    (hp : Sat C (fun _ s' => I s') p s) (hg : ∀ a s', I s' → Sat C (fun _ s'' => I s'') (g a) s') :
    Sat C (fun _ s' => I s') (p >>= g) s := by
  refine (sat_bind p g _ s).mpr (hp.mono fun r s' hs' => ?_)
  cases r with
  | ok a => exact hg a s' hs'
  | error e => exact hs'

/-- A guarded program keeps what body and handler keep. -/
theorem sat_tryCatch_inv {p : Prog σ ι ε α} {h : ε → Prog σ ι ε α}
    (hp : Sat C (fun _ s' => I s') p s) (hh : ∀ e s', I s' → Sat C (fun _ s'' => I s'') (h e) s') :
    Sat C (fun _ s' => I s') (tryCatch p h) s := by
  refine (sat_tryCatch p h s).mpr (hp.mono fun r s' hs' => ?_)
  cases r with
  | ok a => exact hs'
  | error e => exact hh e s' hs'

/-- Two programs in sequence keep what each of them keeps. -/
theorem sat_both_inv {p q : Prog σ ι ε Unit} (hp : Sat C (fun _ s' => I s') p s)
    (hq : ∀ s', I s' → Sat C (fun _ s'' => I s'') q s') :
    Sat C (fun _ s' => I s') (both p q) s :=
  (sat_both p q s).mpr (hp.mono fun _ s' hs' => hq s' hs')

end Invariant

/-- A program keeps its guarantee if each of its statements does. -/
theorem EachStep.sat {R : σ → σ → Prop} {p : Prog σ ι ε α} (hp : p.EachStep R) {I : σ → Prop}
    (hrely : ∀ s s', I s → C.rely s s' → I s')
    (hguar : ∀ s s' i, I s → C.permits i s s' → R s s' → C.guar s s' ∧ I s') {s : σ} (hs : I s) :
    Sat C (fun _ s' => I s') p s := by
  induction p generalizing s with
  | done r => exact hs
  | step act next ih =>
    intro s' hs' i hperm
    have hI := hrely s s' hs hs'
    obtain ⟨hkeep, hI'⟩ := hguar s' (act i s') i hI hperm (hp i s').1
    exact ⟨hkeep, ih i s' (hp i s').2 hI'⟩

/-- What all programs keep is still there at the end. -/
theorem Sat.keeping {I : σ → Prop} (hrely : ∀ s s', I s → C.rely s s' → I s')
    (hguar : ∀ s s', I s → C.guar s s' → I s') {p : Prog σ ι ε α} {post : Except ε α → σ → Prop}
    {s : σ} (hp : Sat C post p s) (hs : I s) : Sat C (fun r s' => post r s' ∧ I s') p s := by
  induction p generalizing s with
  | done r => exact ⟨hp, hs⟩
  | step act next ih =>
    intro s' hs' i hperm
    obtain ⟨hkeep, hrest⟩ := hp s' hs' i hperm
    exact ⟨hkeep, ih i s' hrest (hguar _ _ (hrely s s' hs hs') hkeep)⟩

/-- A program whose statements all keep an invariant `I` keeps it however it goes on. -/
theorem sat_forEachCatching {handle : κ → Prog σ ι ε Unit} {I : σ → Prop} {ks : List κ} {s : σ}
    (hs : I s) (hhandle : ∀ k ∈ ks, ∀ s, I s → Sat C (fun _ s' => I s') (handle k) s) :
    Sat C (fun _ s' => I s') (forEachCatching handle ks) s := by
  induction ks generalizing s with
  | nil => exact hs
  | cons k ks ih =>
    rw [forEachCatching, sat_bind, sat_tryCatch]
    refine (hhandle k List.mem_cons_self s hs).mono fun r s' hs' => ?_
    have hrest := ih hs' fun k' hk' => hhandle k' (List.mem_cons_of_mem _ hk')
    cases r <;> exact hrest

/-! ### Running alone -/

/-- Alone, every run ends in the postcondition. -/
theorem Sat.runs {E : ι → Prop} {p : Prog σ ι ε α} {s s' : σ} {r : Except ε α}
    (h : Sat (Contract.alone E) post p s) (hrun : Runs E p s r s') : post r s' := by
  induction hrun with
  | done r s => exact h
  | step i hi _ ih => exact ih (h _ rfl i hi).2

/-- Where the answers depend on the state, too. -/
theorem Sat.runsWhere {permits : ι → σ → Prop} {p : Prog σ ι ε α} {s s' : σ} {r : Except ε α}
    (h : Sat (Contract.aloneWhere permits) post p s) (hrun : RunsWhere permits p s r s') :
    post r s' := by
  induction hrun with
  | done r s => exact h
  | step i hi _ ih => exact ih (h _ rfl i hi).2

end Prog
