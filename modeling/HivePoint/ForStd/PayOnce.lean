import HivePoint.ForStd.Passage
import HivePoint.ForStd.Pool

/-!
# Programs that pay once

A `Ledger` is a list of entries in the state, next to a count of what has been sent. A program
that `PaysOnce` makes no more than one entry, and sends only after it. `LedgerRun` interleaves such
programs and keeps record of who has made which entry and who has sent.

A program that `PaysLast` does so with its last statement.

## Key results

- `Prog.PaysLast.pass`: in each passage of such a program one of its own steps pays for what it
  returns, or none pays
- `Prog.paysOnce_bind_paid`, `Prog.paysOnce_bind`: a payment in a part, or after a part
- `Pool.ledgerRight_of_run`: in every interleaving each sender has paid, each with an entry of its
own
-/

/-- Entries of type `ω` in the state, and how much has been sent. -/
structure Ledger (σ ω : Type) where
  entries : σ → List ω
  sent : σ → Nat

namespace Ledger

variable {σ ω : Type} (L : Ledger σ ω)

/-- Nothing is entered and nothing is sent. -/
def Idle (s s' : σ) : Prop := L.entries s' = L.entries s ∧ L.sent s' = L.sent s

/-- One entry is made and nothing is sent. -/
def Enters (x : ω) (s s' : σ) : Prop := L.entries s' = L.entries s ++ [x] ∧ L.sent s' = L.sent s

/-- Nothing is entered, but something may be sent. -/
def Paid (s s' : σ) : Prop := L.entries s' = L.entries s ∧ L.sent s ≤ L.sent s'

/-- Doing nothing is idle. -/
theorem Idle.refl (s : σ) : L.Idle s s := ⟨rfl, rfl⟩

variable {L}

/-- An idle step pays nothing new. -/
theorem Idle.paid {s s' : σ} (h : L.Idle s s') : L.Paid s s' := ⟨h.1, h.2.ge⟩

end Ledger

namespace Prog

variable {σ ι ε α β ω : Type} {L : Ledger σ ω} {valid : ω → Prop} {answer : ω → α → Prop}
  {unpaid : Except ε α → Prop}

/-- The program is idle until it makes a `valid` entry `x`. Then it makes no more entries, may
    send, and returns an `answer` to `x`. If it ends without an entry, it ends `unpaid`. -/
def PaysOnce (L : Ledger σ ω) (valid : ω → Prop) (answer : ω → α → Prop)
    (unpaid : Except ε α → Prop) : Prog σ ι ε α → Prop
  | .done r => unpaid r
  | .step act next => ∀ i s,
      (L.Idle s (act i s) ∧ (next i s).PaysOnce L valid answer unpaid) ∨
      ∃ x, valid x ∧ L.Enters x s (act i s) ∧ (next i s).EachStep L.Paid ∧
        (next i s).Returns (answer x)

/-- A program that makes no entry. -/
theorem EachStep.paysOnce {p : Prog σ ι ε α} (hp : p.EachStep L.Idle) {B : α → Prop}
    (hB : p.Returns B) (hunpaid : ∀ a, B a → unpaid (.ok a)) (herror : ∀ e, unpaid (.error e)) :
    p.PaysOnce L valid answer unpaid := by
  induction p with
  | done r =>
    cases r with
    | ok a => exact hunpaid a hB
    | error e => exact herror e
  | step act next ih => exact fun i s => .inl ⟨(hp i s).1, ih i s (hp i s).2 (hB i s)⟩

/-- A weaker condition on the entry. -/
theorem PaysOnce.mono {valid' : ω → Prop} {p : Prog σ ι ε α}
    (hp : p.PaysOnce L valid answer unpaid) (hvalid : ∀ x, valid x → valid' x) :
    p.PaysOnce L valid' answer unpaid := by
  induction p with
  | done r => exact hp
  | step act next ih =>
    intro i s
    cases hp i s with
    | inl hidle => exact .inl ⟨hidle.1, ih i s hidle.2⟩
    | inr hpaid =>
      obtain ⟨x, hx, hafter⟩ := hpaid
      exact .inr ⟨x, hvalid x hx, hafter⟩

/-- What comes first makes no entry. -/
theorem paysOnce_bind {p : Prog σ ι ε β} {g : β → Prog σ ι ε α} (hp : p.EachStep L.Idle)
    {B : β → Prop} (hB : p.Returns B) (hg : ∀ b, B b → (g b).PaysOnce L valid answer unpaid)
    (herror : ∀ e, unpaid (.error e)) : (p >>= g).PaysOnce L valid answer unpaid := by
  rw [bind_eq]
  induction p with
  | done r =>
    cases r with
    | ok b => exact hg b hB
    | error e => exact herror e
  | step act next ih => exact fun i s => .inl ⟨(hp i s).1, ih i s (hp i s).2 (hB i s)⟩

/-- What comes first may make the entry; what follows is idle if it has not. -/
theorem paysOnce_bind_paid {p : Prog σ ι ε β} {g : β → Prog σ ι ε α} {answer' : ω → β → Prop}
    {unpaid' : Except ε β → Prop} (hp : p.PaysOnce L valid answer' unpaid')
    (hunpaid : ∀ b, unpaid' (.ok b) → (g b).PaysOnce L valid answer unpaid)
    (hsteps : ∀ x b, answer' x b → (g b).EachStep L.Paid)
    (hreturns : ∀ x b, answer' x b → (g b).Returns (answer x))
    (herror : ∀ e, unpaid (.error e)) : (p >>= g).PaysOnce L valid answer unpaid := by
  rw [bind_eq]
  -- by induction on the first program: it is still idle, or its next statement pays
  induction p with
  | done r =>
    cases r with
    | ok b => exact hunpaid b hp
    | error e => exact herror e
  | step act next ih =>
    intro i s
    cases hp i s with
    | inl hidle => exact .inl ⟨hidle.1, ih i s hidle.2⟩
    | inr hpaid =>
      obtain ⟨x, hvalid, henters, hafter, hanswer⟩ := hpaid
      exact .inr ⟨x, hvalid, henters, eachStep_bind_returns hafter hanswer (hsteps x),
        returns_bind hanswer (hreturns x)⟩

/-! ### A payment at the end -/

/-- Every statement is `idle`, except that the last one may pay for the value that is returned
    after it. A program that ends without a payment ends `unpaid`. -/
def PaysLast (idle : σ → σ → Prop) (pays : α → σ → σ → Prop) (unpaid : Except ε α → Prop) :
    Prog σ ι ε α → Prop
  | .done r => unpaid r
  | .step act next => ∀ i s,
      (idle s (act i s) ∧ (next i s).PaysLast idle pays unpaid) ∨
      ∃ a, pays a s (act i s) ∧ next i s = .done (.ok a)

section PaysLast

variable {idle : σ → σ → Prop} {pays : α → σ → σ → Prop}

/-- What comes first does not pay. -/
theorem paysLast_bind {p : Prog σ ι ε β} {g : β → Prog σ ι ε α} (hp : p.EachStep idle)
    {B : β → Prop} (hB : p.Returns B) (hg : ∀ b, B b → (g b).PaysLast idle pays unpaid)
    (herror : ∀ e, unpaid (.error e)) : (p >>= g).PaysLast idle pays unpaid := by
  rw [bind_eq]
  induction p with
  | done r =>
    cases r with
    | ok b => exact hg b hB
    | error e => exact herror e
  | step act next ih => exact fun i s => .inl ⟨(hp i s).1, ih i s (hp i s).2 (hB i s)⟩

/-- A payment that makes an entry. -/
theorem PaysLast.paysOnce {p : Prog σ ι ε α} (hp : p.PaysLast idle pays unpaid)
    (hidle : ∀ s s', idle s s' → L.Idle s s')
    (hpays : ∀ a s s', pays a s s' → ∃ x, valid x ∧ L.Enters x s s' ∧ answer x a) :
    p.PaysOnce L valid answer unpaid := by
  induction p with
  | done r => exact hp
  | step act next ih =>
    intro i s
    cases hp i s with
    | inl h => exact .inl ⟨hidle _ _ h.1, ih i s h.2⟩
    | inr h =>
      obtain ⟨a, ha, hnext⟩ := h
      obtain ⟨x, hvalid, henters, hanswer⟩ := hpays a _ _ ha
      rw [hnext]
      exact .inr ⟨x, hvalid, henters, trivial, hanswer⟩

/-- One of the steps has paid for what was returned, or none has paid. -/
theorem PaysLast.pass {p : Prog σ ι ε α} (hp : p.PaysLast idle pays unpaid)
    (visits : List (ι × σ)) :
    ((∀ step ∈ (p.pass visits).steps, idle step.1 step.2) ∧
        ∀ r, (p.pass visits).result = some r → unpaid r) ∨
      ∃ a, (p.pass visits).result = some (.ok a) ∧
        ∃ step ∈ (p.pass visits).steps, pays a step.1 step.2 := by
  -- by induction on the program: it ends idle, or one of its statements pays
  induction p generalizing visits with
  | done r =>
    refine .inl ⟨fun step hstep => (by cases hstep), fun r' hr => ?_⟩
    obtain rfl := Option.some.inj hr
    exact hp
  | step act next ih =>
    cases visits with
    | nil => exact .inl ⟨fun step hstep => (by cases hstep), fun r hr => (by cases hr)⟩
    | cons visit visits =>
      cases hp visit.1 visit.2 with
      | inr h =>
        obtain ⟨a, ha, hnext⟩ := h
        refine .inr ⟨a, ?_, _, List.mem_cons_self, ha⟩
        show ((next visit.1 visit.2).pass visits).result = _
        rw [hnext]
        rfl
      | inl h =>
        cases ih visit.1 visit.2 h.2 visits with
        | inr hpaid =>
          obtain ⟨a, hresult, step, hstep, ha⟩ := hpaid
          exact .inr ⟨a, hresult, step, List.mem_cons_of_mem _ hstep, ha⟩
        | inl hidle =>
          refine .inl ⟨fun step hstep => ?_, hidle.2⟩
          cases List.mem_cons.mp hstep with
          | inl hfirst => exact hfirst ▸ h.1
          | inr hrest => exact hidle.1 step hrest

end PaysLast

/-! ### On a part of the state -/

section Zoom

variable {τ κ ε' : Type} {l : Lens τ σ} {env : κ → ι} {err : ε → ε'}

/-- Inside a larger state a program's steps change its part alone. -/
theorem eachStep_zoom_of {R : σ → σ → Prop} {R' : τ → τ → Prop} {p : Prog σ ι ε α}
    (hp : p.EachStep R) (hR : ∀ t s, R (l.get t) s → R' t (l.set s t)) :
    (p.zoom l env err).EachStep R' := by
  induction p with
  | done r => trivial
  | step act next ih =>
    exact fun k t => ⟨hR t _ (hp (env k) (l.get t)).1, ih (env k) (l.get t)
      (hp (env k) (l.get t)).2⟩

/-- Inside a larger state a program returns what it returns. -/
private theorem returns_zoom {B : α → Prop} {p : Prog σ ι ε α} (hp : p.Returns B) :
    (p.zoom l env err).Returns B := by
  induction p with
  | done r =>
    cases r with
    | ok a => exact hp
    | error e => trivial
  | step act next ih => exact fun k t => ih (env k) (l.get t) (hp (env k) (l.get t))

/-- The entries are in the part, and what is sent is counted outside of it. -/
theorem paysOnce_zoom {L' : Ledger τ ω} {p : Prog σ ι ε α} {unpaid' : Except ε' α → Prop}
    (hentries : ∀ t, L'.entries t = L.entries (l.get t))
    (hsent : ∀ s t, L'.sent (l.set s t) = L'.sent t)
    (hunpaid : ∀ r, unpaid r → unpaid' (r.mapError err)) (hp : p.PaysOnce L valid answer unpaid) :
    (p.zoom l env err).PaysOnce L' valid answer unpaid' := by
  -- by induction on the program, whose statements act on their part alone
  induction p with
  | done r => exact hunpaid r hp
  | step act next ih =>
    intro k t
    cases hp (env k) (l.get t) with
    | inl hidle =>
      refine .inl ⟨⟨?_, hsent _ t⟩, ih _ _ hidle.2⟩
      rw [hentries, hentries, l.get_set]
      exact hidle.1.1
    | inr hpaid =>
      obtain ⟨x, hvalid, henters, hafter, hanswer⟩ := hpaid
      refine .inr ⟨x, hvalid, ⟨?_, hsent _ t⟩, eachStep_zoom_of hafter fun t s h => ⟨?_, ?_⟩,
        returns_zoom hanswer⟩
      · rw [hentries, hentries, l.get_set]
        exact henters.1
      · rw [hentries, hentries, l.get_set]
        exact h.1
      · rw [hsent]

end Zoom

end Prog

/-! ### Interleavings -/

namespace Pool

variable {τ σ ι ε α ω : Type}

/-- A pool, with the entries of the programs and the senders, in the order of the run. -/
structure LedgerHistory (τ σ ι ε α ω : Type) where
  pool : Pool τ σ ι ε α
  charged : List (τ × ω)
  senders : List τ

/-- What a step has entered and sent, it has entered and sent for its program `t`. -/
def LedgerHistory.record (L : Ledger σ ω) (H : LedgerHistory τ σ ι ε α ω) (t : τ)
    (pool : Pool τ σ ι ε α) : LedgerHistory τ σ ι ε α ω where
  pool := pool
  charged := H.charged ++
    ((L.entries pool.state).drop (L.entries H.pool.state).length).map (t, ·)
  senders := H.senders ++ List.replicate (L.sent pool.state - L.sent H.pool.state) t

section Record

variable {L : Ledger σ ω} {H : LedgerHistory τ σ ι ε α ω} {t : τ} {pool : Pool τ σ ι ε α}

/-- A step without an entry charges nobody. -/
private theorem record_charged_of_eq (h : L.entries pool.state = L.entries H.pool.state) :
    (H.record L t pool).charged = H.charged := by
  simp [LedgerHistory.record, h]

/-- A step with an entry charges its own program. -/
private theorem record_charged_of_enters {x : ω}
    (h : L.entries pool.state = L.entries H.pool.state ++ [x]) :
    (H.record L t pool).charged = H.charged ++ [(t, x)] := by
  simp [LedgerHistory.record, h]

/-- A step that sends nothing has no sender. -/
private theorem record_senders_of_eq (h : L.sent pool.state = L.sent H.pool.state) :
    (H.record L t pool).senders = H.senders := by
  simp [LedgerHistory.record, h]

end Record

variable [DecidableEq τ]

def LedgerHistory.next (L : Ledger σ ω) (S : Scheduler τ σ ι) (H : LedgerHistory τ σ ι ε α ω)
    (c : Choice τ ι ε) : Option (LedgerHistory τ σ ι ε α ω) :=
  (H.pool.next S c).map (H.record L c.thread)

inductive LedgerRun (L : Ledger σ ω) (S : Scheduler τ σ ι) (P₀ : Pool τ σ ι ε α) :
    LedgerHistory τ σ ι ε α ω → Prop where
  | init : LedgerRun L S P₀ ⟨P₀, [], []⟩
  | step {H H' : LedgerHistory τ σ ι ε α ω} {c : Choice τ ι ε} (h : LedgerRun L S P₀ H)
      (hnext : H.next L S c = some H') : LedgerRun L S P₀ H'

/-- Take the steps of a schedule one after the other. -/
def LedgerHistory.runSchedule (L : Ledger σ ω) (S : Scheduler τ σ ι) :
    List (Choice τ ι ε) → LedgerHistory τ σ ι ε α ω → Option (LedgerHistory τ σ ι ε α ω)
  | [], H => some H
  | c :: cs, H => (H.next L S c).bind (LedgerHistory.runSchedule L S cs)

variable {L : Ledger σ ω} {S : Scheduler τ σ ι} {P₀ : Pool τ σ ι ε α} {valid : τ → ω → Prop}
  {answer : τ → ω → α → Prop} {unpaid : τ → Except ε α → Prop}

/-- A schedule's history is a run. -/
theorem ledgerRun_of_schedule {H H' : LedgerHistory τ σ ι ε α ω} (cs : List (Choice τ ι ε))
    (h : LedgerRun L S P₀ H) (hrun : H.runSchedule L S cs = some H') : LedgerRun L S P₀ H' := by
  induction cs generalizing H with
  | nil =>
    obtain rfl := Option.some.inj hrun
    exact h
  | cons c cs ih =>
    obtain ⟨H₁, hnext, hrun⟩ := Option.bind_eq_some_iff.mp hrun
    exact ih (h.step hnext) hrun

/-- The entries are those of different programs, each valid, and all senders have one. Everything
    that has been sent has a sender. Programs have ended unpaid, or with an answer to their entry.
    -/
structure LedgerRight (L : Ledger σ ω) (valid : τ → ω → Prop) (answer : τ → ω → α → Prop)
    (unpaid : τ → Except ε α → Prop) (s₀ : σ) (H : LedgerHistory τ σ ι ε α ω) : Prop where
  entries : L.entries H.pool.state = L.entries s₀ ++ H.charged.map (·.2)
  once : (H.charged.map (·.1)).Nodup
  allValid : ∀ t x, (t, x) ∈ H.charged → valid t x
  sent : L.sent H.pool.state = L.sent s₀ + H.senders.length
  senders : ∀ t ∈ H.senders, ∃ x, (t, x) ∈ H.charged
  answered : ∀ t r, H.pool.threads t = .done r →
    ((∀ x, (t, x) ∉ H.charged) ∧ unpaid t r) ∨
      ∃ x, (t, x) ∈ H.charged ∧ ∀ a, r = .ok a → answer t x a

/-- Where a program is, with respect to the entries that it has made. -/
inductive LedgerPhase (L : Ledger σ ω) (valid : ω → Prop) (answer : ω → α → Prop)
    (unpaid : Except ε α → Prop) (entered : ω → Prop) (p : Prog σ ι ε α) : Prop where
  | before (hnone : ∀ x, ¬entered x) (hp : p.PaysOnce L valid answer unpaid)
  | after (x : ω) (hx : entered x) (hp : p.EachStep L.Paid) (hB : p.Returns (answer x))

/-- The invariant of a run. -/
structure LedgerInv (L : Ledger σ ω) (valid : τ → ω → Prop) (answer : τ → ω → α → Prop)
    (unpaid : τ → Except ε α → Prop) (s₀ : σ) (H : LedgerHistory τ σ ι ε α ω) : Prop where
  entries : L.entries H.pool.state = L.entries s₀ ++ H.charged.map (·.2)
  once : (H.charged.map (·.1)).Nodup
  allValid : ∀ t x, (t, x) ∈ H.charged → valid t x
  sent : L.sent H.pool.state = L.sent s₀ + H.senders.length
  senders : ∀ t ∈ H.senders, ∃ x, (t, x) ∈ H.charged
  phase : ∀ t, LedgerPhase L (valid t) (answer t) (unpaid t) (fun x => (t, x) ∈ H.charged)
    (H.pool.threads t)

section Step

variable {H : LedgerHistory τ σ ι ε α ω} {s₀ : σ} {t : τ} {pool : Pool τ σ ι ε α}

/-- A step that makes no entry, and sends only if its program has one. -/
private theorem LedgerInv.of_paid (h : LedgerInv L valid answer unpaid s₀ H)
    (hstate : L.Paid H.pool.state pool.state)
    (hothers : ∀ u, u ≠ t → pool.threads u = H.pool.threads u)
    (hsent : L.sent pool.state = L.sent H.pool.state ∨ ∃ x, (t, x) ∈ H.charged)
    (hphase : LedgerPhase L (valid t) (answer t) (unpaid t) (fun x => (t, x) ∈ H.charged)
      (pool.threads t)) : LedgerInv L valid answer unpaid s₀ (H.record L t pool) := by
  have hcharged : (H.record L t pool).charged = H.charged := record_charged_of_eq hstate.1
  constructor
  · rw [hcharged, ← h.entries]
    exact hstate.1
  · rw [hcharged]
    exact h.once
  · rw [hcharged]
    exact h.allValid
  -- what was sent in this step has the program that moved for its sender
  · have hlength : (H.record L t pool).senders.length =
        H.senders.length + (L.sent pool.state - L.sent H.pool.state) := by
      simp [LedgerHistory.record]
    have hle := hstate.2
    have hbefore := h.sent
    show L.sent pool.state = _
    rw [hlength]
    omega
  · rw [hcharged]
    intro u hu
    cases List.mem_append.mp hu with
    | inl hu => exact h.senders u hu
    | inr hu =>
      cases hsent with
      | inl heq =>
        rw [heq, Nat.sub_self] at hu
        cases hu
      | inr hpaid => exact List.eq_of_mem_replicate hu ▸ hpaid
  -- the program that moved is in the given phase, the others are where they were
  · intro u
    rw [hcharged]
    by_cases hu : u = t
    · exact hu ▸ hphase
    · show LedgerPhase L _ _ _ _ (pool.threads u)
      rw [hothers u hu]
      exact h.phase u

/-- A step that makes an entry, of a program that has made none. -/
private theorem LedgerInv.of_enters (h : LedgerInv L valid answer unpaid s₀ H) {x : ω}
    (hnone : ∀ y, (t, y) ∉ H.charged) (hvalid : valid t x)
    (hstate : L.Enters x H.pool.state pool.state)
    (hothers : ∀ u, u ≠ t → pool.threads u = H.pool.threads u)
    (hp : (pool.threads t).EachStep L.Paid) (hB : (pool.threads t).Returns (answer t x)) :
    LedgerInv L valid answer unpaid s₀ (H.record L t pool) := by
  have hcharged : (H.record L t pool).charged = H.charged ++ [(t, x)] :=
    record_charged_of_enters hstate.1
  have hsenders : (H.record L t pool).senders = H.senders := record_senders_of_eq hstate.2
  -- the charges after the step
  have hmem : ∀ u y, (u, y) ∈ H.charged ++ [(t, x)] ↔ (u, y) ∈ H.charged ∨ (u = t ∧ y = x) := by
    intro u y
    simp
  constructor
  · show L.entries pool.state = _
    rw [hcharged, List.map_append, ← List.append_assoc, ← h.entries]
    exact hstate.1
  · rw [hcharged, List.map_append]
    refine List.nodup_append.mpr ⟨h.once, List.nodup_singleton t, fun u hu u' hu' heq => ?_⟩
    obtain ⟨entry, hentry, rfl⟩ := List.mem_map.mp hu
    obtain rfl := List.mem_singleton.mp hu'
    exact hnone entry.2 (heq ▸ hentry)
  · intro u y hy
    rw [hcharged, hmem] at hy
    cases hy with
    | inl hy => exact h.allValid u y hy
    | inr hy => exact hy.1 ▸ hy.2 ▸ hvalid
  · rw [hsenders, ← h.sent]
    exact hstate.2
  · intro u hu
    rw [hsenders] at hu
    obtain ⟨y, hy⟩ := h.senders u hu
    exact ⟨y, hcharged ▸ List.mem_append_left _ hy⟩
  -- the program that moved has paid, the others keep their phases
  · intro u
    rw [hcharged]
    by_cases hu : u = t
    · subst hu
      exact .after x ((hmem u x).mpr (.inr ⟨rfl, rfl⟩)) hp hB
    · have hsame : ∀ y, (u, y) ∈ H.charged ++ [(t, x)] ↔ (u, y) ∈ H.charged := by
        intro y
        rw [hmem]
        exact or_iff_left fun hy => hu hy.1
      show LedgerPhase L _ _ _ _ (pool.threads u)
      rw [hothers u hu]
      cases h.phase u with
      | before hnone' hp' => exact .before (fun y hy => hnone' y ((hsame y).mp hy)) hp'
      | after y hy hp' hB' => exact .after y ((hsame y).mpr hy) hp' hB'

/-- Every step of a history keeps its ledger in order. -/
theorem LedgerInv.next (h : LedgerInv L valid answer unpaid s₀ H)
    (hcleanup : ∀ t s, L.Idle s (S.cleanup t s)) (herror : ∀ t e, unpaid t (.error e))
    {H' : LedgerHistory τ σ ι ε α ω} {c : Choice τ ι ε} (hnext : H.next L S c = some H') :
    LedgerInv L valid answer unpaid s₀ H' := by
  obtain ⟨pool, hpool, rfl⟩ := Option.map_eq_some_iff.mp hnext
  have hothers : ∀ u, u ≠ c.thread → pool.threads u = H.pool.threads u :=
    fun u hu => next_threads_of_ne hpool hu
  cases c with
  | run t i =>
    obtain ⟨act, nxt, hthread, -, rfl⟩ := next_run_cases hpool
    -- before its entry a program is idle or pays, after it it pays no more
    cases h.phase t with
    | before hnone hp =>
      rw [hthread] at hp
      cases hp i H.pool.state with
      | inl hidle =>
        refine h.of_paid hidle.1.paid hothers (.inl hidle.1.2) (.before hnone ?_)
        simpa [Choice.thread] using hidle.2
      | inr hpaid =>
        obtain ⟨x, hvalid, henters, hafter, hanswer⟩ := hpaid
        refine h.of_enters hnone hvalid henters hothers ?_ ?_
        · simpa [Choice.thread] using hafter
        · simpa [Choice.thread] using hanswer
    | after x hx hp hB =>
      rw [hthread] at hp hB
      refine h.of_paid (hp i H.pool.state).1 hothers (.inr ⟨x, hx⟩) (.after x hx ?_ ?_)
      · simpa [Choice.thread] using (hp i H.pool.state).2
      · simpa [Choice.thread] using hB i H.pool.state
  -- a stopped program keeps what it paid
  | stop t e =>
    obtain ⟨-, rfl⟩ := next_stop_cases hpool
    have hidle := hcleanup t H.pool.state
    refine h.of_paid hidle.paid hothers (.inl hidle.2) ?_
    simp only [Choice.thread, Function.update_self]
    cases h.phase t with
    | before hnone hp => exact .before hnone (herror t e)
    | after x hx hp hB => exact .after x hx trivial trivial

end Step

/-- Every interleaving of programs that pay once keeps the ledger right. -/
theorem ledgerRight_of_run (hcleanup : ∀ t s, L.Idle s (S.cleanup t s))
    (herror : ∀ t e, unpaid t (.error e))
    (hstart : ∀ t, (P₀.threads t).PaysOnce L (valid t) (answer t) (unpaid t))
    {H : LedgerHistory τ σ ι ε α ω} (hrun : LedgerRun L S P₀ H) :
    LedgerRight L valid answer unpaid P₀.state H := by
  -- by induction on the run, from programs that have paid nothing
  have hinv : LedgerInv L valid answer unpaid P₀.state H := by
    induction hrun with
    | init =>
      constructor
      · simp
      · simp
      · intro t x hx
        cases hx
      · simp
      · intro t ht
        cases ht
      · intro t
        refine .before (fun x hx => ?_) (hstart t)
        cases hx
    | step _ hnext ih => exact ih.next hcleanup herror hnext
  refine ⟨hinv.entries, hinv.once, hinv.allValid, hinv.sent, hinv.senders, fun t r hr => ?_⟩
  have hphase := hinv.phase t
  rw [hr] at hphase
  cases hphase with
  | before hnone hp => exact .inl ⟨hnone, hp⟩
  | after x hx hp hB =>
    refine .inr ⟨x, hx, fun a ha => ?_⟩
    rw [ha] at hB
    exact hB

end Pool
