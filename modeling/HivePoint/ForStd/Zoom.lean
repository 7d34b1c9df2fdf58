import HivePoint.ForStd.RelyGuarantee

/-!
# Programs on a part of the state

A `Lens` picks a part out of a larger state. `Prog.zoom` runs a program of the part on the whole:
it leaves the rest of the state alone.
-/

/-- A part `σ` of the states `τ`. -/
structure Lens (τ σ : Type) where
  get : τ → σ
  set : σ → τ → τ
  get_set : ∀ s t, get (set s t) = s
  set_set : ∀ s s' t, set s (set s' t) = set s t
  set_get : ∀ t, set (get t) t = t

namespace Prog

variable {σ τ ι κ ε ε' α : Type}

/-- `p` on the part `l` of a larger state, under the part `env` of larger answers. -/
def zoom (l : Lens τ σ) (env : κ → ι) (err : ε → ε') : Prog σ ι ε α → Prog τ κ ε' α
  | .done r => .done (r.mapError err)
  | .step act next =>
    .step (fun k t => l.set (act (env k) (l.get t)) t) fun k t =>
      (next (env k) (l.get t)).zoom l env err

/-- A zoomed program leaves the rest of the state alone. -/
theorem eachStep_zoom (l : Lens τ σ) (env : κ → ι) (err : ε → ε') (p : Prog σ ι ε α) :
    (p.zoom l env err).EachStep fun t t' => ∃ s, t' = l.set s t := by
  induction p with
  | done r => trivial
  | step act next ih => exact fun k t => ⟨⟨_, rfl⟩, ih (env k) (l.get t)⟩

/-- What a program establishes on the part, its zoom establishes there. -/
theorem sat_zoom (l : Lens τ σ) (env : κ → ι) (err : ε → ε') {permits : κ → τ → Prop}
    {post : Except ε α → σ → Prop} (p : Prog σ ι ε α) (t : τ)
    (h : p.Sat (.alone fun _ => True) post (l.get t)) :
    (p.zoom l env err).Sat (.aloneWhere permits)
      (fun r t' => ∃ r₀ s, r = r₀.mapError err ∧ t' = l.set s t ∧ post r₀ s) t := by
  induction p generalizing t with
  | done r => exact ⟨r, l.get t, rfl, (l.set_get t).symm, h⟩
  | step act next ih =>
    intro t' heq k _
    obtain rfl : t = t' := heq
    refine ⟨trivial, (ih (env k) (l.get t) (l.set (act (env k) (l.get t)) t) ?_).mono
      fun r t' hend => ?_⟩
    · rw [l.get_set]
      exact (h (l.get t) rfl (env k) trivial).2
    · obtain ⟨r₀, s, hr, rfl, hpost⟩ := hend
      exact ⟨r₀, s, hr, l.set_set s _ t, hpost⟩

end Prog
