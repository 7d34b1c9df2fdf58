import HivePoint.Spec.Statements

/-!
# A statement among the statements of others

The rules of `ForStd.RelyGuarantee` for each kind of statement. `Stable C J` says that `J`
holds however the other programs act; a rule then asks what the statement does in `J`.
-/

namespace HivePoint

open Prog

variable {α : Type} {C : Contract World Env} {J : World → Prop}

/-- `J` survives what the others do, and doing nothing in `J` keeps the guarantee. -/
structure Stable (C : Contract World Env) (J : World → Prop) : Prop where
  rely : ∀ w w', J w → C.rely w w' → J w'
  guar : ∀ w, J w → C.guar w w

section Rules

variable {post : Except Err α → World → Prop} {w : World}

/-- What is read is true of the state at that moment; the database may refuse. -/
theorem sat_read (hJ : Stable C J) {f : World → α} (hw : J w)
    (h : ∀ w', J w' → post (.ok (f w')) w')
    (hX : ∀ e w', J w' → post (.error e) w') : Sat C post (read f) w := by
  refine (sat_stmt _ w).mpr fun w' hrely env _ => ?_
  have hw' := hJ.rely w w' hw hrely
  split
  · exact ⟨hJ.guar w' hw', hX _ w' hw'⟩
  · exact ⟨hJ.guar w' hw', h w' hw'⟩

/-- The clock answers in a state that the others may have changed. -/
theorem sat_clock (hJ : Stable C J) {post : Except Err Int → World → Prop} (hw : J w)
    (h : ∀ now w', J w' → post (.ok now) w') : Sat C post clock w := by
  refine (sat_stmt _ w).mpr fun w' hrely env _ => ?_
  have hw' := hJ.rely w w' hw hrely
  exact ⟨hJ.guar w' hw', h env.now w' hw'⟩

/-- A write is made in a state of `J`, or refused there. -/
theorem sat_mutate (hJ : Stable C J) {f : Env → World → Except Err (α × World)} (hw : J w)
    (h : ∀ env w' a v, J w' → env.dbError = none → f env w' = .ok (a, v) →
      C.guar w' v ∧ post (.ok a) v)
    (hX : ∀ e w', J w' → post (.error e) w') : Sat C post (mutate f) w := by
  refine (sat_stmt _ w).mpr fun w' hrely env _ => ?_
  have hw' := hJ.rely w w' hw hrely
  split
  · exact ⟨hJ.guar w' hw', hX _ w' hw'⟩
  · rename_i hdb
    split
    · rename_i hf
      exact h env w' _ _ hw' hdb hf
    · exact ⟨hJ.guar w' hw', hX _ w' hw'⟩

/-- An update of an invoice, in a state that the others may have changed. -/
theorem sat_updateInvoice (hJ : Stable C J) {post : Except Err Unit → World → Prop} {id : Id}
    {data : Invoice → Invoice} (hw : J w)
    (h : ∀ w' v, J w' → w'.updateInvoice id data = .ok v → C.guar w' v ∧ post (.ok ()) v)
    (hX : ∀ e w', J w' → post (.error e) w') : Sat C post (updateInvoice id data) w :=
  sat_mutate hJ hw (fun _ w' _ v hw' _ hf => h w' v hw' (except_map_eq_ok hf)) hX

/-- An update of a subscription, in a state that the others may have changed. -/
theorem sat_updateSubscription (hJ : Stable C J) {post : Except Err Unit → World → Prop} {id : Id}
    {data : Subscription → Subscription} (hw : J w)
    (h : ∀ w' v, J w' → w'.updateSubscription id data = .ok v → C.guar w' v ∧ post (.ok ()) v)
    (hX : ∀ e w', J w' → post (.error e) w') : Sat C post (updateSubscription id data) w :=
  sat_mutate hJ hw (fun _ w' _ v hw' _ hf => h w' v hw' (except_map_eq_ok hf)) hX

end Rules

end HivePoint
