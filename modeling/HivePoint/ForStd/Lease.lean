import Mathlib

/-!
# Leases that exclude each other

A lease is granted to an owner from an instant until a later one. A grant may follow another
one in two ways: its owner renews the lease, or anyone takes it over after it has ended. If
each grant follows the one before it, no owner is granted a lease while another one holds it,
however many renewals and takeovers lie between.
-/

/-- A lease granted to `owner`. -/
structure Grant (ω τ : Type) where
  owner : ω
  start : τ
  finish : τ
  deriving DecidableEq

namespace Grant

variable {ω τ : Type} [LinearOrder τ]

/-- `later` renews the lease of `earlier`, or takes it over when that has ended. -/
def Follows (later earlier : Grant ω τ) : Prop :=
  (later.owner = earlier.owner ∧ earlier.start ≤ later.start ∧ earlier.finish ≤ later.finish) ∨
    earlier.finish ≤ later.start

/-- Another owner is granted the lease only after it has ended. -/
def Excludes (later earlier : Grant ω τ) : Prop :=
  later.owner ≠ earlier.owner → earlier.finish ≤ later.start

/-- Grants, latest first, each of which follows the one before it. -/
structure Ordered (grants : List (Grant ω τ)) : Prop where
  chain : grants.IsChain Follows
  nonempty : ∀ g ∈ grants, g.start ≤ g.finish

variable {grants : List (Grant ω τ)} {g latest : Grant ω τ}

/-- No grants are in order. -/
theorem Ordered.nil : Ordered ([] : List (Grant ω τ)) := ⟨.nil, fun _ h => nomatch h⟩

/-- The next grant has to follow the latest one. -/
theorem Ordered.cons (h : Ordered grants) (hg : g.start ≤ g.finish)
    (hfollows : ∀ latest, grants.head? = some latest → Follows g latest) :
    Ordered (g :: grants) := by
  refine ⟨?_, fun x hx => ?_⟩
  · cases grants with
    | nil => exact .singleton g
    | cons latest rest => exact .cons_cons (hfollows latest rfl) h.chain
  · rcases List.mem_cons.mp hx with rfl | hx
    · exact hg
    · exact h.nonempty x hx

/-- The earlier grants are in order. -/
theorem Ordered.tail (h : Ordered (latest :: grants)) : Ordered grants :=
  ⟨h.chain.tail, fun x hx => h.nonempty x (List.mem_cons_of_mem _ hx)⟩

/-- No lease lasts longer than the latest one. -/
private theorem Ordered.finish_le (h : Ordered (latest :: grants)) : ∀ g ∈ grants,
    g.finish ≤ latest.finish := by
  induction grants generalizing latest with
  | nil => exact fun _ hg => nomatch hg
  | cons second rest ih =>
    have hsecond : second.finish ≤ latest.finish := by
      rcases (List.isChain_cons_cons.mp h.chain).1 with ⟨-, -, hrenewed⟩ | hended
      · exact hrenewed
      · exact hended.trans (h.nonempty latest List.mem_cons_self)
    intro g hg
    rcases List.mem_cons.mp hg with rfl | hg
    · exact hsecond
    · exact (ih h.tail g hg).trans hsecond

/-- Owners exclude each other, over any number of grants. -/
theorem Ordered.excludes (h : Ordered grants) : grants.Pairwise Excludes := by
  induction grants with
  | nil => exact .nil
  | cons latest rest ih =>
    refine List.pairwise_cons.mpr ⟨fun g hg hother => ?_, ih h.tail⟩
    cases rest with
    | nil => exact nomatch hg
    | cons second rest =>
      have hfinish : g.finish ≤ second.finish := by
        rcases List.mem_cons.mp hg with rfl | hg
        · exact le_rfl
        · exact h.tail.finish_le g hg
      rcases (List.isChain_cons_cons.mp h.chain).1 with ⟨howner, hstart, -⟩ | hended
      · -- renewed: `g` had ended when the renewed lease was granted
        rcases List.mem_cons.mp hg with rfl | hg
        · exact absurd howner hother
        · have hexcluded := (List.pairwise_cons.mp (ih h.tail)).1 g hg (howner ▸ hother)
          exact hexcluded.trans hstart
      · exact hfinish.trans hended

end Grant
