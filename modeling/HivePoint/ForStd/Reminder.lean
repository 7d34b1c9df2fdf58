import Mathlib

/-!
# Reminders

A notifier looks at a subject in one cycle after another. While the subject is active, a
notification of its fingerprint is due at once when it is new, and again as a reminder when a
cooldown has passed since the last delivery. A receiver may refuse a notification; the notifier
remembers of each receiver one fingerprint and the instant of one delivery.

If a refusal is never remembered next to the delivery of something else, no fingerprint goes
unannounced, and only what has been announced is reminded of. If the fingerprint stays the same
and every delivery is remembered, deliveries are a cooldown apart.
-/

namespace Reminder

/-- What is remembered of a subject and a receiver. -/
@[ext]
structure Memo (φ : Type) where
  fingerprint : φ
  /-- The subject has been inactive since. -/
  closed : Bool
  lastDelivered : Option Int
  deriving DecidableEq

/-- A cycle: the fingerprint, if the subject is active, and the notification that was sent, if any.
    -/
structure Tick (φ : Type) where
  now : Int
  active : Option φ
  /-- whether the receiver accepted it -/
  sent : Option Bool

variable {φ : Type} [DecidableEq φ] {cooldown : Int} {lossless : Prop} {m m' : Option (Memo φ)}
  {t : Tick φ} {ts : List (Tick φ)} {f : φ} {now : Int}

def Memo.close (m : Memo φ) : Memo φ := { m with closed := true }

/-- Is a notification of `f` due? -/
def due (cooldown : Int) (m : Option (Memo φ)) (f : φ) (now : Int) : Bool :=
  match m with
  | none => true
  | some m =>
    m.closed || m.fingerprint ≠ f ||
      match m.lastDelivered with
      | none => true
      | some delivered => cooldown ≤ now - delivered

/-- Would a notification of `f` be a reminder? -/
def reminds (m : Option (Memo φ)) (f : φ) : Bool :=
  match m with
  | none => false
  | some m => !m.closed && m.fingerprint = f && m.lastDelivered.isSome

/-- Nothing is due within the cooldown of what was sent. -/
private theorem due_eq_false_iff :
    due cooldown m f now = false ↔ ∃ s, m = some ⟨f, false, some s⟩ ∧ now - s < cooldown := by
  cases m with
  | none => simp [due]
  | some m =>
    obtain ⟨g, closed, last⟩ := m
    cases last <;> simp [due, and_assoc, and_left_comm]

/-- A memo reminds of a fingerprint that was delivered. -/
private theorem reminds_iff : reminds m f = true ↔ ∃ s, m = some ⟨f, false, some s⟩ := by
  cases m with
  | none => simp [reminds]
  | some m =>
    obtain ⟨g, closed, last⟩ := m
    cases last <;> simp [reminds, and_comm]

/-! ### Cycles -/

/-- What is remembered after a notification. -/
def notified (m : Option (Memo φ)) (f : φ) (now : Int) (recorded : Bool) : Memo φ :=
  ⟨f, false, if recorded then some now else m.bind (·.lastDelivered)⟩

/-- A cycle takes `m` to `m'`. An accepted notification may go unrecorded, unless `lossless`. -/
inductive Step (cooldown : Int) (lossless : Prop) (m : Option (Memo φ)) :
    Tick φ → Option (Memo φ) → Prop
  | inactive (now : Int) : Step cooldown lossless m ⟨now, none, none⟩ (m.map Memo.close)
  | quiet (now : Int) (f : φ) (hdue : due cooldown m f now = false) :
      Step cooldown lossless m ⟨now, some f, none⟩ m
  | notify (now : Int) (f : φ) (accepted recorded : Bool) (hdue : due cooldown m f now = true)
      (haccepted : recorded = true → accepted = true)
      (hrecorded : lossless → accepted = true → recorded = true) :
      Step cooldown lossless m ⟨now, some f, some accepted⟩ (some (notified m f now recorded))

/-- A refused notification does not keep the delivery of another fingerprint or of an earlier
    stretch. -/
def RefusedSafely (m : Option (Memo φ)) (t : Tick φ) : Prop :=
  t.sent = some false → ∀ memo, m = some memo → memo.lastDelivered.isSome →
    memo.closed = false ∧ t.active = some memo.fingerprint

/-- Cycles, latest first, and what is remembered after them. -/
inductive History (cooldown : Int) : List (Tick φ) → Option (Memo φ) → Prop
  | start : History cooldown [] none
  | cycle {ts : List (Tick φ)} {m m' : Option (Memo φ)} {t : Tick φ} (h : History cooldown ts m)
      (hstep : Step cooldown False m t m') (hsafe : RefusedSafely m t) :
      History cooldown (t :: ts) m'

/-! ### Announcements -/

/-- Since the subject became active with `f`, or changed to it, `f` has been delivered. -/
def deliveredSince (f : φ) : List (Tick φ) → Bool
  | [] => false
  | t :: ts => t.active = some f && (t.sent = some true || deliveredSince f ts)

/-- Since the subject became active, `f` has been delivered. -/
def deliveredInStretch (f : φ) : List (Tick φ) → Bool
  | [] => false
  | t :: ts =>
    t.active.isSome && (t.active = some f && t.sent = some true || deliveredInStretch f ts)

/-- What was delivered since is delivered in the stretch. -/
private theorem deliveredInStretch_of_since (h : deliveredSince f ts = true) :
    deliveredInStretch f ts = true := by
  induction ts with
  | nil => exact nomatch h
  | cons t ts ih =>
    simp only [deliveredSince, Bool.and_eq_true, Bool.or_eq_true, decide_eq_true_eq] at h
    obtain ⟨hactive, hsent | hsince⟩ := h
    · simp [deliveredInStretch, hactive, hsent]
    · simp [deliveredInStretch, hactive, ih hsince]

/-- A delivery that is remembered as current was one of the current fingerprint. -/
theorem History.deliveredSince (h : History cooldown ts m) {s : Int}
    (hm : m = some ⟨f, false, some s⟩) : deliveredSince f ts = true := by
  induction h generalizing f s with
  | start => exact nomatch hm
  | @cycle ts m m' t h hstep hsafe ih =>
    cases hstep with
    | inactive now =>
      cases m with
      | none => exact nomatch hm
      | some memo => exact nomatch congrArg Memo.closed (Option.some.inj hm)
    | quiet now g hdue =>
      obtain ⟨s', rfl, -⟩ := due_eq_false_iff.mp hdue
      obtain ⟨rfl, -⟩ := Memo.mk.inj (Option.some.inj hm)
      simp [Reminder.deliveredSince, ih rfl]
    | notify now g accepted recorded hdue haccepted hrecorded =>
      obtain ⟨rfl, -, hlast⟩ := Memo.mk.inj (Option.some.inj hm)
      cases accepted with
      | true => simp [Reminder.deliveredSince]
      | false =>
        -- the delivery that is kept is an earlier one
        rw [if_neg fun hr => nomatch haccepted hr] at hlast
        obtain ⟨memo, hmemo, hdelivered⟩ := Option.bind_eq_some_iff.mp hlast
        obtain ⟨hopen, hsame⟩ := hsafe rfl memo hmemo (by rw [hdelivered]; rfl)
        obtain rfl := Option.some.inj hsame
        have hsince : Reminder.deliveredSince memo.fingerprint ts = true :=
          ih (hmemo.trans (congrArg some (Memo.ext rfl hopen hdelivered)))
        simp [Reminder.deliveredSince, hsince]

/-- What has not been delivered is due. -/
theorem History.due (h : History cooldown ts m) (hnot : Reminder.deliveredSince f ts = false)
    (now : Int) : due cooldown m f now = true := by
  by_contra hdue
  obtain ⟨s, hm, -⟩ := due_eq_false_iff.mp (Bool.eq_false_iff.mpr hdue)
  exact nomatch (h.deliveredSince hm).symm.trans hnot

/-- Only what has been delivered is reminded of. -/
theorem History.reminds (h : History cooldown ts m) (hreminds : reminds m f = true) :
    deliveredInStretch f ts = true := by
  obtain ⟨s, hm⟩ := reminds_iff.mp hreminds
  exact deliveredInStretch_of_since (h.deliveredSince hm)

/-! ### Spacing -/

/-- Cycles, latest first, in which the fingerprint is `f` and every delivery is recorded. -/
inductive Stretch (cooldown : Int) (f : φ) : List (Tick φ) → Option (Memo φ) → Prop
  | start (m : Option (Memo φ)) : Stretch cooldown f [] m
  | cycle {ts : List (Tick φ)} {m m' : Option (Memo φ)} {t : Tick φ} (h : Stretch cooldown f ts m)
      (hstep : Step cooldown True m t m') (hactive : t.active = some f) :
      Stretch cooldown f (t :: ts) m'

/-- The instants of the deliveries, latest first. -/
def deliveries (ts : List (Tick φ)) : List Int := (ts.filter (·.sent = some true)).map (·.now)

omit [DecidableEq φ] in
/-- The deliveries of one tick more. -/
theorem deliveries_cons (t : Tick φ) (ts : List (Tick φ)) :
    deliveries (t :: ts) = if t.sent = some true then t.now ::
      deliveries ts else deliveries ts := by
  unfold deliveries
  rw [List.filter_cons]
  split
  · rename_i h
    rw [if_pos (of_decide_eq_true h), List.map_cons]
  · rename_i h
    rw [if_neg fun h' => h (decide_eq_true h')]

/-- The last delivery is remembered. -/
theorem Stretch.last (h : Stretch cooldown f ts m) {s : Int} (hs : (deliveries ts).head? = some s) :
    m = some ⟨f, false, some s⟩ := by
  -- by induction on the stretch: a delivery writes its time, anything else keeps it
  induction h with
  | start => exact nomatch hs
  | @cycle ts m m' t h hstep hactive ih =>
    rw [deliveries_cons] at hs
    cases hstep with
    | inactive => exact nomatch hactive
    | quiet now g hdue => exact ih hs
    | notify now g accepted recorded hdue haccepted hrecorded =>
      obtain rfl : g = f := Option.some.inj hactive
      cases accepted with
      | true =>
        obtain rfl : now = s := Option.some.inj hs
        rw [notified, hrecorded trivial rfl]
        rfl
      | false =>
        obtain rfl := ih hs
        rw [notified, if_neg fun hr => nomatch haccepted hr]
        rfl

/-- Deliveries of an unchanged fingerprint are a cooldown apart. -/
private theorem Stretch.spaced (h : Stretch cooldown f ts m) :
    (deliveries ts).IsChain fun later earlier => earlier + cooldown ≤ later := by
  induction h with
  | start => exact .nil
  | @cycle ts m m' t h hstep hactive ih =>
    rw [deliveries_cons]
    split
    · rename_i hsent
      cases hstep with
      | inactive => exact nomatch hsent
      | quiet => exact nomatch hsent
      | notify now g accepted recorded hdue haccepted hrecorded =>
        obtain rfl : g = f := Option.some.inj hactive
        show List.IsChain _ (now :: deliveries ts)
        cases hlast : deliveries ts with
        | nil => exact .singleton now
        | cons s rest =>
          rw [hlast] at ih
          refine .cons_cons ?_ ih
          have hm := h.last (congrArg List.head? hlast)
          -- the last delivery is remembered, so that the next one has waited
          by_contra hearly
          have hquiet : due cooldown m g now = false := due_eq_false_iff.mpr ⟨s, hm, by omega⟩
          exact nomatch hdue.symm.trans hquiet
    · exact ih

/-- In no half-open interval of a cooldown are there two of them. -/
theorem Stretch.atMostOne (h : Stretch cooldown f ts m) (hcooldown : 0 ≤ cooldown) (start : Int) :
    ((deliveries ts).filter fun s => start ≤ s && s < start + cooldown).length ≤ 1 := by
  have htrans : IsTrans Int fun later earlier => earlier + cooldown ≤ later :=
    ⟨fun a b c hab hbc => by omega⟩
  have hpairwise := (h.spaced.pairwise).filter fun s => start ≤ s && s < start + cooldown
  generalize hin : (deliveries ts).filter (fun s => start ≤ s && s < start + cooldown) = inside
  rw [hin] at hpairwise
  match inside with
  | [] => exact Nat.zero_le 1
  | [_] => exact le_refl 1
  | later :: earlier :: rest =>
    have hapart := (List.pairwise_cons.mp hpairwise).1 earlier List.mem_cons_self
    have hmem (s : Int) (hs : s ∈ later :: earlier :: rest) : start ≤ s ∧ s < start + cooldown := by
      rw [← hin] at hs
      simpa using (List.mem_filter.mp hs).2
    have hlater := hmem later List.mem_cons_self
    have hearlier := hmem earlier (List.mem_cons_of_mem _ List.mem_cons_self)
    omega

end Reminder
