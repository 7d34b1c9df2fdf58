import HivePoint.Spec.OverageWorker
import HivePoint.Spec.PaymentOutcomes

/-!
# At most one Stripe invoice for an overage

Any number of workers collect overages, statement by statement, while statements are
refused, answers get lost and workers stop. The only guard against a second charge is that
`collectOverageInvoice` reads the row before it sends `invoices.create`, and the row shows the
charge only after the answers to that request and to those that follow it.

A worker is a bystander to a row if it neither charges it nor opens it again. The invariant
of a run is that all workers but at most one are bystanders.

## Key results

* `stripeInvoices_le_one`: no row is charged twice in a run in which no worker takes up an
  open row while another is at it, and none leaves a charge behind that the row does not show.
* `not_stripeInvoices_le_one`: one lost answer suffices for a second charge.
-/

namespace HivePoint

open Prog

/-! ### Charges and what shows them -/

/-- Stripe has carried out an `invoices.create` for the row. -/
def chargesRow (invoiceId : Id) : StripeRequest × Bool → Bool
  | (.createInvoice params, carriedOut) => carriedOut && params.metadataInvoiceId = invoiceId
  | _ => false

/-- The number of Stripe invoices for the row. -/
def World.stripeInvoices (w : World) (invoiceId : Id) : Nat :=
  w.stripeLog.countP (chargesRow invoiceId)

/-- The row is there, and `collectOverageInvoice` does not charge it any more. -/
def World.IsClosed (w : World) (invoiceId : Id) : Prop :=
  ∃ row, w.invoices.find? invoiceId = some row ∧ isCollectable row = false

/-- If there is a Stripe invoice for the row, the row shows it. -/
def World.ShowsCharge (w : World) (invoiceId : Id) : Prop :=
  w.stripeInvoices invoiceId = 0 ∨ w.IsClosed invoiceId

/-- What leaves the row uncharged and does not open it. -/
structure StandsBy (invoiceId : Id) (w w' : World) : Prop where
  stripeInvoices : w'.stripeInvoices invoiceId = w.stripeInvoices invoiceId
  isClosed : w.IsClosed invoiceId → w'.IsClosed invoiceId

section Steps

variable {invoiceId : Id} {w w' : World}

/-- Doing nothing is standing by. -/
theorem StandsBy.refl (w : World) : StandsBy invoiceId w w := ⟨rfl, id⟩

/-- Standing by twice is standing by. -/
theorem StandsBy.trans {w'' : World} (h : StandsBy invoiceId w w')
    (h' : StandsBy invoiceId w' w'') :
    StandsBy invoiceId w w'' :=
  ⟨h'.stripeInvoices.trans h.stripeInvoices, fun hclosed => h'.isClosed (h.isClosed hclosed)⟩

/-- A charge that shows keeps showing while others stand by. -/
private theorem StandsBy.showsCharge (h : StandsBy invoiceId w w') (hw : w.ShowsCharge invoiceId) :
    w'.ShowsCharge invoiceId :=
  hw.imp h.stripeInvoices.trans h.isClosed

/-- The log counts, and the invoices. -/
private theorem standsBy_of_eq (hlog : w'.stripeInvoices invoiceId = w.stripeInvoices invoiceId)
    (hinvoices : w'.invoices = w.invoices) : StandsBy invoiceId w w' :=
  ⟨hlog, fun ⟨row, hrow, hclosed⟩ => ⟨row, hinvoices ▸ hrow, hclosed⟩⟩

/-- A request that charges another invoice is standing by. -/
private theorem standsBy_request (w : World) {request : StripeRequest} (done : Bool)
    (h : chargesRow invoiceId (request, done) = false) :
    StandsBy invoiceId w { w with stripeLog := (request, done) :: w.stripeLog } :=
  standsBy_of_eq (by simp [World.stripeInvoices, h]) rfl

/-- A request that charges nothing is standing by. -/
private theorem standsBy_other (w : World) (request : StripeRequest) (done : Bool)
    (h : ∀ params, request ≠ .createInvoice params) :
    StandsBy invoiceId w { w with stripeLog := (request, done) :: w.stripeLog } := by
  refine standsBy_request w done ?_
  cases request with
  | createInvoice params => exact absurd rfl (h params)
  | _ => rfl

/-- A row with another status than `DRAFT` is not charged. -/
private theorem isCollectable_of_status {row : Invoice} (h : row.status ≠ .draft) :
    isCollectable row = false := by
  simp [isCollectable, h]

/-- Whatever row it is, an outcome of a payment closes it. -/
private theorem isClosed_updateInvoice {data : Invoice → Invoice}
    (h : w.updateInvoice invoiceId data = .ok w')
    (hdata : ∀ row, (data row).id = row.id ∧ (data row).status ≠ .draft) :
    w'.IsClosed invoiceId := by
  have hfind := find?_updateInvoice h (fun row => (hdata row).1) invoiceId
  rw [if_pos rfl] at hfind
  unfold World.updateInvoice at h
  cases hrow : w.invoices.find? invoiceId with
  | none =>
    rw [hrow] at h
    cases h
  | some row =>
    rw [hrow] at hfind
    exact ⟨data row, hfind, isCollectable_of_status (hdata row).2⟩

/-- An update that leaves no draft behind is standing by. -/
private theorem standsBy_updateInvoice {id : Id} {data : Invoice → Invoice}
    (h : w.updateInvoice id data = .ok w')
    (hdata : ∀ row, (data row).id = row.id ∧ (data row).status ≠ .draft) :
    StandsBy invoiceId w w' := by
  have hlog : w'.stripeLog = w.stripeLog := by
    obtain ⟨t, -, rfl⟩ := updateInvoice_eq_ok h
    rfl
  refine ⟨by rw [World.stripeInvoices, hlog, World.stripeInvoices], ?_⟩
  rintro ⟨row, hrow, hclosed⟩
  by_cases hid : invoiceId = id
  · subst hid
    exact isClosed_updateInvoice h hdata
  · refine ⟨row, ?_, hclosed⟩
    rw [find?_updateInvoice h (fun row => (hdata row).1) invoiceId, if_neg hid, hrow]

/-- An update of a subscription is standing by. -/
private theorem standsBy_updateSubscription {id : Id} {data : Subscription → Subscription}
    (h : w.updateSubscription id data = .ok w') : StandsBy invoiceId w w' := by
  obtain ⟨t, -, rfl⟩ := updateSubscription_eq_ok h
  exact standsBy_of_eq rfl rfl

/-- A settlement sends nothing to Stripe, and only marks the rows that are there. -/
private theorem standsBy_materialize {env : Env} {seen : World} {sourceInvoiceId : Id}
    {processedAt : Int} {processed : Bool}
    (h : w.materializeSourceInvoice env seen sourceInvoiceId processedAt = .ok (processed, w')) :
    StandsBy invoiceId w w' := by
  have hlog : w'.stripeLog = w.stripeLog := by
    obtain ⟨_, _, rfl⟩ := materialize_rows h
    rfl
  refine ⟨by rw [World.stripeInvoices, hlog, World.stripeInvoices], ?_⟩
  rintro ⟨row, hrow, hclosed⟩
  obtain ⟨row', hrow', hsame⟩ := evolves_materialize h invoiceId row hrow
  refine ⟨row', hrow', ?_⟩
  rcases hsame with rfl | rfl
  · exact hclosed
  · exact hclosed

end Steps

/-! ### Bystanders -/

section Bystanders

variable {invoiceId : Id}

/-- Recording an answer is standing by. -/
private theorem standsBy_recordCollection (config : AppConfig) (id : Id)
    (result : RetryInvoicePaymentResult) :
    (recordCollection config id result).EachStep (StandsBy invoiceId) := by
  have hfailed : ((if result.status = .void then .void else .pastDue : InvoiceStatus)) ≠
      .draft := by
    split <;> simp
  rw [recordCollection]
  split
  · refine eachStep_bind (eachStep_markInvoicePaid StandsBy.refl _ (fun _ _ _ h => ?_)
      fun _ _ _ _ h => standsBy_updateSubscription h) fun _ => eachStep_pure _
    exact standsBy_updateInvoice h fun row => ⟨rfl, by simp [paidInvoice]⟩
  · refine eachStep_bind (eachStep_markInvoiceFailed StandsBy.refl _ _ (fun _ _ _ _ h => ?_)
      fun _ _ _ _ h => standsBy_updateSubscription h) fun _ => eachStep_pure _
    exact standsBy_updateInvoice h fun row => ⟨rfl, hfailed⟩

/-- The requests of `createManagedInvoice` name the row that they charge. -/
private theorem standsBy_createManagedInvoice {params : CreateManagedInvoiceParams}
    (h : params.invoiceId ≠ invoiceId) :
    (createManagedInvoice params).EachStep (StandsBy invoiceId) := by
  have husers : ∀ (w : World) users, StandsBy invoiceId w { w with users } := fun w users =>
    standsBy_of_eq rfl rfl
  have hcreate : ∀ create : CreateInvoiceParams, create.metadataInvoiceId ≠ invoiceId →
      (callStripe (.createInvoice create) (·.createInvoice create)).EachStep
        (StandsBy invoiceId) := by
    intro create hother
    refine eachStep_stmt fun env w => ?_
    split <;> exact standsBy_request w _ (by simp [chargesRow, hother])
  rw [createManagedInvoice]
  split
  on_goal 1 =>
    refine eachStep_bind (eachStep_resolveSubscriptionCustomer standsBy_other _) fun customer => ?_
  on_goal 2 =>
    refine eachStep_bind (eachStep_ensureCustomer husers standsBy_other _ _) fun customer => ?_
  -- the same requests follow, for either customer
  all_goals exact eachStep_bind (eachStep_request standsBy_other (by simp) _) fun _ =>
    eachStep_bind (hcreate _ h) fun invoice =>
      eachStep_bind (eachStep_finalizeAndPay standsBy_other invoice) fun _ => trivial

/-- What `collectOverageInvoice` reads is the row that it is about. -/
private theorem find?_of_findOverageInvoice {w : World} {details : OverageInvoiceDetails}
    (h : w.findOverageInvoice invoiceId = some details) :
    w.invoices.find? invoiceId = some details.invoice := by
  obtain ⟨⟨invoice, subscription⟩, hpair, hrest⟩ := Option.bind_eq_some_iff.mp h
  obtain ⟨user, -, hrest⟩ := Option.bind_eq_some_iff.mp hrest
  obtain ⟨plan, -, hrest⟩ := Option.bind_eq_some_iff.mp hrest
  obtain ⟨product, -, hrest⟩ := Option.bind_eq_some_iff.mp hrest
  obtain rfl := Option.some.inj hrest
  exact (findInvoiceWithSubscription_eq_some.mp hpair).1

end Bystanders

/-! ### The two contracts -/

/-- A worker that charges the row relies on bystanders only, and charges it once at most. -/
def chargeContract (invoiceId : Id) : Contract World Env where
  permits _ _ _ := True
  rely := StandsBy invoiceId
  guar w w' := w'.stripeInvoices invoiceId ≤ 1 ∧ (w.IsClosed invoiceId → w'.IsClosed invoiceId)
  rely_refl := StandsBy.refl
  rely_trans := StandsBy.trans

/-- A bystander relies on nothing but that the row is not opened again. -/
def bystandContract (invoiceId : Id) : Contract World Env where
  permits _ _ _ := True
  rely w w' := w.IsClosed invoiceId → w'.IsClosed invoiceId
  guar := StandsBy invoiceId
  rely_refl _ := id
  rely_trans h h' hclosed := h' (h hclosed)

section Charge

variable {α : Type} {invoiceId : Id} {w : World}

/-- Standing by keeps the contract of the charge. -/
theorem StandsBy.guar {w w' : World} (h : StandsBy invoiceId w w')
    (hw : w.stripeInvoices invoiceId ≤ 1) : (chargeContract invoiceId).guar w w' :=
  ⟨h.stripeInvoices.trans_le hw, h.isClosed⟩

/-- The number of charges is settled while others stand by. -/
private theorem stable_charge {n : Nat} (hn : n ≤ 1) :
    Stable (chargeContract invoiceId) fun w => w.stripeInvoices invoiceId = n :=
  ⟨fun _ _ hw h => h.stripeInvoices.trans hw, fun w hw => (StandsBy.refl w).guar (hw.trans_le hn)⟩

/-- What stands by can be done while the row is being charged. -/
private theorem sat_standsBy {p : Op α} (hp : p.EachStep (StandsBy invoiceId))
    (hw : w.stripeInvoices invoiceId ≤ 1) :
    p.Sat (chargeContract invoiceId) (fun _ w' => StandsBy invoiceId w w') w := by
  refine hp.sat (fun w₁ w₂ h hrely => h.trans hrely) (fun w₁ w₂ _ h _ hstep => ?_) (StandsBy.refl w)
  exact ⟨hstep.guar (h.stripeInvoices.trans_le hw), h.trans hstep⟩

/-- The write of an outcome closes the row, and what follows leaves it closed. -/
private theorem sat_closes {data : Invoice → Invoice} {rest : Unit → Op α}
    (hw : w.stripeInvoices invoiceId ≤ 1)
    (hdata : ∀ row, (data row).id = row.id ∧ (data row).status ≠ .draft)
    (hrest : ∀ u, (rest u).EachStep (StandsBy invoiceId)) :
    (updateInvoice invoiceId data >>= rest).Sat (chargeContract invoiceId)
      (fun r w' => ∀ a, r = .ok a → w'.IsClosed invoiceId) w := by
  refine (sat_bind _ _ _ w).mpr (sat_updateInvoice (stable_charge hw) rfl (fun w₁ w₂ hw₁ h => ?_)
    fun _ _ _ _ herror => by cases herror)
  have hstands : StandsBy invoiceId w₁ w₂ := standsBy_updateInvoice h hdata
  have hw₂ := hstands.stripeInvoices.trans_le (hw₁.trans_le hw)
  refine ⟨hstands.guar (hw₁.trans_le hw), (sat_standsBy (hrest ()) hw₂).mono ?_⟩
  exact fun _ _ h' _ _ => h'.isClosed (isClosed_updateInvoice h hdata)

/-- A report that was ignored has found the row paid. -/
private theorem isClosed_of_isPaidUnderOtherId {row : Invoice} {externalInvoiceId : Option String}
    (hrow : w.invoices.find? invoiceId = some row)
    (h : isPaidUnderOtherId row externalInvoiceId = true) : w.IsClosed invoiceId := by
  refine ⟨row, hrow, isCollectable_of_status ?_⟩
  intro hdraft
  simp [isPaidUnderOtherId, hdraft] at h

/-- A payment that is recorded closes the invoice. -/
private theorem sat_markInvoicePaid_closes {params : MarkInvoicePaidParams}
    (hid : params.invoiceId = invoiceId) (hw : w.stripeInvoices invoiceId ≤ 1) :
    (markInvoicePaid params).Sat (chargeContract invoiceId)
      (fun r w' => ∀ ignored, r = .ok ignored → w'.IsClosed invoiceId) w := by
  subst hid
  refine (sat_bind _ _ _ w).mpr (sat_read (stable_charge hw) rfl (fun w₁ hw₁ => ?_)
    fun _ _ _ _ herror => by cases herror)
  cases hfound : w₁.findInvoiceWithSubscription params.invoiceId with
  | none => exact fun _ herror => by cases herror
  | some found =>
    obtain ⟨row, subscription⟩ := found
    have hrow := (findInvoiceWithSubscription_eq_some.mp hfound).1
    dsimp only
    -- paid under another external id it is closed already, else this update closes it
    split
    · rename_i hother
      exact fun _ _ => isClosed_of_isPaidUnderOtherId hrow hother
    · rw [show row.id = params.invoiceId from Table.key_of_find? hrow]
      refine sat_closes (hw₁.trans_le hw) (fun row => ⟨rfl, by simp [paidInvoice]⟩) fun _ => ?_
      split
      · trivial
      · exact eachStep_bind (eachStep_updateSubscription StandsBy.refl fun _ _ h =>
          standsBy_updateSubscription h) fun _ => eachStep_pure _

/-- A failure that is recorded closes the invoice. -/
private theorem sat_markInvoiceFailed_closes (config : AppConfig) {params : MarkInvoiceFailedParams}
    (hid : params.invoiceId = invoiceId) (hstatus : params.invoiceStatus.getD .void ≠ .draft)
    (hw : w.stripeInvoices invoiceId ≤ 1) :
    (markInvoiceFailed config params).Sat (chargeContract invoiceId)
      (fun r w' => ∀ ignored, r = .ok ignored → w'.IsClosed invoiceId) w := by
  subst hid
  refine (sat_bind _ _ _ w).mpr (sat_read (stable_charge hw) rfl (fun w₁ hw₁ => ?_)
    fun _ _ _ _ herror => by cases herror)
  cases hfound : w₁.findInvoiceWithSubscription params.invoiceId with
  | none => exact fun _ herror => by cases herror
  | some found =>
    obtain ⟨row, subscription⟩ := found
    have hrow := (findInvoiceWithSubscription_eq_some.mp hfound).1
    dsimp only
    -- paid under another external id it is closed already, else this update closes it
    split
    · rename_i hother
      exact fun _ _ => isClosed_of_isPaidUnderOtherId hrow hother
    · rw [show row.id = params.invoiceId from Table.key_of_find? hrow]
      refine (sat_bind _ _ _ w₁).mpr (sat_clock (stable_charge hw) hw₁ fun now w₂ hw₂ => ?_)
      refine sat_closes (hw₂.trans_le hw) (fun row => ⟨rfl, hstatus⟩) fun _ => ?_
      split
      · trivial
      · refine eachStep_bind (eachStep_clock StandsBy.refl) fun _ => ?_
        exact eachStep_bind (eachStep_updateSubscription StandsBy.refl fun _ _ h =>
          standsBy_updateSubscription h) fun _ => eachStep_pure _

/-- A result that has been recorded closes the row. -/
private theorem sat_recordCollection (config : AppConfig) (result : RetryInvoicePaymentResult)
    (hw : w.stripeInvoices invoiceId ≤ 1) :
    (recordCollection config invoiceId result).Sat (chargeContract invoiceId)
      (fun r w' => ∀ u, r = .ok u → w'.IsClosed invoiceId) w := by
  rw [recordCollection]
  split
  · exact sat_bind_ok (sat_markInvoicePaid_closes rfl hw) fun _ _ hclosed _ _ => hclosed
  · refine sat_bind_ok (sat_markInvoiceFailed_closes config rfl ?_ hw) fun _ _ hclosed _ _ =>
      hclosed
    show (if result.status = .void then InvoiceStatus.void else .pastDue) ≠ .draft
    split <;> simp

/-- Of the requests of `createManagedInvoice` one charges the row, whatever becomes of it. -/
private theorem sat_createManagedInvoice (params : CreateManagedInvoiceParams)
    (hw : w.stripeInvoices invoiceId = 0) :
    (createManagedInvoice params).Sat (chargeContract invoiceId)
      (fun _ w' => w'.stripeInvoices invoiceId ≤ 1) w := by
  have husers : ∀ (w : World) users, StandsBy invoiceId w { w with users } := fun w users =>
    standsBy_of_eq rfl rfl
  have hcharge : ∀ (create : CreateInvoiceParams) (w : World), w.stripeInvoices invoiceId = 0 →
      (do
        let invoice ← callStripe (.createInvoice create) (·.createInvoice create)
        let invoice ← finalizeAndPay invoice
        return toInvoiceResult invoice).Sat (chargeContract invoiceId)
          (fun _ w' => w'.stripeInvoices invoiceId ≤ 1) w := by
    intro create w hw
    refine (sat_bind _ _ _ w).mpr ((sat_stmt _ w).mpr fun w₁ hrely env _ => ?_)
    have hw₁ := hrely.stripeInvoices.trans hw
    have hone : ∀ done, World.stripeInvoices
        { w₁ with stripeLog := (.createInvoice create, done) :: w₁.stripeLog } invoiceId ≤ 1 := by
      intro done
      unfold World.stripeInvoices at hw₁ ⊢
      rw [List.countP_cons, hw₁]
      split <;> omega
    split
    · refine ⟨⟨hone true, fun ⟨row, h⟩ => ⟨row, h⟩⟩, ?_⟩
      refine (sat_standsBy (eachStep_bind (eachStep_finalizeAndPay standsBy_other _) fun _ =>
        eachStep_pure _) (hone true)).mono fun _ _ h => ?_
      exact h.stripeInvoices.trans_le (hone true)
    · exact ⟨⟨hone true, fun ⟨row, h⟩ => ⟨row, h⟩⟩, hone true⟩
    · exact ⟨⟨hone false, fun ⟨row, h⟩ => ⟨row, h⟩⟩, hone false⟩
  -- up to that request nobody charges the row
  have hbefore : ∀ {β : Type} {p : Op β} {g : β → Op RetryInvoicePaymentResult} {w : World},
      p.EachStep (StandsBy invoiceId) → w.stripeInvoices invoiceId = 0 →
      (∀ b w', w'.stripeInvoices invoiceId = 0 → (g b).Sat (chargeContract invoiceId)
        (fun _ w'' => w''.stripeInvoices invoiceId ≤ 1) w') →
      (p >>= g).Sat (chargeContract invoiceId)
        (fun _ w'' => w''.stripeInvoices invoiceId ≤ 1) w := by
    intro β p g w hp hw hg
    refine (sat_bind _ _ _ w).mpr ((sat_standsBy hp (by omega)).mono fun r w' h => ?_)
    have hw' := h.stripeInvoices.trans hw
    cases r with
    | ok b => exact hg b w' hw'
    | error e => exact hw'.trans_le (Nat.zero_le 1)
  rw [createManagedInvoice]
  split
  on_goal 1 =>
    refine hbefore (eachStep_resolveSubscriptionCustomer standsBy_other _) hw fun customer w₁ hw₁ =>
      ?_
  on_goal 2 =>
    refine hbefore (eachStep_ensureCustomer husers standsBy_other _ _) hw fun customer w₁ hw₁ => ?_
  -- the same requests follow, for either customer
  all_goals
    refine hbefore (eachStep_request standsBy_other (by simp) _) hw₁ fun _ w₂ hw₂ => ?_
    exact hcharge _ w₂ hw₂

end Charge

/-! ### What a worker does with its tasks -/

section Tasks

variable (toISOString : Int → String) (config : AppConfig) {invoiceId : Id}

/-- A worker is a bystander while it is at another task. -/
private theorem standsBy_handleOverageTask {task : OverageTask} (h : task ≠ .collect invoiceId) :
    (handleOverageTask toISOString config task).EachStep (StandsBy invoiceId) := by
  cases task with
  | materialize sourceInvoiceId processedAt =>
    exact eachStep_bind (eachStep_materializeSourceInvoice StandsBy.refl
      fun _ _ _ _ _ _ h => standsBy_materialize h) fun _ => eachStep_pure _
  | collect id =>
    -- the other invoice's collection writes and charges under its own id
    have hid : id ≠ invoiceId := fun heq => h (congrArg OverageTask.collect heq)
    refine eachStep_bind (eachStep_bind_returns (B := fun found => ∀ details, found = some details →
      details.invoice.id = id) (eachStep_read StandsBy.refl _)
      (returns_stmt fun env w found hread details hdetails => ?_) fun found hfound => ?_)
      fun _ => eachStep_pure _
    · split at hread
      · cases hread
      · obtain rfl := Except.ok.inj hread
        exact Table.key_of_find? (find?_of_findOverageInvoice hdetails)
    · cases found with
      | none => trivial
      | some details =>
        dsimp only
        split
        · trivial
        · have hother : details.invoice.id ≠ invoiceId := by
            rw [hfound details rfl]
            exact hid
          exact eachStep_bind (standsBy_createManagedInvoice hother) fun result =>
            eachStep_bind (standsBy_recordCollection config _ result) fun _ => eachStep_pure _

/-- So is one that takes up the row when it is closed already: its check sees that. -/
private theorem sat_collect_closed {w : World} (hw : w.IsClosed invoiceId) :
    (handleOverageTask toISOString config (.collect invoiceId)).Sat (bystandContract invoiceId)
      (fun _ _ => True) w := by
  have hJ : Stable (bystandContract invoiceId) fun w => w.IsClosed invoiceId :=
    ⟨fun _ _ hw h => h hw, fun w _ => StandsBy.refl w⟩
  refine (sat_bind _ _ _ w).mpr ((sat_bind _ _ _ w).mpr
    (sat_read hJ hw (fun w₁ hw₁ => ?_) fun _ _ _ => trivial))
  cases hfound : w₁.findOverageInvoice invoiceId with
  | none => trivial
  | some details =>
    obtain ⟨row, hrow, hclosed⟩ := hw₁
    obtain rfl := Option.some.inj (hrow.symm.trans (find?_of_findOverageInvoice hfound))
    simp only [hclosed, Bool.not_false, if_true]
    trivial

/-- Where there is no Stripe invoice for the row, a worker that returns from its collection
    has made none, or has closed the row. -/
private theorem sat_collect {w : World} (hw : w.stripeInvoices invoiceId = 0) :
    (handleOverageTask toISOString config (.collect invoiceId)).Sat (chargeContract invoiceId)
      (fun r w' => ∀ u, r = .ok u → w'.ShowsCharge invoiceId) w := by
  suffices hcollect : (collectOverageInvoice toISOString config invoiceId).Sat
      (chargeContract invoiceId) (fun r w' => ∀ charged, r = .ok charged →
        w'.ShowsCharge invoiceId) w from
    sat_bind_ok hcollect fun _ _ hshows _ _ => hshows
  -- an invoice that is gone or closed is not charged; else Stripe is asked once
  refine (sat_bind _ _ _ w).mpr (sat_read (stable_charge (Nat.zero_le 1)) hw (fun w₁ hw₁ => ?_)
    fun _ _ _ _ herror => by cases herror)
  cases hfound : w₁.findOverageInvoice invoiceId with
  | none => exact fun _ _ => .inl hw₁
  | some details =>
    dsimp only
    split
    -- the answer is recorded under the invoice it was asked for
    · exact fun _ _ => .inl hw₁
    · have hid : details.invoice.id = invoiceId :=
        Table.key_of_find? (find?_of_findOverageInvoice hfound)
      refine (sat_bind _ _ _ w₁).mpr ((sat_createManagedInvoice _ hw₁).mono fun result w₂ hw₂ => ?_)
      cases result with
      | error e => exact fun _ herror => by cases herror
      | ok result =>
        rw [hid]
        exact sat_bind_ok (sat_recordCollection config result hw₂) fun _ _ hclosed _ _ =>
          .inr hclosed

end Tasks

/-! ### Runs of any number of workers -/

section Runs

variable {ω β : Type} {invoiceId : Id}

/-- The worker neither charges the row nor opens it. -/
def IsBystander (invoiceId : Id) (φ : Phase OverageTask World Env Err) (w : World) : Prop :=
  φ.Sat (bystandContract invoiceId) (fun _ _ _ => True) w

/-- Every worker is a bystander, or one is at the row and all others are. -/
inductive ChargesAlone (invoiceId : Id) (c : Crew ω OverageTask World Env Err) : Prop where
  | nobody (hone : c.state.stripeInvoices invoiceId ≤ 1) (hshows : c.state.ShowsCharge invoiceId)
      (hothers : ∀ v, IsBystander invoiceId (c.phase v) c.state)
  | one (v₀ : ω) (hone : c.state.stripeInvoices invoiceId ≤ 1)
      (hhandles : (c.phase v₀).Handles (.collect invoiceId))
      (hsat : (c.phase v₀).Sat (chargeContract invoiceId)
        (fun _ r w' => ∀ u, r = .ok u → w'.ShowsCharge invoiceId) c.state)
      (hothers : ∀ v, v ≠ v₀ → IsBystander invoiceId (c.phase v) c.state)

/-- In every state of a crew that charges alone there is at most one charge. -/
private theorem ChargesAlone.le_one {c : Crew ω OverageTask World Env Err}
    (h : ChargesAlone invoiceId c) :
    c.state.stripeInvoices invoiceId ≤ 1 := by
  cases h with
  | nobody hone hshows hothers => exact hone
  | one v₀ hone hhandles hsat hothers => exact hone

variable [DecidableEq ω] (act : β → Env → World → World)

/-- How a row is charged with care. A worker takes it up only when it is closed, or when no
    other worker is at it. A worker that ends its collection with an exception, or is stopped
    in it, leaves no charge that the row does not show. Other processes stand by. -/
def WithCare (invoiceId : Id) (c : Crew ω OverageTask World Env Err) : Move ω β Env → Prop
  | .work v _ =>
    (∀ tasks queries, c.phase v = .between (.collect invoiceId :: tasks) queries →
      c.state.IsClosed invoiceId ∨ ∀ v', ¬(c.phase v').Handles (.collect invoiceId)) ∧
    ∀ e tasks queries, c.phase v = .handling (.collect invoiceId) (.done (.error e)) tasks queries →
      c.state.ShowsCharge invoiceId
  | .stop v => (c.phase v).Handles (.collect invoiceId) → c.state.ShowsCharge invoiceId
  | .event b env => StandsBy invoiceId c.state (act b env c.state)

variable {act} (toISOString : Int → String) (config : AppConfig)
  {c : Crew ω OverageTask World Env Err}

omit [DecidableEq ω] in
/-- A bystander stays one whatever opens no row. -/
theorem IsBystander.interfere {φ : Phase OverageTask World Env Err} {w w' : World}
    (h : IsBystander invoiceId φ w) (hw : w.IsClosed invoiceId → w'.IsClosed invoiceId) :
    IsBystander invoiceId φ w' :=
  Phase.Sat.interfere h hw fun _ _ _ => trivial

/-- A bystander's move stands by, unless it takes up the row while that is open. -/
theorem IsBystander.advance {φ : Phase OverageTask World Env Err} {w : World}
    (h : IsBystander invoiceId φ w) (env : Env)
    (htakes : ∀ tasks queries, φ = .between (.collect invoiceId :: tasks) queries →
      w.IsClosed invoiceId) :
    StandsBy invoiceId w (Crew.advance (overageCollectionJob toISOString config) env w φ).2 ∧
      IsBystander invoiceId (Crew.advance (overageCollectionJob toISOString config) env w φ).1
        (Crew.advance (overageCollectionJob toISOString config) env w φ).2 := by
  refine Phase.Sat.advance h (StandsBy.refl w) (fun _ => trivial) fun task tasks queries hφ => ?_
  by_cases htask : task = .collect invoiceId
  · subst htask
    exact sat_collect_closed toISOString config (htakes tasks queries hφ)
  · exact (standsBy_handleOverageTask toISOString config htask).sat (I := fun _ => True)
      (fun _ _ _ _ => trivial) (fun _ _ _ _ _ hstep => ⟨hstep, trivial⟩) trivial

variable {toISOString config}

/-- Nobody is at the row, and a worker makes its next move. -/
private theorem chargesAlone_work {v : ω} {env : Env} (hone : c.state.stripeInvoices invoiceId ≤ 1)
    (hshows : c.state.ShowsCharge invoiceId)
    (hothers : ∀ v, IsBystander invoiceId (c.phase v) c.state) :
    ChargesAlone invoiceId (c.next (overageCollectionJob toISOString config) act
      (.work v env)) := by
  by_cases htakes : ∀ tasks queries,
      c.phase v = .between (.collect invoiceId :: tasks) queries → c.state.IsClosed invoiceId
  · obtain ⟨hstands, hself⟩ := (hothers v).advance toISOString config env htakes
    refine .nobody (hstands.stripeInvoices.trans_le hone) (hstands.showsCharge hshows) fun v' => ?_
    by_cases hv : v' = v
    · subst hv
      rw [Crew.next_work_phase]
      exact hself
    · rw [Crew.next_work_phase_of_ne hv]
      exact (hothers v').interfere hstands.isClosed
  · -- the worker takes up the open row, for which there is no Stripe invoice yet
    push Not at htakes
    obtain ⟨tasks, queries, hphase, hopen⟩ := htakes
    have hnone := hshows.resolve_right hopen
    have hadvance : Crew.advance (overageCollectionJob toISOString config) env c.state (c.phase v) =
        (.handling (.collect invoiceId) (handleOverageTask toISOString config (.collect invoiceId))
          tasks queries, c.state) := by
      rw [hphase]
      rfl
    have hstate : (c.next (overageCollectionJob toISOString config) act (.work v env)).state =
        c.state := congrArg Prod.snd hadvance
    refine .one v (hstate ▸ hone) ?_ ?_ fun v' hv => ?_
    · rw [Crew.next_work_phase, hadvance]
      rfl
    · rw [Crew.next_work_phase, hadvance, hstate]
      exact sat_collect toISOString config hnone
    · rw [Crew.next_work_phase_of_ne hv, hstate]
      exact hothers v'

/-- The worker at the row makes its next move: a statement of its collection, or its return. -/
private theorem chargesAlone_work_self {v₀ : ω} {env : Env}
    (hone : c.state.stripeInvoices invoiceId ≤ 1)
    (hhandles : (c.phase v₀).Handles (.collect invoiceId))
    (hsat : (c.phase v₀).Sat (chargeContract invoiceId)
      (fun _ r w' => ∀ u, r = .ok u → w'.ShowsCharge invoiceId) c.state)
    (hothers : ∀ v, v ≠ v₀ → IsBystander invoiceId (c.phase v) c.state)
    (hcare : WithCare act invoiceId c (.work v₀ env)) :
    ChargesAlone invoiceId (c.next (overageCollectionJob toISOString config) act
      (.work v₀ env)) := by
  -- the worker's task is done, or one of its statements runs
  cases hphase : c.phase v₀ with
  | between tasks queries =>
    rw [hphase] at hhandles
    cases hhandles
  | handling task p tasks queries =>
    rw [hphase] at hhandles hsat
    obtain rfl : task = .collect invoiceId := hhandles
    cases p with
    | done r =>
      -- a handling that ended shows its charge, by its own post or by the care taken
      have hshows : c.state.ShowsCharge invoiceId := by
        cases r with
        | ok u => exact hsat u rfl
        | error e => exact hcare.2 e tasks queries hphase
      have hadvance : Crew.advance (overageCollectionJob toISOString config) env c.state
          (c.phase v₀) = (.between tasks queries, c.state) := by
        rw [hphase]
        rfl
      have hstate : (c.next (overageCollectionJob toISOString config) act (.work v₀ env)).state =
          c.state := congrArg Prod.snd hadvance
      refine .nobody (hstate ▸ hone) (hstate ▸ hshows) fun v => ?_
      by_cases hv : v = v₀
      · subst hv
        rw [Crew.next_work_phase, hadvance]
        trivial
      · rw [Crew.next_work_phase_of_ne hv, hstate]
        exact hothers v hv
    -- the statement keeps the contract, so the others stay bystanders
    | step run next =>
      have hadvance : Crew.advance (overageCollectionJob toISOString config) env c.state
          (c.phase v₀) = (.handling (.collect invoiceId) (next env c.state) tasks queries,
            run env c.state) := by
        rw [hphase]
        rfl
      have hstate : (c.next (overageCollectionJob toISOString config) act (.work v₀ env)).state =
          run env c.state := congrArg Prod.snd hadvance
      obtain ⟨⟨hone', hclosed⟩, hnext⟩ := hsat c.state (StandsBy.refl _) env trivial
      refine .one v₀ (hstate ▸ hone') ?_ ?_ fun v hv => ?_
      · rw [Crew.next_work_phase, hadvance]
        rfl
      · rw [Crew.next_work_phase, hadvance, hstate]
        exact hnext
      · rw [Crew.next_work_phase_of_ne hv, hstate]
        exact (hothers v hv).interfere hclosed

/-- Another worker makes its next move. -/
private theorem chargesAlone_work_other {v₀ v : ω} {env : Env} (hv : v ≠ v₀)
    (hone : c.state.stripeInvoices invoiceId ≤ 1)
    (hhandles : (c.phase v₀).Handles (.collect invoiceId))
    (hsat : (c.phase v₀).Sat (chargeContract invoiceId)
      (fun _ r w' => ∀ u, r = .ok u → w'.ShowsCharge invoiceId) c.state)
    (hothers : ∀ v, v ≠ v₀ → IsBystander invoiceId (c.phase v) c.state)
    (hcare : WithCare act invoiceId c (.work v env)) :
    ChargesAlone invoiceId (c.next (overageCollectionJob toISOString config) act
      (.work v env)) := by
  -- the other worker does not take up this invoice while one handles it
  obtain ⟨hstands, hself⟩ := (hothers v hv).advance toISOString config env
    fun tasks queries hphase =>
      (hcare.1 tasks queries hphase).resolve_right fun hnobody => hnobody v₀ hhandles
  refine .one v₀ (hstands.stripeInvoices.trans_le hone) ?_ ?_ fun v' hv' => ?_
  · rw [Crew.next_work_phase_of_ne hv.symm]
    exact hhandles
  · rw [Crew.next_work_phase_of_ne hv.symm]
    exact hsat.interfere hstands fun _ _ hpost u hr => hstands.showsCharge (hpost u hr)
  · by_cases heq : v' = v
    · subst heq
      rw [Crew.next_work_phase]
      exact hself
    · rw [Crew.next_work_phase_of_ne heq]
      exact (hothers v' hv').interfere hstands.isClosed

/-- A worker is stopped. -/
theorem ChargesAlone.stop (h : ChargesAlone invoiceId c) {v : ω}
    (hcare : WithCare act invoiceId c (.stop v)) :
    ChargesAlone invoiceId (c.next (overageCollectionJob toISOString config) act (.stop v)) := by
  -- whoever stopped handles nothing, and everybody else is as before
  have hbystander : ∀ v', (v' ≠ v → IsBystander invoiceId (c.phase v') c.state) →
      IsBystander invoiceId
        ((c.next (overageCollectionJob toISOString config) act (.stop v)).phase v')
        c.state := by
    intro v' hv'
    by_cases heq : v' = v
    · subst heq
      rw [Crew.next_stop_phase]
      trivial
    · rw [Crew.next_stop_phase_of_ne heq]
      exact hv' heq
  cases h with
  | nobody hone hshows hothers =>
    exact .nobody hone hshows fun v' => hbystander v' fun _ => hothers v'
  | one v₀ hone hhandles hsat hothers =>
    -- the worker on the invoice may stop only once its charge shows
    by_cases hv : v₀ = v
    · subst hv
      exact .nobody hone (hcare hhandles) fun v' => hbystander v' (hothers v')
    · refine .one v₀ hone ?_ ?_ fun v' hv' => hbystander v' fun _ => hothers v' hv'
      · rw [Crew.next_stop_phase_of_ne hv]
        exact hhandles
      · rw [Crew.next_stop_phase_of_ne hv]
        exact hsat

/-- Another process acts. -/
theorem ChargesAlone.event (h : ChargesAlone invoiceId c) {b : β} {env : Env}
    (hstands : StandsBy invoiceId c.state (act b env c.state)) :
    ChargesAlone invoiceId (c.next (overageCollectionJob toISOString config) act
      (.event b env)) := by
  cases h with
  | nobody hone hshows hothers =>
    exact .nobody (hstands.stripeInvoices.trans_le hone) (hstands.showsCharge hshows) fun v =>
      (hothers v).interfere hstands.isClosed
  | one v₀ hone hhandles hsat hothers =>
    refine .one v₀ (hstands.stripeInvoices.trans_le hone) hhandles ?_ fun v hv =>
      (hothers v hv).interfere hstands.isClosed
    exact hsat.interfere hstands fun _ _ hpost u hr => hstands.showsCharge (hpost u hr)

/-- Each move made with care keeps the charge a worker's own. -/
theorem ChargesAlone.next (h : ChargesAlone invoiceId c) {m : Move ω β Env}
    (hcare : WithCare act invoiceId c m) :
    ChargesAlone invoiceId (c.next (overageCollectionJob toISOString config) act m) := by
  cases m with
  | work v env =>
    cases h with
    | nobody hone hshows hothers => exact chargesAlone_work hone hshows hothers
    | one v₀ hone hhandles hsat hothers =>
      by_cases hv : v = v₀
      · subst hv
        exact chargesAlone_work_self hone hhandles hsat hothers hcare
      · exact chargesAlone_work_other hv hone hhandles hsat hothers hcare
  | stop v => exact h.stop hcare
  | event b env => exact h.event hcare

/-- A row that is charged with care is charged once at most. -/
theorem stripeInvoices_le_one {w₀ : World} (hnone : w₀.stripeInvoices invoiceId = 0)
    (hrun : Crew.Reach (overageCollectionJob toISOString config) act (WithCare act invoiceId)
      (Crew.resting w₀) c) : c.state.stripeInvoices invoiceId ≤ 1 := by
  have hinit : ChargesAlone invoiceId (Crew.resting w₀ : Crew ω OverageTask World Env Err) :=
    .nobody (hnone.trans_le (Nat.zero_le 1)) (.inl hnone) fun _ => trivial
  exact (hrun.induct hinit fun _ _ h hcare => h.next hcare).le_one

end Runs

/-! ### One answer is lost -/

/-- The overage waits for its collection. -/
def pendingOverage : World :=
  { sampleBilling (sampleSubscription .active)
      { sampleInvoice .overage .draft with externalInvoiceId := none } with
    users := .singleton ⟨"buyer", "buyer@example.com", some "cus_1"⟩ }

/-- The runs of one worker alone, in which no collection throws. -/
def collectsQuietly (c : Crew Unit OverageTask World Env Err) : Move Unit Empty Env → Bool
  | .work _ _ =>
    match c.phase () with
    | .handling _ (.done (.error _)) _ _ => false
    | _ => true
  | _ => false

/-- The condition can be checked on a schedule. -/
private theorem withCare_of_collectsQuietly {act : Empty → Env → World → World} {invoiceId : Id}
    (c : Crew Unit OverageTask World Env Err) (m : Move Unit Empty Env)
    (h : collectsQuietly c m = true) : WithCare act invoiceId c m := by
  cases m with
  | work v env =>
    refine ⟨fun tasks queries hphase => .inr fun v' => ?_, fun e tasks queries hphase => ?_⟩
    · rw [show c.phase v' = _ from hphase]
      exact id
    · simp only [collectsQuietly, show c.phase () = _ from hphase] at h
      cases h
  | stop v => cases h
  | event b env => cases h

/-- One cycle that Stripe answers throughout. -/
theorem stripeInvoices_le_one_collected :
    ∃ c, (Crew.resting pendingOverage).runIf (overageCollectionJob toString sampleConfig)
        (fun b _ _ => Empty.elim b) collectsQuietly
        (List.replicate 11 (.work () (overageEnv 3000 (.ok (sampleStripeInvoice .paid))))) =
          some c ∧
      c.state.stripeInvoices "inv" ≤ 1 ∧ c.state.stripeInvoices "inv" ≠ 0 := by
  have hfacts : ((Crew.resting pendingOverage).runIf (overageCollectionJob toString sampleConfig)
      (fun b _ _ => Empty.elim b) collectsQuietly
      (List.replicate 11 (.work () (overageEnv 3000 (.ok (sampleStripeInvoice .paid)))))).map
        (fun c => c.state.stripeInvoices "inv") = some 1 := by
    decide +kernel
  obtain ⟨c, hc, hcharged⟩ := Option.map_eq_some_iff.mp hfacts
  have hnone : pendingOverage.stripeInvoices "inv" = 0 := by decide
  refine ⟨c, hc, stripeInvoices_le_one hnone (Crew.reach_runIf withCare_of_collectsQuietly hc), ?_⟩
  omega

/-- The answer to the first `invoices.create` is lost, and the next cycle sends another. -/
theorem not_stripeInvoices_le_one :
    ¬∀ (w₀ : World) (overage : Invoice), w₀.invoices.find? overage.id = some overage →
      overage.kind = .overage → w₀.stripeInvoices overage.id = 0 →
        ∀ c : Crew Unit OverageTask World Env Err,
          Crew.Reach (overageCollectionJob toString sampleConfig)
            (fun (b : Empty) _ _ => Empty.elim b) (fun _ _ => True) (Crew.resting w₀) c →
          c.state.stripeInvoices overage.id ≤ 1 := by
  intro h
  have htwice := h pendingOverage
    { sampleInvoice .overage .draft with externalInvoiceId := none } rfl rfl (by decide) _
    (Crew.reach_runMoves (List.replicate 8 (.work () (overageEnv 3000 .lost)) ++
      List.replicate 9 (.work () (overageEnv 4000 (.ok (sampleStripeInvoice .paid))))) _)
  exact absurd htwice (by decide +kernel)

end HivePoint
