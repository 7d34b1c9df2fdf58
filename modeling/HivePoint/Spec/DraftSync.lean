import HivePoint.ForStd.Pool
import HivePoint.Spec.EachStatement

/-!
# Draft events among other handlers

`syncInvoiceFromExternal` with the status `DRAFT` reads the invoice in one statement and
writes what it decided on in another. Here any number of calls of `syncInvoiceFromExternal`
run next to each other, statement by statement.

## Key results

- `draftInvoice_keeps_iff`: when a draft write keeps what the row decided.
- `draft_neverReopens`: no run reopens an invoice in which draft handlers write from reads
  that are still true.
- `not_draft_neverReopens`: a read that is no longer true reopens a paid invoice.
-/

namespace HivePoint

open Prog Pool

/-! ### The write of a draft handler -/

/-- The rest of a draft handler once it has read the invoice. -/
def draftWriting (params : SyncInvoiceParams) (invoiceId : Id) (current : Invoice) : Op Id := do
  updateInvoice invoiceId (draftInvoice params current)
  return invoiceId

/-- The columns that a draft event must not overwrite are still as they were read. -/
def StillRead (current row : Invoice) : Prop :=
  current.status ≠ .draft ∧ current.attemptCount = row.attemptCount ∧
    current.nextPaymentAttemptAt = row.nextPaymentAttemptAt

/-- On an invoice that has left `DRAFT`, a draft write keeps that, the attempt count and the
    next attempt exactly when it rests on a read that is still true. -/
theorem draftInvoice_keeps_iff (params : SyncInvoiceParams) (current row : Invoice) :
    ((draftInvoice params current row).status ≠ .draft ∧
        (draftInvoice params current row).attemptCount = row.attemptCount ∧
        (draftInvoice params current row).nextPaymentAttemptAt = row.nextPaymentAttemptAt) ↔
      StillRead current row := by
  simp only [draftInvoice, StillRead]
  by_cases hdraft : current.status = .draft
  · simp [hdraft]
  · simp [hdraft]

/-! ### What the other statements do -/

/-- A statement of a call with this status: it adds an invoice, takes one out of `DRAFT`
    unless the call is a draft event, or leaves the invoices alone. -/
inductive SyncStep (status : InvoiceStatus) (w w' : World) : Prop where
  | created (row : Invoice) (h : w.createInvoice row = .ok w')
  | decided (hstatus : status ≠ .draft) (id : Id) (data : Invoice → Invoice)
      (hdata : ∀ row, (data row).id = row.id ∧ (data row).status ≠ .draft)
      (h : w.updateInvoice id data = .ok w')
  | elsewhere (h : w'.invoices = w.invoices)

section SyncStep

variable {status : InvoiceStatus}

/-- A step may leave the invoices as they are. -/
theorem SyncStep.refl (w : World) : SyncStep status w w := .elsewhere rfl

/-- Resolving an invoice takes steps of a sync. -/
private theorem syncStep_resolveInvoiceForExternalSync (params : SyncInvoiceParams) :
    (resolveInvoiceForExternalSync params).EachStep (SyncStep status) :=
  eachStep_resolveInvoiceForExternalSync SyncStep.refl params fun _ _ _ _ h => .created _ h

/-- Marking an invoice paid takes steps of a sync. -/
private theorem syncStep_markInvoicePaid (hstatus : status ≠ .draft)
    (params : MarkInvoicePaidParams) :
    (markInvoicePaid params).EachStep (SyncStep status) := by
  refine eachStep_markInvoicePaid SyncStep.refl params (fun invoice w w' h => ?_)
    fun _ _ _ _ h => .elsewhere (updateSubscription_invoices h)
  exact .decided hstatus _ (paidInvoice params invoice) (fun row => ⟨rfl, by simp [paidInvoice]⟩) h

/-- Marking an invoice failed takes steps of a sync. -/
private theorem syncStep_markInvoiceFailed (hstatus : status ≠ .draft) (config : AppConfig)
    (params : MarkInvoiceFailedParams) (hparams : params.invoiceStatus.getD .void ≠ .draft) :
    (markInvoiceFailed config params).EachStep (SyncStep status) := by
  refine eachStep_markInvoiceFailed SyncStep.refl config params (fun state invoice w w' h => ?_)
    fun _ _ _ _ h => .elsewhere (updateSubscription_invoices h)
  exact .decided hstatus _ (failedInvoice params state invoice) (fun row => ⟨rfl, hparams⟩) h

/-- The rest of the call is a draft write. -/
def IsDraftWrite (params : SyncInvoiceParams) (p : Op Id) : Prop :=
  params.status = .draft ∧ ∃ invoiceId current, p = draftWriting params invoiceId current

/-- Everything that a call sends is a `SyncStep` or its draft write. -/
private theorem stepsOr_syncInvoiceFromExternal (config : AppConfig) (params : SyncInvoiceParams) :
    (syncInvoiceFromExternal config params).StepsOr (IsDraftWrite params)
      (SyncStep params.status) := by
  refine stepsOr_bind (syncStep_resolveInvoiceForExternalSync params) fun invoiceId => ?_
  refine stepsOr_bind (eachStep_read SyncStep.refl _) fun found => ?_
  cases found with
  | none => trivial
  | some current =>
    dsimp only
    cases hstatus : params.status with
    -- only a draft's own write may overwrite what stands
    | draft =>
      intro env w
      refine ⟨.inr ⟨hstatus, invoiceId, current, rfl⟩, ?_⟩
      exact stepsOr_bind (p := .done _) trivial fun _ => stepsOr_pure _
    | paid =>
      exact (eachStep_bind (syncStep_markInvoicePaid (by decide) _) fun _ =>
        eachStep_pure _).stepsOr
    | pastDue =>
      exact (eachStep_bind (syncStep_markInvoiceFailed (by decide) config _ (by simp))
        fun _ => eachStep_pure _).stepsOr
    | void =>
      exact (eachStep_bind (syncStep_markInvoiceFailed (by decide) config _ (by simp))
        fun _ => eachStep_pure _).stepsOr

end SyncStep

/-! ### Every run -/

abbrev Syncs := Pool Nat World Env Err Id

/-- The calls before their first statement. -/
def startSyncs (config : AppConfig) (calls : Nat → SyncInvoiceParams) (w : World) : Syncs :=
  ⟨fun n => syncInvoiceFromExternal config (calls n), w⟩

/-- If the step is the write of a draft handler on an invoice that has left `DRAFT`, what the
    handler read is still true. -/
def DraftsFresh (calls : Nat → SyncInvoiceParams) (P : Syncs) (c : Choice Nat Env Err) : Prop :=
  (calls c.thread).status = .draft → ∀ invoiceId current,
    P.threads c.thread = draftWriting (calls c.thread) invoiceId current →
      ∀ row, P.state.invoices.find? invoiceId = some row → row.status ≠ .draft →
        StillRead current row

section Runs

variable {config : AppConfig} {calls : Nat → SyncInvoiceParams} {w₀ : World} {P P' : Syncs}
  {c : Choice Nat Env Err}

/-- What the step leaves of an invoice that has left `DRAFT`. -/
def Keeps (status : InvoiceStatus) (row row' : Invoice) : Prop :=
  row'.status ≠ .draft ∧ (status = .draft → row'.attemptCount = row.attemptCount ∧
    row'.nextPaymentAttemptAt = row.nextPaymentAttemptAt)

/-- A step of a sync keeps an invoice that has left its draft. -/
theorem SyncStep.keeps {status : InvoiceStatus} {w w' : World} (h : SyncStep status w w') {id : Id}
    {row : Invoice} (hrow : w.invoices.find? id = some row) (hleft : row.status ≠ .draft) :
    ∃ row', w'.invoices.find? id = some row' ∧ Keeps status row row' := by
  cases h with
  | elsewhere h => exact ⟨row, h ▸ hrow, hleft, fun _ => ⟨rfl, rfl⟩⟩
  | created new h =>
    obtain ⟨t, ht, rfl⟩ := createInvoice_eq_ok h
    refine ⟨row, ?_, hleft, fun _ => ⟨rfl, rfl⟩⟩
    show t.find? id = some row
    rw [Table.find?_insert? ht, if_neg, hrow]
    rintro rfl
    exact nomatch (Table.find?_of_insert? ht).symm.trans hrow
  | decided hstatus k data hdata h =>
    rw [find?_updateInvoice h fun row => (hdata row).1]
    split
    · rename_i hid
      rw [← hid, hrow]
      exact ⟨data row, rfl, (hdata row).2, fun hdraft => absurd hdraft hstatus⟩
    · exact ⟨row, hrow, hleft, fun _ => ⟨rfl, rfl⟩⟩

/-- The write of a draft handler is made or refused. -/
private theorem draftWriting_next {n : Nat} {env : Env} {params : SyncInvoiceParams}
    {invoiceId : Id} {current : Invoice}
    (hthread : P.threads n = draftWriting params invoiceId current)
    (hnext : P.next .free (.run n env) = some P') :
    P'.state = P.state ∨
      P.state.updateInvoice invoiceId (draftInvoice params current) = .ok P'.state := by
  obtain ⟨act, nxt, hstep, -, rfl⟩ := next_run_cases hnext
  rw [hthread] at hstep
  injection hstep with hact
  show act env P.state = P.state ∨
    P.state.updateInvoice invoiceId (draftInvoice params current) = .ok (act env P.state)
  rw [← hact]
  dsimp only
  split
  · exact .inl rfl
  · split
    · rename_i h
      exact .inr (except_map_eq_ok h)
    · exact .inl rfl

/-- One step of a run in which drafts are fresh keeps every decided invoice decided. -/
private theorem keeps_next
    (hsteps : ∀ n, (P.threads n).StepsOr (IsDraftWrite (calls n)) (SyncStep (calls n).status))
    (hok : DraftsFresh calls P c) (hnext : P.next .free c = some P') {id : Id} {row : Invoice}
    (hrow : P.state.invoices.find? id = some row) (hleft : row.status ≠ .draft) :
    ∃ row', P'.state.invoices.find? id = some row' ∧ Keeps (calls c.thread).status row row' := by
  cases c with
  | stop n e =>
    obtain ⟨-, rfl⟩ := next_stop_cases hnext
    exact ⟨row, hrow, hleft, fun _ => ⟨rfl, rfl⟩⟩
  | run n env =>
    rcases next_stepsOr (hsteps n) hnext with hstep | ⟨hdraft, invoiceId, current, hthread⟩
    · exact hstep.keeps hrow hleft
    · -- the write of a draft handler, from what it read
      rcases draftWriting_next hthread hnext with hsame | hwrite
      · exact ⟨row, hsame ▸ hrow, hleft, fun _ => ⟨rfl, rfl⟩⟩
      · rw [find?_updateInvoice hwrite fun _ => rfl]
        split
        · rename_i hid
          rw [hid] at hrow
          have hread := hok hdraft invoiceId current hthread row hrow hleft
          obtain ⟨hstatus, hcolumns⟩ := (draftInvoice_keeps_iff (calls n) current row).mpr hread
          rw [hrow]
          exact ⟨_, rfl, hstatus, fun _ => hcolumns⟩
        · exact ⟨row, hrow, hleft, fun _ => ⟨rfl, rfl⟩⟩

/-- Every sync's rest takes steps of a sync, or writes its draft. -/
private theorem stepsOr_of_reach {ok : Syncs → Choice Nat Env Err → Prop}
    (hreach : Reach .free ok (startSyncs config calls w₀) P) (n : Nat) :
    (P.threads n).StepsOr (IsDraftWrite (calls n)) (SyncStep (calls n).status) :=
  hreach.stepsOr (fun n => stepsOr_syncInvoiceFromExternal config (calls n)) n

/-- As long as draft handlers write from reads that are still true, an invoice that has left
    `DRAFT` never returns to it, and no draft handler overwrites its attempt count or its next
    payment attempt. -/
theorem draft_neverReopens
    (hreach : Reach .free (DraftsFresh calls) (startSyncs config calls w₀) P)
    (hlater : Reach .free (DraftsFresh calls) P P') {id : Id} {row : Invoice}
    (hrow : P.state.invoices.find? id = some row) (hleft : row.status ≠ .draft) :
    ∃ row', P'.state.invoices.find? id = some row' ∧ row'.status ≠ .draft ∧
      ∀ c P'', DraftsFresh calls P' c → P'.next .free c = some P'' →
        (calls c.thread).status = .draft →
          ∃ row'', P''.state.invoices.find? id = some row'' ∧
            row''.attemptCount = row'.attemptCount ∧
            row''.nextPaymentAttemptAt = row'.nextPaymentAttemptAt := by
  have hstart := stepsOr_of_reach hreach
  have hkept : ∃ row', P'.state.invoices.find? id = some row' ∧ row'.status ≠ .draft := by
    -- by induction on the later run: every step keeps the invoice
    induction hlater with
    | init => exact ⟨row, hrow, hleft⟩
    | step hlater hok hnext ih =>
      obtain ⟨row₁, hrow₁, hleft₁⟩ := ih
      obtain ⟨row₂, hrow₂, hkeeps⟩ := keeps_next (hlater.stepsOr hstart) hok hnext hrow₁ hleft₁
      exact ⟨row₂, hrow₂, hkeeps.1⟩
  obtain ⟨row', hrow', hleft'⟩ := hkept
  refine ⟨row', hrow', hleft', fun c P'' hok hnext hdraft => ?_⟩
  obtain ⟨row'', hrow'', hkeeps⟩ := keeps_next (hlater.stepsOr hstart) hok hnext hrow' hleft'
  exact ⟨row'', hrow'', hkeeps.2 hdraft⟩

end Runs

/-! ### A read that is no longer true -/

def sampleSync (status : InvoiceStatus) : SyncInvoiceParams where
  paymentProvider := .stripe
  externalInvoiceId := "in_1"
  externalSubscriptionId := some "sub_1"
  metadataInvoiceId := none
  allowMetadataInvoiceId := false
  amountCents := 1000
  currency := "USD"
  periodStart := 0
  periodEnd := 100
  status := status
  attemptCount := some 1
  nextPaymentAttemptAt := none

/-- Call 0 handles `invoice.finalized`, call 1 handles `invoice.paid`. -/
def finalizedAndPaid (n : Nat) : SyncInvoiceParams := sampleSync (if n = 0 then .draft else .paid)

/-- Both calls, about one invoice. -/
def draftAndPaid : Syncs :=
  startSyncs sampleConfig finalizedAndPaid
    (sampleBilling (sampleSubscription .pending) (sampleInvoice .subscription .draft))

/-- The draft handler reads, then the invoice is paid. -/
def readThenPaid : List (Choice Nat Env Err) :=
  List.replicate 2 (.run 0 (.available 10 "d")) ++ List.replicate 4 (.run 1 (.available 10 "p"))

/-- The write of the draft handler puts the paid invoice back to `DRAFT`. -/
theorem not_draft_neverReopens :
    ¬∀ P P', Reach .free (fun _ _ => True) draftAndPaid P → Reach .free (fun _ _ => True) P P' →
      ∀ id row, P.state.invoices.find? id = some row → row.status ≠ .draft →
        ∃ row', P'.state.invoices.find? id = some row' ∧ row'.status ≠ .draft ∧
          ∀ c P'', P'.next .free c = some P'' → (finalizedAndPaid c.thread).status = .draft →
            ∃ row'', P''.state.invoices.find? id = some row'' ∧
              row''.attemptCount = row'.attemptCount ∧
              row''.nextPaymentAttemptAt = row'.nextPaymentAttemptAt := by
  intro h
  -- the draft was read before the payment, and is written after it
  have hfacts : ((runSchedule .free readThenPaid draftAndPaid).bind fun P =>
      (P.next .free (.run 0 (.available 10 "d"))).map fun P' =>
        ((P.state.invoices.find? "inv").map (·.status),
          (P'.state.invoices.find? "inv").map (·.status))) =
      some (some .paid, some .draft) := by
    decide +kernel
  obtain ⟨P, hP, hnext⟩ := Option.bind_eq_some_iff.mp hfacts
  obtain ⟨P', hnext, hfacts⟩ := Option.map_eq_some_iff.mp hnext
  obtain ⟨hbefore, hafter⟩ := Prod.mk.inj hfacts
  obtain ⟨row, hrow, hpaid⟩ := Option.map_eq_some_iff.mp hbefore
  obtain ⟨row', hrow', hstatus, -⟩ := h P P' (reach_runSchedule _ .init hP)
    (Reach.init.step trivial hnext) "inv" row hrow (by rw [hpaid]; decide)
  rw [hrow'] at hafter
  exact hstatus (Option.some.inj hafter)

/-- While all invoices are drafts no draft handler can be late. -/
def allDrafts (P : Syncs) (c : Choice Nat Env Err) : Bool :=
  (finalizedAndPaid c.thread).status ≠ .draft ||
    P.state.invoices.rows.all (·.status = .draft)

/-- The condition can be checked on a schedule. -/
private theorem draftsFresh_of_allDrafts {P : Syncs} {c : Choice Nat Env Err}
    (h : allDrafts P c = true) :
    DraftsFresh finalizedAndPaid P c := by
  intro hdraft invoiceId current _ row hrow hleft
  simp only [allDrafts, hdraft, ne_eq, not_true_eq_false, decide_false, Bool.false_or,
    List.all_eq_true, decide_eq_true_eq] at h
  exact absurd (h row (Table.mem_of_find? hrow)) hleft

/-- One handler after the other: the draft is updated, then paid, and stays paid. -/
theorem draft_neverReopens_inOrder :
    ∃ P P', runIf .free allDrafts (List.replicate 3 (.run 0 (.available 10 "d")) ++
        List.replicate 4 (.run 1 (.available 10 "p"))) draftAndPaid = some P ∧
      runIf .free allDrafts [.run 1 (.available 10 "p")] P = some P' ∧
      ∃ row, P'.state.invoices.find? "inv" = some row ∧ row.status ≠ .draft := by
  have hfacts : ((runIf .free allDrafts (List.replicate 3 (.run 0 (.available 10 "d")) ++
      List.replicate 4 (.run 1 (.available 10 "p"))) draftAndPaid).bind fun P =>
        (runIf .free allDrafts [.run 1 (.available 10 "p")] P).map fun _ =>
          (P.state.invoices.find? "inv").map (·.status)) = some (some .paid) := by
    decide +kernel
  obtain ⟨P, hP, hrest⟩ := Option.bind_eq_some_iff.mp hfacts
  obtain ⟨P', hP', hstatus⟩ := Option.map_eq_some_iff.mp hrest
  obtain ⟨row, hrow, hpaid⟩ := Option.map_eq_some_iff.mp hstatus
  obtain ⟨row', hrow', hleft, -⟩ := draft_neverReopens
    (reach_runIf _ (fun _ _ _ => draftsFresh_of_allDrafts) .init hP)
    (reach_runIf _ (fun _ _ _ => draftsFresh_of_allDrafts) .init hP') hrow (by rw [hpaid]; decide)
  exact ⟨P, P', hP, hP', row', hrow', hleft⟩

end HivePoint
