import HivePoint.ForStd.Pool
import HivePoint.Native.StripePaymentProvider
import HivePoint.Spec.Statements

/-!
# The Stripe customer of a user

`ensureCustomer` reads the user, has Stripe create a customer if none is stored, and stores it.
Any number of calls run next to each other, statement by statement.

## Key results

- `ensureCustomer_oneCustomer`: as long as no call stores a customer where one is stored, every
  call that has succeeded has the stored one.
- `not_ensureCustomer_oneCustomer`: two overlapping calls create two customers.
-/

namespace HivePoint

open Prog Pool

/-! ### The calls -/

/-- The requests that begin with `ensureCustomer`. -/
inductive CustomerCall where
  | checkout (params : CreatePaymentParams)
  | portal (params : CreateCustomerPortalSessionParams)
  | managedInvoice (params : CreateManagedInvoiceParams)

def CustomerCall.userId : CustomerCall → Id
  | .checkout params => params.userId
  | .portal params => params.userId
  | .managedInvoice params => params.userId

def CustomerCall.userEmail : CustomerCall → String
  | .checkout params => params.userEmail
  | .portal params => params.userEmail
  | .managedInvoice params => params.userEmail

def CustomerCall.ensure (call : CustomerCall) : Op String :=
  ensureCustomer call.userId call.userEmail

/-- A purchase begins by ensuring its customer. -/
theorem stripeCreatePayment_ensures (params : CreatePaymentParams) :
    ∃ rest, stripeCreatePayment params = (CustomerCall.checkout params).ensure >>= rest := ⟨_, rfl⟩

/-- The portal begins by ensuring its customer. -/
theorem createCustomerPortalSession_ensures (params : CreateCustomerPortalSessionParams) :
    ∃ rest, createCustomerPortalSession params = (CustomerCall.portal params).ensure >>= rest :=
  ⟨_, rfl⟩

/-- The invoice of a Stripe subscription goes to the subscription's customer. -/
theorem createManagedInvoice_ensures (params : CreateManagedInvoiceParams)
    (hlocal : truthy params.externalSubscriptionId = false) :
    ∃ rest, createManagedInvoice params = (CustomerCall.managedInvoice params).ensure >>= rest := by
  rw [createManagedInvoice, if_neg (by simp [hlocal])]
  exact ⟨_, rfl⟩

abbrev CustomerCalls := Pool Nat World Env Err String

/-- The calls before their first statement. -/
def startEnsuring (calls : Nat → CustomerCall) (w : World) : CustomerCalls :=
  ⟨fun n => (calls n).ensure, w⟩

/-! ### Where a call is -/

def World.storedCustomer (w : World) (userId : Id) : Option String :=
  (w.users.find? userId).bind (·.stripeCustomerId)

/-- The rest of a call that has its customer. -/
def storeCustomer (userId : Id) (customerId : String) : Op String := do
  mutate fun _ w => (w.updateStripeCustomer userId customerId).map ((), ·)
  return customerId

/-- The rest of a call that has found no customer. -/
def createAndStore (userId : Id) (email : String) : Op String := do
  let customerId ← callStripe (.createCustomer email userId) (·.createCustomer email userId)
  storeCustomer userId customerId

/-- The rest of a call that has read the user. -/
def ensureFound (userEmail : String) : Option User → Op String
  | none => throw (.app ⟨.notFound, "USER_NOT_FOUND", 404, []⟩)
  | some user =>
    if truthy user.stripeCustomerId then return user.stripeCustomerId.getD ""
    else createAndStore user.id (if user.email = "" then userEmail else user.email)

/-- Ensuring a customer reads the user and goes on with it. -/
private theorem ensureCustomer_eq (userId : Id) (userEmail : String) :
    ensureCustomer userId userEmail =
      (read fun w => w.users.find? userId) >>= ensureFound userEmail := by
  rw [ensureCustomer]
  congr 1

/-- Where a call for a user can be. A call that has succeeded has the stored customer. -/
inductive EnsurePhase (userId : Id) (w : World) : Op String → Prop where
  | start (userEmail : String) : EnsurePhase userId w (ensureCustomer userId userEmail)
  | creating (email : String) : EnsurePhase userId w (createAndStore userId email)
  | storing (customerId : String) (hnew : customerId ≠ "") :
      EnsurePhase userId w (storeCustomer userId customerId)
  | failed (e : Err) : EnsurePhase userId w (.done (.error e))
  | succeeded (customerId : String) (hnew : customerId ≠ "")
      (hstored : w.storedCustomer userId = some customerId) :
      EnsurePhase userId w (.done (.ok customerId))

/-- A user who has a customer keeps it. -/
def KeepsCustomers (w w' : World) : Prop :=
  ∀ userId customerId, customerId ≠ "" → w.storedCustomer userId = some customerId →
    w'.storedCustomer userId = some customerId

/-- With the users untouched the customers are kept. -/
private theorem keepsCustomers_of_users {w w' : World} (h : w'.users = w.users) :
    KeepsCustomers w w' := by
  intro userId customerId _ hstored
  rw [World.storedCustomer, h]
  exact hstored

/-- A call stays where it is while the others keep the customers. -/
theorem EnsurePhase.kept {userId : Id} {w w' : World} {p : Op String}
    (h : EnsurePhase userId w p) (hkept : KeepsCustomers w w') : EnsurePhase userId w' p := by
  cases h with
  | start userEmail => exact .start userEmail
  | creating email => exact .creating email
  | storing customerId hnew => exact .storing customerId hnew
  | failed e => exact .failed e
  | succeeded customerId hnew hstored =>
    exact .succeeded customerId hnew (hkept _ _ hnew hstored)

/-- Storing a customer changes what is stored for this user. -/
private theorem storedCustomer_updateStripeCustomer {w w' : World} {userId : Id}
    {customerId : String} (h : w.updateStripeCustomer userId customerId = .ok w') :
    w'.storedCustomer userId = some customerId ∧
      ∀ otherId, otherId ≠ userId → w'.storedCustomer otherId = w.storedCustomer otherId := by
  rw [World.updateStripeCustomer] at h
  split at h
  · exact nomatch h
  · rename_i hfound
    split at h
    · rename_i t ht
      obtain rfl := Except.ok.inj h
      obtain ⟨user, huser⟩ : ∃ user, w.users.find? userId = some user :=
        Option.ne_none_iff_exists'.mp (by simpa using hfound)
      have hfind := Table.find?_update? ht fun _ => rfl
      constructor
      · simp only [World.storedCustomer, hfind, if_true, huser, Option.map_some, Option.bind_some]
      · intro otherId hne
        simp only [World.storedCustomer, hfind, if_neg hne]
    · exact nomatch h

/-! ### Every run -/

/-- Each call sends at most one `customers.create`. If Stripe carries out that of call `n`, it
    answers with the new customer `customer n`. -/
def CreatesCustomers (customer : Nat → String) (c : Choice Nat Env Err) : Prop :=
  ∀ n env, c = .run n env → ∀ email userId customerId,
    env.stripe.createCustomer email userId = .ok customerId → customerId = customer n

/-- If the step stores a customer, none is stored yet. -/
def StoresFirst (P : CustomerCalls) (c : Choice Nat Env Err) : Prop :=
  ∀ n env userId customerId, c = .run n env → env.dbError = none →
    P.threads n = storeCustomer userId customerId →
      truthy (P.state.storedCustomer userId) = false

section Runs

variable {calls : Nat → CustomerCall} {customer : Nat → String} {P P' : CustomerCalls}

/-- The step of a statement that others follow. -/
private theorem next_run_stmt_bind {α : Type} {n : Nat} {env : Env}
    {f : Env → World → Except Err α × World} {g : α → Op String}
    (hthread : P.threads n = Prog.stmt f >>= g) (hnext : P.next .free (.run n env) = some P') :
    P'.state = (f env P.state).2 ∧
      P'.threads n = (Prog.done (f env P.state).1 : Op α) >>= g := by
  obtain ⟨act, nxt, hstep, -, rfl⟩ := next_run_cases hnext
  obtain ⟨rfl, rfl⟩ := Prog.step.inj (hthread.symm.trans hstep)
  exact ⟨rfl, Function.update_self ..⟩

/-- A call goes from phase to phase, and takes no customer away. -/
theorem EnsurePhase.next {n : Nat} {env : Env} {userId : Id} (hnew : customer n ≠ "")
    (hphase : EnsurePhase userId P.state (P.threads n))
    (hcreates : CreatesCustomers customer (.run n env)) (hfirst : StoresFirst P (.run n env))
    (hnext : P.next .free (.run n env) = some P') :
    EnsurePhase userId P'.state (P'.threads n) ∧ KeepsCustomers P.state P'.state := by
  generalize hthread : P.threads n = p at hphase
  cases hphase with
  | start userEmail =>
    rw [ensureCustomer_eq] at hthread
    obtain ⟨hstate, hrest⟩ := next_run_stmt_bind hthread hnext
    rw [hstate, hrest]
    split
    · exact ⟨.failed _, keepsCustomers_of_users rfl⟩
    · refine ⟨?_, keepsCustomers_of_users rfl⟩
      show EnsurePhase userId P.state (ensureFound userEmail (P.state.users.find? userId))
      cases hfound : P.state.users.find? userId with
      | none => exact .failed _
      | some user =>
        obtain rfl : user.id = userId := Table.key_of_find? hfound
        rw [ensureFound]
        split
        · rename_i htruthy
          cases hstored : user.stripeCustomerId with
          | none => simp [hstored, truthy] at htruthy
          | some customerId =>
            refine .succeeded customerId (by simpa [hstored, truthy] using htruthy) ?_
            rw [World.storedCustomer, hfound, Option.bind_some, hstored]
        · exact .creating _
  | creating email =>
    obtain ⟨hstate, hrest⟩ := next_run_stmt_bind hthread hnext
    rw [hstate, hrest]
    dsimp only
    cases hanswer : env.stripe.createCustomer email userId with
    | ok customerId =>
      obtain rfl := hcreates n env rfl email userId customerId hanswer
      exact ⟨.storing _ hnew, keepsCustomers_of_users rfl⟩
    | lost => exact ⟨.failed _, keepsCustomers_of_users rfl⟩
    | failed e => exact ⟨.failed _, keepsCustomers_of_users rfl⟩
  | storing customerId hc =>
    obtain ⟨hstate, hrest⟩ := next_run_stmt_bind hthread hnext
    rw [hstate, hrest]
    cases hdb : env.dbError with
    | some m => exact ⟨.failed _, keepsCustomers_of_users rfl⟩
    | none =>
      dsimp only
      cases hwrite : P.state.updateStripeCustomer userId customerId with
      | error e => exact ⟨.failed _, keepsCustomers_of_users rfl⟩
      | ok w' =>
        obtain ⟨hstored, hothers⟩ := storedCustomer_updateStripeCustomer hwrite
        refine ⟨.succeeded customerId hc hstored, fun otherId other hother hstoredOther => ?_⟩
        by_cases hid : otherId = userId
        · -- nothing is stored for this user
          have hnone := hfirst n env userId customerId rfl hdb hthread
          rw [← hid, hstoredOther] at hnone
          exact absurd hother (by simpa [truthy] using hnone)
        · exact (hothers otherId hid).trans hstoredOther
  | failed e =>
    obtain ⟨act, nxt, hstep, -⟩ := next_run_cases hnext
    exact nomatch hthread.symm.trans hstep
  | succeeded customerId hc hstored =>
    obtain ⟨act, nxt, hstep, -⟩ := next_run_cases hnext
    exact nomatch hthread.symm.trans hstep

/-- Every call is in one of its phases. -/
private theorem ensurePhase_of_reach {w₀ : World} (hnew : ∀ n, customer n ≠ "")
    (hreach : Reach .free (fun P c => CreatesCustomers customer c ∧ StoresFirst P c)
      (startEnsuring calls w₀) P) (n : Nat) :
    EnsurePhase (calls n).userId P.state (P.threads n) := by
  induction hreach generalizing n with
  | init => exact .start _
  | @step P P' c _ hok hnext ih =>
    obtain ⟨hcreates, hfirst⟩ := hok
    -- a stopped call has failed, the others are where they were
    cases c with
    | stop m e =>
      obtain ⟨-, rfl⟩ := next_stop_cases hnext
      by_cases hn : n = m
      · subst hn
        simp only [Function.update_self]
        exact .failed e
      · simp only [Function.update_of_ne hn]
        exact ih n
    -- the call that moves takes its next phase, the others keep theirs
    | run m env =>
      obtain ⟨hphase, hkept⟩ := (ih m).next (hnew m) hcreates hfirst hnext
      by_cases hn : n = m
      · rw [hn]
        exact hphase
      · rw [next_threads_of_ne hnext hn]
        exact (ih n).kept hkept

/-- As long as no call stores a customer for a user who has one: what a call has returned is the
    stored customer, and all other calls for the user have returned the same. -/
theorem ensureCustomer_oneCustomer {w₀ : World} (hnew : ∀ n, customer n ≠ "")
    (hreach : Reach .free (fun P c => CreatesCustomers customer c ∧ StoresFirst P c)
      (startEnsuring calls w₀) P) {n : Nat} {customerId : String}
    (hdone : P.threads n = .done (.ok customerId)) :
    P.state.storedCustomer (calls n).userId = some customerId ∧
      ∀ m other, (calls m).userId = (calls n).userId → P.threads m = .done (.ok other) →
        other = customerId := by
  have hstored : ∀ m other, P.threads m = .done (.ok other) →
      P.state.storedCustomer (calls m).userId = some other := by
    intro m other hother
    have hphase := ensurePhase_of_reach hnew hreach m
    rw [hother] at hphase
    cases hphase with
    | succeeded _ _ hstored => exact hstored
  refine ⟨hstored n customerId hdone, fun m other huser hother => ?_⟩
  have hsame := hstored m other hother
  rw [huser, hstored n customerId hdone] at hsame
  exact (Option.some.inj hsame).symm

end Runs

/-! ### Two customers -/

/-- The customer of call `n`. -/
def newCustomer (n : Nat) : String := String.ofList (List.replicate (n + 1) 'c')

/-- Stripe carries out the request of call `n`. -/
def creatingEnv (n : Nat) : Env :=
  { Env.available 10 "u" with
    stripe := { StripeApi.unavailable with createCustomer := fun _ _ => .ok (newCustomer n) } }

/-- The buyer, without a customer. -/
def newBuyer : World :=
  { World.empty with users := .singleton ⟨"buyer", "buyer@example.com", none⟩ }

/-- The buyer opens the portal from several tabs. -/
def portalTabs : CustomerCalls :=
  startEnsuring (fun _ => .portal ⟨"buyer", "buyer@example.com"⟩) newBuyer

/-- Both calls read the user before either of them stores its customer. -/
def overlappingTabs : List (Choice Nat Env Err) :=
  [.run 0 (.available 10 "u"), .run 1 (.available 10 "u"), .run 0 (creatingEnv 0),
    .run 1 (creatingEnv 1), .run 0 (.available 10 "u"), .run 1 (.available 10 "u")]

/-- The new customers are told apart. -/
private theorem newCustomer_injective : Function.Injective newCustomer := by
  intro m n h
  have hlength := congrArg String.length h
  simpa [newCustomer] using hlength

/-- A new customer has an id. -/
private theorem newCustomer_nonempty (n : Nat) : newCustomer n ≠ "" := by
  intro h
  have hlength := congrArg String.length h
  simp [newCustomer] at hlength

/-- While Stripe is not asked no customer is created. -/
private theorem createsCustomers_available (n : Nat) :
    CreatesCustomers newCustomer (.run n (.available 10 "u")) := by
  rintro _ _ ⟨⟩ email userId customerId h
  exact nomatch h

/-- Stripe creates the call's own customer. -/
private theorem createsCustomers_creating (n : Nat) :
    CreatesCustomers newCustomer (.run n (creatingEnv n)) := by
  rintro _ _ ⟨⟩ email userId customerId h
  exact (Answer.ok.inj h).symm

/-- What a call has returned. -/
def returned : Op String → Option String
  | .done (.ok customerId) => some customerId
  | _ => none

/-- A call has returned what it answered. -/
private theorem eq_done_of_returned {p : Op String} {customerId : String}
    (h : returned p = some customerId) : p = .done (.ok customerId) := by
  rcases p with (e | a) | ⟨act, nxt⟩
  · exact nomatch h
  · rw [Option.some.inj h]
  · exact nomatch h

/-- The customer of the first call is not the stored one. -/
theorem not_ensureCustomer_oneCustomer :
    ¬∀ customer : Nat → String, Function.Injective customer → (∀ n, customer n ≠ "") →
      (∀ n, ∀ user ∈ newBuyer.users.rows, user.stripeCustomerId ≠ some (customer n)) →
      ∀ P, Reach .free (fun _ c => CreatesCustomers customer c) portalTabs P →
        ∀ n customerId, P.threads n = .done (.ok customerId) →
          P.state.storedCustomer "buyer" = some customerId ∧
            ∀ m other, P.threads m = .done (.ok other) → other = customerId := by
  intro h
  -- both tabs create a customer; the first answers with the one that is overwritten
  have hfacts : (runIf .free (fun _ _ => true) overlappingTabs portalTabs).map (fun P =>
      (returned (P.threads 0), P.state.storedCustomer "buyer")) =
      some (some (newCustomer 0), some (newCustomer 1)) := by
    decide +kernel
  obtain ⟨P, hP, hfacts⟩ := Option.map_eq_some_iff.mp hfacts
  obtain ⟨hreturned, hstored⟩ := Prod.mk.inj hfacts
  have hreach : Reach .free (fun _ c => CreatesCustomers newCustomer c) portalTabs P := by
    -- every choice creates the customer of its own call
    refine reach_runIf _ (fun _ c hc _ => ?_) .init hP
    simp only [overlappingTabs, List.mem_cons, List.not_mem_nil, or_false] at hc
    rcases hc with rfl | rfl | rfl | rfl | rfl | rfl
    · exact createsCustomers_available 0
    · exact createsCustomers_available 1
    · exact createsCustomers_creating 0
    · exact createsCustomers_creating 1
    · exact createsCustomers_available 0
    · exact createsCustomers_available 1
  have hfirst := (h newCustomer newCustomer_injective newCustomer_nonempty (fun n user huser => by
    rw [List.mem_singleton.mp huser]
    exact nofun) P hreach 0 _ (eq_done_of_returned hreturned)).1
  rw [hstored] at hfirst
  exact nomatch newCustomer_injective (Option.some.inj hfirst)

/-- The second call is refused by Stripe before the first one stores its customer. -/
def refusedTab : List (Choice Nat Env Err) :=
  [.run 0 (.available 10 "u"), .run 1 (.available 10 "u"), .run 0 (creatingEnv 0),
    .run 1 (.available 10 "u"), .run 0 (.available 10 "u")]

/-- No user has a customer. -/
def noCustomers (P : CustomerCalls) (_ : Choice Nat Env Err) : Bool :=
  P.state.users.rows.all fun user => !truthy user.stripeCustomerId

/-- The condition can be checked on a schedule. -/
private theorem storesFirst_of_noCustomers {P : CustomerCalls} {c : Choice Nat Env Err}
    (h : noCustomers P c = true) : StoresFirst P c := by
  intro n env userId customerId _ _ _
  rw [World.storedCustomer]
  cases huser : P.state.users.find? userId with
  | none => rfl
  | some user => simpa using List.all_eq_true.mp h user (Table.mem_of_find? huser)

/-- A tab that the database refuses leaves the other's customer stored. -/
theorem ensureCustomer_oneCustomer_refused :
    ∃ P, runIf .free noCustomers refusedTab portalTabs = some P ∧
      P.threads 0 = .done (.ok (newCustomer 0)) ∧
        P.state.storedCustomer "buyer" = some (newCustomer 0) := by
  have hfacts : (runIf .free noCustomers refusedTab portalTabs).map (fun P =>
      returned (P.threads 0)) = some (some (newCustomer 0)) := by
    decide +kernel
  obtain ⟨P, hP, hreturned⟩ := Option.map_eq_some_iff.mp hfacts
  have hdone := eq_done_of_returned hreturned
  have hreach : Reach .free (fun P c => CreatesCustomers newCustomer c ∧ StoresFirst P c)
      -- every choice creates its own call's customer, while none is stored
      portalTabs P := by
    refine reach_runIf _ (fun P c hc hnone => ⟨?_, storesFirst_of_noCustomers hnone⟩) .init hP
    simp only [refusedTab, List.mem_cons, List.not_mem_nil, or_false] at hc
    rcases hc with rfl | rfl | rfl | rfl | rfl
    · exact createsCustomers_available 0
    · exact createsCustomers_available 1
    · exact createsCustomers_creating 0
    · exact createsCustomers_available 1
    · exact createsCustomers_available 0
  exact ⟨P, hP, hdone, (ensureCustomer_oneCustomer newCustomer_nonempty hreach hdone).1⟩

end HivePoint
