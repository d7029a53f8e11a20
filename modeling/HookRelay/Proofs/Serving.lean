import HookRelay.Proofs.Course

namespace HookRelay

instance exceptDecidableEq {ε α : Type} [DecidableEq ε] [DecidableEq α] :
    DecidableEq (Except ε α)
  | .ok left, .ok right => decidable_of_iff (left = right) (by simp)
  | .error left, .error right => decidable_of_iff (left = right) (by simp)
  | .ok _, .error _ => isFalse (by simp)
  | .error _, .ok _ => isFalse (by simp)

namespace Site

/-- The reply to an effect of work on deliveries, and the site that it leaves; the answer to a request
goes by its attempt. -/
def reply? (answers : Nat → Except DeliveryError DeliveryResponse) :
    (effect : Effect) → Site → Option (effect.Reply × Site)
  | .now, site => some (site.time, site)
  | .newDeliveryId, site => some (⟨site.store.deliveries.rows.length⟩, site)
  | .drawJitter, site => some (Binary64.zero false, site)
  | .store call, site =>
    match site.store.answer? call with
    | some (.ok value, store) =>
      some (.ok value, { site with store := store, saves := site.saves ++ call.saved })
    | _ => none
  | .queue (.enqueue task), site =>
    match site.queue.enqueue task site.time with
    | (.ok (), queue) => some (.ok (), { site with queue := queue })
    | _ => none
  | .queue (.claim most lease), site =>
    match site.queue.claim most lease ⟨site.sendings.length⟩ site.time with
    | .ok (leases, queue) => some (.ok leases, { site with queue := queue })
    | .error _ => none
  | .queue (.complete lease), site =>
    some (.ok (), { site with queue := site.queue.complete lease })
  | .send request, site =>
    let answer := answers (request.attempt - 1)
    some (answer, { site with sendings := site.sendings ++
      [⟨request, site.time, site.store.deliveries.find? request.deliveryId, answer⟩] })
  | .publish event, site => some ((), { site with events := site.events ++ [event] })
  | .tally _, site => some ((), site)
  | _, _ => none

theorem turn_of_reply? {answers : Nat → Except DeliveryError DeliveryResponse}
    {conditions : Conditions} {effect : Effect} {site after : Site} {reply : effect.Reply}
    (served : site.reply? answers effect = some (reply, after)) :
    conditions.Turn effect site reply after := by
  cases effect with
  | now =>
    cases served
    exact ⟨rfl, rfl⟩
  | newDeliveryId =>
    cases served
    rfl
  | drawJitter =>
    cases served
    rfl
  | store call =>
    simp only [reply?] at served
    split at served
    · rename_i value store answered
      cases served
      exact .inl ⟨store, answered, .inr rfl, rfl⟩
    · cases served
  | queue call =>
    cases call with
    | enqueue task =>
      simp only [reply?] at served
      split at served
      · rename_i queue enqueued
        cases served
        exact .inl ⟨queue, enqueued, .inr rfl, rfl⟩
      · cases served
    | claim most lease =>
      simp only [reply?] at served
      split at served
      · rename_i leases queue claimed
        cases served
        exact .inl ⟨queue, ⟨_, .inl ⟨leases, claimed, rfl⟩⟩, .inr rfl, rfl⟩
      · cases served
    | complete lease =>
      cases served
      exact .inl ⟨_, ⟨rfl, rfl⟩, .inr rfl, rfl⟩
  | send request =>
    cases served
    rfl
  | publish event =>
    cases served
    rfl
  | tally result =>
    cases served
    rfl
  | sleep duration => cases served
  | isCancelled => cases served
  | halt => cases served

/-- Serves as long as what is left passes a check. -/
def serve (answers : Nat → Except DeliveryError DeliveryResponse) (check : Site → Bool) :
    Program.World Relay Site :=
  fun effect site =>
    match reply? answers effect site with
    | some (reply, after) => if check after then (some reply, after) else (none, site)
    | none => (none, site)

variable {answers : Nat → Except DeliveryError DeliveryResponse} {check : Site → Bool}
  {conditions : Conditions}

theorem turn_of_serve {effect : Effect} {site after : Site} {reply : effect.Reply}
    (meets : ∀ site, check site = true → conditions.Meets site)
    (served : serve answers check effect site = (some reply, after)) :
    conditions.Turn effect site reply after ∧ conditions.Meets after := by
  unfold serve at served
  split at served
  · rename_i given left answered
    split at served
    · rename_i checked
      cases served
      exact ⟨turn_of_reply? answered, meets _ checked⟩
    · cases served
  · cases served

theorem eq_of_serve_none {effect : Effect} {site after : Site}
    (silent : serve answers check effect site = (none, after)) : after = site := by
  unfold serve at silent
  split at silent
  · split at silent
    · cases silent
    · cases silent
      rfl
  · cases silent
    rfl

/-- Whether all deliveries find subscriptions that pass a test. -/
def finds (test : DeliveryRecord → Option Subscription → Bool) (site : Site) : Bool :=
  site.store.deliveries.rows.all fun row =>
    test row.2 (site.store.subscriptions.find? row.2.subscriptionId)

theorem meets_of_finds {test : DeliveryRecord → Option Subscription → Bool} {site : Site}
    (offers : ∀ record found, test record found = true →
      conditions.offers record.id record.subscriptionId found)
    (found : site.finds test = true) : conditions.Meets site := by
  intro id record stored
  exact offers record _ (List.all_eq_true.mp found _ ((Table.mem_rows_iff _ _ _).mpr stored))

/-- Whether all subscriptions that deliveries find pass a test. -/
def findsOnly (test : Subscription → Bool) (site : Site) : Bool :=
  site.finds fun _ found => found.all test

theorem meets_of_findsOnly {test : Subscription → Bool} {site : Site}
    (offers : ∀ delivery owner found,
      (∀ subscription, found = some subscription → test subscription = true) →
      conditions.offers delivery owner found)
    (found : site.findsOnly test = true) : conditions.Meets site :=
  meets_of_finds (fun _ _ passed => offers _ _ _ ((Option.all_eq_true _ _).mp passed)) found

/-- Whether all deliveries find subscriptions, and these pass a test. -/
def findsAll (test : Subscription → Bool) (site : Site) : Bool :=
  site.finds fun _ found => found.any test

theorem meets_of_findsAll {test : Subscription → Bool} {site : Site}
    (offers : ∀ delivery owner subscription, test subscription = true →
      conditions.offers delivery owner (some subscription))
    (found : site.findsAll test = true) : conditions.Meets site := by
  refine meets_of_finds (fun record _ passed => ?_) found
  obtain ⟨subscription, rfl, passed⟩ := (Option.any_eq_true _ _).mp passed
  exact offers _ _ subscription passed

/-- What is served is a run in the surroundings of whoever it is served to. -/
theorem runs_serve {α : Type} {program : Program Relay α} {own : Uuid → Prop} {site : Site}
    (answers : Nat → Except DeliveryError DeliveryResponse) (check : Site → Bool)
    (meets : ∀ site, check site = true → conditions.Meets site)
    (allowed : (program.run (serve answers check) site).1 = none → conditions.breaksOff) :
    program.Runs (conditions.around own) site (program.run (serve answers check) site).1
      (program.run (serve answers check) site).2 := by
  refine Program.runs_of_run (fun effect site reply after served => ?_)
    (fun effect site after => eq_of_serve_none) allowed rfl
  obtain ⟨turn, met⟩ := turn_of_serve meets served
  exact ⟨turn, fun _ => met⟩

/-- Serves, but for the calls of the store that are to fail. -/
def serveUnless (fails : StoreCall → Site → Bool)
    (answers : Nat → Except DeliveryError DeliveryResponse) (check : Site → Bool) :
    Program.World Relay Site
  | .store call, site =>
    if fails call site then
      (some (.error (.database "connection reset") : Except StoreError call.Reply), site)
    else serve answers check (.store call) site
  | effect, site => serve answers check effect site

theorem turn_of_serveUnless {fails : StoreCall → Site → Bool} {effect : Effect}
    {site after : Site} {reply : effect.Reply} (faults : conditions.storeFails)
    (meets : ∀ site, check site = true → conditions.Meets site)
    (served : serveUnless fails answers check effect site = (some reply, after)) :
    conditions.Turn effect site reply after ∧ (conditions.Meets site → conditions.Meets after) := by
  cases effect with
  | store call =>
    simp only [serveUnless] at served
    split at served
    · cases served
      exact ⟨.inr ⟨faults, ⟨_, rfl⟩, rfl⟩, id⟩
    · exact (turn_of_serve meets served).imp_right fun met _ => met
  | _ =>
    simp only [serveUnless] at served
    exact (turn_of_serve meets served).imp_right fun met _ => met

theorem runs_serveUnless {α : Type} {program : Program Relay α} {own : Uuid → Prop} {site : Site}
    (fails : StoreCall → Site → Bool) (answers : Nat → Except DeliveryError DeliveryResponse)
    (check : Site → Bool) (faults : conditions.storeFails)
    (meets : ∀ site, check site = true → conditions.Meets site)
    (allowed : (program.run (serveUnless fails answers check) site).1 = none →
      conditions.breaksOff) :
    program.Runs (conditions.around own) site
      (program.run (serveUnless fails answers check) site).1
      (program.run (serveUnless fails answers check) site).2 := by
  refine Program.runs_of_run (fun effect site reply after served => ?_)
    (fun effect site after silent => ?_) allowed rfl
  · exact turn_of_serveUnless faults meets served
  · cases effect with
    | store call =>
      simp only [serveUnless] at silent
      split at silent
      · cases silent
      · exact eq_of_serve_none silent
    | _ =>
      simp only [serveUnless] at silent
      exact eq_of_serve_none silent

/-- A site where one subscription is known, and nothing has happened yet. -/
def opened (subscription : Subscription) : Site where
  time := ⟨0⟩
  store := MemoryStore.empty.putSubscription subscription
  queue := .empty
  sendings := []
  saves := []
  events := []

theorem orderly_opened (conditions : Conditions) (subscription : Subscription) :
    (opened subscription).Orderly conditions := by
  have none_stored (id : Uuid) : (opened subscription).store.deliveries.find? id = none := rfl
  constructor
  · intro id record stored
    cases (none_stored id).symm.trans stored
  · intro id record stored
    cases (none_stored id).symm.trans stored

/-- A site with one delivery, which nobody has tried. -/
def untried (subscription : Subscription) (payload : Json.Value) : Site :=
  let record := DeliveryRecord.pending ⟨0⟩ subscription.id "order.created" payload ⟨0⟩
  { opened subscription with store := (opened subscription).store.putDelivery record }

theorem find?_untried {subscription : Subscription} {payload : Json.Value} {id : Uuid}
    {record : DeliveryRecord}
    (found : (untried subscription payload).store.deliveries.find? id = some record) :
    id = ⟨0⟩ ∧ record = .pending ⟨0⟩ subscription.id "order.created" payload ⟨0⟩ := by
  rw [untried, MemoryStore.putDelivery, Table.find?_put] at found
  split at found
  · rename_i same
    exact ⟨same, (Option.some.inj found).symm⟩
  · cases found

end Site

/-- Whether a subscription is active, with a secret and two attempts for each delivery. -/
def Subscription.isReady (subscription : Subscription) : Bool :=
  subscription.isActive && subscription.maxAttempts = 2 && !subscription.secret.isEmpty

theorem Subscription.isReady_iff {subscription : Subscription} :
    subscription.isReady = true ↔ subscription.isActive = true ∧ subscription.maxAttempts = 2 ∧
      subscription.secret.isEmpty = false := by
  simp [isReady, and_assoc]

def Subscription.ofOrders : Subscription where
  id := ⟨1⟩
  name := "orders"
  url := "https://orders.example/hook"
  secret := ⟨[0x2a]⟩
  previousSecret := none
  rotatedAt := none
  previousExpiresAt := none
  eventTypes := ["order.created"]
  status := .active
  timeoutSeconds := 30
  maxAttempts := 2
  successCount := 0
  failureCount := 0
  lastTriggeredAt := none
  createdAt := ⟨0⟩
  updatedAt := ⟨0⟩

/-- The same subscription after its secret was replaced, with a day of grace. -/
def Subscription.ofOrdersReplaced : Subscription :=
  { Subscription.ofOrders with
    secret := ⟨[0x2b]⟩
    previousSecret := some Subscription.ofOrders.secret
    rotatedAt := some ⟨0⟩
    previousExpiresAt := some (.ofSeconds 86400) }

end HookRelay
