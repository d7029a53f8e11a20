import HookRelay.Proofs.Record.Lifecycle
import HookRelay.Proofs.Sql.Repository

namespace HookRelay.Sql

open Repository

namespace Row

/-- A row with a negative count. -/
def HoldsNegative (row : Row) (counts : List String) : Prop :=
  ∃ column ∈ counts, ∃ count : Int, count < 0 ∧ row.lookup column = some (.integer count)

/-- A row whose status is none. -/
def HoldsUnknown (row : Row) (spell : α → String) : Prop :=
  ∃ text, row.lookup "status" = some (.text text) ∧ ∀ status, spell status ≠ text

/-- A row whose response code is none. -/
def HoldsOddCode (row : Row) : Prop :=
  ∃ code : Int, row.lookup "response_code" = some (.integer code) ∧ (code < 0 ∨ 0x10000 ≤ code)

end Row

/-! Subscriptions. -/

namespace Subscriptions

def repository : Repository Subscription where
  relation := .subscriptions
  columns := subscriptionColumns
  saved := savedColumns
  id := Subscription.id
  row := subscriptionRow
  decode := subscriptionOfRow
  create := createSubscription
  find := findSubscription
  save := saveSubscription

theorem lawful : repository.Lawful (fun _ => True) subscriptionBounds ownedBounds
    fun subscription => "subscription " ++ subscription.id.text where
  columns_eq _ := rfl
  saved_eq _ := rfl
  named _ := rfl
  decode_eq_ok row value := by
    rw [and_true]
    exact subscriptionOfRow_eq_ok
  create_eq value := by
    simp only [repository, ← subscriptionValues_eq]
    rfl
  find_eq id := rfl
  save_eq value := by
    simp only [repository, ← savedValues_eq]
    rfl

/-- The numbers that a save writes are in range. -/
structure Savable (subscription : Subscription) : Prop where
  timeoutSeconds : subscription.timeoutSeconds ≤ 0x7FFFFFFF
  maxAttempts : subscription.maxAttempts ≤ 0x7FFFFFFF

structure Fits (subscription : Subscription) : Prop extends Savable subscription where
  successCount : subscription.successCount ≤ 0x7FFFFFFFFFFFFFFF
  failureCount : subscription.failureCount ≤ 0x7FFFFFFFFFFFFFFF

theorem savable_iff (subscription : Subscription) : Savable subscription ↔
    ∀ bound ∈ ownedBounds subscription, bound.value < bound.below := by
  simp only [ownedBounds, List.forall_mem_cons, Bound.int32, Nat.lt_succ_iff]
  exact ⟨fun within => ⟨within.timeoutSeconds, within.maxAttempts, nofun⟩,
    fun ⟨timeoutSeconds, maxAttempts, _⟩ => ⟨timeoutSeconds, maxAttempts⟩⟩

theorem fits_iff (subscription : Subscription) : Fits subscription ↔
    ∀ bound ∈ subscriptionBounds subscription, bound.value < bound.below := by
  rw [subscriptionBounds, List.forall_mem_append, ← savable_iff]
  simp only [List.forall_mem_cons, Bound.int64, Nat.lt_succ_iff]
  exact ⟨fun within => ⟨within.toSavable, within.successCount, within.failureCount, nofun⟩,
    fun ⟨savable, successCount, failureCount, _⟩ => ⟨savable, successCount, failureCount⟩⟩

/-- What a save makes of a stored subscription. -/
def kept (subscription stored : Subscription) : Subscription :=
  { stored with
    name := subscription.name
    url := subscription.url
    secret := subscription.secret
    previousSecret := subscription.previousSecret
    rotatedAt := subscription.rotatedAt
    previousExpiresAt := subscription.previousExpiresAt
    eventTypes := subscription.eventTypes
    status := subscription.status
    timeoutSeconds := subscription.timeoutSeconds
    maxAttempts := subscription.maxAttempts
    updatedAt := subscription.updatedAt }

theorem agrees_kept (subscription stored : Subscription) : Row.Agrees subscriptionColumns
    ((subscriptionRow stored).change ((subscriptionRow subscription).project savedColumns))
    (subscriptionRow (kept subscription stored)) := by
  simp only [Row.Agrees, subscriptionColumns, List.forall_mem_cons]
  exact ⟨rfl, rfl, rfl, rfl, rfl, rfl, rfl, rfl, rfl, rfl, rfl, rfl, rfl, rfl, rfl, rfl,
    fun _ member => absurd member List.not_mem_nil⟩

def counts : List String := ["timeout_seconds", "max_retries", "success_count", "failure_count"]

/-- A row with a value out of order. -/
inductive Broken (row : Row) : Prop where
  | count (negative : row.HoldsNegative counts)
  | status (unknown : row.HoldsUnknown SubscriptionStatus.text)

theorem not_agrees_of_broken {row : Row} (broken : Broken row) (subscription : Subscription) :
    ¬ Row.Agrees subscriptionColumns row (subscriptionRow subscription) := by
  intro agrees
  cases broken with
  | count negative =>
    obtain ⟨column, member, count, negative, held⟩ := negative
    obtain ⟨total, stands⟩ : ∃ total : Nat, row.lookup column = some (.integer total) := by
      simp only [counts, List.mem_cons, List.not_mem_nil, or_false] at member
      rcases member with rfl | rfl | rfl | rfl
      · exact ⟨_, agrees "timeout_seconds" (by decide)⟩
      · exact ⟨_, agrees "max_retries" (by decide)⟩
      · exact ⟨_, agrees "success_count" (by decide)⟩
      · exact ⟨_, agrees "failure_count" (by decide)⟩
    rw [stands] at held
    cases held
    exact absurd negative (Int.not_lt.mpr (Int.natCast_nonneg total))
  | status unknown =>
    obtain ⟨text, held, unknown⟩ := unknown
    have stands := agrees "status" (by decide)
    rw [held] at stands
    cases stands
    exact unknown _ rfl

theorem faithful {server : Server} (verbatim : server.Verbatim) :
    repository.Faithful server (fun _ => True) Fits Savable (fun _ _ => True) kept Broken :=
  lawful.faithful verbatim fits_iff savable_iff (fun _ _ _ => nofun) (fun _ _ => rfl)
    (fun _ _ _ => trivial) agrees_kept fun _ subscription broken agrees =>
      absurd agrees (not_agrees_of_broken broken subscription)

end Subscriptions

/-! Delivery records. -/

namespace Deliveries

def repository : Repository DeliveryRecord where
  relation := .deliveries
  columns := deliveryColumns
  saved := progressColumns
  id := DeliveryRecord.id
  row := recordRow
  decode := recordOfRow
  create := createDelivery
  find := findDelivery
  save := saveDelivery

def Coded (record : DeliveryRecord) : Prop := ∀ code ∈ record.responseCode, code < 0x10000

theorem lawful : repository.Lawful Coded recordBounds recordBounds
    fun record => "delivery " ++ record.id.text where
  columns_eq _ := rfl
  saved_eq _ := rfl
  named _ := rfl
  decode_eq_ok _ _ := recordOfRow_eq_ok
  create_eq record := by
    simp only [repository, ← deliveryValues_eq]
    rfl
  find_eq _ := rfl
  save_eq record := by
    simp only [repository, ← progressValues_eq]
    rfl

def Fits (record : DeliveryRecord) : Prop := record.attempts ≤ 0x7FFFFFFF

theorem fits_iff (record : DeliveryRecord) :
    Fits record ↔ ∀ bound ∈ recordBounds record, bound.value < bound.below := by
  simp only [recordBounds, List.forall_mem_cons, Bound.int32, Nat.lt_succ_iff]
  exact ⟨fun within => ⟨within, nofun⟩, And.left⟩

def Enters (record : DeliveryRecord) (database : Database) : Prop :=
  (database.subscriptions.find? record.subscriptionId).isSome = true

/-- What a save makes of a stored record. -/
def kept (record stored : DeliveryRecord) : DeliveryRecord :=
  { stored with
    status := record.status
    attempts := record.attempts
    responseCode := record.responseCode
    responseBody := record.responseBody
    completedAt := record.completedAt }

theorem agrees_kept (record stored : DeliveryRecord) : Row.Agrees deliveryColumns
    ((recordRow stored).change ((recordRow record).project progressColumns))
    (recordRow (kept record stored)) := by
  simp only [Row.Agrees, deliveryColumns, List.forall_mem_cons]
  exact ⟨rfl, rfl, rfl, rfl, rfl, rfl, rfl, rfl, rfl, rfl,
    fun _ member => absurd member List.not_mem_nil⟩

inductive Broken (row : Row) : Prop where
  | attempts (negative : row.HoldsNegative ["attempts"])
  | status (unknown : row.HoldsUnknown DeliveryStatus.text)
  | code (odd : row.HoldsOddCode)

theorem not_coded_of_broken {row : Row} {record : DeliveryRecord} (broken : Broken row)
    (agrees : Row.Agrees deliveryColumns row (recordRow record)) : ¬ Coded record := by
  intro coded
  cases broken with
  | attempts negative =>
    obtain ⟨column, member, count, negative, held⟩ := negative
    cases List.mem_singleton.mp member
    have stands := agrees "attempts" (by decide)
    rw [held] at stands
    cases stands
    exact absurd negative (Int.not_lt.mpr (Int.natCast_nonneg _))
  | status unknown =>
    obtain ⟨text, held, unknown⟩ := unknown
    have stands := agrees "status" (by decide)
    rw [held] at stands
    cases stands
    exact unknown _ rfl
  | code odd =>
    obtain ⟨code, held, odd⟩ := odd
    have stands := agrees "response_code" (by decide)
    rw [held] at stands
    have stands : some (Value.integer code) =
      some (.optional .integer (record.responseCode.map Int.ofNat)) := stands
    cases answered : record.responseCode with
    | none =>
      rw [answered] at stands
      cases stands
    | some value =>
      rw [answered] at stands
      cases stands
      have range := coded value answered
      simp only [Int.ofNat_eq_natCast] at odd
      omega

theorem faithful {server : Server} (verbatim : server.Verbatim) :
    repository.Faithful server Coded Fits Fits Enters kept Broken :=
  lawful.faithful verbatim fits_iff fits_iff
    (fun record _ entered _ => ⟨record.subscriptionId, rfl, entered⟩) (fun _ _ => rfl)
    (fun _ _ coded => coded) agrees_kept fun _ _ broken agrees => not_coded_of_broken broken agrees

end Deliveries

/-- Rows give back what was written, where the server and its codecs do: of every subscription whose
numbers are in range, and of every record that transitions under limits in range can lead to. -/
theorem rows_give_back {server : Server} (verbatim : server.Verbatim) :
    Subscriptions.repository.Faithful server (fun _ => True) Subscriptions.Fits
      Subscriptions.Savable (fun _ _ => True) Subscriptions.kept Subscriptions.Broken ∧
    Deliveries.repository.Faithful server Deliveries.Coded Deliveries.Fits Deliveries.Fits
      Deliveries.Enters Deliveries.kept Deliveries.Broken ∧
    ∀ record, DeliveryRecord.ReachableWithin 0x7FFFFFFF record → Deliveries.Fits record := by
  refine ⟨Subscriptions.faithful verbatim, Deliveries.faithful verbatim, fun record reachable => ?_⟩
  exact reachable.attempts_le

private def orders : Subscription :=
  ⟨⟨1⟩, "orders", "https://orders.example/hook", ⟨[0x2a]⟩, none, none, none, ["order.created"],
    .active, 30, 2, 5, 0, some ⟨0⟩, ⟨0⟩, ⟨0⟩⟩

/-- A record whose first attempt the receiver turned away. -/
private def turnedAway : DeliveryRecord :=
  (DeliveryRecord.pending ⟨2⟩ orders.id "order.created" (.string "paid") ⟨0⟩).afterAll
    [.begin 2, .fail (some 503) "busy" ⟨1⟩]

private def stocked : Database := Database.empty.put orders.id (subscriptionRow orders) .subscriptions

/-- A subscription and a record of it are found as they were created. -/
theorem created_found_again :
    Server.strict.Verbatim ∧
    (∃ after, Database.empty.ask .strict (createSubscription orders) =
        (some (.ok ⟨1⟩), after) ∧ Subscriptions.repository.Finds .strict after orders) ∧
    ∃ after, stocked.ask .strict (createDelivery turnedAway) =
        (some (.ok ⟨2⟩), after) ∧ Deliveries.repository.Finds .strict after turnedAway := by
  obtain ⟨subscriptions, deliveries, fits⟩ := rows_give_back Server.verbatim_strict
  refine ⟨Server.verbatim_strict, ?_, ?_⟩
  · obtain ⟨after, created, found, _⟩ := subscriptions.created Database.empty orders trivial
      ⟨⟨by decide, by decide⟩, by decide, by decide⟩ trivial (by decide) rfl
    exact ⟨after, created, found⟩
  · have within : DeliveryRecord.ReachableWithin 0x7FFFFFFF turnedAway :=
      ⟨_, _, _, _, _, _, by decide, rfl⟩
    obtain ⟨after, created, found, _⟩ := deliveries.created stocked turnedAway
      (by rintro code ⟨⟩; decide) (fits turnedAway within) rfl (by decide) rfl
    exact ⟨after, created, found⟩

end HookRelay.Sql
