import HookRelay.Sql.Database

namespace HookRelay

theorem SubscriptionStatus.read?_eq_some (text : String) (status : SubscriptionStatus) :
    read? text = some status ↔ text = status.text := by
  constructor
  · intro read
    have spelled := List.find?_some read
    exact (of_decide_eq_true spelled).symm
  · rintro rfl
    cases status <;> decide

theorem DeliveryStatus.read?_eq_some (text : String) (status : DeliveryStatus) :
    read? text = some status ↔ text = status.text := by
  constructor
  · intro read
    have spelled := List.find?_some read
    exact (of_decide_eq_true spelled).symm
  · rintro rfl
    cases status <;> decide

namespace Sql

variable {α : Type}

private theorem bind_eq_ok {ε β : Type} {value : Except ε α} {next : α → Except ε β} {result : β} :
    value >>= next = .ok result ↔ ∃ held, value = .ok held ∧ next held = .ok result := by
  cases value with
  | error => simp [bind, Except.bind]
  | ok => simp [bind, Except.bind]

/-- A decoding that takes what an encoding gives and nothing else. -/
structure Inverts (decode : Value → Option α) (encode : α → Value) : Prop where
  null : decode .null = none
  eq_some : ∀ value held, decode value = some held ↔ value = encode held

theorem Inverts.optional_eq_null_iff {decode : Value → Option α} {encode : α → Value}
    (inverts : Inverts decode encode) (found : Option α) :
    Value.optional encode found = .null ↔ found = none := by
  cases found with
  | none => simp [Value.optional]
  | some held =>
    have filled : encode held ≠ .null := by
      intro null
      have decoded := (inverts.eq_some _ held).mpr null.symm
      rw [inverts.null] at decoded
      cases decoded
    simp [Value.optional, filled]

namespace Row

variable {row : Row} {column : String} {decode : Value → Option α} {encode : α → Value}

theorem uuid?_inverts : Inverts uuid? .uuid where
  null := rfl
  eq_some value _ := by cases value <;> simp [uuid?]

theorem text?_inverts : Inverts text? .text where
  null := rfl
  eq_some value _ := by cases value <;> simp [text?]

theorem integer?_inverts : Inverts integer? .integer where
  null := rfl
  eq_some value _ := by cases value <;> simp [integer?]

theorem timestamp?_inverts : Inverts timestamp? .timestamp where
  null := rfl
  eq_some value _ := by cases value <;> simp [timestamp?]

theorem secret?_inverts : Inverts secret? fun secret => .bytes secret.bytes where
  null := rfl
  eq_some value held := by
    obtain ⟨bytes⟩ := held
    cases value <;> simp [secret?]

theorem json?_inverts : Inverts json? .json where
  null := rfl
  eq_some value _ := by cases value <;> simp [json?]

theorem texts?_inverts : Inverts texts? .texts where
  null := rfl
  eq_some value _ := by cases value <;> simp [texts?]

theorem getOptional_eq_ok (inverts : Inverts decode encode) {found : Option α} :
    row.getOptional column decode = .ok found ↔
      row.lookup column = some (.optional encode found) := by
  unfold getOptional
  split
  · rename_i absent
    simp [absent]
  · rename_i null
    rw [null, Option.some.injEq, eq_comm (a := Value.null), inverts.optional_eq_null_iff, eq_comm]
    simp
  · rename_i value filled present
    have filled : value ≠ .null := filled
    rw [present, Option.some.injEq]
    cases found with
    | none => split <;> simp [Value.optional, filled]
    | some held =>
      rw [Value.optional, ← inverts.eq_some]
      split <;> simp [*]

theorem get_eq_ok (inverts : Inverts decode encode) {held : α} :
    row.get column decode = .ok held ↔ row.lookup column = some (encode held) := by
  rw [get, bind_eq_ok]
  constructor
  · rintro ⟨found, read, same⟩
    rw [getOptional_eq_ok inverts] at read
    cases found with
    | none => cases same
    | some found =>
      cases same
      exact read
  · intro present
    exact ⟨some held, (getOptional_eq_ok inverts).mpr present, rfl⟩

theorem getCount_eq_ok {count : Nat} :
    row.getCount column = .ok count ↔ row.lookup column = some (.integer count) := by
  rw [getCount, bind_eq_ok]
  constructor
  · rintro ⟨value, read, same⟩
    rw [get_eq_ok integer?_inverts] at read
    split at same
    · cases same
    · rename_i natural
      cases same
      rw [read, Int.toNat_of_nonneg (Int.not_lt.mp natural)]
  · intro present
    refine ⟨count, (get_eq_ok integer?_inverts).mpr present, ?_⟩
    rw [if_neg (Int.not_lt.mpr (Int.natCast_nonneg count))]
    rfl

theorem getStatus_eq_ok {read? : String → Option α} {spell : α → String}
    (known : ∀ text status, read? text = some status ↔ text = spell status) {kind : String}
    {status : α} :
    row.getStatus kind read? = .ok status ↔ row.lookup "status" = some (.text (spell status)) := by
  rw [getStatus, bind_eq_ok]
  constructor
  · rintro ⟨text, read, same⟩
    rw [get_eq_ok text?_inverts] at read
    split at same
    · rename_i spelled
      cases same
      rw [read, (known _ _).mp spelled]
    · cases same
  · intro present
    refine ⟨spell status, (get_eq_ok text?_inverts).mpr present, ?_⟩
    rw [(known _ _).mpr rfl]
    rfl

/-- Two rows that hold the same under some columns. -/
def Agrees (columns : List String) (row other : Row) : Prop :=
  ∀ column ∈ columns, row.lookup column = other.lookup column

end Row

def subscriptionRow (subscription : Subscription) : Row :=
  [("id", .uuid subscription.id), ("name", .text subscription.name), ("url", .text subscription.url),
    ("secret", .bytes subscription.secret.bytes),
    ("previous_secret", .optional (fun secret => .bytes secret.bytes) subscription.previousSecret),
    ("secret_rotated_at", .optional .timestamp subscription.rotatedAt),
    ("previous_secret_expires_at", .optional .timestamp subscription.previousExpiresAt),
    ("event_types", .texts subscription.eventTypes), ("status", .text subscription.status.text),
    ("timeout_seconds", .integer subscription.timeoutSeconds),
    ("max_retries", .integer subscription.maxAttempts),
    ("success_count", .integer subscription.successCount),
    ("failure_count", .integer subscription.failureCount),
    ("last_triggered_at", .optional .timestamp subscription.lastTriggeredAt),
    ("created_at", .timestamp subscription.createdAt),
    ("updated_at", .timestamp subscription.updatedAt)]

def recordRow (record : DeliveryRecord) : Row :=
  [("id", .uuid record.id), ("subscription_id", .uuid record.subscriptionId),
    ("event_type", .text record.eventType), ("payload", .json record.payload),
    ("status", .text record.status.text), ("attempts", .integer record.attempts),
    ("response_code", .optional .integer (record.responseCode.map Int.ofNat)),
    ("response_body", .optional .text record.responseBody),
    ("created_at", .timestamp record.createdAt),
    ("completed_at", .optional .timestamp record.completedAt)]

/-- A number on its way into a column of numbers below a bound, with what is said if it is not. -/
structure Bound where
  value : Nat
  below : Nat
  complaint : String

namespace Bound

def int32 (column : String) (value : Nat) : Bound :=
  ⟨value, 0x80000000, s!"{column} exceeds INTEGER range: {value}"⟩

def int64 (column : String) (value : Nat) : Bound :=
  ⟨value, 0x8000000000000000, s!"{column} exceeds BIGINT range: {value}"⟩

def written (bound : Bound) : Except StoreError Value :=
  if bound.value < bound.below then .ok (.integer bound.value)
  else .error (.invalidInput bound.complaint)

theorem written_bind (bound : Bound) (next : Value → Except StoreError α) :
    bound.written >>= next =
      if bound.below ≤ bound.value then .error (.invalidInput bound.complaint)
      else next (.integer bound.value) := by
  rw [written]
  split
  · rename_i fits
    rw [if_neg (Nat.not_le.mpr fits)]
    rfl
  · rename_i beyond
    rw [if_pos (Nat.not_lt.mp beyond)]
    rfl

/-- What is written if its numbers are in range; the first that is not is named. -/
def hold (values : List Value) : List Bound → Except StoreError (List Value)
  | [] => .ok values
  | first :: rest =>
    if first.below ≤ first.value then .error (.invalidInput first.complaint) else hold values rest

theorem hold_of_within {bounds : List Bound} (within : ∀ bound ∈ bounds, bound.value < bound.below)
    (values : List Value) : hold values bounds = .ok values := by
  induction bounds with
  | nil => rfl
  | cons first rest ih =>
    rw [hold, if_neg (Nat.not_le.mpr (within first List.mem_cons_self))]
    exact ih fun bound member => within bound (List.mem_cons_of_mem _ member)

theorem hold_of_beyond {bounds : List Bound} {bound : Bound} (member : bound ∈ bounds)
    (beyond : bound.below ≤ bound.value) (values : List Value) :
    ∃ complaint, hold values bounds = .error (.invalidInput complaint) := by
  induction bounds with
  | nil => cases member
  | cons first rest ih =>
    rw [hold]
    split
    · exact ⟨first.complaint, rfl⟩
    · rename_i fits
      rcases List.mem_cons.mp member with rfl | later
      · exact absurd beyond fits
      · exact ih later

end Bound

private theorem int32_eq (column : String) (value : Nat) :
    int32 column value = (Bound.int32 column value).written := rfl

private theorem int64_eq (column : String) (value : Nat) :
    int64 column value = (Bound.int64 column value).written := rfl

def ownedBounds (subscription : Subscription) : List Bound :=
  [.int32 "timeout_seconds" subscription.timeoutSeconds,
    .int32 "max_retries" subscription.maxAttempts]

def subscriptionBounds (subscription : Subscription) : List Bound :=
  ownedBounds subscription ++ [.int64 "success_count" subscription.successCount,
    .int64 "failure_count" subscription.failureCount]

def recordBounds (record : DeliveryRecord) : List Bound := [.int32 "attempts" record.attempts]

theorem subscriptionValues_eq (subscription : Subscription) : subscriptionValues subscription =
    Bound.hold ((subscriptionRow subscription).map Prod.snd) (subscriptionBounds subscription) := by
  simp only [subscriptionValues, int32_eq, int64_eq, Bound.written_bind]
  rfl

theorem savedValues_eq (subscription : Subscription) : savedValues subscription =
    Bound.hold (((subscriptionRow subscription).project savedColumns).map Prod.snd)
      (ownedBounds subscription) := by
  simp only [savedValues, int32_eq, Bound.written_bind]
  rfl

theorem deliveryValues_eq (record : DeliveryRecord) : deliveryValues record =
    Bound.hold ((recordRow record).map Prod.snd) (recordBounds record) := by
  simp only [deliveryValues, int32_eq, Bound.written_bind]
  obtain ⟨_, _, _, _, _, _, code, _, _, _⟩ := record
  cases code with
  | none => rfl
  | some code => rfl

theorem progressValues_eq (record : DeliveryRecord) : progressValues record =
    Bound.hold (((recordRow record).project progressColumns).map Prod.snd)
      (recordBounds record) := by
  simp only [progressValues, int32_eq, Bound.written_bind]
  obtain ⟨_, _, _, _, _, _, code, _, _, _⟩ := record
  cases code with
  | none => rfl
  | some code => rfl

theorem subscriptionOfRow_eq_ok {row : Row} {subscription : Subscription} :
    subscriptionOfRow row = .ok subscription ↔
      Row.Agrees subscriptionColumns row (subscriptionRow subscription) := by
  simp only [Row.Agrees, subscriptionColumns, List.forall_mem_cons, subscriptionRow,
    List.not_mem_nil, List.lookup_cons, String.reduceBEq]
  simp only [subscriptionOfRow, bind_eq_ok, Row.get_eq_ok Row.uuid?_inverts,
    Row.get_eq_ok Row.text?_inverts, Row.get_eq_ok Row.secret?_inverts,
    Row.getOptional_eq_ok Row.secret?_inverts, Row.getOptional_eq_ok Row.timestamp?_inverts,
    Row.get_eq_ok Row.texts?_inverts, Row.get_eq_ok Row.timestamp?_inverts, Row.getCount_eq_ok,
    Row.getStatus_eq_ok SubscriptionStatus.read?_eq_some]
  constructor
  · rintro ⟨_, id, _, name, _, url, _, secret, _, previous, _, rotated, _, expires, _, events, _,
      status, _, timeout, _, attempts, _, successes, _, failures, _, triggered, _, created, _,
      updated, same⟩
    cases same
    exact ⟨id, name, url, secret, previous, rotated, expires, events, status, timeout, attempts,
      successes, failures, triggered, created, updated, nofun⟩
  · rintro ⟨id, name, url, secret, previous, rotated, expires, events, status, timeout, attempts,
      successes, failures, triggered, created, updated, -⟩
    exact ⟨_, id, _, name, _, url, _, secret, _, previous, _, rotated, _, expires, _, events, _,
      status, _, timeout, _, attempts, _, successes, _, failures, _, triggered, _, created, _,
      updated, rfl⟩

private theorem code_eq_ok {β : Type} {code : Option Int} {rest : Option Nat → Except Error β}
    {refusal : Error} {result : β} :
    (match code with
      | none => pure none >>= rest
      | some code =>
        if 0 ≤ code && code < 0x10000 then pure (some code.toNat) >>= rest
        else throw refusal >>= rest) = .ok result ↔
      ∃ found : Option Nat, code = found.map Int.ofNat ∧ (∀ value ∈ found, value < 0x10000) ∧
        rest found = .ok result := by
  cases code with
  | none =>
    constructor
    · intro read
      exact ⟨none, rfl, nofun, read⟩
    · rintro ⟨_ | found, same, _, read⟩
      · exact read
      · cases same
  | some code =>
    constructor
    · intro read
      dsimp only at read
      split at read
      · rename_i range
        simp only [Bool.and_eq_true, decide_eq_true_eq] at range
        refine ⟨some code.toNat, ?_, ?_, read⟩
        · exact congrArg some (Int.toNat_of_nonneg range.1).symm
        · intro value member
          cases member
          omega
      · cases read
    · rintro ⟨_ | found, same, range, read⟩
      · cases same
      · cases same
        have range := range found rfl
        dsimp only
        rw [if_pos (by simp; omega)]
        exact read

theorem recordOfRow_eq_ok {row : Row} {record : DeliveryRecord} :
    recordOfRow row = .ok record ↔ Row.Agrees deliveryColumns row (recordRow record) ∧
      ∀ code ∈ record.responseCode, code < 0x10000 := by
  simp only [Row.Agrees, deliveryColumns, List.forall_mem_cons, recordRow,
    List.not_mem_nil, List.lookup_cons, String.reduceBEq]
  simp only [recordOfRow, bind_eq_ok, Row.get_eq_ok Row.uuid?_inverts,
    Row.get_eq_ok Row.text?_inverts, Row.get_eq_ok Row.json?_inverts,
    Row.getOptional_eq_ok Row.integer?_inverts, Row.getCount_eq_ok,
    Row.getStatus_eq_ok DeliveryStatus.read?_eq_some]
  constructor
  · rintro ⟨_, payload, _, code, _, id, _, owner, _, event, _, status, _, attempts, answered⟩
    obtain ⟨_, rfl, range, answered⟩ := code_eq_ok.mp answered
    simp only [bind_eq_ok, Row.getOptional_eq_ok Row.text?_inverts,
      Row.get_eq_ok Row.timestamp?_inverts, Row.getOptional_eq_ok Row.timestamp?_inverts] at answered
    obtain ⟨_, body, _, created, _, completed, same⟩ := answered
    cases same
    exact ⟨⟨id, owner, event, payload, status, attempts, code, body, created, completed, nofun⟩,
      range⟩
  · rintro ⟨⟨id, owner, event, payload, status, attempts, code, body, created, completed, -⟩, range⟩
    refine ⟨_, payload, _, code, _, id, _, owner, _, event, _, status, _, attempts,
      code_eq_ok.mpr ⟨record.responseCode, rfl, range, ?_⟩⟩
    simp only [bind_eq_ok, Row.getOptional_eq_ok Row.text?_inverts,
      Row.get_eq_ok Row.timestamp?_inverts, Row.getOptional_eq_ok Row.timestamp?_inverts]
    exact ⟨_, body, _, created, _, completed, rfl⟩

end Sql

end HookRelay
