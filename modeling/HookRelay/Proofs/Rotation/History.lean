import HookRelay.Proofs.Serving
import HookRelay.Proofs.Sweep

namespace HookRelay

/-- What can become of a subscription at a time, and the secret that is generated for it. -/
inductive SecretStep : Instant → Option Secret → Subscription → Subscription → Prop where
  | rotate {before after : Subscription} {generated : Secret} {now : Instant} {graceDays : Nat}
      (rotated : before.rotate generated now graceDays = .rotated after) :
      SecretStep now (some generated) before after
  | clear {before : Subscription} {now : Instant} {changed : Option Subscription}
      (cleared : before.clearExpired now = .ok changed) :
      SecretStep now none before (changed.getD before)
  | sweep {before after : Subscription} {site swept : Site} {id : Uuid}
      {result : Option (Except DeliveryError Nat)} (listed : site.store.Listed)
      (stored : site.store.subscriptions.find? id = some before)
      (run : Sweep.once.result.Runs Sweep.alone site result swept)
      (found : swept.store.subscriptions.find? id = some after) :
      SecretStep site.time none before after

/-- Steps in a row, with the time of each and the secret that was generated for it. -/
inductive SecretRun (first : Subscription) :
    List (Instant × Option Secret) → Subscription → Prop where
  | start : SecretRun first [] first
  | step {log : List (Instant × Option Secret)} {before after : Subscription} {now : Instant}
      {generated : Option Secret} (earlier : SecretRun first log before)
      (step : SecretStep now generated before after) :
      SecretRun first (log ++ [(now, generated)]) after

def generatedSecrets (log : List (Instant × Option Secret)) : List Secret := log.filterMap Prod.snd

/-- The secrets that have been current, from the first on. -/
def heldSecrets (first : Subscription) (log : List (Instant × Option Secret)) : List Secret :=
  first.secret :: generatedSecrets log

/-- Secrets that a subscription has held in turn, the last of them now and the one before it as its
previous secret, if it has one. -/
structure Subscription.Holds (subscription : Subscription) (held : List Secret) : Prop where
  order : subscription.SecretsInOrder
  current : ∃ older, held = older ++ [subscription.secret]
  previous : ∀ previous, subscription.previousSecret = some previous →
    ∃ older, held = older ++ [previous, subscription.secret]

/-- A secret that verifies requests at a time. -/
def Subscription.Admits (subscription : Subscription) (now : Instant) (secret : Secret) : Prop :=
  ∃ secrets, subscription.activeSecrets now = .ok secrets ∧ secret ∈ secrets

variable {first middle last before after : Subscription} {now : Instant} {generated : Option Secret}
  {held : List Secret} {log earlier later : List (Instant × Option Secret)}

theorem generatedSecrets_concat (log : List (Instant × Option Secret)) (now : Instant)
    (generated : Option Secret) :
    generatedSecrets (log ++ [(now, generated)]) = generatedSecrets log ++ generated.toList := by
  rw [generatedSecrets, List.filterMap_append]
  cases generated <;> rfl

theorem Subscription.rotate_eq_rotated {secret : Secret} {graceDays : Nat}
    (rotated : before.rotate secret now graceDays = .rotated after) :
    before.secret.isEmpty = false ∧ ∃ expires, now.daysLater? graceDays = some expires ∧
      after = { before with
        secret := secret
        previousSecret := some before.secret
        rotatedAt := some now
        previousExpiresAt := some expires
        updatedAt := now } := by
  unfold rotate at rotated
  split at rotated
  · cases rotated
  · rename_i usable
    split at rotated
    · cases rotated
    · rename_i expires reached
      cases rotated
      exact ⟨Bool.eq_false_iff.mpr usable, expires, reached, rfl⟩

theorem Instant.le_daysLater? {days : Nat} {expires : Instant}
    (reached : now.daysLater? days = some expires) : now ≤ expires := by
  have later := (daysLater?_eq_some reached).2
  show now.nanos ≤ expires.nanos
  omega

theorem Subscription.Holds.of_rotate {secret : Secret} {graceDays : Nat}
    (usable : secret.isEmpty = false) (earlier : ∃ older, held = older ++ [before.secret])
    (rotated : before.rotate secret now graceDays = .rotated after) :
    after.Holds (held ++ [secret]) := by
  obtain ⟨_, expires, reached, rfl⟩ := rotate_eq_rotated rotated
  obtain ⟨older, rfl⟩ := earlier
  refine ⟨⟨usable, fun _ _ => ⟨now, expires, rfl, rfl, Instant.le_daysLater? reached⟩⟩, ⟨_, rfl⟩, ?_⟩
  intro previous same
  cases same
  exact ⟨older, List.append_assoc _ _ _⟩

/-- Without a rotation a subscription keeps its secrets, but for a previous one that has expired. -/
theorem SecretStep.cases_of_none (step : SecretStep now none before after) :
    after = before ∨ before.previousHasExpired now = true ∧ after = before.withoutPrevious now := by
  cases step with
  | @clear _ _ changed cleared =>
    cases changed with
    | none => exact .inl rfl
    | some changed => exact .inr (Subscription.clearExpired_eq_some cleared)
  | sweep listed stored run found => exact Sweep.once_leaves listed stored run found

theorem Subscription.Holds.of_none (holds : before.Holds held)
    (step : SecretStep now none before after) : after.Holds held := by
  rcases step.cases_of_none with rfl | ⟨_, rfl⟩
  · exact holds
  · exact ⟨⟨holds.order.usable, nofun⟩, holds.current, nofun⟩

theorem Subscription.Holds.step (holds : before.Holds held)
    (usable : ∀ secret ∈ generated, secret.isEmpty = false)
    (step : SecretStep now generated before after) : after.Holds (held ++ generated.toList) := by
  cases generated with
  | none => exact (List.append_nil held).symm ▸ holds.of_none step
  | some secret =>
    cases step with
    | rotate rotated => exact .of_rotate (usable secret rfl) holds.current rotated

theorem Subscription.Holds.run (holds : first.Holds held)
    (usable : ∀ secret ∈ generatedSecrets log, secret.isEmpty = false)
    (run : SecretRun first log last) : last.Holds (held ++ generatedSecrets log) := by
  induction run with
  | start => exact (List.append_nil held).symm ▸ holds
  | @step log before after now generated earlier step ih =>
    rw [generatedSecrets_concat] at usable ⊢
    rw [← List.append_assoc]
    refine (ih fun secret member => usable secret (List.mem_append_left _ member)).step ?_ step
    exact fun secret member =>
      usable secret (List.mem_append_right _ (Option.mem_toList.mpr member))

/-- A subscription that starts with one secret holds those that are generated from then on. -/
theorem SecretRun.holds (usable : first.secret.isEmpty = false)
    (single : first.previousSecret = none)
    (generates : ∀ secret ∈ generatedSecrets log, secret.isEmpty = false)
    (run : SecretRun first log last) : last.Holds (heldSecrets first log) := by
  have start : first.Holds [first.secret] :=
    ⟨⟨usable, fun _ found => by simp [single] at found⟩, ⟨[], rfl⟩,
      fun _ found => by simp [single] at found⟩
  exact start.run generates run

theorem SecretRun.inGrace_of_none (run : SecretRun first log last)
    (none_generated : generatedSecrets log = []) :
    last.secret = first.secret ∧ ∀ now, last.InGrace now →
      first.InGrace now ∧ last.previousSecret = first.previousSecret := by
  induction run with
  | start => exact ⟨rfl, fun _ inGrace => ⟨inGrace, rfl⟩⟩
  | @step log before after now generated earlier step ih =>
    rw [generatedSecrets_concat, List.append_eq_nil_iff] at none_generated
    obtain ⟨sooner, silent⟩ := none_generated
    obtain ⟨same, kept⟩ := ih sooner
    cases generated with
    | some secret => cases silent
    | none =>
      rcases step.cases_of_none with rfl | ⟨_, rfl⟩
      · exact ⟨same, kept⟩
      · exact ⟨same, fun _ ⟨_, _, found, _⟩ => nomatch found⟩

/-- The secrets that a subscription in order admits. -/
theorem Subscription.admits_iff (order : before.SecretsInOrder) (now : Instant) (secret : Secret) :
    before.Admits now secret ↔
      secret = before.secret ∨ before.InGrace now ∧ before.previousSecret = some secret := by
  by_cases inGrace : before.InGrace now
  · have ⟨previous, _, held, _⟩ := inGrace
    simp [Admits, activeSecrets_of_inGrace order inGrace held, inGrace, held, eq_comm]
  · simp [Admits, activeSecrets_of_not_inGrace order inGrace, inGrace]

/-- What holds of a subscription that has held some secrets: nothing that is done with them finds
them malformed, and those that are active are the last one and, while it is in its grace period, the
one before. -/
structure Subscription.WellKept (subscription : Subscription) (held : List Secret) : Prop where
  rotates : ∀ generated now graceDays error,
    subscription.rotate generated now graceDays ≠ .refused error
  clears : ∀ now, ∃ changed, subscription.clearExpired now = .ok changed
  asks : ∀ now, ∃ valid, subscription.previousIsValid now = .ok valid
  dated : ∀ previous, subscription.previousSecret = some previous →
    ∃ rotated expires, subscription.rotatedAt = some rotated ∧
      subscription.previousExpiresAt = some expires ∧ rotated ≤ expires
  active : ∃ older, held = older ++ [subscription.secret] ∧ ∀ now,
    (subscription.InGrace now → ∃ replaced, older.getLast? = some replaced ∧
      subscription.activeSecrets now = .ok [subscription.secret, replaced]) ∧
    (¬subscription.InGrace now → subscription.activeSecrets now = .ok [subscription.secret])

theorem Subscription.Holds.wellKept (holds : before.Holds held) : before.WellKept held where
  rotates generated now graceDays error := by
    unfold rotate
    rw [holds.order.usable]
    split
    · contradiction
    · split <;> nofun
  clears now := ⟨_, clearExpired_of_grace holds.order.grace now⟩
  asks now := by
    obtain ⟨valid, asked, _⟩ := previousIsValid_of_grace holds.order.grace now
    exact ⟨valid, asked⟩
  dated := holds.order.grace
  active := by
    obtain ⟨older, split⟩ := holds.current
    refine ⟨older, split, fun now => ⟨fun inGrace => ?_, activeSecrets_of_not_inGrace holds.order⟩⟩
    have ⟨previous, _, found, _⟩ := inGrace
    obtain ⟨oldest, shape⟩ := holds.previous previous found
    have both : older ++ [before.secret] = oldest ++ [previous] ++ [before.secret] := by
      rw [← split, shape, List.append_assoc]
      rfl
    refine ⟨previous, ?_, activeSecrets_of_inGrace holds.order inGrace found⟩
    rw [List.append_cancel_right both, List.getLast?_concat]

section

variable {α : Type} {front back rest : List α} {last final : α}

theorem mem_of_append_eq_concat (split : front ++ back = rest ++ [last]) (present : back ≠ []) :
    last ∈ back := by
  obtain ⟨others, other, rfl⟩ := (List.eq_nil_or_concat back).resolve_left present
  rw [List.concat_eq_append, ← List.append_assoc] at split
  cases List.append_inj_right' split rfl
  simp

theorem append_eq_concat_of_pair {others : List α} {other : α}
    (split : front ++ (others ++ [other]) = rest ++ [last, final]) :
    front ++ others = rest ++ [last] := by
  have whole : front ++ others ++ [other] = rest ++ [last] ++ [final] := by simpa using split
  exact List.append_inj_left' whole rfl

theorem mem_of_append_eq_pair (split : front ++ back = rest ++ [last, final])
    (room : 1 < back.length) : last ∈ back := by
  have present : back ≠ [] := List.ne_nil_of_length_pos (Nat.lt_of_succ_lt room)
  obtain ⟨others, other, rfl⟩ := (List.eq_nil_or_concat back).resolve_left present
  rw [List.concat_eq_append] at split room ⊢
  have more : others ≠ [] := by
    rintro rfl
    exact absurd room (Nat.lt_irrefl 1)
  exact List.mem_append_left _ (mem_of_append_eq_concat (append_eq_concat_of_pair split) more)

end

/-- A secret that is held and not admitted is not admitted later, if it is not generated again. -/
theorem Subscription.Holds.not_admits {secret : Secret} {early late : Instant}
    (holds : middle.Holds held)
    (usable : ∀ secret ∈ generatedSecrets later, secret.isEmpty = false)
    (distinct : (held ++ generatedSecrets later).Nodup) (run : SecretRun middle later last)
    (member : secret ∈ held) (forward : early ≤ late) (lost : ¬middle.Admits early secret) :
    ¬last.Admits late secret := by
  have ends := holds.run usable run
  have fresh : secret ∉ generatedSecrets later := fun again =>
    (List.nodup_append.mp distinct).2.2 secret member secret again rfl
  rw [admits_iff holds.order] at lost
  rw [admits_iff ends.order]
  rintro (rfl | ⟨inGrace, previous⟩)
  · by_cases silent : generatedSecrets later = []
    · exact lost (.inl (run.inGrace_of_none silent).1)
    · obtain ⟨older, split⟩ := ends.current
      exact fresh (mem_of_append_eq_concat split silent)
  · obtain ⟨oldest, split⟩ := ends.previous secret previous
    match generated : generatedSecrets later with
    -- Without a rotation the previous secret is the one from before, if it is there at all.
    | [] =>
      obtain ⟨⟨replaced, expires, found, dated, within⟩, unchanged⟩ :=
        (run.inGrace_of_none generated).2 late inGrace
      have sooner : early ≤ expires := Int.le_trans forward within
      exact lost (.inr ⟨⟨replaced, expires, found, dated, sooner⟩, unchanged.symm.trans previous⟩)
    -- A single rotation replaced the secret that was current, and a current secret is admitted.
    | [only] =>
      obtain ⟨older, current⟩ := holds.current
      rw [generated] at split
      have same := append_eq_concat_of_pair (show held ++ ([] ++ [only]) = _ from split)
      rw [List.append_nil, current] at same
      cases List.append_inj_right' same rfl
      exact lost (.inl rfl)
    | first :: second :: more =>
      exact fresh (mem_of_append_eq_pair split (by simp [generated]))

/-- Rotations, clearings and sweeps keep the secrets of a subscription in order, and a secret that is
no longer active stays so, whenever the steps in between are taken. -/
theorem SecretRun.keeps_and_forgets (usable : first.secret.isEmpty = false)
    (single : first.previousSecret = none)
    (generates : ∀ secret ∈ generatedSecrets (earlier ++ later), secret.isEmpty = false)
    (before : SecretRun first earlier middle) (after : SecretRun middle later last) :
    middle.WellKept (heldSecrets first earlier) ∧
      ((heldSecrets first (earlier ++ later)).Nodup → ∀ secret ∈ heldSecrets first earlier,
        ∀ early late, early ≤ late → ¬middle.Admits early secret → ¬last.Admits late secret) := by
  have whole : generatedSecrets (earlier ++ later) =
      generatedSecrets earlier ++ generatedSecrets later := List.filterMap_append
  rw [whole] at generates
  have holds := before.holds usable single fun secret member =>
    generates secret (List.mem_append_left _ member)
  refine ⟨holds.wellKept, fun distinct secret member early late forward lost => ?_⟩
  have distinct : (heldSecrets first earlier ++ generatedSecrets later).Nodup := by
    rw [heldSecrets, whole] at distinct
    exact distinct
  exact holds.not_admits (fun secret member => generates secret (List.mem_append_right _ member))
    distinct after member forward lost

theorem SecretRun.keeps_and_forgets_replaced : ∃ middle last earlier later,
    SecretRun .ofOrders earlier middle ∧ SecretRun middle later last ∧
      middle.WellKept [⟨[0x2a]⟩, ⟨[0x2b]⟩] ∧ ¬last.Admits (.ofSeconds 259200) ⟨[0x2a]⟩ := by
  have replaced : SecretStep ⟨0⟩ (some ⟨[0x2b]⟩) .ofOrders .ofOrdersReplaced :=
    .rotate (show Subscription.ofOrders.rotate ⟨[0x2b]⟩ ⟨0⟩ 1 = _ from rfl)
  have cleared : SecretStep (.ofSeconds 172800) none .ofOrdersReplaced
      (Subscription.ofOrdersReplaced.withoutPrevious (.ofSeconds 172800)) :=
    .clear (show Subscription.ofOrdersReplaced.clearExpired _ = .ok (some _) from rfl)
  have again := SecretStep.rotate (show (Subscription.ofOrdersReplaced.withoutPrevious
    (.ofSeconds 172800)).rotate ⟨[0x2c]⟩ (.ofSeconds 259200) 7 = _ from rfl)
  have before := (SecretRun.start.step replaced).step cleared
  have after := SecretRun.start.step again
  have lost : ¬(Subscription.ofOrdersReplaced.withoutPrevious (.ofSeconds 172800)).Admits
      (.ofSeconds 172800) ⟨[0x2a]⟩ := by
    rintro ⟨secrets, active, member⟩
    cases active
    exact absurd member (by decide)
  obtain ⟨kept, forgotten⟩ := SecretRun.keeps_and_forgets rfl rfl (by decide) before after
  exact ⟨_, _, _, _, before, after, kept,
    forgotten (by decide) ⟨[0x2a]⟩ (by decide) _ _ (by decide) lost⟩

end HookRelay
