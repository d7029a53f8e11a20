import HookRelay.Proofs.Clearing.Quiet
import HookRelay.Proofs.Serving

/-!
What a sweep clears, whoever writes to the store meanwhile: only what was loaded with an expired
previous secret in order, and only while what is stored by then has expired too; and it counts just
that. Where nobody writes and nothing fails, it clears all that has expired and changes nothing about
who can sign.
-/
namespace HookRelay.Sweep

open HookRelay.Program

/-- A sweep is safe whoever writes meanwhile and whatever fails, and exact where nobody does and
nothing fails. -/
theorem once_safe_and_exact :
    (∀ {site after : Site} {trace : List (Moment Relay Site)} {result : Except DeliveryError Nat},
      site.store.Listed → once.result.Traced amid site trace result after →
        Accounted trace result) ∧
    ∀ {deployment : Deployment}, Quiet deployment → ∃ count subscriptions,
      deployment.run once = (some (.ok count), withSubscriptions deployment subscriptions) ∧
      Tidied deployment count subscriptions :=
  ⟨once_accounted, tidied_of_quiet⟩

/-- Four subscriptions whose previous secrets have expired; those of the third are in disorder. -/
private def crowded : MemoryStore :=
  let replaced := Subscription.ofOrdersReplaced
  (((MemoryStore.empty.putSubscription replaced).putSubscription { replaced with id := ⟨2⟩ }
    ).putSubscription { replaced with id := ⟨3⟩, rotatedAt := none }
    ).putSubscription { replaced with id := ⟨4⟩ }

private theorem listed_crowded : crowded.Listed :=
  .put (.put (.put (.put MemoryStore.listed_empty rfl) rfl) rfl) rfl

/-- The second subscription as its owner saves it, with a previous secret that is good for longer. -/
private def extended : Subscription :=
  { Subscription.ofOrdersReplaced with id := ⟨2⟩, previousExpiresAt := some (.ofSeconds 200000) }

private def fails : StoreCall → Bool
  | .clearExpiredPrevious id _ => id = ⟨4⟩
  | _ => false

/-- The owner of the second subscription saves it just before the clock is read. -/
private def hindered : Program.World Relay Site
  | .now, site =>
    match site.store.saveSubscription extended with
    | .ok store => (some site.time, { site with store := store })
    | .error _ => (none, site)
  | .store call, site =>
    if fails call then (some (.error (.database "down")), site)
    else match site.store.answer? call with
      | some (reply, store) => (some reply, { site with
          store := store
          saves := site.saves ++ if reply.isOk then call.saved else [] })
      | none => (none, site)
  | _, site => (none, site)

private theorem hindered_turns (effect : Effect) (site : Site) (reply : effect.Reply) (after : Site)
    (answered : hindered effect site = (some reply, after)) :
    ∃ met, amid.drift site met ∧ amid.turn effect met reply after := by
  cases effect with
  | now =>
    simp only [hindered] at answered
    split at answered
    · rename_i store saved
      cases answered
      exact ⟨{ site with store := store }, fun listed => listed.save saved, rfl, rfl⟩
    · cases answered
  | store call =>
    simp only [hindered] at answered
    split at answered
    · cases answered
      exact ⟨site, id, .inr ⟨trivial, ⟨_, rfl⟩, rfl⟩⟩
    · split at answered
      · rename_i told
        cases answered
        exact ⟨site, id, .inl ⟨_, told, .inl trivial, rfl⟩⟩
      · cases answered
  | _ => cases answered

/-- Two days after the secrets were replaced, which were good for one. -/
private def late : Instant := .ofSeconds 172800

private def observed : Site :=
  { Site.opened .ofOrdersReplaced with store := crowded, time := late }

private def undisturbed : Deployment :=
  { Deployment.start (.startingAt late) (.ofList []) .standard ⟨false, [], []⟩ with
    store := crowded }

/-- Of the four subscriptions only the first is cleared where one is extended, one is in disorder and
one cannot be cleared; otherwise, all but the one in disorder are. -/
theorem once_safe_and_exact_crowded :
    (∃ trace after, once.result.Traced amid observed trace (.ok 1) after ∧
      Accounted trace (.ok 1)) ∧
    ∃ subscriptions, undisturbed.run once =
        (some (.ok 3), withSubscriptions undisturbed subscriptions) ∧
      Tidied undisturbed 3 subscriptions := by
  constructor
  · obtain ⟨⟨value, after⟩, ran⟩ : ∃ reached, once.result.run hindered observed = reached :=
      ⟨_, rfl⟩
    have one : (once.result.run hindered observed).1 = some (.ok 1) := by decide +kernel
    rw [ran] at one
    subst one
    obtain ⟨trace, run⟩ := traced_of_run hindered_turns ran
    exact ⟨trace, after, run, once_safe_and_exact.1 listed_crowded run⟩
  · have quiet : Quiet undisturbed := ⟨listed_crowded, rfl, rfl⟩
    have three : (undisturbed.run once).1 = some (.ok 3) := by decide +kernel
    obtain ⟨count, subscriptions, ran, tidied⟩ := once_safe_and_exact.2 quiet
    rw [ran] at three
    cases three
    exact ⟨subscriptions, ran, tidied⟩

end HookRelay.Sweep
