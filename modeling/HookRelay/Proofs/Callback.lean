import HookRelay.Proofs.Rotation.Standing
import HookRelay.Proofs.Serving
import HookRelay.Proofs.Signature
import HookRelay.Service.Callback

/-!
How a callback is decided: by a list of checks, of which the first that fails gives the answer. The
clock is read twice, before the store is asked and after, so that freshness is among them twice.
-/
namespace HookRelay.Callback

/-- A callback, and what the clock and the store say while it is looked at. -/
structure Scene where
  tolerance : Duration
  id : Uuid
  request : ServiceRequest
  parser : Parser
  came : Instant
  found : Except StoreError (Option Subscription)
  later : Instant

/-- What a callback has to pass, in this order. -/
inductive Check where
  | timely
  | loaded
  | known
  | readable
  | stillTimely
  | signed
  | orderly
  | genuine
deriving DecidableEq, Repr

namespace Check

def place (check : Check) : Nat := check.ctorIdx

theorem place_injective {first second : Check} (same : first.place = second.place) :
    first = second := by
  cases first <;> cases second <;> first | rfl | cases same

def status : Check → Nat
  | timely => 401
  | loaded => 500
  | known => 404
  | readable => 400
  | stillTimely => 401
  | signed => 401
  | orderly => 500
  | genuine => 401

end Check

namespace Scene

abbrev handling (scene : Scene) : Program Relay ServiceResponse :=
  receive scene.tolerance scene.id scene.request scene.parser

/-- What a callback is answered that fails here. -/
def refusal (scene : Scene) : Check → ServiceResponse
  | .timely => unauthorized
  | .loaded => storeFailed
  | .known => unknownSubscription scene.id
  | .readable => notJson (scene.parser scene.request.body)
  | .stillTimely => unauthorized
  | .signed => unauthorized
  | .orderly => malformedSecrets
  | .genuine => unauthorized

theorem refusal_status (scene : Scene) (check : Check) :
    (scene.refusal check).status = check.status := by
  cases check <;> rfl

/-- The timestamp of the request can be read and lies within the tolerance. -/
def TimelyAt (scene : Scene) (now : Instant) : Prop :=
  ∃ header timestamp, scene.request.header? timestampHeader = some header ∧
    Freshness.timestamp? header = some timestamp ∧
      (now.seconds - timestamp).natAbs ≤ scene.tolerance.seconds

def Passes (scene : Scene) : Check → Prop
  | .timely => scene.TimelyAt scene.came
  | .loaded => ∃ held, scene.found = .ok held
  | .known => ∃ subscription, scene.found = .ok (some subscription)
  | .readable => ∃ payload, Json.read? scene.request.body = some payload
  | .stillTimely => scene.TimelyAt scene.later
  | .signed => ∃ signature, scene.request.header? signatureHeader = some signature
  | .orderly => ∃ subscription, scene.found = .ok (some subscription) ∧ subscription.SecretsInOrder
  | .genuine => ∃ subscription secrets payload signature,
      scene.found = .ok (some subscription) ∧
      subscription.activeSecrets scene.later = .ok secrets ∧
      Json.read? scene.request.body = some payload ∧
      scene.request.header? signatureHeader = some signature ∧
      ∃ secret ∈ secrets, Signature.verifyBytes (Json.canonical payload) signature secret = true

def FirstFails (scene : Scene) (check : Check) : Prop :=
  ¬scene.Passes check ∧ ∀ earlier : Check, earlier.place < check.place → scene.Passes earlier

theorem exists_firstFails {scene : Scene} {failing : Check} (fails : ¬scene.Passes failing) :
    ∃ first, scene.FirstFails first := by
  by_cases least : ∀ earlier : Check, earlier.place < failing.place → scene.Passes earlier
  · exact ⟨failing, fails, least⟩
  · obtain ⟨earlier, skipped⟩ := Classical.not_forall.mp least
    obtain ⟨before, failed⟩ := Classical.not_imp.mp skipped
    exact exists_firstFails failed
termination_by failing.place

/-- No two checks are the first to fail. -/
theorem firstFails_unique {scene : Scene} {first second : Check} (fails : scene.FirstFails first)
    (other : scene.FirstFails second) : first = second := by
  rcases Nat.lt_trichotomy first.place second.place with before | same | after
  · exact absurd (other.2 first before) fails.1
  · exact Check.place_injective same
  · exact absurd (fails.2 second after) other.1

def Trusted (scene : Scene) : Prop :=
  scene.TimelyAt scene.came ∧ scene.TimelyAt scene.later ∧
    ∃ subscription secrets payload signature,
      scene.found = .ok (some subscription) ∧ subscription.SecretsInOrder ∧
      subscription.activeSecrets scene.later = .ok secrets ∧
      Json.read? scene.request.body = some payload ∧
      scene.request.header? signatureHeader = some signature ∧
      ∃ secret ∈ secrets, Signature.verifyBytes (Json.canonical payload) signature secret = true

theorem trusted_iff (scene : Scene) : scene.Trusted ↔ ∀ check, scene.Passes check := by
  constructor
  · rintro ⟨came, later, subscription, secrets, payload, signature, found, order, active, read,
      signed, genuine⟩ check
    cases check with
    | timely => exact came
    | loaded => exact ⟨_, found⟩
    | known => exact ⟨_, found⟩
    | readable => exact ⟨_, read⟩
    | stillTimely => exact later
    | signed => exact ⟨_, signed⟩
    | orderly => exact ⟨_, found, order⟩
    | genuine => exact ⟨_, _, _, _, found, active, read, signed, genuine⟩
  · intro passes
    obtain ⟨subscription, secrets, payload, signature, found, active, read, signed, genuine⟩ :=
      passes .genuine
    obtain ⟨same, again, order⟩ := passes .orderly
    cases found.symm.trans again
    exact ⟨passes .timely, passes .stillTimely, _, _, _, _, found, order, active, read, signed,
      genuine⟩

/-- A world plays a scene when its clock and its store say what the scene has them say. -/
structure Plays {σ : Type} (scene : Scene) (world : Program.World Relay σ)
    (start entered looked last : σ) : Prop where
  comes : world .now start = (some scene.came, entered)
  finds : world (.store (.findSubscription scene.id)) entered = (some scene.found, looked)
  goesOn : world .now looked = (some scene.later, last)

theorem isFresh_iff (scene : Scene) (now : Instant) :
    Inbound.isFresh scene.tolerance now (scene.request.header? timestampHeader) = true ↔
      scene.TimelyAt now := by
  unfold Inbound.isFresh TimelyAt
  cases scene.request.header? timestampHeader with
  | none => simp
  | some header =>
    cases read : Freshness.timestamp? header with
    | none => simp [Freshness.isFreshHeader, read]
    | some timestamp => simp [Freshness.isFreshHeader, Freshness.isFresh, read]

/-- How a callback is validated that has been let in and read. -/
private def validation (scene : Scene) (subscription : Subscription) (payload : Json.Value) :
    Except RotationError Bool :=
  Inbound.validate scene.tolerance scene.later payload
    (scene.request.header? signatureHeader) (scene.request.header? timestampHeader) subscription

private def conclusion (id : Uuid) : Except RotationError Bool → ServiceResponse
  | .ok true => accepted id
  | .ok false => unauthorized
  | .error _ => malformedSecrets

variable {scene : Scene} {subscription : Subscription} {payload : Json.Value}
  {signature : List Char} {secrets : List Secret}

private theorem validation_of_stale (stale : ¬scene.TimelyAt scene.later) :
    scene.validation subscription payload = .ok false := by
  have refused := Bool.eq_false_iff.mpr fun fresh =>
    stale ((scene.isFresh_iff scene.later).mp fresh)
  simp [validation, Inbound.validate, refused]

private theorem validation_of_unsigned (timely : scene.TimelyAt scene.later)
    (unsigned : scene.request.header? signatureHeader = none) :
    scene.validation subscription payload = .ok false := by
  have fresh := (scene.isFresh_iff scene.later).mpr timely
  simp [validation, Inbound.validate, fresh, unsigned]

private theorem validation_of_disorder (timely : scene.TimelyAt scene.later)
    (signed : scene.request.header? signatureHeader = some signature)
    (disorder : ¬subscription.SecretsInOrder) (payload : Json.Value) :
    ∃ error, scene.validation subscription payload = .error error := by
  have fresh := (scene.isFresh_iff scene.later).mpr timely
  obtain ⟨error, refused⟩ := Subscription.activeSecrets_of_disorder disorder scene.later
  exact ⟨error, by simp [validation, Inbound.validate, fresh, signed, refused, Except.map]⟩

private theorem validation_of_order (timely : scene.TimelyAt scene.later)
    (signed : scene.request.header? signatureHeader = some signature)
    (active : subscription.activeSecrets scene.later = .ok secrets) (payload : Json.Value) :
    scene.validation subscription payload = .ok (secrets.any fun secret =>
      Signature.verifyBytes (Json.canonical payload) signature secret) := by
  rw [validation, signed]
  exact Inbound.validate_of_fresh ((scene.isFresh_iff scene.later).mpr timely) active _ _

variable {σ : Type} {world : Program.World Relay σ} {start entered looked last : σ}

private theorem receive_of_stale (comes : world .now start = (some scene.came, entered))
    (stale : ¬scene.TimelyAt scene.came) :
    scene.handling.run world start = (some unauthorized, entered) := by
  have refused := Bool.eq_false_iff.mpr fun fresh => stale ((scene.isFresh_iff scene.came).mp fresh)
  refine (Program.run_step comes _).trans ?_
  rw [refused]
  rfl

private theorem receive_of_timely (plays : scene.Plays world start entered looked last)
    (timely : scene.TimelyAt scene.came) :
    scene.handling.run world start = match scene.found with
      | .error _ => (some storeFailed, looked)
      | .ok none => (some (unknownSubscription scene.id), looked)
      | .ok (some subscription) => match Json.read? scene.request.body with
        | none => (some (notJson (scene.parser scene.request.body)), looked)
        | some payload => (some (conclusion scene.id (scene.validation subscription payload)), last)
          := by
  have fresh := (scene.isFresh_iff scene.came).mpr timely
  refine (Program.run_step plays.comes _).trans ?_
  rw [fresh]
  refine (Program.run_step plays.finds _).trans ?_
  rcases scene.found with error | _ | subscription
  · rfl
  · rfl
  · cases Json.read? scene.request.body with
    | none => rfl
    | some payload =>
      refine (Program.run_step plays.goesOn _).trans ?_
      show Program.run _ (match scene.validation subscription payload with
        | .ok true => .done (accepted scene.id)
        | .ok false => .done unauthorized
        | .error _ => .done malformedSecrets : Program Relay ServiceResponse) last =
          (some (conclusion scene.id (scene.validation subscription payload)), last)
      rcases scene.validation subscription payload with error | _ | _
      · rfl
      · rfl
      · rfl

private theorem receive_of_firstFails {check : Check}
    (plays : scene.Plays world start entered looked last) (fails : scene.FirstFails check) :
    ∃ reached, scene.handling.run world start = (some (scene.refusal check), reached) := by
  obtain ⟨failed, passed⟩ := fails
  by_cases first : check = .timely
  · subst first
    exact ⟨entered, receive_of_stale plays.comes failed⟩
  -- All other checks come after the first, and so does the look into the store.
  · have timely : scene.TimelyAt scene.came :=
      passed .timely (Nat.pos_of_ne_zero fun zero => first (Check.place_injective zero))
    rw [receive_of_timely plays timely]
    cases check with
    | timely => exact absurd rfl first
    | loaded =>
      cases found : scene.found with
      | ok held => exact absurd ⟨held, found⟩ failed
      | error error => exact ⟨looked, rfl⟩
    | known =>
      obtain ⟨_ | subscription, found⟩ := passed .loaded (by decide)
      · exact ⟨looked, by rw [found]; rfl⟩
      · exact absurd ⟨subscription, found⟩ failed
    | readable =>
      obtain ⟨subscription, found⟩ := passed .known (by decide)
      cases read : Json.read? scene.request.body with
      | some payload => exact absurd ⟨payload, read⟩ failed
      | none => exact ⟨looked, by rw [found]; rfl⟩
    | stillTimely =>
      obtain ⟨subscription, found⟩ := passed .known (by decide)
      obtain ⟨payload, read⟩ := passed .readable (by decide)
      exact ⟨last, by simp only [found, read, validation_of_stale failed]; rfl⟩
    | signed =>
      obtain ⟨subscription, found⟩ := passed .known (by decide)
      obtain ⟨payload, read⟩ := passed .readable (by decide)
      have later := passed .stillTimely (by decide)
      have unsigned : scene.request.header? signatureHeader = none :=
        Option.eq_none_iff_forall_ne_some.mpr fun signature signed => failed ⟨signature, signed⟩
      exact ⟨last, by simp only [found, read, validation_of_unsigned later unsigned]; rfl⟩
    | orderly =>
      obtain ⟨subscription, found⟩ := passed .known (by decide)
      obtain ⟨payload, read⟩ := passed .readable (by decide)
      obtain ⟨signature, signed⟩ := passed .signed (by decide)
      have disorder : ¬subscription.SecretsInOrder := fun order =>
        failed ⟨subscription, found, order⟩
      obtain ⟨error, refused⟩ :=
        validation_of_disorder (passed .stillTimely (by decide)) signed disorder payload
      exact ⟨last, by simp only [found, read, refused]; rfl⟩
    | genuine =>
      obtain ⟨subscription, found, order⟩ := passed .orderly (by decide)
      obtain ⟨payload, read⟩ := passed .readable (by decide)
      obtain ⟨signature, signed⟩ := passed .signed (by decide)
      obtain ⟨secrets, active, _⟩ := Subscription.activeSecrets_of_order order scene.later
      have validated :=
        validation_of_order (passed .stillTimely (by decide)) signed active payload
      have forged : (secrets.any fun secret =>
          Signature.verifyBytes (Json.canonical payload) signature secret) = false :=
        Bool.eq_false_iff.mpr fun verifies => failed ⟨subscription, secrets, payload, signature,
          found, active, read, signed, List.any_eq_true.mp verifies⟩
      exact ⟨last, by simp only [found, read, validated, forged]; rfl⟩

private theorem receive_of_trusted (plays : scene.Plays world start entered looked last)
    (trusted : scene.Trusted) :
    scene.handling.run world start = (some (accepted scene.id), last) := by
  obtain ⟨came, later, subscription, secrets, payload, signature, found, _, active, read, signed,
    genuine⟩ := trusted
  have validated := validation_of_order later signed active payload
  rw [List.any_eq_true.mpr genuine] at validated
  rw [receive_of_timely plays came]
  simp only [found, read, validated]
  rfl

/-- How a callback is answered, and where that leaves the world: a request that is not timely comes no
further than the clock, whatever the rest of a world is like. -/
structure Decides (scene : Scene) (world : Program.World Relay σ) (start entered : σ)
    (response : ServiceResponse) : Prop where
  refuses : ∀ check, scene.FirstFails check →
    response = scene.refusal check ∧ response.status = check.status
  accepts : (∀ check, scene.Passes check) → response = accepted scene.id
  trusts : response.status = 202 ↔ scene.Trusted
  staysOut : ¬scene.Passes .timely → ∀ other : Program.World Relay σ,
    other .now start = world .now start →
      scene.handling.run other start = (some response, entered)
  looksOnce : scene.later = scene.came → ¬scene.FirstFails .stillTimely

theorem receive_decides (plays : scene.Plays world start entered looked last) :
    ∃ response reached, scene.handling.run world start = (some response, reached) ∧
      scene.Decides world start entered response := by
  have looksOnce (still : scene.later = scene.came) : ¬scene.FirstFails .stillTimely := by
    rintro ⟨stale, passed⟩
    refine stale ?_
    show scene.TimelyAt scene.later
    exact still ▸ passed .timely (by decide)
  by_cases passes : ∀ check, scene.Passes check
  · have trusted := scene.trusted_iff.mpr passes
    refine ⟨_, _, receive_of_trusted plays trusted, ?_, fun _ => rfl, ?_, ?_, looksOnce⟩
    · exact fun check fails => absurd (passes check) fails.1
    · exact ⟨fun _ => trusted, fun _ => rfl⟩
    · exact fun stale => absurd (passes .timely) stale
  · obtain ⟨failing, failed⟩ := Classical.not_forall.mp passes
    obtain ⟨first, fails⟩ := exists_firstFails failed
    obtain ⟨reached, answered⟩ := receive_of_firstFails plays fails
    refine ⟨_, _, answered, ?_, fun all => absurd all passes, ?_, ?_, looksOnce⟩
    · intro check other
      cases firstFails_unique fails other
      exact ⟨rfl, scene.refusal_status first⟩
    · rw [scene.refusal_status first]
      refine ⟨fun accepted => ?_, fun trusted => absurd (scene.trusted_iff.mp trusted) passes⟩
      cases first <;> cases accepted
    · intro stale other comes
      have first : first = .timely := by
        cases firstFails_unique fails ⟨stale, fun earlier before => absurd before (Nat.not_lt_zero _)⟩
        rfl
      rw [first]
      exact receive_of_stale (comes.trans plays.comes) stale

end Scene

/-- A clock that stands at the start of 1970, beside a store. -/
private def desk : Program.World Relay MemoryStore
  | .now, store => (some ⟨0⟩, store)
  | .store call, store => store.call call
  | _, store => (none, store)

/-- The signature of the empty object under the secret that was replaced. -/
private def mark : String := "30370f5168e5db3692789572a6f63ef347f54d8cd89712141d25adc211afd831"

/-- A callback that was signed before the secret was replaced, and is as late as may be. -/
private def earnest : Scene where
  tolerance := Freshness.defaultTolerance
  id := Subscription.ofOrders.id
  request := {
    method := "POST"
    target := "/callbacks/00000000-0000-0000-0000-000000000001".toList
    headers := [(timestampHeader, Utf8.ofString " -300"), (signatureHeader, Utf8.ofString mark)]
    body := Utf8.ofString "\x7b \x7d" }
  parser := fun _ => none
  came := ⟨0⟩
  found := .ok (some .ofOrdersReplaced)
  later := ⟨0⟩

theorem receive_decides_earnest : ∃ response reached,
    earnest.handling.run desk (MemoryStore.empty.putSubscription .ofOrdersReplaced) =
      (some response, reached) ∧ response.status = 202 := by
  have plays (store : MemoryStore) (same : store = .putSubscription .empty .ofOrdersReplaced) :
      earnest.Plays desk store store store store := by
    subst same
    exact ⟨rfl, rfl, rfl⟩
  have timely : earnest.TimelyAt ⟨0⟩ :=
    ⟨" -300".toList, -300, by decide +kernel, by decide +kernel, by decide +kernel⟩
  have order : Subscription.ofOrdersReplaced.SecretsInOrder :=
    ⟨by decide, fun _ _ => ⟨_, _, rfl, rfl, by decide⟩⟩
  have active : Subscription.ofOrdersReplaced.activeSecrets earnest.later =
      .ok [⟨[0x2b]⟩, Subscription.ofOrders.secret] := by decide
  obtain ⟨payload, read, spelled⟩ : ∃ payload, Json.read? earnest.request.body = some payload ∧
      Json.canonical payload = Json.canonical (.object []) :=
    Option.map_eq_some_iff.mp (by decide +kernel)
  have signed : earnest.request.header? signatureHeader = some mark.toList := by decide +kernel
  have marked : Signature.sign (.object []) Subscription.ofOrders.secret = .ok mark := by
    decide +kernel
  have verifies : Signature.verifyBytes (Json.canonical payload) mark.toList
      Subscription.ofOrders.secret = true := by
    rw [spelled]
    exact Signature.verifyBytes_of_signBytes marked
  obtain ⟨response, reached, answered, decides⟩ := Scene.receive_decides (plays _ rfl)
  exact ⟨response, reached, answered, decides.trusts.mpr ⟨timely, timely, _, _, _, _, rfl,
    order, active, read, signed, Subscription.ofOrders.secret, by decide, verifies⟩⟩

end HookRelay.Callback
