import HookRelay.Proofs.Attempt
import HookRelay.Proofs.Deployment
import HookRelay.Proofs.Outbound.Redirection
import HookRelay.Proofs.Outbound.Trail
import HookRelay.Proofs.Serving

/-!
What it means that a delivery was made. A call of `Dispatch.process` that says so has had an answer that
accepts at the end of a chain of requests, and this is all that it goes by: whether the body that was
signed is what was accepted depends on the redirects on the way.
-/
namespace HookRelay

variable {σ : Type} {state after : σ} {trail : List Answered}

/-- The calls of an attempt that is accepted, and what they were told. -/
structure Handover where
  subscription : Subscription
  record : DeliveryRecord
  begun : DeliveryRecord
  succeeded : DeliveryRecord
  prepared : Instant
  completed : Instant
  request : DeliveryRequest
  response : DeliveryResponse
  counted : Except StoreError Unit

namespace Handover

/-- What is done up to the request: the attempt is begun, and that is on record. -/
def before (handover : Handover) (id : Uuid) : List Answered :=
  [.loaded id handover.record, .subscribed handover.record.subscriptionId handover.subscription,
    .told handover.prepared, .saved handover.begun]

/-- What is done about the response: the attempt is over, which is put on record, counted and told. -/
def behind (handover : Handover) : List Answered :=
  [.told handover.completed, .saved handover.succeeded,
    ⟨.store (.increment handover.subscription.id .success handover.completed), handover.counted⟩,
    ⟨.publish (Attempt.successEvent handover.subscription handover.begun handover.succeeded
      handover.response handover.completed), ()⟩]

/-- The attempt was allowed, and its request made, as they should be; its response accepts. -/
structure Sound (handover : Handover) : Prop where
  active : handover.subscription.isActive = true
  begins : handover.record.beginAttempt handover.subscription.maxAttempts = .ok handover.begun
  request : ∃ signature,
    let body := Json.canonical (enrich handover.subscription handover.record handover.prepared)
    Signature.signBytes body handover.subscription.secret = .ok signature ∧
      handover.request =
        Dispatch.request handover.subscription handover.begun body signature handover.prepared
  accepted : handover.response.isSuccess = true
  succeeds : handover.begun.succeed handover.response.code handover.response.body
    handover.completed = .ok handover.succeeded

variable {handover : Handover}

theorem Sound.authentic (sound : handover.Sound) :
    handover.request.Authentic handover.subscription handover.record handover.prepared := by
  obtain ⟨signature, signed, made⟩ := sound.request
  rw [made]
  exact Dispatch.request_authentic signed

theorem Sound.recorded (sound : handover.Sound) : handover.succeeded.status = .successful ∧
    handover.succeeded.responseCode = some handover.response.code := by
  rw [(DeliveryRecord.succeed_eq_ok sound.succeeds).2]
  exact ⟨rfl, rfl⟩

theorem Sound.follows {policy : RetryPolicy} {id : Uuid} (sound : handover.Sound) :
    Dispatch.Follows policy id (.ended (.ok (.delivered handover.response.code)))
      (handover.before id ++ ⟨.send handover.request, .ok handover.response⟩ :: handover.behind) := by
  obtain ⟨signature, signed, made⟩ := sound.request
  obtain ⟨able, _⟩ := DeliveryRecord.beginAttempt_eq_ok sound.begins
  have landed : handover.record.status ≠ .processing :=
    ((DeliveryRecord.canAttempt_iff _ _).mp able).1
  have start : Dispatch.Follows policy id (.called id) [] := .called
  have found := (start.goes (.loads handover.record)).goes
    (.admits handover.subscription landed sound.active able)
  have sent := ((found.goes (.begins handover.prepared sound.begins signed)).goes .readies).goes
    (.sends (.ok handover.response))
  have ended := (((sent.goes (.accepts handover.completed sound.accepted sound.succeeds)).goes
    .succeeds).goes (.credits handover.counted)).goes .delivers
  rw [made]
  exact ended

end Handover

namespace Dispatch

variable {policy : RetryPolicy} {id : Uuid} {code : Nat}

namespace Follows

variable {attempt : Begun} {success : Success}

theorem answered {answer : Except DeliveryError DeliveryResponse}
    (follows : Follows policy id (.answered attempt answer) trail) :
    trail = attempt.asked id ++ [.saved attempt.begun, ⟨.send attempt.request, answer⟩] := by
  cases follows with
  | goes follows goes =>
    cases goes with
    | sends answer =>
      rw [follows.ready]
      rfl

theorem succeeded (follows : Follows policy id (.succeeded success) trail) :
    trail = success.asked id ++ [.saved success.begun,
      ⟨.send success.request, .ok success.response⟩, .told success.now,
      .saved success.succeeded] := by
  cases follows with
  | goes follows goes =>
    cases goes with
    | succeeds =>
      cases follows with
      | goes follows goes =>
        cases goes with
        | accepts now accepted succeeds =>
          rw [follows.answered]
          rfl

theorem credited (follows : Follows policy id (.credited success) trail) :
    ∃ counted, trail = success.asked id ++ [.saved success.begun,
      ⟨.send success.request, .ok success.response⟩, .told success.now, .saved success.succeeded,
      ⟨.store (.increment success.subscription.id .success success.now), counted⟩] := by
  cases follows with
  | goes follows goes =>
    cases goes with
    | credits counted =>
      refine ⟨counted, ?_⟩
      rw [follows.succeeded]
      rfl

end Follows

/-- A delivery was made where it and its subscription were found and its attempt was delivered. -/
theorem yields_process :
    (process policy id).result.Yields trail (.ok (.delivered code)) ↔
      ∃ handover : Handover, handover.Sound ∧ handover.response.code = code ∧
        trail = handover.before id ++
          ⟨.send handover.request, .ok handover.response⟩ :: handover.behind := by
  rw [yields_process_iff]
  constructor
  · intro follows
    cases follows with
    | goes follows goes =>
      cases goes with
      | @delivers success =>
        obtain ⟨counted, rfl⟩ := follows.credited
        exact ⟨⟨success.subscription, success.record, success.begun, success.succeeded,
          success.prepared, success.now, success.request, success.response, counted⟩,
          ⟨success.active, success.begins, ⟨success.signature, success.signed, rfl⟩,
            success.accepted, success.succeeds⟩, rfl, rfl⟩
  · rintro ⟨handover, sound, rfl, rfl⟩
    exact sound.follows

end Dispatch

/-! ### On the wire -/

private theorem headed_digit : ∀ value < 16, (Utf8.encodeChar (Hex.digit value)).all
    (fun byte => (32 ≤ byte && byte ≠ 127) || byte = 9) = true := by decide

theorem isHeaderValue_of_signBytes {body : Bytes} {secret : Secret} {signature : String}
    (signed : Signature.signBytes body secret = .ok signature) :
    isHeaderValue signature = true := by
  rw [isHeaderValue, Utf8.ofString, (Signature.signBytes_eq_ok signed).2]
  refine List.all_eq_true.mpr fun byte member => ?_
  obtain ⟨char, written, within⟩ := List.mem_flatMap.mp member
  obtain ⟨value, small, rfl⟩ := Hex.mem_encode written
  exact List.all_eq_true.mp (headed_digit value small) byte within

/-- A relay whose requests go out over a wire, by a client with the settings of the time; everything
else is answered from outside. -/
def Client.relay (settings : σ → ClientSettings) (wire : Program.World Wire σ)
    (outside : Program.World Relay σ) : Program.World Relay σ
  | .send request, state => (Client.deliver (settings state) request).run wire state
  | effect, state => outside effect state

variable {settings : σ → ClientSettings} {wire : Program.World Wire σ}
  {outside : Program.World Relay σ} {policy : RetryPolicy} {id : Uuid} {code : Nat}

/-- Deployments are such relays. -/
theorem Deployment.answer_eq_relay :
    Deployment.answer = Client.relay Deployment.client Deployment.wire Deployment.answer := by
  funext effect deployment
  cases effect <;> rfl

theorem replies_relay_iff (unsent : ∀ answered ∈ trail, ∀ request, answered.effect ≠ .send request) :
    Replies (Client.relay settings wire outside) state trail after ↔
      Replies outside state trail after := by
  have apart {effect : Effect} (other : ∀ request, effect ≠ .send request) :
      Client.relay settings wire outside effect = outside effect := by
    cases effect with
    | send request => exact absurd rfl (other request)
    | _ => rfl
  constructor
  · intro replies
    induction replies with
    | nil => exact .nil
    | cons replied further ih =>
      obtain ⟨other, later⟩ := List.forall_mem_cons.mp unsent
      exact .cons (apart other ▸ replied) (ih later)
  · intro replies
    induction replies with
    | nil => exact .nil
    | cons replied further ih =>
      obtain ⟨other, later⟩ := List.forall_mem_cons.mp unsent
      exact .cons ((congrFun (apart other) _).trans replied) (ih later)

/-- A handover over the wire: after all that is done before, its request is led to an answer that is
taken for its response, over no more redirects than allowed. -/
structure Handover.Made (handover : Handover) (settings : σ → ClientSettings)
    (wire : Program.World Wire σ) (outside : Program.World Relay σ) (id : Uuid) (state after : σ)
    (hops : List Hop) (last : Hop) : Prop where
  sound : handover.Sound
  led : ∃ sent answered first, Replies outside state (handover.before id) sent ∧
    Client.prepare (settings sent) handover.request = .ok first ∧
    Client.Leads wire sent first hops last answered ∧
    hops.length ≤ (settings sent).maxRedirects ∧
    Replies outside answered handover.behind after
  response : Client.response last.answer = handover.response

namespace Dispatch

/-- A call says that a delivery was made exactly if it was handed over, whatever the way to the answer
that accepts. -/
theorem delivered_iff_made :
    (process policy id).result.run (Client.relay settings wire outside) state =
        (some (.ok (.delivered code)), after) ↔
      ∃ handover hops last, Handover.Made handover settings wire outside id state after hops last ∧
        last.answer.code = code := by
  have before (handover : Handover) (sent : σ) :
      Replies (Client.relay settings wire outside) state (handover.before id) sent ↔
        Replies outside state (handover.before id) sent :=
    replies_relay_iff (by simp [Handover.before, Answered.loaded, Answered.subscribed, Answered.told,
      Answered.saved])
  have behind (handover : Handover) (answered : σ) :
      Replies (Client.relay settings wire outside) answered handover.behind after ↔
        Replies outside answered handover.behind after :=
    replies_relay_iff (by simp [Handover.behind, Answered.told, Answered.saved])
  rw [run_eq_some_iff]
  constructor
  · rintro ⟨trail, yields, replies⟩
    obtain ⟨handover, sound, rfl, rfl⟩ := yields_process.mp yields
    obtain ⟨sent, early, replies⟩ := replies_append.mp replies
    cases replies with
    | @cons _ _ _ _ answered _ received late =>
      obtain ⟨first, hops, last, prepared, leads, bounded, response⟩ :=
        Client.deliver_run_eq_ok_iff.mp received
      refine ⟨handover, hops, last, ⟨sound, ?_, response⟩, congrArg DeliveryResponse.code response⟩
      exact ⟨sent, answered, first, (before _ _).mp early, prepared, leads, bounded,
        (behind _ _).mp late⟩
  · rintro ⟨handover, hops, last, ⟨sound, led, response⟩, rfl⟩
    obtain ⟨sent, answered, first, early, prepared, leads, bounded, late⟩ := led
    refine ⟨_, yields_process.mpr ⟨handover, sound, congrArg DeliveryResponse.code response.symm, rfl⟩,
      replies_append.mpr ⟨sent, (before _ _).mpr early, .cons ?_ ((behind _ _).mpr late)⟩⟩
    exact Client.deliver_run_eq_ok_iff.mpr ⟨first, hops, last, prepared, leads, bounded, response⟩

/-- A delivery that was made is on record as successful, after an answer that accepts to the last request
of a chain. This request brought the body that was signed, with its signature, exactly if no answer on
the way had a code that asks for a plain request; else it was plain, and whoever was sent the body has
not accepted it but redirected it. -/
theorem delivered_carries_iff
    (delivered : (process policy id).result.run (Client.relay settings wire outside) state =
      (some (.ok (.delivered code)), after)) :
    ∃ handover hops last, Handover.Made handover settings wire outside id state after hops last ∧
      handover.request.Authentic handover.subscription handover.record handover.prepared ∧
      (last.answer.code = code ∧ 200 ≤ code ∧ code < 300) ∧
      (handover.succeeded.status = .successful ∧ handover.succeeded.responseCode = some code) ∧
      (last.request.Carries handover.request ↔ ∀ hop ∈ hops, hop.answer.code ∉ [301, 302, 303]) ∧
      (last.request.Carries handover.request ∨ last.request.Bare handover.request) := by
  obtain ⟨handover, hops, last, made, rfl⟩ := delivered_iff_made.mp delivered
  have code : handover.response.code = last.answer.code :=
    congrArg DeliveryResponse.code made.response.symm
  have accepted : 200 ≤ last.answer.code ∧ last.answer.code < 300 := by
    simpa [DeliveryResponse.isSuccess, code] using made.sound.accepted
  obtain ⟨_, _, _, _, prepared, leads, _⟩ := made.led
  exact ⟨handover, hops, last, made, made.sound.authentic, ⟨rfl, accepted⟩,
    code ▸ made.sound.recorded, leads.carries_iff prepared⟩

private def hook : Url := ⟨"http".toList, none, some "[::1]".toList, none, "/hook".toList, none, none⟩

private def elsewhere : Url := { hook with path := "/moved".toList }

/-- A receiver that has moved: what is posted to it is to be fetched elsewhere, where it answers. -/
private def diverting : Program.World Wire Deployment := fun request deployment =>
  (some (.answered (match request.method with
    | .post => ⟨302, some (Utf8.encode elsewhere.path), []⟩
    | .get => ⟨200, none, []⟩)), deployment)

private def ofOrdersMoved : Subscription :=
  { Subscription.ofOrders with url := "http://[::1]/hook" }

private def ordered : DeliveryRecord := .pending ⟨0⟩ ofOrdersMoved.id "order.created" .null ⟨0⟩

private def ordering : Deployment :=
  { Deployment.start (.startingAt ⟨0⟩) (.ofList []) .standard ⟨true, [], []⟩ with
    store := (MemoryStore.empty.putSubscription ofOrdersMoved).putDelivery ordered }

private def diverted : Handover :=
  let body := Json.canonical (enrich ofOrdersMoved ordered ⟨0⟩)
  let begun := { ordered with status := .processing, attempts := 1 }
  { subscription := ofOrdersMoved
    record := ordered
    begun
    succeeded := { begun with
      status := .successful
      responseCode := some 200
      responseBody := some ""
      completedAt := some ⟨0⟩ }
    prepared := ⟨0⟩
    completed := ⟨0⟩
    request := request ofOrdersMoved begun body
      (String.ofList (Hex.encode (Hmac.digest ofOrdersMoved.secret.bytes body))) ⟨0⟩
    response := ⟨200, ""⟩
    counted := .ok () }

private theorem diverted_sound : diverted.Sound where
  active := by decide
  begins := rfl
  request := ⟨_, Signature.signBytes_of_usable (by decide) _, rfl⟩
  accepted := by decide
  succeeds := rfl

private theorem prepare_diverted (settings : ClientSettings) :
    Client.prepare settings diverted.request = .ok
      ⟨.post, hook, Client.headers settings diverted.request, some diverted.request.body⟩ := by
  have read : Url.read? diverted.request.url.toList = some hook := by decide +kernel
  have headed := isHeaderValue_of_signBytes diverted_sound.authentic.signed
  have hosted : hook.hasHost = true := by decide +kernel
  have plain : hook.withoutCredentials = hook := rfl
  have web : (hook.isWeb && hook.isRequestUri) = true := by decide +kernel
  simp [Client.prepare, read, headed, hosted, plain, web]

private theorem redirected?_diverted (headers : List (String × String)) (body : Option Bytes) :
    Client.redirected? ⟨.post, hook, headers, body⟩
        ⟨302, some (Utf8.encode elsewhere.path), []⟩ = some ⟨.get, elsewhere, headers, none⟩ := by
  have resolved : hook.resolve? elsewhere.path = some elsewhere := by decide +kernel
  have sendable : elsewhere.isRequestUri = true := by decide +kernel
  simp [Client.redirected?, Utf8.decode?_encode, resolved, sendable]

private theorem diverted_made : ∃ hops last after,
    diverted.Made Deployment.client diverting Deployment.answer ⟨0⟩ ordering after hops last ∧
      last.answer.code = 200 ∧
      (after.store.deliveries.find? ⟨0⟩).map (·.status) = some .successful := by
  obtain ⟨sent, after, early, late, settings, stored⟩ : ∃ sent after,
      Replies Deployment.answer ordering (diverted.before ⟨0⟩) sent ∧
        Replies Deployment.answer sent diverted.behind after ∧ sent.client = .standard ∧
        (after.store.deliveries.find? ⟨0⟩).map (·.status) = some .successful :=
    ⟨_, _, .cons rfl (.cons rfl (.cons rfl (.cons rfl .nil))),
      .cons rfl (.cons rfl (.cons rfl (.cons rfl .nil))), rfl, rfl⟩
  have web : elsewhere.isWeb = true := by decide
  have leads : Client.Leads diverting sent _ _ _ sent := .moves rfl
    (redirected?_diverted (Client.headers sent.client diverted.request) (some diverted.request.body))
    web (.stays rfl rfl)
  have bounded : 1 ≤ sent.client.maxRedirects := by
    rw [settings]
    decide
  have response : Client.response ⟨200, none, []⟩ = diverted.response := by decide +kernel
  exact ⟨_, _, after, ⟨diverted_sound,
    ⟨sent, sent, _, early, prepare_diverted _, leads, bounded, late⟩, response⟩, rfl, stored⟩

private theorem method_of_diverting {request : WireRequest} {answer : WireAnswer}
    {before after : Deployment}
    (exchanged : diverting request before = (some (.answered answer), after))
    (accepted : answer.code = 200) : request.method = .get := by
  cases method : request.method with
  | get => rfl
  | post =>
    simp only [diverting, method] at exchanged
    cases exchanged
    cases accepted

/-- A delivery is on record as successful although its body was only sent where it was not accepted. -/
theorem delivered_without_body :
    let ending := (process .standard ⟨0⟩).result.run
      (Client.relay Deployment.client diverting Deployment.answer) ordering
    ending.1 = some (.ok (.delivered 200)) ∧
      (ending.2.store.deliveries.find? ⟨0⟩).map (·.status) = some .successful ∧
      ∃ handover hops last, Handover.Made handover Deployment.client diverting Deployment.answer ⟨0⟩
          ordering ending.2 hops last ∧
        ¬last.request.Carries handover.request ∧ last.request.Bare handover.request := by
  obtain ⟨hops, last, after, made, code, stored⟩ := diverted_made
  have delivered :=
    (@delivered_iff_made _ _ _ _ _ _ .standard _ _).mpr ⟨diverted, hops, last, made, code⟩
  rw [delivered]
  refine ⟨rfl, stored, ?_⟩
  obtain ⟨handover, hops, last, made, _, ⟨code, _⟩, _, _, carried⟩ := delivered_carries_iff delivered
  obtain ⟨_, _, _, _, _, leads, _⟩ := made.led
  obtain ⟨_, exchanged⟩ := leads.exchanged
  have unread : ¬last.request.Carries handover.request := fun carries =>
    nomatch carries.method.symm.trans (method_of_diverting exchanged code)
  exact ⟨handover, hops, last, made, unread, carried.resolve_left unread⟩

end Dispatch

end HookRelay
