import HookRelay.Config.Settings
import HookRelay.Http.Message

/-!
The delivery client: builds the signed request, follows redirects and tells the failures of the
network apart. After 301, 302 and 303 a request is sent again as a plain `GET`; after 307 and 308
it is repeated.
-/
namespace HookRelay

def signatureHeader : String := "x-webhook-signature"
def timestampHeader : String := "x-webhook-timestamp"
def subscriptionHeader : String := "x-webhook-id"

/-- Header values hold no control character but the tab. -/
def isHeaderValue (text : String) : Bool :=
  (Utf8.ofString text).all fun byte => (32 ≤ byte && byte ≠ 127) || byte = 9

namespace Client

def settingsFault? (settings : ClientSettings) : Option DeliveryError :=
  if isHeaderValue settings.userAgent then none
  else some (.configuration "failed to build HTTP client: builder error")

def headers (settings : ClientSettings) (request : DeliveryRequest) : List (String × String) :=
  [(signatureHeader, request.signature), (timestampHeader, toString request.timestamp),
    (subscriptionHeader, request.subscriptionId.text), ("user-agent", settings.userAgent)]

private def unsendable : DeliveryError := .network "builder error"

private def unsendableTo (url : Url) : DeliveryError :=
  .network ("builder error for url (" ++ url.text ++ ")")

/-- The request as it first goes out; one that cannot be sent is not tried. -/
def prepare (settings : ClientSettings) (request : DeliveryRequest) :
    Except DeliveryError WireRequest :=
  match Url.read? request.url.toList with
  | none => .error unsendable
  | some url =>
    if !url.hasHost then .error (unsendableTo url)
    else if !isHeaderValue request.signature then .error unsendable
    else
      let url := url.withoutCredentials
      if url.isWeb && url.isRequestUri then
        .ok ⟨.post, url, headers settings request, some request.body⟩
      else .error (unsendableTo url)

theorem prepare_eq_ok {settings : ClientSettings} {request : DeliveryRequest} {wire : WireRequest}
    (prepared : prepare settings request = .ok wire) :
    ∃ url, wire = ⟨.post, url, headers settings request, some request.body⟩ := by
  unfold prepare at prepared
  split at prepared
  · cases prepared
  · split at prepared
    · cases prepared
    · split at prepared
      · cases prepared
      · dsimp only at prepared
        split at prepared
        · exact ⟨_, (Except.ok.inj prepared).symm⟩
        · cases prepared

/-- The request that an answer redirects to, if it does; it may not lead to the web. -/
def redirected? (request : WireRequest) (answer : WireAnswer) : Option WireRequest := do
  let location ← Utf8.decode? (← answer.location)
  let url ← request.url.resolve? location
  if !url.isRequestUri then none
  else if answer.code ∈ [301, 302, 303] then some ⟨.get, url, request.headers, none⟩
  else if answer.code ∈ [307, 308] then some { request with url := url }
  else none

/-- A redirect names the next URL; its code tells whether the request is repeated there, or sent again
as a plain one. -/
theorem redirected?_eq_some {request next : WireRequest} {answer : WireAnswer}
    (redirected : redirected? request answer = some next) :
    (∃ location, request.url.resolve? location = some next.url) ∧
      (answer.code ∈ [301, 302, 303] ∧ next = ⟨.get, next.url, request.headers, none⟩ ∨
        answer.code ∉ [301, 302, 303] ∧ next = { request with url := next.url }) := by
  obtain ⟨_, _, redirected⟩ := Option.bind_eq_some_iff.mp redirected
  obtain ⟨location, _, redirected⟩ := Option.bind_eq_some_iff.mp redirected
  obtain ⟨url, resolved, redirected⟩ := Option.bind_eq_some_iff.mp redirected
  split at redirected
  · cases redirected
  · split at redirected
    · rename_i plain
      cases redirected
      exact ⟨⟨location, resolved⟩, .inl ⟨plain, rfl⟩⟩
    · rename_i repeats
      split at redirected
      · cases redirected
        exact ⟨⟨location, resolved⟩, .inr ⟨repeats, rfl⟩⟩
      · cases redirected

/-- Answers with these codes have no body. -/
def hasNoBody (code : Nat) : Bool := code = 204 || code = 304

def response (answer : WireAnswer) : DeliveryResponse :=
  ⟨answer.code, Capture.ofChunks (if hasNoBody answer.code then [] else answer.chunks)⟩

private def whileSending (request : WireRequest) : String :=
  "error sending request for url (" ++ request.url.text ++ ")"

def follow (timeout : Duration) :
    Nat → WireRequest → Program Wire (Except DeliveryError DeliveryResponse)
  | redirects, request => .step request fun
    | .refused => .done (.error (.network ("connection failed: " ++ whileSending request)))
    | .dropped => .done (.error (.network (whileSending request)))
    | .timedOut => .done (.error (.timeout timeout.seconds))
    | .answered answer =>
      match redirected? request answer, redirects with
      | none, _ => .done (.ok (response answer))
      | some next, redirects + 1 =>
        if next.url.isWeb then follow timeout redirects next
        else .done (.error (unsendableTo next.url))
      | some _, 0 =>
        .done (.error (.network ("error following redirect for url (" ++ request.url.text ++ ")")))

/-- Sends a signed delivery. Any answer is a response; an error tells why there is none. -/
def deliver (settings : ClientSettings) (request : DeliveryRequest) :
    Program Wire (Except DeliveryError DeliveryResponse) :=
  match prepare settings request with
  | .error error => .done (.error error)
  | .ok wire => follow request.timeout settings.maxRedirects wire

/-! ### What comes of a delivery -/

/-- A delivery gets one of the answers that are given, or is waited for in vain, or fails for a reason
without control characters. -/
inductive Returns (given : WireAnswer → Prop) : Except DeliveryError DeliveryResponse → Prop where
  | answered {answer : WireAnswer} (gave : given answer) : Returns given (.ok (response answer))
  | timedOut (seconds : Nat) : Returns given (.error (.timeout seconds))
  | failed {reason : String} (visible : Text.Visible reason.toList) :
      Returns given (.error (.network reason))

variable {given : WireAnswer → Prop}

private theorem visible_naming {before after : String} {url : Url} (visible : url.IsVisible)
    (start : Text.Visible before.toList) (finish : Text.Visible after.toList) :
    Text.Visible (before ++ url.text ++ after).toList := by
  simp only [String.toList_append, Text.Visible.append_iff, start, visible.text, finish, true_and]

private theorem prepare_cases (settings : ClientSettings) (request : DeliveryRequest) :
    (∃ failure, prepare settings request = .error failure ∧ Returns given (.error failure)) ∨
      ∃ wire, prepare settings request = .ok wire ∧ wire.url.IsVisible := by
  have plain : Returns given (.error unsendable) := .failed (by decide)
  have naming {url : Url} (visible : url.IsVisible) : Returns given (.error (unsendableTo url)) :=
    .failed (visible_naming visible (by decide) (by decide))
  unfold prepare
  split
  · exact .inl ⟨_, rfl, plain⟩
  · rename_i url read
    have visible := Url.isVisible_of_read? read
    split
    · exact .inl ⟨_, rfl, naming visible⟩
    · split
      · exact .inl ⟨_, rfl, plain⟩
      · dsimp only
        split
        · exact .inr ⟨_, rfl, visible.withoutCredentials⟩
        · exact .inl ⟨_, rfl, naming visible.withoutCredentials⟩

variable {σ : Type} {world : Program.World Wire σ} {state after : σ}
  {reception : Except DeliveryError DeliveryResponse}

theorem follow_eq (timeout : Duration) (redirects : Nat) (request : WireRequest) :
    follow timeout redirects request = .step request fun
      | .refused => .done (.error (.network ("connection failed: " ++ whileSending request)))
      | .dropped => .done (.error (.network (whileSending request)))
      | .timedOut => .done (.error (.timeout timeout.seconds))
      | .answered answer =>
        match redirected? request answer, redirects with
        | none, _ => .done (.ok (response answer))
        | some next, redirects + 1 =>
          if next.url.isWeb then follow timeout redirects next
          else .done (.error (unsendableTo next.url))
        | some _, 0 =>
          .done (.error (.network
            ("error following redirect for url (" ++ request.url.text ++ ")"))) := by
  -- the recursion stands inside the function of the exchange, where no equation is made for it
  delta follow
  cases redirects
  all_goals
    refine congrArg (@Program.step Wire _ request) (funext fun exchange => ?_)
    cases exchange with
    | answered answer =>
      dsimp only
      cases redirected? request answer with
      | none => rfl
      | some next => rfl
    | _ => rfl

private theorem returns_of_follow {timeout : Duration} {redirects : Nat} {request : WireRequest}
    (gives : ∀ request state answer after, world request state = (some (.answered answer), after) →
      given answer) (visible : request.url.IsVisible)
    (ran : (follow timeout redirects request).run world state = (some reception, after)) :
    Returns given reception := by
  induction redirects using Nat.strongRecOn generalizing request state with
  | ind redirects ih =>
    have sending : Text.Visible (whileSending request).toList :=
      visible_naming visible (by decide) (by decide)
    rw [follow_eq] at ran
    unfold Program.run at ran
    split at ran
    · rename_i exchange _ exchanged
      cases exchange with
      | refused =>
        cases ran
        refine .failed ?_
        rw [String.toList_append]
        exact Text.Visible.append_iff.mpr ⟨by decide, sending⟩
      | dropped =>
        cases ran
        exact .failed sending
      | timedOut =>
        cases ran
        exact .timedOut timeout.seconds
      | answered answer =>
        dsimp only at ran
        split at ran
        · cases ran
          exact .answered (gives _ _ _ _ exchanged)
        · rename_i next redirects redirected
          obtain ⟨⟨_, resolved⟩, _⟩ := redirected?_eq_some redirected
          have visible := Url.isVisible_of_resolve? visible resolved
          split at ran
          · exact ih redirects (Nat.lt_succ_self _) visible ran
          · cases ran
            exact .failed (visible_naming visible (by decide) (by decide))
        · cases ran
          exact .failed (visible_naming visible (by decide) (by decide))
    · cases ran

/-- This is all that comes of a delivery on a wire that gives such answers. -/
theorem returns_of_deliver {settings : ClientSettings} {request : DeliveryRequest}
    (gives : ∀ request state answer after, world request state = (some (.answered answer), after) →
      given answer) (ran : (deliver settings request).run world state = (some reception, after)) :
    Returns given reception := by
  unfold deliver at ran
  rcases @prepare_cases given settings request with
    ⟨failure, prepared, returns⟩ | ⟨wire, prepared, visible⟩
  · rw [prepared] at ran
    cases ran
    exact returns
  · rw [prepared] at ran
    exact returns_of_follow gives visible ran

end Client

end HookRelay
