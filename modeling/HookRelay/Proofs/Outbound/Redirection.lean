import HookRelay.Http.Client

namespace HookRelay

/-- A request and what was answered to it. -/
structure Hop where
  request : WireRequest
  answer : WireAnswer

namespace WireRequest

/-- A request brings a delivery as it was signed: the body in a `POST`, with its signature. -/
structure Carries (wire : WireRequest) (request : DeliveryRequest) : Prop where
  method : wire.method = .post
  body : wire.body = some request.body
  signature : wire.header? signatureHeader = some request.signature

/-- Only the headers of a delivery are left, in a `GET`. -/
structure Bare (wire : WireRequest) (request : DeliveryRequest) : Prop where
  method : wire.method = .get
  body : wire.body = none
  signature : wire.header? signatureHeader = some request.signature

variable {wire : WireRequest} {request : DeliveryRequest}

theorem Bare.not_carries (bare : wire.Bare request) : ¬wire.Carries request := by
  intro carries
  cases carries.method.symm.trans bare.method

end WireRequest

namespace Client

variable {σ : Type} {wire : Program.World Wire σ} {state after : σ} {timeout : Duration}
  {redirects : Nat} {settings : ClientSettings} {request : WireRequest} {hops : List Hop} {last : Hop}
  {response : DeliveryResponse}

/-- On the wire, the answers to a request and to those that follow it lead to one that redirects no
further. -/
inductive Leads (wire : Program.World Wire σ) : σ → WireRequest → List Hop → Hop → σ → Prop where
  | stays {request : WireRequest} {answer : WireAnswer} {state after : σ}
      (exchanged : wire request state = (some (.answered answer), after))
      (final : redirected? request answer = none) : Leads wire state request [] ⟨request, answer⟩ after
  | moves {request next : WireRequest} {answer : WireAnswer} {hops : List Hop} {last : Hop}
      {state middle after : σ} (exchanged : wire request state = (some (.answered answer), middle))
      (moved : redirected? request answer = some next) (web : next.url.isWeb = true)
      (rest : Leads wire middle next hops last after) :
      Leads wire state request (⟨request, answer⟩ :: hops) last after

theorem Leads.exchanged (leads : Leads wire state request hops last after) :
    ∃ before, wire last.request before = (some (.answered last.answer), after) := by
  induction leads with
  | stays exchanged final => exact ⟨_, exchanged⟩
  | moves exchanged moved web rest ih => exact ih

/-- All headers are kept on the way. Method and body are kept as well, but for good lost with the first
answer of one of three codes. -/
theorem Leads.request_eq (leads : Leads wire state request hops last after) :
    (∀ hop ∈ hops, hop.answer.code ∉ [301, 302, 303]) ∧
        last.request = { request with url := last.request.url } ∨
      (∃ hop ∈ hops, hop.answer.code ∈ [301, 302, 303]) ∧
        last.request = ⟨.get, last.request.url, request.headers, none⟩ := by
  induction leads with
  | stays exchanged final => exact .inl ⟨List.forall_mem_nil _, rfl⟩
  | @moves request next answer hops last state middle after exchanged moved web rest ih =>
    obtain ⟨_, ⟨plain, shape⟩ | ⟨repeats, shape⟩⟩ := redirected?_eq_some moved
    · -- a plain request stays one, whichever way it is redirected
      refine .inr ⟨⟨_, List.mem_cons_self, plain⟩, ?_⟩
      rw [shape] at ih
      rcases ih with ⟨_, same⟩ | ⟨_, same⟩
      · exact same
      · exact same
    · rw [shape] at ih
      rcases ih with ⟨clear, same⟩ | ⟨⟨hop, member, plain⟩, same⟩
      · exact .inl ⟨List.forall_mem_cons.mpr ⟨repeats, clear⟩, same⟩
      · exact .inr ⟨⟨hop, List.mem_cons_of_mem _ member, plain⟩, same⟩

private theorem follow_run_step :
    (follow timeout redirects request).run wire state = (some (.ok response), after) ↔
      ∃ answer middle, wire request state = (some (.answered answer), middle) ∧
        (redirected? request answer = none ∧ middle = after ∧ Client.response answer = response ∨
          ∃ next fewer, redirected? request answer = some next ∧ next.url.isWeb = true ∧
            redirects = fewer + 1 ∧
            (follow timeout fewer next).run wire middle = (some (.ok response), after)) := by
  rw [follow_eq]
  constructor
  · intro ran
    unfold Program.run at ran
    split at ran
    · rename_i exchange middle exchanged
      cases exchange with
      | answered answer =>
        refine ⟨answer, middle, exchanged, ?_⟩
        dsimp only at ran
        split at ran
        · rename_i final
          cases ran
          exact .inl ⟨final, rfl, rfl⟩
        · rename_i next fewer moved
          split at ran
          · rename_i web
            exact .inr ⟨next, fewer, moved, web, rfl, ran⟩
          · cases ran
        · cases ran
      | _ => cases ran
    · cases ran
  · rintro ⟨answer, middle, exchanged, follows⟩
    refine (@Program.run_step Wire _ _ wire request state middle (.answered answer) exchanged
      _).trans ?_
    rcases follows with ⟨final, rfl, rfl⟩ | ⟨next, fewer, moved, web, rfl, further⟩
    · simp only [final]
      rfl
    · simp only [moved, web]
      exact further

/-- A response is the answer that a request is led to over no more redirects than allowed. -/
theorem follow_run_eq_ok_iff :
    (follow timeout redirects request).run wire state = (some (.ok response), after) ↔
      ∃ hops last, Leads wire state request hops last after ∧ hops.length ≤ redirects ∧
        Client.response last.answer = response := by
  constructor
  · intro ran
    induction redirects using Nat.strongRecOn generalizing request state with
    | ind redirects ih =>
      obtain ⟨answer, middle, exchanged,
        ⟨final, rfl, same⟩ | ⟨next, fewer, moved, web, rfl, further⟩⟩ :=
        follow_run_step.mp ran
      · exact ⟨[], ⟨request, answer⟩, .stays exchanged final, Nat.zero_le _, same⟩
      · obtain ⟨hops, last, leads, bounded, same⟩ := ih fewer (Nat.lt_succ_self _) further
        exact ⟨⟨request, answer⟩ :: hops, last, .moves exchanged moved web leads,
          Nat.succ_le_succ bounded, same⟩
  · rintro ⟨hops, last, leads, bounded, same⟩
    induction leads generalizing redirects with
    | stays exchanged final =>
      exact follow_run_step.mpr ⟨_, _, exchanged, .inl ⟨final, rfl, same⟩⟩
    | moves exchanged moved web rest ih =>
      obtain ⟨fewer, rfl⟩ := Nat.exists_eq_add_one_of_ne_zero (Nat.ne_zero_of_lt bounded)
      exact follow_run_step.mpr
        ⟨_, _, exchanged, .inr ⟨_, fewer, moved, web, rfl, ih (Nat.le_of_succ_le_succ bounded) same⟩⟩

theorem deliver_run_eq_ok_iff {request : DeliveryRequest} :
    (deliver settings request).run wire state = (some (.ok response), after) ↔
      ∃ first hops last, prepare settings request = .ok first ∧
        Leads wire state first hops last after ∧ hops.length ≤ settings.maxRedirects ∧
          Client.response last.answer = response := by
  unfold deliver
  cases prepare settings request with
  | error error =>
    constructor
    · intro ran
      cases ran
    · rintro ⟨_, _, _, prepared, _⟩
      cases prepared
  | ok first =>
    simp only [follow_run_eq_ok_iff]
    constructor
    · rintro ⟨hops, last, led⟩
      exact ⟨first, hops, last, rfl, led⟩
    · rintro ⟨_, hops, last, ⟨⟩, led⟩
      exact ⟨hops, last, led⟩

/-- The request that is answered in the end brings the delivery exactly if no answer on the way asked for
a plain request; else nothing but the headers is left of it. -/
theorem Leads.carries_iff {request : DeliveryRequest} {first : WireRequest}
    (prepared : prepare settings request = .ok first)
    (leads : Leads wire state first hops last after) :
    (last.request.Carries request ↔ ∀ hop ∈ hops, hop.answer.code ∉ [301, 302, 303]) ∧
      (last.request.Carries request ∨ last.request.Bare request) := by
  obtain ⟨url, rfl⟩ := prepare_eq_ok prepared
  rcases leads.request_eq with ⟨clear, same⟩ | ⟨⟨hop, member, plain⟩, same⟩
  · have carries : last.request.Carries request := same ▸ ⟨rfl, rfl, rfl⟩
    exact ⟨iff_of_true carries clear, .inl carries⟩
  · have bare : last.request.Bare request := same ▸ ⟨rfl, rfl, rfl⟩
    exact ⟨iff_of_false bare.not_carries fun clear => clear hop member plain, .inr bare⟩

end Client

end HookRelay
