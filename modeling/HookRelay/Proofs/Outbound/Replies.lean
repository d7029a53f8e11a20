import HookRelay.Effect

/-!
Runs as trails. What a program comes to in a world is told in two parts: the effects it performs for the
replies it gets, which no world has a say in, and the replies that a world gives to these effects.
-/
namespace HookRelay

/-- An effect and the reply to it. -/
structure Answered where
  effect : Effect
  reply : effect.Reply

namespace Answered

def loaded (id : Uuid) (record : DeliveryRecord) : Answered :=
  ⟨.store (.findDelivery id), (.ok (some record) : Except StoreError (Option DeliveryRecord))⟩

def subscribed (id : Uuid) (subscription : Subscription) : Answered :=
  ⟨.store (.findSubscription id),
    (.ok (some subscription) : Except StoreError (Option Subscription))⟩

def told (now : Instant) : Answered := ⟨.now, now⟩

def saved (record : DeliveryRecord) : Answered :=
  ⟨.store (.saveDelivery record), (.ok () : Except StoreError Unit)⟩

end Answered

variable {σ α : Type} {world : Program.World Relay σ} {state after : σ} {trail : List Answered}

/-- What a program comes to when its effects are answered so. -/
def Program.Yields : Program Relay α → List Answered → α → Prop
  | .done value, [], result => value = result
  | .step effect next, answered :: rest, result =>
    ∃ reply, answered = ⟨effect, reply⟩ ∧ (next reply).Yields rest result
  | _, _, _ => False

/-- A world gives these replies to effects in turn. -/
inductive Replies (world : Program.World Relay σ) : σ → List Answered → σ → Prop where
  | nil {state : σ} : Replies world state [] state
  | cons {effect : Effect} {reply : effect.Reply} {rest : List Answered} {state middle after : σ}
      (replied : world effect state = (some reply, middle)) (further : Replies world middle rest after) :
      Replies world state (⟨effect, reply⟩ :: rest) after

theorem yields_done {value result : α} :
    (.done value : Program Relay α).Yields trail result ↔ trail = [] ∧ value = result := by
  cases trail with
  | nil => simp [Program.Yields]
  | cons answered rest => simp [Program.Yields]

theorem yields_step {effect : Effect} {next : effect.Reply → Program Relay α} {result : α} :
    (.step effect next : Program Relay α).Yields trail result ↔
      ∃ reply rest, trail = ⟨effect, reply⟩ :: rest ∧ (next reply).Yields rest result := by
  cases trail with
  | nil => simp [Program.Yields]
  | cons answered rest =>
    constructor
    · rintro ⟨reply, rfl, yields⟩
      exact ⟨reply, rest, rfl, yields⟩
    · rintro ⟨reply, _, ⟨⟩, yields⟩
      exact ⟨reply, rfl, yields⟩

/-- A run that comes to a result is a trail that the world replies. -/
theorem run_eq_some_iff {program : Program Relay α} {result : α} :
    program.run world state = (some result, after) ↔
      ∃ trail, program.Yields trail result ∧ Replies world state trail after := by
  constructor
  · intro ran
    induction program generalizing state with
    | done value =>
      cases ran
      exact ⟨[], rfl, .nil⟩
    | step effect next ih =>
      unfold Program.run at ran
      split at ran
      · rename_i reply middle replied
        obtain ⟨rest, yields, replies⟩ := ih reply ran
        exact ⟨⟨effect, reply⟩ :: rest, ⟨reply, rfl, yields⟩, .cons replied replies⟩
      · cases ran
  · rintro ⟨trail, yields, replies⟩
    induction replies generalizing program with
    | nil =>
      cases program with
      | done value => exact congrArg (fun value => (some value, _)) yields
      | step effect next => exact yields.elim
    | @cons effect reply _ _ _ _ replied further ih =>
      cases program with
      | done value => exact yields.elim
      | step op next =>
        obtain ⟨_, ⟨⟩, yields⟩ := yields
        exact (@Program.run_step Relay _ _ world effect _ _ reply replied next).trans (ih yields)

theorem replies_append {first second : List Answered} :
    Replies world state (first ++ second) after ↔
      ∃ middle, Replies world state first middle ∧ Replies world middle second after := by
  constructor
  · intro replies
    induction first generalizing state with
    | nil => exact ⟨state, .nil, replies⟩
    | cons answered rest ih =>
      cases replies with
      | cons replied further =>
        obtain ⟨middle, early, late⟩ := ih further
        exact ⟨middle, .cons replied early, late⟩
  · rintro ⟨middle, early, late⟩
    induction early with
    | nil => exact late
    | cons replied further ih => exact .cons replied (ih late)

end HookRelay
