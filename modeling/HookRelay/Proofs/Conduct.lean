import HookRelay.Program

/-!
Programs in a world where an operation may turn out in several ways, where things may change between
two operations, and where a program may be broken off before any of them. `Heeds` says what a
program does there at every step; `Runs` are its runs, to the end or to where they are broken off,
and `ComesTo` is how far a run has come, with what is left of the program.
-/
namespace HookRelay

/-- What may happen around a program: changes between its operations, and turns that these take. -/
structure Surroundings (interface : Interface) (σ : Type) where
  drift : σ → σ → Prop
  turn : (op : interface.Op) → σ → interface.Reply op → σ → Prop
  breaksOff : Prop
  drift_refl : ∀ state, drift state state
  drift_trans : ∀ first second third, drift first second → drift second third → drift first third

variable {interface : Interface} {α β σ : Type} {around : Surroundings interface σ}

namespace Program

/-- The runs of a program; one without a result was broken off. -/
inductive Runs (around : Surroundings interface σ) :
    Program interface α → σ → Option α → σ → Prop where
  | done {value : α} {state : σ} : Runs around (.done value) state (some value) state
  | brokenOff {op : interface.Op} {next : interface.Reply op → Program interface α} {state : σ}
      (allowed : around.breaksOff) : Runs around (.step op next) state none state
  | step {op : interface.Op} {next : interface.Reply op → Program interface α}
      {state met after last : σ} {reply : interface.Reply op} {result : Option α}
      (drift : around.drift state met) (turn : around.turn op met reply after)
      (rest : Runs around (next reply) after result last) :
      Runs around (.step op next) state result last

/-- One operation of a run: what state it met, how it was answered and what state it left. -/
structure Moment (interface : Interface) (σ : Type) where
  op : interface.Op
  met : σ
  reply : interface.Reply op
  after : σ

/-- The runs of a program to its end, each with its operations in turn. -/
inductive Traced (around : Surroundings interface σ) :
    Program interface α → σ → List (Moment interface σ) → α → σ → Prop where
  | done {value : α} {state : σ} : Traced around (.done value) state [] value state
  | step {op : interface.Op} {next : interface.Reply op → Program interface α}
      {state met after last : σ} {reply : interface.Reply op} {trace : List (Moment interface σ)}
      {value : α} (drift : around.drift state met) (turn : around.turn op met reply after)
      (rest : Traced around (next reply) after trace value last) :
      Traced around (.step op next) state (⟨op, met, reply, after⟩ :: trace) value last

/-- How far a run of a program may have come, with what is left to do of it. -/
inductive ComesTo (around : Surroundings interface σ) :
    Program interface α → σ → Program interface α → σ → Prop where
  | start {program : Program interface α} {state : σ} : ComesTo around program state program state
  | step {op : interface.Op} {next : interface.Reply op → Program interface α}
      {left : Program interface α} {state met after last : σ} {reply : interface.Reply op}
      (drift : around.drift state met) (turn : around.turn op met reply after)
      (rest : ComesTo around (next reply) after left last) :
      ComesTo around (.step op next) state left last

/-- Whether a program that has come so far is over: it has a result, or is stopped at an operation. -/
def Over (around : Surroundings interface σ) (stops : interface.Op → σ → Prop) :
    Program interface α → σ → Prop
  | .done _, _ => True
  | .step op _, state => ∃ met, around.drift state met ∧ stops op met

/-- However it goes, a goal is reached before the program is over. -/
def Attains (around : Surroundings interface σ) (stops : interface.Op → σ → Prop)
    (goal : σ → Prop) : Program interface α → σ → Prop
  | .done _, state => goal state
  | .step op next, state => goal state ∨ ∀ met, around.drift state met → ¬stops op met ∧
      ∀ reply after, around.turn op met reply after → Attains around stops goal (next reply) after

/-- Whatever happens, each operation is met by its guard, and the result by what is promised. -/
def Heeds (around : Surroundings interface σ) (guard : interface.Op → σ → Prop)
    (post : α → σ → Prop) : Program interface α → σ → Prop
  | .done value, state => post value state
  | .step op next, state => ∀ met, around.drift state met → guard op met ∧
      ∀ reply after, around.turn op met reply after → Heeds around guard post (next reply) after

variable {guard stronger : interface.Op → σ → Prop} {state after : σ}

theorem heeds_bind {post : β → σ → Prop} (program : Program interface α)
    (next : α → Program interface β) :
    (program >>= next).Heeds around guard post state ↔
      program.Heeds around guard (fun value => (next value).Heeds around guard post) state := by
  show (program.bind next).Heeds around guard post state ↔ _
  induction program generalizing state with
  | done value => exact Iff.rfl
  | step op rest ih => simp only [bind, Heeds, ih]

theorem Heeds.mono {post weaker : α → σ → Prop} {program : Program interface α}
    (heeds : program.Heeds around stronger post state)
    (guards : ∀ op state, stronger op state → guard op state)
    (posts : ∀ value state, post value state → weaker value state) :
    program.Heeds around guard weaker state := by
  induction program generalizing state with
  | done value => exact posts value state heeds
  | step op rest ih =>
    intro met drift
    obtain ⟨guarded, turns⟩ := heeds met drift
    exact ⟨guards op met guarded, fun reply after turn => ih reply (turns reply after turn)⟩

/-- A change from outside does not matter when it does not matter to the result. -/
theorem Heeds.drift {post : α → σ → Prop} {program : Program interface α}
    (heeds : program.Heeds around guard post state)
    (stable : ∀ value state after, around.drift state after → post value state → post value after)
    (drift : around.drift state after) : program.Heeds around guard post after := by
  cases program with
  | done value => exact stable value state after drift heeds
  | step op rest => exact fun met later => heeds met (around.drift_trans _ _ _ drift later)

/-- An invariant that neither changes from outside nor guarded operations break holds throughout. -/
theorem Heeds.keep {post : α → σ → Prop} {program : Program interface α} {invariant : σ → Prop}
    (heeds : program.Heeds around guard post state) (start : invariant state)
    (drifts : ∀ state after, around.drift state after → invariant state → invariant after)
    (turns : ∀ op state reply after, guard op state → around.turn op state reply after →
      invariant state → invariant after) :
    program.Heeds around (fun op state => guard op state ∧ invariant state)
      (fun value state => post value state ∧ invariant state) state := by
  induction program generalizing state with
  | done value => exact ⟨heeds, start⟩
  | step op rest ih =>
    intro met drift
    obtain ⟨guarded, follows⟩ := heeds met drift
    have kept := drifts state met drift start
    refine ⟨⟨guarded, kept⟩, fun reply after turn => ?_⟩
    exact ih reply (follows reply after turn) (turns op met reply after guarded turn kept)

/-- Where a run has led: as promised with its result, or before an operation that is guarded. -/
def Ends (guard : interface.Op → σ → Prop) (post : α → σ → Prop) : Option α → σ → Prop
  | some value, state => post value state
  | none, state => ∃ op, guard op state

theorem Runs.heeded {post : α → σ → Prop} {program : Program interface α} {result : Option α}
    (run : program.Runs around state result after)
    (heeds : program.Heeds around guard post state) : Ends guard post result after := by
  induction run with
  | done => exact heeds
  | brokenOff allowed => exact ⟨_, (heeds _ (around.drift_refl _)).1⟩
  | step drift turn rest ih => exact ih ((heeds _ drift).2 _ _ turn)

theorem Runs.allowed {program : Program interface α} {result : Option α}
    (run : program.Runs around state result after) (stopped : result = none) :
    around.breaksOff := by
  induction run with
  | done => cases stopped
  | brokenOff allowed => exact allowed
  | step drift turn rest ih => exact ih stopped

theorem ComesTo.heeded {post : α → σ → Prop} {program left : Program interface α}
    (comes : program.ComesTo around state left after)
    (heeds : program.Heeds around guard post state) : left.Heeds around guard post after := by
  induction comes with
  | start => exact heeds
  | step drift turn rest ih => exact ih ((heeds _ drift).2 _ _ turn)

theorem Traced.comesTo {program : Program interface α} {trace : List (Moment interface σ)}
    {value : α} (run : program.Traced around state trace value after) :
    program.ComesTo around state (.done value) after := by
  induction run with
  | done => exact .start
  | step drift turn rest ih => exact .step drift turn ih

/-- An invariant that is kept all along holds wherever a program has come. -/
theorem ComesTo.keeps {post : α → σ → Prop} {program left : Program interface α}
    {invariant : σ → Prop} (comes : program.ComesTo around state left after)
    (heeds : program.Heeds around guard post state) (start : invariant state)
    (drifts : ∀ state after, around.drift state after → invariant state → invariant after)
    (turns : ∀ op state reply after, guard op state → around.turn op state reply after →
      invariant state → invariant after) : invariant after := by
  have kept := comes.heeded (heeds.keep start drifts turns)
  cases left with
  | done value => exact kept.2
  | step op next => exact (kept after (around.drift_refl after)).1.2

theorem Attains.of_goal {program : Program interface α} {stops : interface.Op → σ → Prop}
    {goal : σ → Prop} (reached : goal state) : program.Attains around stops goal state := by
  cases program with
  | done value => exact reached
  | step op next => exact Or.inl reached

/-- A goal that is attained, and kept by what is guarded, holds once the program is over. -/
theorem Attains.of_over {post : α → σ → Prop} {program left : Program interface α}
    {stops : interface.Op → σ → Prop} {goal : σ → Prop}
    (attains : program.Attains around stops goal state)
    (heeds : program.Heeds around guard post state)
    (drifts : ∀ state after, around.drift state after → goal state → goal after)
    (turns : ∀ op state reply after, guard op state → around.turn op state reply after →
      goal state → goal after)
    (comes : program.ComesTo around state left after) (finished : left.Over around stops after) :
    goal after := by
  induction comes with
  | @start program state =>
    cases program with
    | done value => exact attains
    | step op next =>
      rcases attains with reached | follows
      · exact reached
      · obtain ⟨met, drift, stopped⟩ := finished
        exact absurd stopped (follows met drift).1
  | @step _ _ _ _ met _ _ _ drift turn rest ih =>
    obtain ⟨guarded, goesOn⟩ := heeds met drift
    rcases attains with reached | follows
    · have arrived := turns _ _ _ _ guarded turn (drifts _ _ drift reached)
      exact rest.keeps (goesOn _ _ turn) arrived drifts turns
    · exact ih ((follows met drift).2 _ _ turn) (goesOn _ _ turn) finished

theorem traced_bind {program : Program interface α} {next : α → Program interface β}
    {trace : List (Moment interface σ)} {value : β}
    (run : (program >>= next).Traced around state trace value after) :
    ∃ first later between middle, trace = first ++ later ∧
      program.Traced around state first between middle ∧
        (next between).Traced around middle later value after := by
  change (program.bind next).Traced around state trace value after at run
  induction program generalizing state trace with
  | done between => exact ⟨[], trace, between, state, rfl, .done, run⟩
  | step op rest ih =>
    cases run with
    | step drift turn run =>
      obtain ⟨first, later, between, middle, rfl, ran, goesOn⟩ := ih _ run
      exact ⟨_, later, between, middle, rfl, .step drift turn ran, goesOn⟩

/-- A run in a world that gives only such replies as the surroundings may give; where it gives none,
the program has to be one that may be broken off. -/
theorem runs_of_run {world : World interface σ} {program : Program interface α}
    {result : Option α}
    (turns : ∀ op state reply after, world op state = (some reply, after) →
      around.turn op state reply after)
    (stops : ∀ op state after, world op state = (none, after) → after = state)
    (allowed : result = none → around.breaksOff) (ran : program.run world state = (result, after)) :
    program.Runs around state result after := by
  induction program generalizing state with
  | done value =>
    cases ran
    exact .done
  | step op next ih =>
    simp only [run] at ran
    split at ran
    · rename_i reply middle answered
      exact .step (around.drift_refl state) (turns op state reply middle answered) (ih reply ran)
    · rename_i middle silent
      cases ran
      cases stops op state _ silent
      exact .brokenOff (allowed rfl)

/-- A run in a world where all that happens between operations may, and all replies may be given. -/
theorem traced_of_run {world : World interface σ} {program : Program interface α} {value : α}
    (turns : ∀ op state reply after, world op state = (some reply, after) →
      ∃ met, around.drift state met ∧ around.turn op met reply after)
    (ran : program.run world state = (some value, after)) :
    ∃ trace, program.Traced around state trace value after := by
  induction program generalizing state with
  | done other =>
    cases ran
    exact ⟨[], .done⟩
  | step op next ih =>
    simp only [run] at ran
    split at ran
    · rename_i reply middle answered
      obtain ⟨met, drift, turn⟩ := turns op state reply middle answered
      obtain ⟨trace, rest⟩ := ih reply ran
      exact ⟨_, .step drift turn rest⟩
    · cases ran

end Program

end HookRelay
