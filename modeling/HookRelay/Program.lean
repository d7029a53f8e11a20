/-!
Programs as data: what a program does to the world, and how it goes on from each reply. A world that
does not reply stops the program, which is how crashes and cut-off runs are told apart from results.
-/
namespace HookRelay

/-- The operations that programs may use, and what each of them replies. -/
structure Interface where
  Op : Type
  Reply : Op → Type

inductive Program (interface : Interface) (α : Type) where
  | done (value : α)
  | step (op : interface.Op) (next : interface.Reply op → Program interface α)

namespace Program

variable {interface : Interface} {α β σ : Type}

def bind (program : Program interface α) (next : α → Program interface β) : Program interface β :=
  match program with
  | .done value => next value
  | .step op rest => .step op fun reply => (rest reply).bind next

instance : Monad (Program interface) where
  pure := .done
  bind := bind

def perform (op : interface.Op) : Program interface (interface.Reply op) := .step op .done

/-- A world: the reply to an operation, if any, and the state that it leaves. -/
abbrev World (interface : Interface) (σ : Type) :=
  (op : interface.Op) → σ → Option (interface.Reply op) × σ

/-- Runs a program to its end, or to the operation that stops it. -/
def run (world : World interface σ) : Program interface α → σ → Option α × σ
  | .done value, state => (some value, state)
  | .step op next, state =>
    match world op state with
    | (some reply, state) => (next reply).run world state
    | (none, state) => (none, state)

theorem run_step {world : World interface σ} {op : interface.Op} {state after : σ}
    {reply : interface.Reply op} (answered : world op state = (some reply, after))
    (next : interface.Reply op → Program interface α) :
    (step op next).run world state = (next reply).run world after := by
  simp only [run, answered]

theorem run_stopped {world : World interface σ} {op : interface.Op} {state after : σ}
    (silent : world op state = (none, after)) (next : interface.Reply op → Program interface α) :
    (step op next).run world state = (none, after) := by
  simp only [run, silent]

/-- Two programs in a row run one after the other, unless the first is stopped. -/
theorem run_bind (world : World interface σ) (program : Program interface α)
    (next : α → Program interface β) (state : σ) :
    (program >>= next).run world state =
      match program.run world state with
      | (some value, state) => (next value).run world state
      | (none, state) => (none, state) := by
  show (program.bind next).run world state = _
  induction program generalizing state with
  | done value => rfl
  | step op rest ih =>
    simp only [bind, run]
    split
    · exact ih _ _
    · rfl

end Program

end HookRelay
