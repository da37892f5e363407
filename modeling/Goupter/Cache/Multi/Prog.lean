import Goupter.Cache.Interface

/-!
# Programs of calls on cache levels

The multi-level cache holds no data of its own: each of its methods is a sequence of
`Cache` calls on its levels, each call chosen from the replies of the earlier ones. A
`Prog` is such a sequence, with the reply of a call passed to the rest of the program.

A `World` says how the levels answer: their joint state and the effect of one call on
one level at an instant. Running a program in a world gives the final state, the
result, and the trace of the calls made with their replies. Levels that share state,
levels of any implementation and levels that fail at will are all worlds, so a theorem
over every world holds for every list of levels.
-/

namespace Goupter.Cache

/-- A program of calls on numbered levels, with result type `β`. -/
inductive Prog (α β : Type) where
  | done (result : β)
  | call (level : Nat) (op : Op α) (next : op.Reply → Prog α β)

namespace Prog

variable {α β γ : Type}

/-- Sequencing: run `p`, then the program its result chooses. -/
def bind : Prog α β → (β → Prog α γ) → Prog α γ
  | done result, f => f result
  | call level op next, f => call level op fun reply => (next reply).bind f

instance : Monad (Prog α) where
  pure := done
  bind := bind

/-- One call, whose reply is the result. -/
def callLevel (level : Nat) (op : Op α) : Prog α op.Reply := call level op done

end Prog

/-- A call made by a program, with the reply it got. -/
structure Entry (α : Type) where
  level : Nat
  op : Op α
  reply : op.Reply

/-- How levels answer calls: the joint state of the levels, and the new state and the
reply of one call on one level at an instant. -/
structure World (α σ : Type) where
  perform : Int → Nat → (op : Op α) → σ → σ × op.Reply

namespace Prog

variable {α β γ σ : Type}

/-- Running a program at an instant: the final state, the result and the trace. -/
def run (w : World α σ) (now : Int) : Prog α β → σ → σ × β × List (Entry α)
  | done result, s => (s, result, [])
  | call level op next, s =>
    let step := w.perform now level op s
    let rest := run w now (next step.2) step.1
    (rest.1, rest.2.1, ⟨level, op, step.2⟩ :: rest.2.2)

@[simp] theorem run_done (w : World α σ) (now : Int) (result : β) (s : σ) :
    run w now (done result) s = (s, result, []) := rfl

@[simp] theorem run_pure (w : World α σ) (now : Int) (result : β) (s : σ) :
    run w now (pure result : Prog α β) s = (s, result, []) := rfl

@[simp] theorem run_call (w : World α σ) (now : Int) (level : Nat) (op : Op α)
    (next : op.Reply → Prog α β) (s : σ) :
    run w now (call level op next) s =
      ((run w now (next (w.perform now level op s).2) (w.perform now level op s).1).1,
        (run w now (next (w.perform now level op s).2) (w.perform now level op s).1).2.1,
        ⟨level, op, (w.perform now level op s).2⟩ ::
          (run w now (next (w.perform now level op s).2) (w.perform now level op s).1).2.2) := rfl

/-- Running `p >>= f` runs `p`, then `f` of its result from where `p` left the levels. -/
@[simp] theorem run_bind (w : World α σ) (now : Int) (p : Prog α β) (f : β → Prog α γ) (s : σ) :
    run w now (p >>= f) s =
      ((run w now (f (run w now p s).2.1) (run w now p s).1).1,
        (run w now (f (run w now p s).2.1) (run w now p s).1).2.1,
        (run w now p s).2.2 ++ (run w now (f (run w now p s).2.1) (run w now p s).1).2.2) := by
  induction p generalizing s with
  | done result => rfl
  | call level op next ih =>
    show run w now (call level op fun reply => next reply >>= f) s = _
    simp only [run_call, ih, List.cons_append]

@[simp] theorem run_callLevel (w : World α σ) (now : Int) (level : Nat) (op : Op α) (s : σ) :
    run w now (callLevel level op) s =
      ((w.perform now level op s).1, (w.perform now level op s).2,
        [⟨level, op, (w.perform now level op s).2⟩]) := rfl

/-- The state a trace leads to: the effects of its calls, in order. -/
def after (w : World α σ) (now : Int) (s : σ) (trace : List (Entry α)) : σ :=
  trace.foldl (fun s e => (w.perform now e.level e.op s).1) s

theorem after_cons (w : World α σ) (now : Int) (s : σ) (e : Entry α) (trace : List (Entry α)) :
    after w now s (e :: trace) = after w now (w.perform now e.level e.op s).1 trace := rfl

theorem after_append (w : World α σ) (now : Int) (s : σ) (first rest : List (Entry α)) :
    after w now s (first ++ rest) = after w now (after w now s first) rest :=
  List.foldl_append _ _ _ _

/-- A trace the world produced from `s`: every reply is the world's answer in the state
the calls before it left. -/
def Consistent (w : World α σ) (now : Int) : σ → List (Entry α) → Prop
  | _, [] => True
  | s, e :: trace =>
    e.reply = (w.perform now e.level e.op s).2 ∧ Consistent w now (w.perform now e.level e.op s).1 trace

/-- A run ends in the state its trace leads to. -/
theorem run_state (w : World α σ) (now : Int) (p : Prog α β) (s : σ) :
    (run w now p s).1 = after w now s (run w now p s).2.2 := by
  induction p generalizing s with
  | done result => rfl
  | call level op next ih => exact ih _ _

/-- The trace of a run is one the world produced. -/
theorem run_consistent (w : World α σ) (now : Int) (p : Prog α β) (s : σ) :
    Consistent w now s (run w now p s).2.2 := by
  induction p generalizing s with
  | done result => trivial
  | call level op next ih => exact ⟨rfl, ih _ _⟩

theorem consistent_append {w : World α σ} {now : Int} {s : σ} {first rest : List (Entry α)} :
    Consistent w now s (first ++ rest) ↔
      Consistent w now s first ∧ Consistent w now (after w now s first) rest := by
  induction first generalizing s with
  | nil => simp [Consistent, after]
  | cons e first ih => simp [Consistent, after, ih, and_assoc]


end Prog

end Goupter.Cache
