/-
**Runs of a system.**

A system takes calls one after the other. Each call gives the next state and an entry, and the
entries of a run make up its history.

* `System.history_concat`, `System.final_concat`: one more call adds one entry at the end.
* `System.invariant_of_allowed`: what holds of the empty history and the start, and is kept by every
  call of a kind, holds after every run of such calls.
* `System.invariant`: the same for all runs.
* `System.split_history`: an entry of a history was made by a call, in the state to which the calls
  before it led.
* `System.staged`: the same system with a history that keeps the states before and after each call.
-/

import Mathlib.Data.List.Induction

namespace Reputation

/-- A system that takes calls one after the other. -/
structure System (State Call Entry : Type) where
  start : State
  /-- The state after a call, and what the history keeps of the call. -/
  step : State → Call → State × Entry

namespace System

variable {State Call Entry : Type} (system : System State Call Entry)

/-- The state after some calls. -/
def finalFrom (state : State) : List Call → State
  | [] => state
  | call :: rest => finalFrom (system.step state call).1 rest

/-- The entries that some calls add. -/
def historyFrom (state : State) : List Call → List Entry
  | [] => []
  | call :: rest => (system.step state call).2 :: historyFrom (system.step state call).1 rest

/-- The state after a run. -/
def final (calls : List Call) : State := system.finalFrom system.start calls

/-- The history of a run. -/
def history (calls : List Call) : List Entry := system.historyFrom system.start calls

theorem finalFrom_append (state : State) (first second : List Call) :
    system.finalFrom state (first ++ second) =
      system.finalFrom (system.finalFrom state first) second := by
  induction first generalizing state with
  | nil => rfl
  | cons call rest ih => exact ih _

theorem historyFrom_append (state : State) (first second : List Call) :
    system.historyFrom state (first ++ second) =
      system.historyFrom state first ++
        system.historyFrom (system.finalFrom state first) second := by
  induction first generalizing state with
  | nil => rfl
  | cons call rest ih => exact congrArg _ (ih _)

theorem length_historyFrom (state : State) (calls : List Call) :
    (system.historyFrom state calls).length = calls.length := by
  induction calls generalizing state with
  | nil => rfl
  | cons call rest ih => exact congrArg Nat.succ (ih _)

@[simp] theorem final_concat (calls : List Call) (call : Call) :
    system.final (calls ++ [call]) = (system.step (system.final calls) call).1 :=
  system.finalFrom_append system.start calls [call]

@[simp] theorem history_concat (calls : List Call) (call : Call) :
    system.history (calls ++ [call]) =
      system.history calls ++ [(system.step (system.final calls) call).2] :=
  system.historyFrom_append system.start calls [call]

/-- **What every allowed call keeps holds after every run of allowed calls.** -/
theorem invariant_of_allowed (Allowed : Call → Prop) (Holds : List Entry → State → Prop)
    (opening : Holds [] system.start)
    (kept : ∀ history state call, Allowed call → Holds history state →
      Holds (history ++ [(system.step state call).2]) (system.step state call).1)
    (calls : List Call) (allowed : ∀ call ∈ calls, Allowed call) :
    Holds (system.history calls) (system.final calls) := by
  induction calls using List.reverseRecOn with
  | nil => exact opening
  | append_singleton calls call ih =>
    rw [history_concat, final_concat]
    have held := ih fun earlier before => allowed earlier (by simp [before])
    exact kept _ _ _ (allowed call (by simp)) held

/-- **What every call keeps holds after every run.** -/
theorem invariant (Holds : List Entry → State → Prop) (opening : Holds [] system.start)
    (kept : ∀ history state call, Holds history state →
      Holds (history ++ [(system.step state call).2]) (system.step state call).1)
    (calls : List Call) : Holds (system.history calls) (system.final calls) :=
  system.invariant_of_allowed (fun _ => True) Holds opening
    (fun _ _ _ _ holds => kept _ _ _ holds) calls fun _ _ => trivial

theorem split_historyFrom {state : State} {calls : List Call} {earlier later : List Entry}
    {entry : Entry} (split : system.historyFrom state calls = earlier ++ entry :: later) :
    ∃ before call after, calls = before ++ call :: after ∧
      earlier = system.historyFrom state before ∧
      entry = (system.step (system.finalFrom state before) call).2 := by
  induction calls generalizing state earlier with
  | nil => simp [historyFrom] at split
  | cons call rest ih =>
    cases earlier with
    | nil =>
      obtain ⟨here, -⟩ := List.cons.inj split
      exact ⟨[], call, rest, rfl, rfl, here.symm⟩
    | cons first earlier =>
      obtain ⟨here, further⟩ := List.cons.inj split
      obtain ⟨before, call', after, rfl, rfl, made⟩ := ih further
      exact ⟨call :: before, call', after, rfl, congrArg (· :: _) here.symm, made⟩

/-- **An entry was made by a call in the state to which the calls before it led.** -/
theorem split_history {calls : List Call} {earlier later : List Entry} {entry : Entry}
    (split : system.history calls = earlier ++ entry :: later) :
    ∃ before call after, calls = before ++ call :: after ∧ earlier = system.history before ∧
      entry = (system.step (system.final before) call).2 :=
  system.split_historyFrom split

end System

/-! ### Histories with states -/

/-- What is kept of a call together with the states around it. -/
structure Stage (State Entry : Type) where
  before : State
  entry : Entry
  after : State

namespace System

variable {State Call Entry : Type} (system : System State Call Entry)

/-- The same system, with the states before and after each call in the history. -/
def staged : System State Call (Stage State Entry) where
  start := system.start
  step state call := ((system.step state call).1, ⟨state, (system.step state call).2,
    (system.step state call).1⟩)

theorem final_staged (calls : List Call) : system.staged.final calls = system.final calls := by
  have same (state : State) :
      system.staged.finalFrom state calls = system.finalFrom state calls := by
    induction calls generalizing state with
    | nil => rfl
    | cons call rest ih => exact ih _
  exact same system.start

theorem map_entry_staged (calls : List Call) :
    (system.staged.history calls).map (·.entry) = system.history calls := by
  have same (state : State) : (system.staged.historyFrom state calls).map (·.entry) =
      system.historyFrom state calls := by
    induction calls generalizing state with
    | nil => rfl
    | cons call rest ih => exact congrArg _ (ih _)
  exact same system.start

end System

end Reputation
