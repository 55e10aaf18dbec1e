/-
**Calls that keep to their own key.**

In a system whose calls have keys, a call may see and change no more than what belongs to its key.
What the calls of one key come to is then told by these calls alone, and the order in which calls of
different keys follow each other is of no account.

* `Interleaves`: two lists of calls have the same calls of each key, in the same order.
* `Isolated.alone`: the calls of a key go in a run as they would go by themselves.
* `Isolated.transcript_eq`, `Isolated.view_eq`: interleaved runs agree call by call, and at every
  key in the end.
* `Interleaves.perm`: interleaved lists are permutations of each other.
-/

import Mathlib.Data.List.Basic
import Reputation.Proofs.Run

namespace Reputation

variable {State Call Other Entry Key View : Type}

/-! ### Interleavings -/

section Interleavings

variable [DecidableEq Key] {key : Call → Key}

/-- The calls of each key are the same, in the same order. -/
def Interleaves (key : Call → Key) (first second : List Call) : Prop :=
  ∀ which, first.filter (key · = which) = second.filter (key · = which)

variable {first second third : List Call}

theorem Interleaves.cons (same : Interleaves key first second) (call : Call) :
    Interleaves key (call :: first) (call :: second) := by
  intro which
  rw [List.filter_cons, List.filter_cons, same which]

/-- **Neighbours of different keys may change places.** -/
theorem Interleaves.swap {one other : Call} (apart : key one ≠ key other) (rest : List Call) :
    Interleaves key (one :: other :: rest) (other :: one :: rest) := by
  intro which
  by_cases here : key one = which
  · have elsewhere : key other ≠ which := fun same => apart (here.trans same.symm)
    simp [here, elsewhere]
  · simp [List.filter_cons, here]

/-- Interleaved lists stay interleaved under other names. -/
theorem Interleaves.map {one two : List Other} (name : Other → Call)
    (same : Interleaves (fun call => key (name call)) one two) :
    Interleaves key (one.map name) (two.map name) := by
  intro which
  rw [List.filter_map, List.filter_map]
  exact congrArg (List.map name) (same which)

theorem Interleaves.trans (one : Interleaves key first second)
    (two : Interleaves key second third) : Interleaves key first third :=
  fun which => (one which).trans (two which)

/-- **Interleaved lists are permutations of each other.** Each item is found as often in the one as
in the other, since it is found there among the items of its key. -/
theorem Interleaves.perm (same : Interleaves key first second) : first.Perm second := by
  classical
  rw [List.perm_iff_count]
  intro call
  have own : decide (key call = key call) = true := decide_eq_true rfl
  calc first.count call = (first.filter (key · = key call)).count call :=
        (List.count_filter (p := (key · = key call)) own).symm
    _ = (second.filter (key · = key call)).count call := by rw [same (key call)]
    _ = second.count call := List.count_filter (p := (key · = key call)) own

end Interleavings

/-! ### Isolated systems -/

namespace System

/-- The calls of a run, each with the entry that it adds. -/
def transcriptFrom (system : System State Call Entry) (state : State) :
    List Call → List (Call × Entry)
  | [] => []
  | call :: rest =>
    (call, (system.step state call).2) :: system.transcriptFrom (system.step state call).1 rest

theorem map_snd_transcriptFrom (system : System State Call Entry) (state : State)
    (calls : List Call) :
    (system.transcriptFrom state calls).map Prod.snd = system.historyFrom state calls := by
  induction calls generalizing state with
  | nil => rfl
  | cons call rest ih => exact congrArg _ (ih _)

/-- The same system under other names for its calls. -/
def renamed (system : System State Call Entry) (name : Other → Call) :
    System State Other Entry where
  start := system.start
  step state call := system.step state (name call)

/-- A call sees and changes only what belongs to its key. -/
structure Isolated (system : System State Call Entry) (key : Call → Key)
    (view : State → Key → View) : Prop where
  /-- The call changes nothing that belongs to another key. -/
  elsewhere : ∀ state call other, key call ≠ other →
    view (system.step state call).1 other = view state other
  /-- The entry depends on what belongs to the key, and so does what becomes of it. -/
  here : ∀ first second call, view first (key call) = view second (key call) →
    (system.step first call).2 = (system.step second call).2 ∧
      view (system.step first call).1 (key call) = view (system.step second call).1 (key call)

variable {system : System State Call Entry} {key : Call → Key} {view : State → Key → View}

theorem Isolated.renamed (isolated : system.Isolated key view) (name : Other → Call) :
    (system.renamed name).Isolated (fun call => key (name call)) view where
  elsewhere state call := isolated.elsewhere state (name call)
  here first second call := isolated.here first second (name call)

variable [DecidableEq Key]

/-- **The calls of a key go as they would go by themselves.** In a run, they add the entries and
come to the end that they would if there were no other calls, from any state that is the same at
the key. -/
theorem Isolated.alone (isolated : system.Isolated key view) {which : Key} {state other : State}
    (same : view state which = view other which) (calls : List Call) :
    (system.transcriptFrom state calls).filter (key ·.1 = which) =
        system.transcriptFrom other (calls.filter (key · = which)) ∧
      view (system.finalFrom state calls) which =
        view (system.finalFrom other (calls.filter (key · = which))) which := by
  induction calls generalizing state other with
  | nil => exact ⟨rfl, same⟩
  | cons call rest ih =>
    by_cases own : key call = which
    · subst own
      obtain ⟨entry, after⟩ := isolated.here state other call same
      obtain ⟨transcript, final⟩ := ih after
      have kept : (call :: rest).filter (key · = key call) =
          call :: rest.filter (key · = key call) := List.filter_cons_of_pos (by simp)
      rw [kept]
      refine ⟨?_, final⟩
      rw [transcriptFrom, transcriptFrom, List.filter_cons_of_pos (by simp), transcript, entry]
    · have passed : (call :: rest).filter (key · = which) = rest.filter (key · = which) :=
        List.filter_cons_of_neg (by simpa using own)
      rw [passed]
      obtain ⟨transcript, final⟩ := ih ((isolated.elsewhere state call which own).trans same)
      refine ⟨?_, final⟩
      rw [transcriptFrom, List.filter_cons_of_neg (by simpa using own), transcript]

variable {first second : List Call}

/-- **Interleaved runs agree call by call.** -/
theorem Isolated.transcript_eq (isolated : system.Isolated key view) (state : State)
    (same : Interleaves key first second) :
    Interleaves (key ·.1) (system.transcriptFrom state first)
      (system.transcriptFrom state second) := by
  intro which
  rw [(isolated.alone rfl first).1, (isolated.alone rfl second).1, same which]

/-- **Interleaved runs come to the same end at every key.** -/
theorem Isolated.view_eq (isolated : system.Isolated key view) (state : State)
    (same : Interleaves key first second) (which : Key) :
    view (system.finalFrom state first) which = view (system.finalFrom state second) which := by
  rw [(isolated.alone rfl first).2, (isolated.alone rfl second).2, same which]

end System

end Reputation
