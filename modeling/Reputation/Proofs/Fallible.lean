/-
**Steps that can fail.**

A chain of steps succeeds if each of its steps does: `bind_eq_ok` takes the first step off a chain,
`check_bind_eq_ok` a step that only checks, `pure_eq_ok` ends the chain, and `mapError_eq_ok` looks
behind a translated failure. A chain fails with the failure of one of its steps: `bind_eq_error`.

* `Alike`, `Alike.bind`, `Alike.common`: two chains side by side, which fail alike or succeed with
  related results.
* `finRange_mapM_eq_ok`: one step for each index of a vector, which succeed together with the
  results at the indices.
* `finRange_mapM_eq_error`: they fail with the failure of one of them.
-/

namespace Reputation

variable {Failure Other α β : Type}

theorem bind_eq_ok {first : Except Failure α} {rest : α → Except Failure β} {result : β} :
    (first >>= rest) = .ok result ↔ ∃ value, first = .ok value ∧ rest value = .ok result := by
  cases first <;> simp [bind, Except.bind]

theorem check_bind_eq_ok {check : Except Failure Unit} {rest : Except Failure β} {result : β} :
    (check >>= fun _ => rest) = .ok result ↔ check = .ok () ∧ rest = .ok result := by
  cases check <;> simp [bind, Except.bind]

theorem pure_eq_ok {value result : α} :
    (pure value : Except Failure α) = .ok result ↔ value = result := by
  simp [pure, Except.pure]

theorem mapError_eq_ok {attempt : Except Failure α} {translate : Failure → Other} {result : α} :
    attempt.mapError translate = .ok result ↔ attempt = .ok result := by
  cases attempt with
  | error failure => constructor <;> rintro ⟨⟩
  | ok value => constructor <;> rintro ⟨⟩ <;> rfl

theorem map_eq_ok {attempt : Except Failure α} {translate : α → β} {result : β} :
    translate <$> attempt = .ok result ↔
      ∃ value, attempt = .ok value ∧ translate value = result := by
  cases attempt <;> simp [Functor.map, Except.map]

theorem bind_eq_error {first : Except Failure α} {rest : α → Except Failure β} {failure : Failure} :
    (first >>= rest) = .error failure ↔
      first = .error failure ∨ ∃ value, first = .ok value ∧ rest value = .error failure := by
  cases first <;> simp [bind, Except.bind]

/-! ### Two attempts side by side -/

/-- Two attempts fail with the same failure or succeed with related results. -/
inductive Alike {One Two : Type} (Related : One → Two → Prop) :
    Except Failure One → Except Failure Two → Prop
  | error (failure : Failure) : Alike Related (.error failure) (.error failure)
  | ok {one : One} {two : Two} (related : Related one two) : Alike Related (.ok one) (.ok two)

section Alike

variable {One Two Three Four : Type} {Related : One → Two → Prop} {Further : Three → Four → Prop}

theorem alike_refl (attempt : Except Failure α) : Alike Eq attempt attempt := by
  cases attempt with
  | error failure => exact .error failure
  | ok value => exact .ok rfl

/-- **Attempts that are alike stay so when they go on alike.** -/
theorem Alike.bind {attempt : Except Failure One} {other : Except Failure Two}
    {rest : One → Except Failure Three} {restToo : Two → Except Failure Four}
    (alike : Alike Related attempt other)
    (further : ∀ one two, Related one two → Alike Further (rest one) (restToo two)) :
    Alike Further (attempt >>= rest) (other >>= restToo) := by
  cases alike with
  | error failure => exact .error failure
  | ok related => exact further _ _ related

/-- Attempts that show the same as a third one show the same as each other. -/
theorem Alike.common {Shown : Type} {shown : One → Shown} {attempt other third : Except Failure One}
    (first : Alike (fun one two => shown one = shown two) attempt third)
    (second : Alike (fun one two => shown one = shown two) other third) :
    Alike (fun one two => shown one = shown two) attempt other := by
  cases first with
  | error failure =>
    cases second
    exact .error failure
  | ok same =>
    cases second with
    | ok sameToo => exact .ok (same.trans sameToo.symm)

end Alike

/-! ### One step for each item -/

theorem mapM_eq_ok {step : α → Except Failure β} {items : List α} {results : List β} :
    items.mapM step = .ok results ↔ items.map step = results.map .ok := by
  induction items generalizing results with
  | nil =>
    rw [List.mapM_nil, pure_eq_ok]
    cases results <;> simp
  | cons item rest ih =>
    simp only [List.mapM_cons, bind_eq_ok, pure_eq_ok, ih, List.map_cons]
    cases results with
    | nil => simp
    | cons result others =>
      simp only [List.map_cons, List.cons.injEq]
      constructor
      · rintro ⟨_, first, _, further, rfl, rfl⟩
        exact ⟨first, further⟩
      · rintro ⟨first, further⟩
        exact ⟨result, first, others, further, rfl, rfl⟩

theorem mapM_eq_error {step : α → Except Failure β} {items : List α} {failure : Failure}
    (failed : items.mapM step = .error failure) : ∃ item ∈ items, step item = .error failure := by
  induction items with
  | nil => cases failed
  | cons item rest ih =>
    rw [List.mapM_cons] at failed
    cases first : step item with
    | error other =>
      rw [first] at failed
      cases failed
      exact ⟨item, List.mem_cons_self, first⟩
    | ok result =>
      rw [first] at failed
      cases further : rest.mapM step with
      | error other =>
        change (rest.mapM step >>= _) = _ at failed
        rw [further] at failed
        cases failed
        obtain ⟨culprit, among, fails⟩ := ih further
        exact ⟨culprit, List.mem_cons_of_mem _ among, fails⟩
      | ok results =>
        change (rest.mapM step >>= _) = _ at failed
        rw [further] at failed
        cases failed

theorem map_toList_mapM {size : Nat} (step : α → Except Failure β) (items : Vector α size) :
    (items.mapM step).map Vector.toList = items.toList.mapM step := by
  have arrays : Vector.toArray <$> items.mapM step = items.toArray.mapM step := Vector.toArray_mapM
  have lists : Array.toList <$> items.toArray.mapM step = items.toList.mapM step :=
    Array.toList_mapM
  rw [← lists, ← arrays]
  cases items.mapM step <;> rfl

theorem finRange_mapM_eq_ok {size : Nat} {step : Fin size → Except Failure β}
    {results : Vector β size} :
    (Vector.finRange size).mapM step = .ok results ↔
      ∀ index, step index = .ok (results.get index) := by
  have lists := map_toList_mapM step (Vector.finRange size)
  have same : (Vector.finRange size).mapM step = .ok results ↔
      (Vector.finRange size).toList.mapM step = .ok results.toList := by
    rw [← lists]
    cases (Vector.finRange size).mapM step with
    | error failure => constructor <;> rintro ⟨⟩
    | ok found => simp [Except.map, Vector.toList_inj]
  rw [same, mapM_eq_ok]
  constructor
  · intro equal index
    have here := congrArg (·[index.val]?) equal
    show step index = .ok results[index.val]
    simpa using here
  · intro each
    apply List.ext_getElem (by simp)
    intro place inside outside
    have bound : place < size := by simpa using inside
    have here : step ⟨place, bound⟩ = .ok results[place] := each ⟨place, bound⟩
    simpa using here

theorem finRange_mapM_eq_error {size : Nat} {step : Fin size → Except Failure β}
    {failure : Failure} (failed : (Vector.finRange size).mapM step = .error failure) :
    ∃ index, step index = .error failure := by
  have lists := map_toList_mapM step (Vector.finRange size)
  rw [failed] at lists
  obtain ⟨index, -, fails⟩ := mapM_eq_error lists.symm
  exact ⟨index, fails⟩

end Reputation
