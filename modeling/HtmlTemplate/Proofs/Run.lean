import HtmlTemplate.Journal
namespace HtmlTemplate.Run

variable {α β : Type} {run : Run α} {held holds : α → Prop} {after : β → Prop}

theorem pure_bind (a : α) (next : α → Run β) : (pure a).bind next = next a := rfl

theorem bind_pure (run : Run α) : run.bind pure = run := by
  obtain ⟨journal, ended⟩ := run
  cases ended with
  | error failure => rfl
  | ok a => exact congrArg (fun journal => (⟨journal, .ok a⟩ : Run α)) (List.append_nil journal)

theorem bind_assoc {γ : Type} (run : Run α) (next : α → Run β) (last : β → Run γ) :
    (run.bind next).bind last = run.bind fun a => (next a).bind last := by
  obtain ⟨journal, ended⟩ := run
  cases ended with
  | error failure => rfl
  | ok a =>
    simp only [Run.bind]
    cases (next a).outcome with
    | error failure => rfl
    | ok b => simp only [List.append_assoc]

instance : LawfulMonad Run := LawfulMonad.mk' Run bind_pure pure_bind bind_assoc

-- What holds of every result of a run. A run without result ensures everything,
-- so this says nothing about whether there is one.
def Ensures (run : Run α) (holds : α → Prop) : Prop := ∀ a, run.outcome = .ok a → holds a

theorem ensures_pure {a : α} (known : holds a) : (pure a).Ensures holds := by
  rintro b ⟨⟩
  exact known

theorem ensures_fail {failure : Failure} : (fail failure).Ensures holds := by
  rintro a ⟨⟩

theorem ensures_ofExcept (failure : ε → Failure) (check : Except ε α) :
    (ofExcept failure check).Ensures fun a => check = .ok a := by
  unfold ofExcept
  split
  · exact ensures_pure rfl
  · exact ensures_fail

theorem Ensures.mono (first : run.Ensures held) (weaker : ∀ a, held a → holds a) : run.Ensures holds :=
  fun a returned => weaker a (first a returned)

theorem Ensures.bind {next : α → Run β} (first : run.Ensures held)
    (second : ∀ a, held a → (next a).Ensures after) : (run.bind next).Ensures after := by
  intro b returned
  unfold Run.bind at returned
  split at returned
  · cases returned
  · rename_i a got
    exact second a (first a got) b returned

theorem ensures_bind {next : α → Run β} (second : ∀ a, (next a).Ensures after) :
    (run.bind next).Ensures after :=
  Ensures.bind (fun _ _ => trivial : run.Ensures fun _ => True) fun a _ => second a

theorem ensures_raise {problem : Problem} {next : α → Run β} : ((raise problem).bind next).Ensures after := by
  rintro b ⟨⟩

theorem Ensures.rescue {takes : Problem → Bool} {handle : Problem → Run α} (first : run.Ensures holds)
    (handled : ∀ problem, (handle problem).Ensures holds) : (rescue takes handle run).Ensures holds := by
  intro a returned
  unfold Run.rescue at returned
  split at returned
  · rename_i problem failed
    split at returned
    · exact handled problem a returned
    · exact first a returned
  · exact first a returned

theorem collect_cons (f : α → Run (List β)) (a : α) (as : List α) :
    collect f (a :: as) = (do
      let first ← f a
      let rest ← collect f as
      return first ++ rest) := rfl

-- A relation between a list and the pieces put together, one element at a time.
theorem ensures_collect_along {f : α → Run (List β)} {as : List α} {holds : List α → List β → Prop}
    (none : holds [] []) (more : ∀ a as xs ys, holds [a] xs → holds as ys → holds (a :: as) (xs ++ ys))
    (each : ∀ a ∈ as, (f a).Ensures (holds [a])) : (collect f as).Ensures (holds as) := by
  induction as with
  | nil => exact ensures_pure none
  | cons a as ih =>
    refine (each a List.mem_cons_self).bind fun xs first => ?_
    refine (ih fun b member => each b (List.mem_cons_of_mem _ member)).bind fun ys rest => ?_
    exact ensures_pure (more a as xs ys first rest)

theorem ensures_collect {f : α → Run (List β)} {as : List α} {holds : List β → Prop} (none : holds [])
    (both : ∀ xs ys, holds xs → holds ys → holds (xs ++ ys)) (each : ∀ a ∈ as, (f a).Ensures holds) :
    (collect f as).Ensures holds := by
  have along := @ensures_collect_along α β f as fun _ => holds
  exact along none (fun _ _ => both) each

theorem ensures_keep {f : α → Run Bool} {as : List α} : (keep f as).Ensures (·.Sublist as) := by
  induction as with
  | nil => exact ensures_pure (List.Sublist.refl [])
  | cons a as ih =>
    refine ensures_bind fun kept => ih.bind fun rest part => ?_
    cases kept with
    | true => exact ensures_pure (part.cons_cons a)
    | false => exact ensures_pure (part.cons a)

theorem bind_congr {next other : α → Run β} (same : ∀ a, run.outcome = .ok a → next a = other a) :
    run.bind next = run.bind other := by
  unfold Run.bind
  split
  · rfl
  · rename_i a returned
    rw [same a returned]

theorem outcome_bind (run : Run α) (next : α → Run β) :
    (run.bind next).outcome = run.outcome.bind fun a => (next a).outcome := by
  unfold Run.bind
  split <;> rename_i ended <;> rw [ended] <;> rfl

theorem outcome_bind_of_ok {a : α} (returned : run.outcome = .ok a) (next : α → Run β) :
    (run.bind next).outcome = (next a).outcome := by
  rw [outcome_bind, returned]
  rfl

theorem outcome_bind_pure (run : Run α) (f : α → β) :
    (run.bind fun a => pure (f a)).outcome = run.outcome.map f := by
  unfold Run.bind
  split <;> rename_i ended <;> rw [ended] <;> rfl

theorem outcome_report_if {condition : Prop} [Decidable condition] {problem : Problem} {next : Unit → Run β} :
    (if condition then (report problem).bind next else next ()).outcome = (next ()).outcome := by
  split <;> rfl

theorem outcome_of_toOption {a : α} (returned : run.outcome.toOption = some a) : run.outcome = .ok a := by
  cases ended : run.outcome with
  | error failure => simp [ended, Except.toOption] at returned
  | ok b => simpa [ended, Except.toOption] using returned

end HtmlTemplate.Run
