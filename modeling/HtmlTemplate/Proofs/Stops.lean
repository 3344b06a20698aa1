import HtmlTemplate.Proofs.Run
namespace HtmlTemplate.Run

variable {α β : Type} {run : Run α} {within after : Failure → Prop}

-- What holds of the failure that a run ends in. A run with a result stops within
-- anything, so a run that stops within nothing has one.
def Stops (run : Run α) (within : Failure → Prop) : Prop :=
  ∀ failure, run.outcome = .error failure → within failure

theorem stops_pure {a : α} : (pure a).Stops within := by
  rintro failure ⟨⟩

theorem stops_record {entry : Entry} : (record entry).Stops within := by
  rintro failure ⟨⟩

theorem stops_fail {failure : Failure} (known : within failure) : (fail failure : Run α).Stops within := by
  rintro other ⟨⟩
  exact known

theorem stops_ofExcept {failure : ε → Failure} {check : Except ε α}
    (known : ∀ error, check = .error error → within (failure error)) : (ofExcept failure check).Stops within := by
  unfold ofExcept
  split
  · exact stops_pure
  · rename_i error
    exact stops_fail (known error rfl)

theorem Stops.mono (first : run.Stops within) (wider : ∀ failure, within failure → after failure) :
    run.Stops after :=
  fun failure stopped => wider failure (first failure stopped)

theorem Stops.bind {next : α → Run β} (first : run.Stops within)
    (second : ∀ a, run.outcome = .ok a → (next a).Stops within) : (run.bind next).Stops within := by
  intro failure stopped
  unfold Run.bind at stopped
  split at stopped
  · rename_i early failed
    cases stopped
    exact first _ failed
  · rename_i a returned
    exact second a returned failure stopped

theorem Stops.rescue {takes : Problem → Bool} {handle : Problem → Run α} (first : run.Stops within)
    (handled : ∀ problem, takes problem = true → (handle problem).Stops after)
    (passed : ∀ failure, within failure → (∀ problem, failure = .problem problem → takes problem = false) →
      after failure) : (rescue takes handle run).Stops after := by
  intro failure stopped
  unfold Run.rescue at stopped
  split at stopped
  · rename_i problem failed
    split at stopped
    · rename_i taken
      exact handled problem taken failure stopped
    · rename_i left
      cases failed.symm.trans stopped
      refine passed _ (first _ failed) fun other same => ?_
      cases same
      simpa using left
  · rename_i other
    exact passed failure (first failure stopped) fun problem same => absurd (same ▸ stopped) (other problem)

theorem stops_collect {f : α → Run (List β)} {as : List α} (each : ∀ a ∈ as, (f a).Stops within) :
    (collect f as).Stops within := by
  induction as with
  | nil => exact stops_pure
  | cons a as ih =>
    refine (each a List.mem_cons_self).bind fun _ _ => ?_
    exact (ih fun b member => each b (List.mem_cons_of_mem _ member)).bind fun _ _ => stops_pure

theorem collect_ne {f : α → Run (List β)} {failure : Failure} (each : ∀ a, (f a).outcome ≠ .error failure)
    (as : List α) : (collect f as).outcome ≠ .error failure := by
  intro failed
  have all : (collect f as).Stops fun other => other ≠ failure := by
    apply stops_collect
    rintro a _ _ stopped rfl
    exact each a stopped
  exact all failure failed rfl

theorem stops_each {f : α → Run Unit} {as : List α} (each : ∀ a ∈ as, (f a).Stops within) :
    (Run.each f as).Stops within := by
  induction as with
  | nil => exact stops_pure
  | cons a as ih =>
    exact (each a List.mem_cons_self).bind fun _ _ => ih fun b member => each b (List.mem_cons_of_mem _ member)

theorem stops_keep {f : α → Run Bool} {as : List α} (each : ∀ a ∈ as, (f a).Stops within) :
    (keep f as).Stops within := by
  induction as with
  | nil => exact stops_pure
  | cons a as ih =>
    refine (each a List.mem_cons_self).bind fun _ _ => ?_
    exact (ih fun b member => each b (List.mem_cons_of_mem _ member)).bind fun _ _ => stops_pure

end HtmlTemplate.Run
