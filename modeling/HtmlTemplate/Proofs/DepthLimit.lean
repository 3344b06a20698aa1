import HtmlTemplate.Proofs.Boundary
namespace HtmlTemplate

namespace Run

variable {α β : Type} {run : Run α}

-- An end that no boundary of a node stops.
def Breaks (outcome : Except Failure α) : Prop :=
  ∃ failure, outcome = .error failure ∧ ∀ problem, failure ≠ .problem problem

theorem Breaks.bind (breaks : Breaks run.outcome) (next : α → Run β) : Breaks (run.bind next).outcome := by
  obtain ⟨failure, ended, passed⟩ := breaks
  refine ⟨failure, ?_, passed⟩
  unfold Run.bind
  rw [ended]

theorem Breaks.rescue (breaks : Breaks run.outcome) (takes : Problem → Bool) (handle : Problem → Run α) :
    Breaks (Run.rescue takes handle run).outcome := by
  obtain ⟨failure, ended, passed⟩ := breaks
  refine ⟨failure, ?_, passed⟩
  unfold Run.rescue
  split
  · rename_i problem failed
    cases ended.symm.trans failed
    exact absurd rfl (passed problem)
  · exact ended

def unbroken : Run.Comparison where
  Relates P left right := Breaks left.outcome ∨ Breaks right.outcome ∨ Meets P left.outcome right.outcome
  pure related := .inr (.inr (.ok related))
  fail _ := .inr (.inr .error)
  report _ _ := .inr (.inr (.ok rfl))
  bind := by
    rintro _ _ P Q left right next after (breaks | breaks | meets) second
    · exact .inl (breaks.bind next)
    · exact .inr (.inl (breaks.bind after))
    · obtain ⟨a, b, related, go, goes⟩ | ⟨failure, stop, stops⟩ := meets.bind_cases next after
      · rw [go, goes]
        exact second a b related
      · rw [stop, stops]
        exact .inr (.inr .error)
  rescue := by
    rintro _ P takes handle other left right (breaks | breaks | meets) handled
    · exact .inl (breaks.rescue takes handle)
    · exact .inr (.inl (breaks.rescue takes other))
    · obtain ⟨problem, taken, go, goes⟩ | ⟨stay, stays⟩ := meets.rescue_cases takes handle other
      · rw [go, goes]
        exact handled problem taken
      · rw [stay, stays]
        exact .inr (.inr meets)

def unlimited : Run.Comparison :=
  .upTo (fun entry => ∃ problem, entry = .report problem ∧ problem.kind = .depth) Eq rfl (fun _ _ => rfl) (congrArg₂ _)

theorem unlimited_refl : unlimited.Relates Eq run run := .inr ⟨rfl, meets_eq_iff.mpr rfl⟩

end Run

namespace Render

variable {settings : Settings} {limit : Int}

def Settings.withLimit (settings : Settings) (limit : Int) : Settings := { settings with maxDepth := limit }

theorem budget_le (wider : settings.maxDepth ≤ limit) : budget settings ≤ budget (settings.withLimit limit) := by
  unfold budget Settings.withLimit
  dsimp only
  omega

theorem node_breaks_or_returns [Stack] (settings : Settings) (budget : Nat) (spot : Spot) (v : Value) :
    Run.Breaks (node settings budget spot v).outcome ∨
      ∃ events, (node settings budget spot v).outcome = .ok events := by
  cases ended : (node settings budget spot v).outcome with
  | ok events => exact .inr ⟨events, rfl⟩
  | error failure =>
    refine .inl ⟨failure, rfl, ?_⟩
    rintro problem rfl
    exact node_ne settings budget spot v problem ended

theorem sublist_wrap (element : String × List (String × String)) {events more : List Event}
    (within : events.Sublist more) : (Event.wrap element events).Sublist (Event.wrap element more) := by
  unfold Event.wrap Event.shift
  exact ((within.map _).cons_cons _).append_right _

theorem sublist_wrapped {events more : List Event} (within : events.Sublist more) :
    (wrapped settings events).Sublist (wrapped settings more) := by
  unfold wrapped
  dsimp only
  split
  case' isTrue => apply sublist_wrap
  all_goals
    split
    · exact sublist_wrap _ (sublist_wrap _ within)
    · exact within

theorem thinned_tracks (settings : Settings) (limit : Int) :
    Run.unbroken.Tracks settings.fallback (settings.withLimit limit).fallback Eq :=
  Run.unbroken.tracks_same fun _ _ => .inr (.inr (Run.meets_eq_iff.mpr rfl))

def thinned (settings : Settings) (limit : Int) : Parallel Run.unbroken where
  left := settings
  right := settings.withLimit limit
  near := Eq
  alike := List.Sublist
  tracks := thinned_tracks settings limit
  place := id
  inward := inward_id
  nil := .slnil
  single := alike_placed_id List.Sublist.refl
  append := .append

theorem unpruned_tracks (settings : Settings) (limit : Int) :
    Run.unlimited.Tracks settings.fallback (settings.withLimit limit).fallback Eq :=
  Run.unlimited.tracks_same fun _ _ => Run.unlimited_refl

def unpruned (settings : Settings) (limit : Int) : Parallel Run.unlimited :=
  .beside settings (settings.withLimit limit) (unpruned_tracks settings limit)

theorem node_thinned [Stack] (settings : Settings) (limit : Int) (budget spare : Nat) (spot : Spot) (v : Value) :
    Run.unbroken.Relates List.Sublist (node settings budget spot v)
      (node (settings.withLimit limit) (budget + spare) spot v) := by
  apply (thinned settings limit).node_relates
  · intro depth problem
    exact .inr (.inr (.ok .slnil))
  · rintro scope _ rfl depth inComment v
    obtain breaks | ⟨events, returned⟩ :=
      node_breaks_or_returns (settings.withLimit limit) spare ⟨scope, depth, inComment⟩ v
    · exact .inr (.inl breaks)
    · refine .inr (.inr ?_)
      have pruned : (node settings 0 ⟨scope, depth, inComment⟩ v).outcome = .ok [] := rfl
      change Run.Meets List.Sublist (node settings 0 ⟨scope, depth, inComment⟩ v).outcome
        (node (settings.withLimit limit) spare ⟨scope, depth, inComment⟩ v).outcome
      rw [returned, pruned]
      exact .ok (List.nil_sublist events)
  · rfl

theorem node_unpruned [Stack] (settings : Settings) (limit : Int) (budget spare : Nat) (spot : Spot) (v : Value) :
    Run.unlimited.Relates Eq (node settings budget spot v)
      (node (settings.withLimit limit) (budget + spare) spot v) := by
  apply (unpruned settings limit).node_relates
  · intro depth problem
    exact Run.unlimited_refl
  · rintro scope _ rfl depth inComment v
    exact .inl ⟨_, List.mem_cons_self, _, rfl, rfl⟩
  · rfl

-- A wider depth limit only adds events, as long as both renders return. And where
-- the narrower one is never met, the two renders are the same in all that they
-- return, report and ask.
theorem document_of_wider [Stack] (settings : Settings) {limit : Int} (wider : settings.maxDepth ≤ limit)
    (template data : Value) :
    (∀ events more, (document settings template data).outcome = .ok events →
      (document (settings.withLimit limit) template data).outcome = .ok more → events.Sublist more) ∧
    ((∀ problem, .report problem ∈ (document settings template data).journal → problem.kind ≠ .depth) →
      document settings template data = document (settings.withLimit limit) template data) := by
  obtain ⟨spare, levels⟩ := Nat.exists_eq_add_of_le (budget_le wider)
  constructor
  · intro events more returned returned'
    have whole := (thinned settings limit).document_relates (fun _ _ => sublist_wrapped)
      (rfl : template.isMapping = template.isMapping) rfl
      (fun data => levels ▸ node_thinned settings limit _ spare _ template) data
    obtain ⟨_, ended, _⟩ | ⟨_, ended, _⟩ | meets := whole
    · cases returned.symm.trans ended
    · cases returned'.symm.trans ended
    · change Run.Meets List.Sublist (document settings template data).outcome
        (document (settings.withLimit limit) template data).outcome at meets
      rw [returned, returned'] at meets
      cases meets with
      | ok within => exact within
  · intro unmet
    have whole := (unpruned settings limit).document_relates (by rintro _ _ rfl; rfl)
      (rfl : template.isMapping = template.isMapping) rfl
      (fun data => levels ▸ node_unpruned settings limit _ spare _ template) data
    obtain ⟨_, written, problem, rfl, kind⟩ | ⟨written, meets⟩ := whole
    · exact absurd kind (unmet problem written)
    · exact Run.ext written (Run.meets_eq_iff.mp meets)

def nested : Value := .mapping 1 [(.text "div", .sequence .list 2 [.text "a", .mapping 3 [(.text "p", .text "b")]])]

def nestedEvents (inner : List Event) : List Event :=
  [.openTag 0 "div" [] false, .text 1 "a", .openTag 1 "p" [] false] ++ inner ++ [.closeTag 1 "p", .closeTag 0 "div"]

theorem nested_wider :
    (document (Settings.withLimit {} 1) nested .null).outcome = .ok (nestedEvents []) ∧
    (document (Settings.withLimit {} 2) nested .null).outcome = .ok (nestedEvents [.text 2 "b"]) ∧
    (nestedEvents []).Sublist (nestedEvents [.text 2 "b"]) ∧
    (∀ problem, .report problem ∈ (document (Settings.withLimit {} 2) nested .null).journal →
      problem.kind ≠ .depth) ∧
    document (Settings.withLimit {} 2) nested .null = document (Settings.withLimit {} 7) nested .null := by
  have pruned : (document (Settings.withLimit {} 1) nested .null).outcome = .ok (nestedEvents []) := rfl
  have full : (document (Settings.withLimit {} 2) nested .null).outcome = .ok (nestedEvents [.text 2 "b"]) := rfl
  have unmet : ∀ problem, .report problem ∈ (document (Settings.withLimit {} 2) nested .null).journal →
      problem.kind ≠ .depth := by
    intro problem reported
    cases reported
  obtain ⟨adds, _⟩ := document_of_wider (Settings.withLimit {} 1) (show (1 : Int) ≤ 2 by decide) nested .null
  obtain ⟨_, same⟩ := document_of_wider (Settings.withLimit {} 2) (show (2 : Int) ≤ 7 by decide) nested .null
  exact ⟨pruned, full, adds _ _ pruned full, unmet, same unmet⟩

end Render
end HtmlTemplate
