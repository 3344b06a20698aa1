import HtmlTemplate.Proofs.Run
import HtmlTemplate.Render
import Mathlib.Data.List.Forall2
namespace HtmlTemplate

attribute [ext] Run

namespace Run

variable {α β γ δ : Type} {run : Run α}

theorem journal_subset_bind (next : α → Run β) : run.journal ⊆ (run.bind next).journal := by
  unfold Run.bind
  split
  · exact List.Subset.refl _
  · exact List.subset_append_left _ _

theorem journal_subset_rescue (takes : Problem → Bool) (handle : Problem → Run α) :
    run.journal ⊆ (Run.rescue takes handle run).journal := by
  unfold Run.rescue
  split
  · split
    · exact List.subset_append_left _ _
    · exact List.Subset.refl _
  · exact List.Subset.refl _

-- Two endings that agree: results of which `P` holds, or the same failure.
inductive Meets (P : α → α → Prop) : Except Failure α → Except Failure α → Prop where
  | ok {a b : α} : P a b → Meets P (.ok a) (.ok b)
  | error {failure : Failure} : Meets P (.error failure) (.error failure)

theorem meets_eq_iff {left right : Except Failure α} : Meets Eq left right ↔ left = right := by
  constructor
  · rintro (same | _)
    · rw [same]
    · rfl
  · rintro rfl
    cases left with
    | ok a => exact .ok rfl
    | error failure => exact .error

section Inversion

variable {P : α → α → Prop} {left right : Run α}

theorem Meets.bind_cases (first : Meets P left.outcome right.outcome) (next after : α → Run β) :
    (∃ a b, P a b ∧
      left.bind next = ⟨left.journal ++ (next a).journal, (next a).outcome⟩ ∧
      right.bind after = ⟨right.journal ++ (after b).journal, (after b).outcome⟩) ∨
    ∃ failure, left.bind next = ⟨left.journal, .error failure⟩ ∧
      right.bind after = ⟨right.journal, .error failure⟩ := by
  unfold Run.bind
  generalize left.outcome = l at first
  generalize right.outcome = r at first
  cases first with
  | ok related => exact .inl ⟨_, _, related, rfl, rfl⟩
  | error => exact .inr ⟨_, rfl, rfl⟩

theorem Meets.rescue_cases (first : Meets P left.outcome right.outcome) (takes : Problem → Bool)
    (handle other : Problem → Run α) :
    (∃ problem, takes problem = true ∧
      Run.rescue takes handle left = ⟨left.journal ++ (handle problem).journal, (handle problem).outcome⟩ ∧
      Run.rescue takes other right = ⟨right.journal ++ (other problem).journal, (other problem).outcome⟩) ∨
    Run.rescue takes handle left = left ∧ Run.rescue takes other right = right := by
  unfold Run.rescue
  generalize left.outcome = l at first
  generalize right.outcome = r at first
  cases first with
  | ok => exact .inr ⟨rfl, rfl⟩
  | @error failure =>
    cases failure with
    | problem problem =>
      cases taken : takes problem with
      | true => exact .inl ⟨problem, taken, by simp [taken]⟩
      | false => exact .inr (by simp [taken])
    | numeral _ | unwritten _ | nestedKey _ => exact .inr ⟨rfl, rfl⟩

end Inversion

-- A relation between runs with one clause for every way to build a run. `P` is what
-- it asks of the results. Of problems that do not end a run only warnings are
-- reported where two runs are built alike, outside the boundaries of nodes.
structure Comparison where
  Relates : {α : Type} → (α → α → Prop) → Run α → Run α → Prop
  pure : ∀ {α : Type} {P : α → α → Prop} {a b : α}, P a b → Relates P (Run.pure a) (Run.pure b)
  fail : ∀ {α : Type} {P : α → α → Prop} (failure : Failure), Relates P (Run.fail failure) (Run.fail failure)
  report : ∀ problem : Problem, problem.severity = .warning →
    Relates Eq (Run.report problem) (Run.report problem)
  bind : ∀ {α β : Type} {P : α → α → Prop} {Q : β → β → Prop} {left right : Run α} {next after : α → Run β},
    Relates P left right → (∀ a b, P a b → Relates Q (next a) (after b)) →
      Relates Q (left.bind next) (right.bind after)
  rescue : ∀ {α : Type} {P : α → α → Prop} {takes : Problem → Bool} {handle other : Problem → Run α}
    {left right : Run α}, Relates P left right →
      (∀ problem, takes problem = true → Relates P (handle problem) (other problem)) →
      Relates P (Run.rescue takes handle left) (Run.rescue takes other right)

namespace Comparison

-- Runs that write alike and end alike, unless the first one writes something from
-- which on nothing more is asked of the two.
def upTo (excuse : Entry → Prop) (alike : List Entry → List Entry → Prop) (nil : alike [] [])
    (warning : ∀ problem : Problem, problem.severity = .warning → alike [.report problem] [.report problem])
    (append : ∀ {ws xs ys zs}, alike ws xs → alike ys zs → alike (ws ++ ys) (xs ++ zs)) : Comparison where
  Relates P left right :=
    (∃ entry ∈ left.journal, excuse entry) ∨ alike left.journal right.journal ∧ Meets P left.outcome right.outcome
  pure related := .inr ⟨nil, .ok related⟩
  fail _ := .inr ⟨nil, .error⟩
  report problem known := .inr ⟨warning problem known, .ok rfl⟩
  bind := by
    rintro _ _ P Q left right next after (⟨entry, written, excused⟩ | ⟨journals, meets⟩) second
    · exact .inl ⟨entry, journal_subset_bind next written, excused⟩
    · obtain ⟨a, b, related, go, goes⟩ | ⟨failure, stop, stops⟩ := meets.bind_cases next after
      · rw [go, goes]
        obtain ⟨entry, written, excused⟩ | ⟨more, last⟩ := second a b related
        · exact .inl ⟨entry, List.mem_append_right _ written, excused⟩
        · exact .inr ⟨append journals more, last⟩
      · rw [stop, stops]
        exact .inr ⟨journals, .error⟩
  rescue := by
    rintro _ P takes handle other left right (⟨entry, written, excused⟩ | ⟨journals, meets⟩) handled
    · exact .inl ⟨entry, journal_subset_rescue takes handle written, excused⟩
    · obtain ⟨problem, taken, go, goes⟩ | ⟨stay, stays⟩ := meets.rescue_cases takes handle other
      · rw [go, goes]
        obtain ⟨entry, written, excused⟩ | ⟨more, last⟩ := handled problem taken
        · exact .inl ⟨entry, List.mem_append_right _ written, excused⟩
        · exact .inr ⟨append journals more, last⟩
      · rw [stay, stays]
        exact .inr ⟨journals, meets⟩

variable (c : Comparison) {P : α → α → Prop} {Q : β → β → Prop} {left right : Run α}

theorem bind_eq {next after : α → Run β} (first : c.Relates Eq left right)
    (second : ∀ a, c.Relates Q (next a) (after a)) : c.Relates Q (left.bind next) (right.bind after) := by
  apply c.bind first
  intro a b same
  cases same
  exact second a

theorem raise (problem : Problem) : c.Relates P (Run.raise problem) (Run.raise problem) := c.fail _

theorem raise_before (problem : Problem) {next after : α → Run β} :
    c.Relates Q ((Run.raise problem).bind next) ((Run.raise problem).bind after) := c.raise problem

theorem ofExcept (failure : ε → Failure) (check : Except ε α) :
    c.Relates Eq (Run.ofExcept failure check) (Run.ofExcept failure check) := by
  unfold Run.ofExcept
  cases check with
  | ok a => exact c.pure rfl
  | error error => exact c.fail _

theorem written (text : Except Unwritten α) : c.Relates Eq (Run.written text) (Run.written text) := c.ofExcept _ text

theorem report_before {problem : Problem} {next after : Unit → Run β} (warning : problem.severity = .warning)
    (second : c.Relates Q (next ()) (after ())) :
    c.Relates Q ((Run.report problem).bind next) ((Run.report problem).bind after) :=
  c.bind_eq (c.report problem warning) fun _ => second

theorem report_if {condition : Prop} [Decidable condition] {problem : Problem} {next after : Unit → Run β}
    (warning : problem.severity = .warning) (second : c.Relates Q (next ()) (after ())) :
    c.Relates Q (if condition then (Run.report problem).bind next else next ())
      (if condition then (Run.report problem).bind after else after ()) := by
  split
  · exact c.report_before warning second
  · exact second

theorem collect {f : γ → Run (List β)} {g : δ → Run (List β)} {R : List β → List β → Prop}
    {as : List γ} {bs : List δ} (none : R [] [])
    (both : ∀ {ws xs ys zs}, R ws xs → R ys zs → R (ws ++ ys) (xs ++ zs))
    (each : List.Forall₂ (fun a b => c.Relates R (f a) (g b)) as bs) :
    c.Relates R (Run.collect f as) (Run.collect g bs) := by
  induction each with
  | nil => exact c.pure none
  | cons first _ ih =>
    apply c.bind first
    intro ws xs front
    apply c.bind ih
    intro ys zs rest
    exact c.pure (both front rest)

theorem each {f : γ → Run Unit} {g : δ → Run Unit} {as : List γ} {bs : List δ}
    (each : List.Forall₂ (fun a b => c.Relates Eq (f a) (g b)) as bs) :
    c.Relates Eq (Run.each f as) (Run.each g bs) := by
  induction each with
  | nil => exact c.pure rfl
  | cons first _ ih => exact c.bind_eq first fun _ => ih

theorem keep {f g : γ → Run Bool} (each : ∀ a, c.Relates Eq (f a) (g a)) (as : List γ) :
    c.Relates Eq (Run.keep f as) (Run.keep g as) := by
  induction as with
  | nil => exact c.pure rfl
  | cons a as ih => exact c.bind_eq (each a) fun _ => c.bind_eq ih fun _ => c.pure rfl

-- Two scopes in which the same paths are looked up, and with them all scopes that
-- come from pushing the same data on both.
structure Tracks (first second : Option Path.Fallback) (near : Scope → Scope → Prop) : Prop where
  push : ∀ {scope other}, near scope other → ∀ v, near (scope.push v) (other.push v)
  resolve : ∀ {scope other}, near scope other → ∀ path,
    c.Relates Eq (Path.resolve first scope path) (Path.resolve second other path)

theorem tracks_same {first second : Option Path.Fallback}
    (resolve : ∀ scope path, c.Relates Eq (Path.resolve first scope path) (Path.resolve second scope path)) :
    c.Tracks first second Eq where
  push := by
    rintro scope _ rfl v
    rfl
  resolve := by
    rintro scope _ rfl path
    exact resolve scope path

end Comparison
end Run

open Run

variable [Stack] {c : Comparison} {first second : Option Path.Fallback} {near : Scope → Scope → Prop}
  {scope other : Scope}

section Text

theorem Marker.value_relates (tracks : c.Tracks first second near) (close : near scope other) (marker : Marker) :
    c.Relates Eq (marker.value first scope) (marker.value second other) := by
  cases marker with
  | path body => exact c.bind_eq (tracks.resolve close _) fun _ => c.ofExcept _ _
  | literal body => exact c.pure rfl

theorem Interpolation.fill_relates (tracks : c.Tracks first second near) (close : near scope other)
    (mode : Interpolation) (marked : List (Marker × List Char)) :
    c.Relates Eq (mode.fill first scope marked) (mode.fill second other marked) := by
  induction marked with
  | nil => exact c.pure rfl
  | cons m marked ih =>
    apply c.bind_eq (Marker.value_relates tracks close m.1)
    intro value
    exact c.bind_eq ih fun _ => c.pure rfl

theorem Interpolation.apply_relates (tracks : c.Tracks first second near) (close : near scope other)
    (mode : Interpolation) (s : String) :
    c.Relates Eq (mode.apply first scope s) (mode.apply second other s) :=
  c.bind_eq (fill_relates tracks close mode _) fun _ => c.pure rfl

end Text

section Condition

theorem Path.checked_relates (key : String) (path : Value) :
    c.Relates Eq (Path.checked key path) (Path.checked key path) := c.ofExcept _ _

def Condition.SameTest (descriptor other : Descriptor) : Prop :=
  ∀ key, key ≠ Vocabulary.thenKey → key ≠ Vocabulary.elseKey → Value.find? descriptor key = Value.find? other key

omit [Stack] in
theorem Condition.evaluate_eq {descriptor other : Descriptor}
    (operators : ∀ op : Operator, Value.find? descriptor op.key = Value.find? other op.key)
    (join : Value.find? descriptor Vocabulary.joinKey = Value.find? other Vocabulary.joinKey)
    (negation : Value.find? descriptor Vocabulary.notKey = Value.find? other Vocabulary.notKey) (v : Value) :
    evaluate v descriptor = evaluate v other := by
  have found : results v descriptor = results v other := by
    unfold results
    congr 1
    funext op
    rw [operators op]
  simp only [evaluate, found, join, negation]

omit [Stack] in
theorem Condition.evaluate_congr {descriptor other : Descriptor} (same : SameTest descriptor other) (v : Value) :
    evaluate v descriptor = evaluate v other := by
  have operators (op : Operator) : Value.find? descriptor op.key = Value.find? other op.key := by
    apply same <;> cases op <;> decide
  exact evaluate_eq operators (same _ (by decide) (by decide)) (same _ (by decide) (by decide)) v

theorem Condition.check_relates {descriptor changed : Descriptor} (tracks : c.Tracks first second near)
    (close : near scope other) (same : SameTest descriptor changed) :
    c.Relates Eq (Condition.check first scope descriptor) (Condition.check second other changed) := by
  unfold Condition.check
  rw [same Vocabulary.checkKey (by decide) (by decide)]
  cases Value.find? changed Vocabulary.checkKey with
  | none => exact c.raise _
  | some path =>
    apply c.bind_eq (Path.checked_relates _ path)
    intro s
    apply c.bind_eq (tracks.resolve close _)
    intro v
    exact c.pure (evaluate_congr same v)

theorem Condition.choose_relates (tracks : c.Tracks first second near) (close : near scope other)
    (descriptor : Descriptor) :
    c.Relates Eq (Condition.choose first scope descriptor) (Condition.choose second other descriptor) :=
  c.bind_eq (check_relates tracks close fun _ _ _ => rfl) fun _ => c.pure rfl

end Condition

section Style

variable {interpolate varied : String → Run String}

omit [Stack] in
theorem Style.finish_relates (name : String) (value : List Char) :
    c.Relates Eq (Style.finish name value) (Style.finish name value) := by
  unfold Style.finish
  apply c.report_if rfl
  dsimp only
  split
  · exact c.pure rfl
  · split
    · exact c.report_before rfl (c.pure rfl)
    · exact c.pure rfl

theorem Style.given?_relates (texts : ∀ s, c.Relates Eq (interpolate s) (varied s)) (raw : Value) :
    c.Relates Eq (Style.given? interpolate raw) (Style.given? varied raw) := by
  unfold Style.given?
  split
  · exact c.bind_eq (texts _) fun _ => c.pure rfl
  · split
    · exact c.bind_eq (c.ofExcept _ _) fun _ => c.pure rfl
    · exact c.pure rfl

theorem Style.declaration_relates (texts : ∀ s, c.Relates Eq (interpolate s) (varied s)) (key raw : Value) :
    c.Relates Eq (Style.declaration interpolate key raw) (Style.declaration varied key raw) := by
  unfold Style.declaration
  split
  · exact c.bind_eq (c.ofExcept _ _) fun _ => c.report_before rfl (c.pure rfl)
  · rename_i name _
    apply c.bind_eq (given?_relates texts raw)
    intro value?
    cases value? with
    | none => exact c.report_before rfl (c.pure rfl)
    | some value => exact c.bind_eq (finish_relates name _) fun _ => c.pure rfl

theorem Style.sanitize_relates (texts : ∀ s, c.Relates Eq (interpolate s) (varied s)) (style : Value) :
    c.Relates Eq (Style.sanitize interpolate style) (Style.sanitize varied style) := by
  unfold Style.sanitize
  cases style.entries? with
  | none => exact c.raise _
  | some entries =>
    have declarations : c.Relates Eq (Run.collect (fun e => Style.declaration interpolate e.1 e.2) entries)
        (Run.collect (fun e => Style.declaration varied e.1 e.2) entries) := by
      apply c.collect rfl (congrArg₂ _)
      exact List.forall₂_same.mpr fun e _ => declaration_relates texts e.1 e.2
    exact c.bind_eq declarations fun _ => c.pure rfl

end Style

namespace Render

variable {settings changed : Settings}

theorem plainText_relates (tracks : c.Tracks settings.fallback changed.fallback near) (close : near scope other)
    (value : Value) : c.Relates Eq (plainText settings scope value) (plainText changed other value) := by
  cases value with
  | text s => exact Interpolation.apply_relates tracks close _ s
  | _ => exact c.written _

theorem attributeText_relates (tracks : c.Tracks settings.fallback changed.fallback near)
    (close : near scope other) (name : String) (value : Value) :
    c.Relates Eq (attributeText settings scope name value) (attributeText changed other name value) := by
  unfold attributeText
  dsimp only
  cases Condition.conditional? value
  case' none => apply c.bind_eq (c.pure rfl)
  case' some descriptor => apply c.bind_eq (Condition.choose_relates tracks close descriptor)
  all_goals
    intro value
    split
    · apply c.bind_eq (Style.sanitize_relates (Interpolation.apply_relates tracks close _) value)
      intro text
      exact c.pure rfl
    · apply c.bind_eq (plainText_relates tracks close value)
      intro text
      split
      · exact c.bind_eq (c.ofExcept _ _) fun _ => c.pure rfl
      · exact c.pure rfl

theorem pair_relates (tracks : c.Tracks settings.fallback changed.fallback near) (close : near scope other)
    (tag : String) (key value : Value) :
    c.Relates Eq (pair settings tag scope key value) (pair changed tag other key value) := by
  apply c.rescue
  · apply c.bind_eq (c.ofExcept _ _)
    intro name
    exact c.bind_eq (attributeText_relates tracks close name value) fun _ => c.pure rfl
  · intro problem warning
    exact c.report_before (by simpa using warning) (c.pure rfl)

theorem attributes_relates (tracks : c.Tracks settings.fallback changed.fallback near) (close : near scope other)
    (tag : String) (entries : List (Value × Value)) :
    c.Relates Eq (attributes settings tag scope entries) (attributes changed tag other entries) := by
  apply c.collect rfl (congrArg₂ _)
  exact List.forall₂_same.mpr fun e _ => pair_relates tracks close tag e.1 e.2

theorem filtered_relates (tracks : c.Tracks settings.fallback changed.fallback near) (close : near scope other)
    (filter : Option Value) (items : List Value) :
    c.Relates Eq (filtered settings scope filter items) (filtered changed other filter items) := by
  unfold filtered
  cases filter with
  | none => exact c.pure rfl
  | some condition =>
    dsimp only
    cases Condition.conditional? condition with
    | none => exact c.raise _
    | some descriptor =>
      exact c.keep (fun item => Condition.check_relates tracks (tracks.push close item) fun _ _ _ => rfl) items

end Render
end HtmlTemplate
