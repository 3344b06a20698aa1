import HtmlTemplate.Diagnostics
import HtmlTemplate.Proofs.Parallel
import HtmlTemplate.Proofs.Returns
namespace HtmlTemplate

def Entry.lost? : Entry → Option Problem
  | .dropped _ problem => some problem
  | _ => none

-- What a render writes down. A fatal problem stands there once, and the node that
-- was dropped for it right behind it; everything else reported is a warning.
inductive Account : List Entry → Prop where
  | nil : Account []
  | warning : problem.severity = .warning → Account journal → Account (.report problem :: journal)
  | asked : Account journal → Account (.asked path scope :: journal)
  | dropped : problem.severity = .fatal → Account journal →
      Account (.report problem :: .dropped depth problem :: journal)

variable {journal : List Entry}

namespace Account

theorem append {rest : List Entry} (first : Account journal) (second : Account rest) : Account (journal ++ rest) := by
  induction first with
  | nil => exact second
  | warning known _ ih => exact .warning known ih
  | asked _ ih => exact .asked ih
  | dropped known _ ih => exact .dropped known ih

theorem errors_eq (account : Account journal) : Diagnostics.errors journal = journal.filterMap Entry.lost? := by
  unfold Diagnostics.errors Diagnostics.problems
  induction account with
  | nil => rfl
  | warning known _ ih => simpa [List.filterMap_cons, Entry.problem?, Entry.lost?, known] using ih
  | asked _ ih => simpa [List.filterMap_cons, Entry.problem?, Entry.lost?] using ih
  | dropped known _ ih => simpa [List.filterMap_cons, Entry.problem?, Entry.lost?, known] using ih

end Account

theorem Logger.line?_report (logger : Logger) (problem : Problem) :
    logger.line? (.report problem) = some (logger.call problem) := by
  cases logger <;> cases severity : problem.severity <;>
    simp [line?, call, channel?, takesWarnings, severity]

theorem Account.lines_eq (account : Account journal) (logger : Logger) :
    logger.lines journal = (Diagnostics.problems journal).map logger.call := by
  unfold Logger.lines Diagnostics.problems
  induction account with
  | nil => rfl
  | warning _ _ ih => simpa [List.filterMap_cons, Entry.problem?, Logger.line?_report] using ih
  | asked _ ih => simpa [List.filterMap_cons, Entry.problem?, Logger.line?] using ih
  | dropped _ _ ih =>
    have unheard (depth : Int) (problem : Problem) : logger.line? (.dropped depth problem) = none := rfl
    simpa [List.filterMap_cons, Entry.problem?, Logger.line?_report, unheard] using ih

namespace Collector

theorem through_eq (logger : Logger) (collector : Collector) (journal : List Entry) :
    collector.through logger journal =
      ⟨collector.errors ++ Diagnostics.errors journal, collector.warnings ++ Diagnostics.warnings journal,
        collector.calls ++ logger.lines journal⟩ := by
  unfold Diagnostics.errors Diagnostics.warnings Diagnostics.problems Logger.lines
  induction journal generalizing collector with
  | nil => simp [through]
  | cons entry journal ih =>
    have next : collector.through logger (entry :: journal) = (collector.take logger entry).through logger journal :=
      rfl
    rw [next, ih]
    cases entry with
    | report problem =>
      cases severity : problem.severity <;>
        simp [take, report, severity, Entry.problem?, Logger.line?_report]
    | note message =>
      cases line : logger.line? (.note message) <;> simp [List.filterMap_cons, take, line, Entry.problem?]
    | dropped depth problem => simp [List.filterMap_cons, take, Logger.line?, Entry.problem?]
    | asked path scope => simp [List.filterMap_cons, take, Logger.line?, Entry.problem?]

theorem through_lost (logger : Logger) (collector : Collector) (journal : List Entry) (problem : Problem)
    (depth : Int) :
    collector.through logger (journal ++ [.report problem, .dropped depth problem]) =
      (collector.through logger journal).report logger problem := by
  simp [through, take, Logger.line?]

end Collector

def Run.accounted : Run.Comparison :=
  .upTo (fun _ => False) (fun journal _ => Account journal) .nil (fun _ known => .warning known .nil) .append

theorem Run.accounted_self {α : Type} {run : Run α} : Run.accounted.Relates Eq run run ↔ Account run.journal := by
  constructor
  · rintro (⟨_, _, ⟨⟩⟩ | ⟨account, _⟩)
    exact account
  · intro account
    exact .inr ⟨account, meets_eq_iff.mpr rfl⟩

namespace Render

variable {settings : Settings} {spot : Spot} {v : Value} {problem : Problem}

-- What is inside the boundary of a node: it is entered, or it lies too deep.
def attempt [Stack] (settings : Settings) : (budget : Nat) → Renderer
  | 0, _, _ => Run.raise (.tooDeep (String.ofList (Chars.signed settings.maxDepth)))
  | budget + 1, spot, template => step settings (node settings budget) spot template

theorem node_eq_isolate [Stack] (settings : Settings) (budget : Nat) (spot : Spot) (v : Value) :
    node settings budget spot v = isolate spot.depth (attempt settings budget spot v) := by
  cases budget <;> rfl

theorem isolate_of_problem {run : Run (List Event)} {depth : Int} (failed : run.outcome = .error (.problem problem)) :
    isolate depth run = ⟨run.journal ++ [.report problem, .dropped depth problem], .ok []⟩ := by
  unfold isolate Run.rescue
  rw [failed]
  rfl

theorem isolate_of_rest {run : Run (List Event)} {depth : Int}
    (passed : ∀ problem, run.outcome ≠ .error (.problem problem)) : isolate depth run = run := by
  unfold isolate Run.rescue
  split
  · rename_i problem failed
    exact absurd failed (passed problem)
  · rfl

-- What the boundary of a node makes of an ending: a problem costs all events.
def settled : Except Failure (List Event) → Except Failure (List Event)
  | .error (.problem _) => .ok []
  | ending => ending

theorem outcome_isolate (depth : Int) (run : Run (List Event)) : (isolate depth run).outcome = settled run.outcome := by
  unfold isolate Run.rescue
  split
  · rename_i problem failed
    rw [failed]
    rfl
  · rename_i passed
    unfold settled
    split
    · rename_i problem failed
      exact absurd failed (passed problem)
    · rfl

theorem settled_ne (ending : Except Failure (List Event)) (problem : Problem) :
    settled ending ≠ .error (.problem problem) := by
  unfold settled
  split
  · nofun
  · rename_i passed
    exact passed problem

theorem outcome_node [Stack] (settings : Settings) (budget : Nat) (spot : Spot) (v : Value) :
    (node settings budget spot v).outcome = settled (attempt settings budget spot v).outcome := by
  rw [node_eq_isolate, outcome_isolate]

theorem node_ne [Stack] (settings : Settings) (budget : Nat) (spot : Spot) (v : Value) (problem : Problem) :
    (node settings budget spot v).outcome ≠ .error (.problem problem) := by
  rw [outcome_node]
  exact settled_ne _ problem

theorem ground_answers (fallback : Option Path.Fallback) : (Template.ground v False False.elim).Answers fallback :=
  fun _ _ _ _ _ _ => False.elim

theorem fatal_of_attempt [Stack] {budget : Nat} (failed : (attempt settings budget spot v).outcome = .error (.problem problem)) :
    problem.severity = .fatal := by
  have stops : (attempt settings budget spot v).Stops (Failure.Inside (Template.ground v False False.elim)) := by
    cases budget with
    | zero => exact Run.stops_raise rfl
    | succ budget =>
      exact step_stops (ground_answers settings.fallback) (fun _ _ => False.elim) .whole (fun path written => ⟨v, .whole, written⟩)
        fun child member _ => node_stops (ground_answers settings.fallback) budget (.inner .whole member)
  obtain ⟨other, same, fatal⟩ | leaves := stops _ failed
  · cases same
    exact fatal
  · nomatch leaves

theorem resolve_account (fallback : Option Path.Fallback) (scope : Scope) (path : String) :
    Account (Path.resolve fallback scope path).journal := by
  rw [Path.resolve_eq]
  split
  · exact .nil
  · exact .nil
  · exact .warning rfl .nil
  · split
    · exact .nil
    · exact .asked .nil

theorem recorded_tracks (settings : Settings) : Run.accounted.Tracks settings.fallback settings.fallback Eq :=
  Run.accounted.tracks_same fun _ _ => Run.accounted_self.mpr (resolve_account _ _ _)

def recorded (settings : Settings) : Parallel Run.accounted := .beside settings settings (recorded_tracks settings)

theorem node_account [Stack] (settings : Settings) (budget : Nat) (spot : Spot) (v : Value) :
    Account (node settings budget spot v).journal := by
  induction budget generalizing spot v with
  | zero => exact .dropped rfl .nil
  | succ budget ih =>
    have account : Account (attempt settings (budget + 1) spot v).journal := by
      have inside : (recorded settings).Inside Eq (node settings budget) (node settings budget) := by
        rintro v _ rfl scope _ rfl depth inComment
        exact Run.accounted_self.mpr (ih _ _)
      apply Run.accounted_self.mp
      exact (recorded settings).step_relates inside (fun _ => rfl) (rfl : spot.scope = spot.scope) .same
    rw [node_eq_isolate]
    by_cases failed : ∃ problem, (attempt settings (budget + 1) spot v).outcome = .error (.problem problem)
    · obtain ⟨problem, failed⟩ := failed
      rw [isolate_of_problem failed]
      exact account.append (.dropped (fatal_of_attempt failed) .nil)
    · rw [isolate_of_rest fun problem ended => failed ⟨problem, ended⟩]
      exact account

theorem document_account [Stack] (settings : Settings) (template data : Value) :
    Account (document settings template data).journal := by
  apply Run.accounted_self.mp
  exact (recorded settings).document_relates (by rintro _ _ rfl; rfl) rfl rfl
    (fun _ => Run.accounted_self.mpr (node_account _ _ _ _)) data

-- A node that fails does so for a fatal problem and is reported by that one entry; no
-- problem leaves the whole render. However many renders share a collector, the logger
-- hears every report once and in order, and the fatal ones are those of the lost nodes.
theorem failures_reported [Stack] (settings : Settings) :
    (∀ budget spot template problem,
      (attempt settings budget spot template).outcome = .error (.problem problem) →
        problem.severity = .fatal ∧
        (node settings budget spot template).outcome = .ok [] ∧
        ∀ (logger : Logger) (collector : Collector),
          let before := collector.through logger (attempt settings budget spot template).journal
          let after := collector.through logger (node settings budget spot template).journal
          after = before.report logger problem ∧ after.errors = before.errors ++ [problem] ∧
            after.warnings = before.warnings) ∧
    (∀ template data problem, (document settings template data).outcome ≠ .error (.problem problem)) ∧
    ∀ (logger : Logger) (inputs : List Input),
      let journal := inputs.flatMap fun input => (input.events settings).journal
      Collector.through logger {} journal =
        ⟨(Diagnostics.problems journal).filter (·.severity = .fatal),
          (Diagnostics.problems journal).filter (·.severity = .warning),
          (Diagnostics.problems journal).map logger.call⟩ ∧
      Diagnostics.errors journal = journal.filterMap Entry.lost? := by
  refine ⟨?_, ?_, ?_⟩
  · intro budget spot template problem failed
    have fatal := fatal_of_attempt failed
    rw [node_eq_isolate, isolate_of_problem failed]
    refine ⟨fatal, rfl, ?_⟩
    intro logger collector
    rw [Collector.through_lost]
    simp [Collector.report, show problem.severity = .fatal from fatal]
  · intro template data problem failed
    nomatch document_stops (ground_answers settings.fallback) (fun nothing => nothing.elim) _ failed
  · intro logger inputs
    have account : Account (inputs.flatMap fun input => (input.events settings).journal) := by
      induction inputs with
      | nil => exact .nil
      | cons input inputs ih => exact (document_account _ _ _).append ih
    refine ⟨?_, account.errors_eq⟩
    rw [Collector.through_eq, account.lines_eq]
    rfl

def unstyled : Value :=
  .mapping 1 [(.text "p", .mapping 2 [(.text "onclick", .text "x"), (.text "style", .text "color: red")])]

theorem unstyled_reported :
    (attempt {} 1 ⟨⟨.null, []⟩, 0, false⟩ unstyled).outcome = .error (.problem (.styleNotMapping "str")) ∧
    (Problem.styleNotMapping "str").severity = .fatal ∧
    (node {} 1 ⟨⟨.null, []⟩, 0, false⟩ unstyled).outcome = .ok [] ∧
    (Collector.through (.calls false false) {} (node {} 1 ⟨⟨.null, []⟩, 0, false⟩ unstyled).journal).errors =
      [.styleNotMapping "str"] ∧
    (Collector.through (.calls false false) {} (node {} 1 ⟨⟨.null, []⟩, 0, false⟩ unstyled).journal).warnings =
      [.attributeNotAllowed "onclick" "p"] := by
  have failed : (attempt {} 1 ⟨⟨.null, []⟩, 0, false⟩ unstyled).outcome =
      .error (.problem (.styleNotMapping "str")) := rfl
  obtain ⟨fatal, dropped, reported⟩ := (failures_reported {}).1 1 _ unstyled _ failed
  obtain ⟨_, errors, warnings⟩ := reported (.calls false false) {}
  exact ⟨failed, fatal, dropped, errors, warnings⟩

end Render
end HtmlTemplate
