import HtmlTemplate.Proofs.Emission
namespace HtmlTemplate.Render

-- Called at every node, before anything else is done there. It may write the call
-- down or end the render: where no watcher makes a difference, no node is entered.
abbrev Watcher := (nesting : Int) → Spot → Value → Run Unit

def unwatched : Watcher := fun _ _ _ => Run.pure ()

def overLimit (settings : Settings) : Problem := .tooDeep (String.ofList (Chars.signed settings.maxDepth))

-- The renderer as it counts: `nesting` calls stand around this one, and all that are
-- made from it are nested one deeper. Only the limit keeps them from going on. The
-- calls are followed for `levels` levels; what `beyond` does there is not known.
def entered [Stack] (settings : Settings) (watcher : Watcher) (beyond : Renderer) : (levels : Nat) → (nesting : Int) → Renderer
  | 0, _ => beyond
  | levels + 1, nesting => fun spot template =>
    (watcher nesting spot template).bind fun _ =>
      isolate spot.depth
        (if settings.maxDepth < nesting then Run.raise (overLimit settings)
        else step settings (entered settings watcher beyond levels (nesting + 1)) spot template)

def Alike (spot : Spot) (first second : Renderer) : Prop :=
  ∀ inner v, inner.depth ≤ spot.depth + 1 → first inner v = second inner v

section Calls

variable [Stack] {settings : Settings} {first second : Renderer} {node : TagNode} {spot : Spot}

omit [Stack] in
theorem children_congr (alike : Alike spot first second) (node : TagNode) (scope : Scope) :
    children first node spot scope = children second node spot scope := by
  unfold children
  congr 1
  funext v
  exact alike _ v (Int.le_refl _)

theorem conditional_congr (alike : Alike spot first second) :
    conditional settings first node spot = conditional settings second node spot := by
  have branch : first spot = second spot := funext fun v => alike spot v (by omega)
  unfold conditional
  rw [branch]

theorem tag_congr (alike : Alike spot first second) :
    tag settings first node spot = tag settings second node spot := by
  unfold tag bound unbound
  simp only [conditional_congr alike, children_congr alike]

theorem step_congr (alike : Alike spot first second) (v : Value) :
    step settings first spot v = step settings second spot v := by
  have item : first spot = second spot := funext fun v => alike spot v (by omega)
  unfold step
  simp only [item, tag_congr alike]

end Calls

section Depths

variable [Stack] {settings : Settings} {render : Renderer} {node : TagNode} {spot : Spot} {scope : Scope}
  {holds : Event → Prop} {events : List Event}

def Throughout (holds : Event → Prop) (run : Run (List Event)) : Prop :=
  run.Ensures fun events => ∀ event ∈ events, holds event

omit [Stack] in
theorem throughout_pure (known : ∀ event ∈ events, holds event) : Throughout holds (Run.pure events) :=
  Run.ensures_pure known

omit [Stack] in
theorem throughout_collect {α : Type} {f : α → Run (List Event)} {as : List α}
    (each : ∀ a ∈ as, Throughout holds (f a)) : Throughout holds (Run.collect f as) := by
  refine Run.ensures_collect (by simp) ?_ each
  intro xs ys left right event member
  rcases List.mem_append.mp member with first | second
  · exact left event first
  · exact right event second

structure Emits (holds : Event → Prop) (render : Renderer) (spot : Spot) : Prop where
  own : ∀ event : Event, event.depth = spot.depth → holds event
  inner : ∀ inside v, inside.depth ≤ spot.depth + 1 → Throughout holds (render inside v)

omit [Stack] in
theorem children_throughout (emits : Emits holds render spot) :
    Throughout holds (children render node spot scope) :=
  throughout_collect fun child _ => emits.inner _ child (Int.le_refl _)

theorem element_throughout (emits : Emits holds render spot) {entries : List (Value × Value)}
    (inside : ∀ event ∈ events, holds event) :
    Throughout holds (element settings node scope spot.depth entries events) := by
  have around (opening closing : Event) (first : opening.depth = spot.depth) (last : closing.depth = spot.depth) :
      ∀ event ∈ opening :: events ++ [closing], holds event := by
    intro event member
    simp only [List.cons_append, List.mem_cons, List.mem_append, List.not_mem_nil, or_false] at member
    rcases member with rfl | between | rfl
    · exact emits.own _ first
    · exact inside event between
    · exact emits.own _ last
  unfold element
  refine Run.ensures_bind fun pairs => throughout_pure ?_
  cases node.kind with
  | comment => exact around _ _ rfl rfl
  | void =>
    intro event member
    rw [List.mem_singleton.mp member]
    exact emits.own _ rfl
  | container => exact around _ _ rfl rfl
  | conditional => exact around _ _ rfl rfl

theorem bound_throughout (emits : Emits holds render spot) (binding : Value) :
    Throughout holds (bound settings render node spot binding) := by
  unfold bound
  refine Run.ensures_bind fun path => Run.ensures_bind fun data => ?_
  split
  · dsimp only
    split
    case' isTrue => refine Run.ensures_bind fun _ => ?_
    all_goals exact (children_throughout emits).bind fun _ inside => element_throughout emits inside
  · refine Run.ensures_bind fun items => ?_
    have repeated : Throughout holds (Run.collect (fun item => children render node spot (spot.scope.push item)) items) :=
      throughout_collect fun _ _ => children_throughout emits
    exact repeated.bind fun _ inside => element_throughout emits inside

theorem unbound_throughout (emits : Emits holds render spot) : Throughout holds (unbound settings render node spot) := by
  unfold unbound
  dsimp only
  split
  case' isTrue => refine Run.ensures_bind fun _ => ?_
  all_goals exact (children_throughout emits).bind fun _ inside => element_throughout emits inside

theorem conditional_throughout (emits : Emits holds render spot) :
    Throughout holds (conditional settings render node spot) := by
  unfold conditional
  dsimp only
  split
  · refine Run.ensures_bind fun _ => ?_
    split
    case' isFalse => refine Run.ensures_bind fun _ => ?_
    all_goals
      split
      · exact Run.ensures_raise
      · refine Run.ensures_bind fun _ => ?_
        split
        · exact emits.inner spot _ (by omega)
        · exact throughout_pure (by simp)
  · exact Run.ensures_raise

theorem tag_throughout (emits : Emits holds render spot) : Throughout holds (tag settings render node spot) := by
  unfold tag
  split
  · exact Run.ensures_fail
  split
  · exact conditional_throughout emits
  split
  · exact Run.ensures_fail
  dsimp only
  split
  case' isTrue => refine Run.ensures_bind fun _ => ?_
  all_goals
    split
    · exact bound_throughout emits _
    · exact unbound_throughout emits

theorem step_throughout (emits : Emits holds render spot) (v : Value) :
    Throughout holds (step settings render spot v) := by
  have shown (html : String) : ∀ event ∈ [Event.text spot.depth html], holds event := by
    intro event member
    rw [List.mem_singleton.mp member]
    exact emits.own _ rfl
  unfold step
  split
  · refine Run.ensures_bind fun html => throughout_pure ?_
    split
    · simp
    · exact shown html
  · exact throughout_pure (by simp)
  iterate 3
    · exact Run.ensures_bind fun text => throughout_pure (shown _)
  · split
    · exact throughout_collect fun child _ => emits.inner spot child (by omega)
    · exact Run.ensures_bind fun node => tag_throughout emits
    · exact Run.ensures_fail

omit [Stack] in
theorem isolate_throughout {run : Run (List Event)} {depth : Int} (first : Throughout holds run) :
    Throughout holds (isolate depth run) :=
  first.rescue fun _ => Run.ensures_bind fun _ => Run.ensures_bind fun _ => throughout_pure (by simp)

end Depths

section

variable [Stack] {settings : Settings} {watcher other : Watcher} {beyond further : Renderer} {levels more : Nat} {nesting : Int}
  {spot : Spot}

def Agree (settings : Settings) (watcher other : Watcher) : Prop :=
  ∀ nesting spot v, nesting ≤ settings.maxDepth + 1 → spot.depth ≤ nesting → watcher nesting spot v = other nesting spot v

-- The induction is on the levels that are followed. Every call is nested one deeper and
-- stands at most one deeper in the output, so the bounds pass on to it.
theorem entered_congr (agree : Agree settings watcher other) (enough : settings.maxDepth + 1 < nesting + levels)
    (also : settings.maxDepth + 1 < nesting + more) (within : nesting ≤ settings.maxDepth + 1)
    (shallow : spot.depth ≤ nesting) (v : Value) :
    entered settings watcher beyond levels nesting spot v = entered settings other further more nesting spot v := by
  induction levels generalizing more nesting spot v with
  | zero => omega
  | succ levels ih =>
    cases more with
    | zero => omega
    | succ more =>
      simp only [entered]
      rw [agree nesting spot v within shallow]
      by_cases past : settings.maxDepth < nesting
      · simp only [if_pos past]
      · have alike : Alike spot (entered settings watcher beyond levels (nesting + 1))
            (entered settings other further more (nesting + 1)) := by
          intro inner w near
          exact ih (by omega) (by omega) (by omega) (by omega) w
        simp only [if_neg past, step_congr alike]

theorem entered_unwatched (enough : settings.maxDepth + 1 < nesting + levels)
    (within : nesting ≤ settings.maxDepth + 1) :
    entered settings unwatched beyond levels nesting = node settings (settings.maxDepth + 1 - nesting).toNat := by
  induction levels generalizing nesting with
  | zero => omega
  | succ levels ih =>
    funext spot v
    by_cases past : settings.maxDepth < nesting
    · have none : (settings.maxDepth + 1 - nesting).toNat = 0 := by omega
      rw [none]
      simp only [entered, if_pos past]
      rfl
    · have left : (settings.maxDepth + 1 - nesting).toNat = (settings.maxDepth + 1 - (nesting + 1)).toNat + 1 := by omega
      rw [left]
      simp only [entered, if_neg past, ih (by omega : settings.maxDepth + 1 < nesting + 1 + levels) (by omega)]
      rfl

theorem entered_over (past : settings.maxDepth < nesting) (v : Value) :
    entered settings watcher beyond (levels + 1) nesting spot v =
      (watcher nesting spot v).bind fun _ =>
        ⟨[.report (overLimit settings), .dropped spot.depth (overLimit settings)], .ok []⟩ := by
  simp only [entered, if_pos past]
  rfl

theorem node_throughout (budget : Nat) (v : Value) :
    Throughout (fun event => event.depth < spot.depth + budget) (node settings budget spot v) := by
  induction budget generalizing spot v with
  | zero => exact isolate_throughout Run.ensures_fail
  | succ budget ih =>
    apply isolate_throughout
    apply step_throughout
    constructor
    · intro event place
      omega
    · intro inner w near
      refine (ih w).mono fun events below event member => ?_
      have := below event member
      omega

theorem root_throughout (template data : Value) :
    Throughout (fun event => event.depth < budget settings) (root settings template data) := by
  have single (scope : Scope) : Throughout (fun event => event.depth < budget settings)
      (node settings (budget settings) ⟨scope, 0, false⟩ template) := by
    refine (node_throughout _ template).mono fun events below event member => ?_
    have := below event member
    dsimp only at this
    omega
  unfold root
  dsimp only
  split
  · split
    · exact throughout_collect fun _ _ => single _
    · exact single _
  · exact single _

-- How deep a render goes with the limit `m`. Followed far enough, the counting renderer
-- is the one that renders. No call is nested more deeply than `m + 1`, nor stands deeper
-- in the output than it is nested; those nested `m + 1` deep are reported, return nothing
-- and call nothing. So no event lies below `m`.
theorem nesting_bounded {settings : Settings} {m : Nat} (limit : settings.maxDepth = m) :
    (∀ beyond levels, m + 2 ≤ levels → entered settings unwatched beyond levels 0 = node settings (budget settings)) ∧
    (∀ watcher other beyond further levels more spot v,
      (∀ (nesting : Int) inner w, nesting ≤ m + 1 → inner.depth ≤ nesting →
        watcher nesting inner w = other nesting inner w) →
      m + 2 ≤ levels → m + 2 ≤ more → spot.depth = 0 →
      entered settings watcher beyond levels 0 spot v = entered settings other further more 0 spot v) ∧
    (∀ watcher beyond levels spot v, entered settings watcher beyond (levels + 1) (m + 1) spot v =
      (watcher (m + 1) spot v).bind fun _ =>
        ⟨[.report (overLimit settings), .dropped spot.depth (overLimit settings)], .ok []⟩) ∧
    (∀ holds render spot v, Emits holds render spot → Throughout holds (step settings render spot v)) ∧
    ∀ template data events, (root settings template data).outcome = .ok events → ∀ event ∈ events, event.depth ≤ m := by
  refine ⟨?_, ?_, ?_, fun _ _ _ v emits => step_throughout emits v, ?_⟩
  · intro beyond levels enough
    rw [entered_unwatched (by omega) (by omega), Int.sub_zero]
    rfl
  · intro watcher other beyond further levels more spot v agree enough also top
    refine entered_congr ?_ (by omega) (by omega) (by omega) (by omega) v
    intro nesting inner w within shallow
    exact agree nesting inner w (by omega) shallow
  · intro watcher beyond levels spot v
    exact entered_over (by omega) v
  · intro template data events returned event member
    have below := root_throughout template data events returned event member
    unfold budget at below
    omega

end

def endless : Value := .mapping 1 [(.text "div", .sequence .list 2 [.enclosing 2])]

def endlessEvents : List Event :=
  [.openTag 0 "div" [] false, .openTag 1 "div" [] false, .closeTag 1 "div", .closeTag 0 "div"]

def tripwire : Watcher := fun nesting _ _ => if nesting < 3 then Run.pure () else Run.fail (.nestedKey "call")

theorem endless_bounded :
    (root { maxDepth := 1 } endless .null).outcome = .ok endlessEvents ∧
    (∀ event ∈ endlessEvents, event.depth ≤ 1) ∧
    entered { maxDepth := 1 } tripwire (fun _ _ => Run.pure []) 3 0 ⟨⟨.null, []⟩, 0, false⟩ endless =
      node { maxDepth := 1 } 2 ⟨⟨.null, []⟩, 0, false⟩ endless := by
  have events : (root { maxDepth := 1 } endless .null).outcome = .ok endlessEvents := rfl
  have limit : Settings.maxDepth { maxDepth := 1 } = (1 : Nat) := rfl
  obtain ⟨counts, uncalled, _, _, shallow⟩ := nesting_bounded limit
  refine ⟨events, shallow endless .null endlessEvents events, ?_⟩
  have silent : ∀ (nesting : Int) inner w, nesting ≤ (1 : Nat) + 1 → inner.depth ≤ nesting →
      tripwire nesting inner w = unwatched nesting inner w := by
    intro nesting inner w within _
    exact if_pos (by omega)
  rw [uncalled tripwire unwatched _ (fun _ _ => Run.pure []) 3 3 _ endless silent (by omega) (by omega) rfl,
    counts _ 3 (by omega)]
  rfl

end HtmlTemplate.Render
