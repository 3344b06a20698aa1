import HtmlTemplate.Proofs.Forest
import HtmlTemplate.Proofs.Part
import HtmlTemplate.Proofs.Run
import HtmlTemplate.Template
namespace HtmlTemplate
open Template

namespace Vocabulary

theorem kind_eq_void_iff {tag : String} : TagKind.of tag = .void ↔ tag ∈ voidTags := by
  unfold TagKind.of
  split
  · rename_i same; subst same; decide
  · split
    · rename_i same; subst same; decide
    · split <;> simp [*]

theorem isElement_of_kind {tag : String} (allowed : isAllowedTag tag = true)
    (plain : TagKind.of tag ≠ .conditional) (shown : TagKind.of tag ≠ .comment) : isElement tag = true := by
  simp only [isAllowedTag, Bool.or_eq_true, decide_eq_true_eq] at allowed
  rcases allowed with (known | rfl) | rfl
  · exact known
  · exact absurd (by decide) shown
  · exact absurd (by decide) plain

def wrappers : List (String × List (String × String)) := [blockContainer, shadowHost, shadowRoot]

end Vocabulary

theorem TagNode.kind_eq [Stack] {entries : List (Value × Value)} {node : TagNode}
    (read : TagNode.ofEntries entries = .ok node) : node.kind = .of node.tag := by
  obtain ⟨tag, content, rfl, got⟩ := ofEntries_eq_ok_iff.mp read
  unfold TagNode.ofContent at got
  split at got
  · obtain ⟨children, _, rfl⟩ := map_eq_ok.mp got
    rfl
  · split at got
    case' h_7 => cases got
    case h_1 | h_2 | h_3 =>
      obtain ⟨children, _, rfl⟩ := map_eq_ok.mp got
      rfl
    all_goals
      cases got
      rfl

namespace Contents

def isScalar : Value → Bool
  | .bool _ | .int _ | .float _ => true
  | _ => false

variable {contents : Contents} {settings : Render.Settings} {template v : Value} {render : Render.Renderer}
  {node : TagNode} {binding : Value} {spot : Render.Spot} {inComment : Bool} {depth : Int} {scope : Scope} {events : List Event} {entries : List (Value × Value)}

variable [Stack]

def AdmitsPairs (contents : Contents) (settings : Render.Settings) (node : TagNode) : Prop :=
  Vocabulary.isElement node.tag = true → ∀ scope entries, entries.Sublist node.attributes →
    (Render.attributes settings node.tag scope entries).Ensures fun pairs =>
      contents.tag node.tag pairs (node.tag ∈ Vocabulary.voidTags)

-- What a template can write, whatever the data and wherever a part is reached.
structure Admits (contents : Contents) (settings : Render.Settings) (template : Value) : Prop where
  text : ∀ s scope, Part template (.text s) →
    (Interpolation.inText.apply settings.fallback scope s).Ensures fun html => html ≠ "" → contents.text html
  scalar : ∀ v s, isScalar v = true → v.stringify = .ok s → contents.text (onChars Escape.html s)
  tag : ∀ part node, Part template part → tag? part = some node → contents.AdmitsPairs settings node

def Renders (contents : Contents) (render : Render.Renderer) (nodes : List Value) : Prop :=
  ∀ v ∈ nodes, ∀ spot, (render spot v).Ensures (contents.Stream spot.inComment spot.depth)

omit [Stack] in
theorem children_stream (inner : contents.Renders render node.children) :
    (Render.children render node spot scope).Ensures
      (contents.Stream (spot.inComment || node.kind = .comment) (spot.depth + 1)) :=
  Run.ensures_collect .nil (fun _ _ => .append) fun child member => inner child member _

structure Shown (node : TagNode) (spot : Render.Spot) : Prop where
  kind : node.kind = .of node.tag
  allowed : Vocabulary.isAllowedTag node.tag = true
  plain : node.kind ≠ .conditional
  apart : node.kind = .comment → spot.inComment = false

theorem element_stream (shown : Shown node spot) (pairs : contents.AdmitsPairs settings node)
    (part : entries.Sublist node.attributes)
    (inner : contents.Stream (spot.inComment || node.kind = .comment) (spot.depth + 1) events) :
    (Render.element settings node scope spot.depth entries events).Ensures
      (contents.Stream spot.inComment spot.depth) := by
  have kind := shown.kind
  have isElement (proper : node.kind ≠ .comment) : Vocabulary.isElement node.tag = true :=
    Vocabulary.isElement_of_kind shown.allowed (kind ▸ shown.plain) (kind ▸ proper)
  unfold Render.element
  cases known : node.kind with
  | comment =>
    refine Run.ensures_bind fun _ => Run.ensures_pure ?_
    rw [shown.apart known]
    exact .comment (by simpa [known] using inner)
  | void =>
    refine (pairs (isElement (by simp [known])) scope entries part).bind fun _ written => Run.ensures_pure ?_
    have void := Vocabulary.kind_eq_void_iff.mp (kind ▸ known)
    exact .void (by simpa [void] using written)
  | container =>
    refine (pairs (isElement (by simp [known])) scope entries part).bind fun _ written => Run.ensures_pure ?_
    have void : node.tag ∉ Vocabulary.voidTags := by
      rw [← Vocabulary.kind_eq_void_iff, ← kind, known]
      decide
    exact .element (by simpa [void] using written) (by simpa [known] using inner)
  | conditional => exact absurd known shown.plain

theorem bound_stream (shown : Shown node spot) (pairs : contents.AdmitsPairs settings node)
    (inner : contents.Renders render node.children) :
    (Render.bound settings render node spot binding).Ensures (contents.Stream spot.inComment spot.depth) := by
  unfold Render.bound
  refine Run.ensures_bind fun path => Run.ensures_bind fun data => ?_
  split
  · dsimp only
    split
    case' isTrue => refine Run.ensures_bind fun _ => ?_
    all_goals exact (children_stream inner).bind fun _ body => element_stream shown pairs List.filter_sublist body
  · refine Run.ensures_bind fun items => ?_
    have repeated : (Run.collect (fun item => Render.children render node spot (spot.scope.push item)) items).Ensures
        (contents.Stream (spot.inComment || node.kind = .comment) (spot.depth + 1)) :=
      Run.ensures_collect .nil (fun _ _ => .append) fun _ _ => children_stream inner
    exact repeated.bind fun _ body => element_stream shown pairs List.filter_sublist body

theorem unbound_stream (shown : Shown node spot) (pairs : contents.AdmitsPairs settings node)
    (inner : contents.Renders render node.children) :
    (Render.unbound settings render node spot).Ensures (contents.Stream spot.inComment spot.depth) := by
  unfold Render.unbound
  dsimp only
  split
  case' isTrue => refine Run.ensures_bind fun _ => ?_
  all_goals exact (children_stream inner).bind fun _ body => element_stream shown pairs List.filter_sublist body

-- A branch is rendered in the place of its condition, so nothing is written around it.
theorem conditional_stream (known : node.kind = .conditional) (inner : contents.Renders render (branches node)) :
    (Render.conditional settings render node spot).Ensures (contents.Stream spot.inComment spot.depth) := by
  unfold Render.conditional
  dsimp only
  split
  · refine Run.ensures_bind fun _ => ?_
    split
    case' isFalse => refine Run.ensures_bind fun _ => ?_
    all_goals
      split
      · exact Run.ensures_raise
      · refine Run.ensures_bind fun holds => ?_
        split
        · rename_i branch found
          refine inner branch ?_ spot
          rw [branches, if_pos known]
          refine List.mem_filterMap.mpr ⟨_, ?_, found⟩
          cases holds <;> simp
        · exact Run.ensures_pure .nil
  · exact Run.ensures_raise

theorem tag_stream (kind : node.kind = .of node.tag) (pairs : contents.AdmitsPairs settings node)
    (inner : contents.Renders render node.children) (inBranch : contents.Renders render (branches node)) :
    (Render.tag settings render node spot).Ensures (contents.Stream spot.inComment spot.depth) := by
  unfold Render.tag
  split
  · exact Run.ensures_fail
  rename_i allowed
  split
  · rename_i conditional
    exact conditional_stream conditional inBranch
  rename_i plain
  split
  · exact Run.ensures_fail
  rename_i nested
  have apart : node.kind = .comment → spot.inComment = false := by simpa using nested
  have shown : Shown node spot := ⟨kind, by simpa using allowed, plain, apart⟩
  have rest (kept : TagNode)
      (same : kept = if node.kind = Vocabulary.TagKind.void then { node with children := [] } else node) :
      Shown kept spot ∧ contents.AdmitsPairs settings kept ∧ contents.Renders render kept.children := by
    by_cases void : node.kind = Vocabulary.TagKind.void
    · rw [same, if_pos void]
      exact ⟨⟨kind, shown.allowed, plain, apart⟩, pairs, by simp [Renders]⟩
    · rw [same, if_neg void]
      exact ⟨shown, pairs, inner⟩
  obtain ⟨keptShown, keptPairs, keptInner⟩ := rest _ rfl
  dsimp only
  split
  case' isTrue => refine Run.ensures_bind fun _ => ?_
  all_goals
    split
    · exact bound_stream keptShown keptPairs keptInner
    · exact unbound_stream keptShown keptPairs keptInner

theorem step_stream (admits : contents.Admits settings template) (part : Part template v)
    (inner : contents.Renders render (inside v)) :
    (Render.step settings render spot v).Ensures (contents.Stream spot.inComment spot.depth) := by
  unfold Render.step
  split
  · rename_i s
    refine (admits.text s spot.scope part).bind fun html allowed => Run.ensures_pure ?_
    split
    · exact .nil
    · rename_i shown
      exact .text (allowed shown)
  · exact Run.ensures_pure .nil
  iterate 3
    · exact (Run.ensures_ofExcept _ _).bind fun s written => Run.ensures_pure (.text (admits.scalar _ s rfl written))
  · split
    · rename_i items found
      have listed : inside v = items := by simp [inside, found]
      exact Run.ensures_collect .nil (fun _ _ => .append) fun child member => inner child (listed ▸ member) spot
    · rename_i entries noList found
      refine (Run.ensures_ofExcept _ _).bind fun node read => ?_
      have isTag : tag? v = some node := tag?_of_entries found read
      have listed : inside v = node.children ++ branches node := by simp [inside, noList, isTag]
      rw [listed] at inner
      exact tag_stream (TagNode.kind_eq read) (admits.tag v node part isTag)
        (fun child member => inner child (List.mem_append_left _ member))
        (fun child member => inner child (List.mem_append_right _ member))
    · exact Run.ensures_fail

omit [Stack] in
theorem isolate_stream {run : Run (List Event)} (first : run.Ensures (contents.Stream inComment depth)) :
    (Render.isolate depth run).Ensures (contents.Stream inComment depth) :=
  first.rescue fun _ => Run.ensures_bind fun _ => Run.ensures_bind fun _ => Run.ensures_pure .nil

-- The induction is on the levels that may still be entered. What a level needs of
-- the next one is that it writes streams for the nodes directly inside.
theorem node_stream (admits : contents.Admits settings template) (budget : Nat) (part : Part template v) :
    (Render.node settings budget spot v).Ensures (contents.Stream spot.inComment spot.depth) := by
  induction budget generalizing v spot with
  | zero => exact isolate_stream Run.ensures_fail
  | succ budget ih =>
    exact isolate_stream (step_stream admits part fun child member spot => ih (.inner part member))

def AdmitsWrappers (contents : Contents) : Prop :=
  ∀ wrapper ∈ Vocabulary.wrappers, contents.tag wrapper.1 wrapper.2 false

omit [Stack] in
theorem wrapped_stream (wrappers : contents.AdmitsWrappers) (stream : contents.Stream false 0 events) :
    contents.Stream false 0 (Render.wrapped settings events) := by
  have block : contents.tag Vocabulary.blockContainer.1 Vocabulary.blockContainer.2 false :=
    wrappers _ (by simp [Vocabulary.wrappers])
  have host : contents.tag Vocabulary.shadowHost.1 Vocabulary.shadowHost.2 false :=
    wrappers _ (by simp [Vocabulary.wrappers])
  have root : contents.tag Vocabulary.shadowRoot.1 Vocabulary.shadowRoot.2 false :=
    wrappers _ (by simp [Vocabulary.wrappers])
  unfold Render.wrapped
  dsimp only
  split <;> split
  · exact .wrap block (.wrap host (.wrap root stream))
  · exact .wrap block stream
  · exact .wrap host (.wrap root stream)
  · exact stream

theorem root_stream {data : Value} (admits : contents.Admits settings template) :
    (Render.root settings template data).Ensures (contents.Stream false 0) := by
  have single (scope : Scope) :
      (Render.node settings (Render.budget settings) ⟨scope, 0, false⟩ template).Ensures
        (contents.Stream false 0) := node_stream admits _ .whole
  unfold Render.root
  dsimp only
  split
  · split
    · exact Run.ensures_collect .nil (fun _ _ => .append) fun _ _ => single _
    · exact single _
  · exact single _

theorem document_stream {data : Value} (admits : contents.Admits settings template)
    (wrappers : contents.AdmitsWrappers) :
    (Render.document settings template data).Ensures (contents.Stream false 0) :=
  (root_stream admits).bind fun _ stream => Run.ensures_pure (wrapped_stream wrappers stream)

end Contents

theorem Render.outcome_document [Stack] (settings : Settings) (template data : Value) :
    (document settings template data).outcome = (root settings template data).outcome.map (wrapped settings) :=
  Run.outcome_bind_pure _ _

namespace Input

variable [Stack] (input : Input) (names : Escape.Names) (options : Options) (fallback : Option Path.Fallback)

theorem outcome_markup : (input.markup options fallback).outcome =
    (input.events (options.settings fallback)).outcome.map (Markup.render options.indentUnit) :=
  Run.outcome_bind_pure ..

theorem outcome_tree : (input.tree names options fallback).outcome =
    (input.events (options.settings fallback)).outcome.map (Dom.ofEvents names) :=
  Run.outcome_bind_pure ..

end Input
end HtmlTemplate
