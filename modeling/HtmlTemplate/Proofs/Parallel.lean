import HtmlTemplate.Proofs.Comparison
import HtmlTemplate.Proofs.Part
namespace HtmlTemplate

section Varies

-- An attribute stays as it is, but that a branch of a condition is a node: another
-- one may stand there, as long as neither or both are lists.
def TagNode.AttributeVaries (inner : Value → Value → Prop) (kind : Vocabulary.TagKind) (key v w : Value) : Prop :=
  w = v ∨ kind = .conditional ∧ (key = .text Vocabulary.thenKey ∨ key = .text Vocabulary.elseKey) ∧
    w.listItems?.isSome = v.listItems?.isSome ∧ inner v w

structure TagNode.Varies (inner : Value → Value → Prop) (node other : TagNode) : Prop where
  tag : other.tag = node.tag
  kind : other.kind = node.kind
  attributes : List.Forall₂ (fun e f => f.1 = e.1 ∧ AttributeVaries inner node.kind e.1 e.2 f.2)
    node.attributes other.attributes
  children : List.Forall₂ inner node.children other.children

inductive Template.Varies (inner : Value → Value → Prop) : Value → Value → Prop where
  | same : Varies inner v v
  | items : v.listItems? = some vs → w.listItems? = some ws → List.Forall₂ inner vs ws → Varies inner v w
  | tag : tag? v = some node → tag? w = some other → node.Varies inner other → Varies inner v w

variable {inner : Value → Value → Prop} {node other : TagNode}

theorem isEmpty_of_forall₂ {vs ws : List Value} (related : List.Forall₂ inner vs ws) :
    ws.isEmpty = vs.isEmpty := by
  cases related <;> rfl

theorem Value.isText_iff {s : String} {v : Value} : isText s v = true ↔ v = .text s := by
  cases v <;> simp [isText]

theorem Value.find?_forall₂ {R : Value → Value → Value → Prop} {es fs : List (Value × Value)}
    (related : List.Forall₂ (fun e f => f.1 = e.1 ∧ R e.1 e.2 f.2) es fs) (key : String) :
    Option.Rel (R (.text key)) (find? es key) (find? fs key) := by
  induction related with
  | nil => exact .none
  | @cons e f es fs first _ ih =>
    obtain ⟨sameKey, value⟩ := first
    cases found : isText key e.1 with
    | true =>
      rw [isText_iff.mp found] at value
      simpa [find?, entry?, List.find?_cons, sameKey, found] using Option.Rel.some value
    | false => simpa [find?, entry?, List.find?_cons, sameKey, found] using ih

namespace TagNode.Varies

theorem attributes_eq (varies : node.Varies inner other) (plain : node.kind ≠ .conditional) :
    other.attributes = node.attributes := by
  have same : List.Forall₂ Eq other.attributes node.attributes := by
    apply varies.attributes.flip.imp
    rintro ⟨key, v⟩ ⟨_, w⟩ ⟨rfl, rfl | branch⟩
    · rfl
    · exact absurd branch.1 plain
  simpa using same

theorem eq_of_plain (varies : node.Varies inner other) (plain : node.kind ≠ .conditional) :
    other = { node with children := other.children } := by
  have attributes := varies.attributes_eq plain
  obtain ⟨tag, kind, _, _⟩ := varies
  cases other
  simp_all

theorem sameTest (varies : node.Varies inner other) :
    Condition.SameTest node.attributes other.attributes := by
  intro key notThen notElse
  have found := Value.find?_forall₂ varies.attributes key
  revert found
  generalize Value.find? node.attributes key = v?
  generalize Value.find? other.attributes key = w?
  rintro (⟨rfl | branch⟩ | _)
  · rfl
  · simp [notThen, notElse] at branch
  · rfl

theorem attribute? (varies : node.Varies inner other) (refl : ∀ v, inner v v) (key : String) :
    (node.attribute? key = none ∧ other.attribute? key = none) ∨
    ∃ v w, node.attribute? key = some v ∧ other.attribute? key = some w ∧
      w.listItems?.isSome = v.listItems?.isSome ∧ inner v w := by
  have found := Value.find?_forall₂ varies.attributes key
  unfold TagNode.attribute?
  revert found
  generalize Value.find? node.attributes key = v?
  generalize Value.find? other.attributes key = w?
  rintro (⟨rfl | branch⟩ | _)
  · exact .inr ⟨_, _, rfl, rfl, rfl, refl _⟩
  · exact .inr ⟨_, _, rfl, rfl, branch.2.2⟩
  · exact .inl ⟨rfl, rfl⟩

end TagNode.Varies
end Varies

def Event.placed (place : Int → Int) : Event → Event
  | .openTag depth tag attributes void => .openTag (place depth) tag attributes void
  | .closeTag depth tag => .closeTag (place depth) tag
  | .text depth html => .text (place depth) html
  | .openComment depth => .openComment (place depth)
  | .closeComment depth => .closeComment (place depth)

theorem Event.placed_id (event : Event) : event.placed id = event := by
  cases event <;> rfl

theorem inward_id (depth : Int) : id (depth + 1) = id depth + 1 := rfl

theorem alike_placed_id {alike : List Event → List Event → Prop} (refl : ∀ events, alike events events)
    (event : Event) : alike [event] [event.placed id] := by
  rw [Event.placed_id]
  exact refl [event]

namespace Render

variable [Stack]

-- Two renders side by side: their settings, where the second one stands in the output
-- for each depth of the first, which scopes and which streams belong together, and why
-- look-ups and joined streams do.
structure Parallel (c : Run.Comparison) where
  left : Settings
  right : Settings
  near : Scope → Scope → Prop
  alike : List Event → List Event → Prop
  tracks : c.Tracks left.fallback right.fallback near
  place : Int → Int
  inward : ∀ depth, place (depth + 1) = place depth + 1
  nil : alike [] []
  single : ∀ event, alike [event] [event.placed place]
  append : ∀ {ws xs ys zs}, alike ws xs → alike ys zs → alike (ws ++ ys) (xs ++ zs)

namespace Parallel

def beside {c : Run.Comparison} {near : Scope → Scope → Prop} (left right : Settings)
    (tracks : c.Tracks left.fallback right.fallback near) : Parallel c where
  left := left
  right := right
  near := near
  alike := Eq
  tracks := tracks
  place := id
  inward := inward_id
  nil := rfl
  single := alike_placed_id fun _ => rfl
  append := congrArg₂ _

variable {c : Run.Comparison} (p : Parallel c) {inner : Value → Value → Prop} {first second : Renderer}
  {node other : TagNode} {nodes : List Value} {scope near : Scope} {depth : Int} {inComment : Bool} {v w : Value}

def Inside (inner : Value → Value → Prop) (first second : Renderer) : Prop :=
  ∀ v w, inner v w → ∀ scope near, p.near scope near → ∀ depth inComment,
    c.Relates p.alike (first ⟨scope, depth, inComment⟩ v) (second ⟨near, p.place depth, inComment⟩ w)

theorem element_relates (close : p.near scope near) (entries : List (Value × Value)) {xs ys : List Event}
    (body : p.alike xs ys) :
    c.Relates p.alike (element p.left node scope depth entries xs)
      (element p.right { node with children := nodes } near (p.place depth) entries ys) := by
  unfold element
  apply c.bind_eq (attributes_relates p.tracks close node.tag entries)
  intro pairs
  apply c.pure
  have around (opening closing : Event) :
      p.alike (opening :: xs ++ [closing]) (opening.placed p.place :: ys ++ [closing.placed p.place]) :=
    p.append (p.append (p.single opening) body) (p.single closing)
  cases node.kind with
  | comment => exact around (.openComment depth) (.closeComment depth)
  | void => exact p.single (.openTag depth node.tag pairs true)
  | container => exact around (.openTag depth node.tag pairs false) (.closeTag depth node.tag)
  | conditional => exact around (.openTag depth node.tag pairs false) (.closeTag depth node.tag)

omit [Stack] in
theorem children_relates (inside : p.Inside inner first second) (close : p.near scope near)
    (related : List.Forall₂ inner node.children nodes) {around outer : Scope} :
    c.Relates p.alike (Render.children first node ⟨around, depth, inComment⟩ scope)
      (Render.children second { node with children := nodes } ⟨outer, p.place depth, inComment⟩ near) := by
  apply c.collect p.nil p.append
  apply related.imp
  intro v w paired
  have placed := inside v w paired scope near close (depth + 1) (inComment || decide (node.kind = .comment))
  rw [p.inward] at placed
  exact placed

theorem bound_relates (inside : p.Inside inner first second) (close : p.near scope near)
    (related : List.Forall₂ inner node.children nodes) (binding : Value) :
    c.Relates p.alike (bound p.left first node ⟨scope, depth, inComment⟩ binding)
      (bound p.right second { node with children := nodes } ⟨near, p.place depth, inComment⟩ binding) := by
  unfold bound
  apply c.bind_eq (Path.checked_relates _ binding)
  intro path
  apply c.bind_eq (p.tracks.resolve close _)
  intro data
  cases data.items? with
  | none =>
    apply c.report_if rfl
    apply c.bind (p.children_relates inside (p.tracks.push close data) related)
    intro xs ys body
    exact p.element_relates (p.tracks.push close data) _ body
  | some items =>
    dsimp only
    apply c.bind_eq (filtered_relates p.tracks close _ items)
    intro kept
    have repeated : c.Relates p.alike
        (Run.collect (fun item =>
          Render.children first node ⟨scope, depth, inComment⟩ (scope.push item)) kept)
        (Run.collect (fun item =>
          Render.children second { node with children := nodes } ⟨near, p.place depth, inComment⟩ (near.push item)) kept) := by
      apply c.collect p.nil p.append
      exact List.forall₂_same.mpr fun item _ => p.children_relates inside (p.tracks.push close item) related
    apply c.bind repeated
    intro xs ys body
    exact p.element_relates close _ body

theorem unbound_relates (inside : p.Inside inner first second) (close : p.near scope near)
    (related : List.Forall₂ inner node.children nodes) :
    c.Relates p.alike (unbound p.left first node ⟨scope, depth, inComment⟩)
      (unbound p.right second { node with children := nodes } ⟨near, p.place depth, inComment⟩) := by
  unfold unbound
  apply c.report_if rfl
  apply c.bind (p.children_relates inside close related)
  intro xs ys body
  exact p.element_relates close _ body

omit [Stack] in
theorem unknownKeys_varies (varies : node.Varies inner other) :
    List.Forall₂ (fun e f => f.1 = e.1) (unknownKeys node) (unknownKeys other) := by
  have kept := List.rel_filter (R := fun e f : Value × Value => f.1 = e.1)
    (p := fun e => !Condition.keys.any fun key => Value.isText key e.1)
    (q := fun e => !Condition.keys.any fun key => Value.isText key e.1) (by intro e f same; simp [same])
  exact kept (varies.attributes.imp fun e f same => same.1)

omit [Stack] in
theorem listBranch?_varies (varies : node.Varies inner other) (refl : ∀ v, inner v v) :
    listBranch? other = listBranch? node := by
  have same (key : String) : ((other.attribute? key).any fun v => v.listItems?.isSome) =
      (node.attribute? key).any fun v => v.listItems?.isSome := by
    obtain ⟨none, none'⟩ | ⟨v, w, found, found', listed, _⟩ := varies.attribute? refl key
    · rw [none, none']
    · rw [found, found']
      exact listed
  simp only [listBranch?, same]

theorem conditional_relates (inside : p.Inside inner first second) (refl : ∀ v, inner v v)
    (close : p.near scope near) (varies : node.Varies inner other) :
    c.Relates p.alike (conditional p.left first node ⟨scope, depth, inComment⟩)
      (conditional p.right second other ⟨near, p.place depth, inComment⟩) := by
  have test : node.attribute? Vocabulary.checkKey = other.attribute? Vocabulary.checkKey :=
    varies.sameTest _ (by decide) (by decide)
  have noChildren := isEmpty_of_forall₂ varies.children
  have ignored : c.Relates Eq (Run.each ignoreKey (unknownKeys node)) (Run.each ignoreKey (unknownKeys other)) := by
    apply c.each
    apply (unknownKeys_varies varies).imp
    intro e f same
    rw [ignoreKey, ignoreKey, same]
    exact c.bind_eq (c.written _) fun _ => c.report _ rfl
  unfold conditional
  rw [listBranch?_varies varies refl, noChildren, test]
  dsimp only
  split
  · apply c.bind_eq ignored
    intro
    split
    case' isFalse => apply c.report_before rfl
    all_goals
      cases listBranch? node with
      | some key => exact c.raise_before (.listBranch key)
      | none =>
        apply c.bind_eq (Condition.check_relates p.tracks close varies.sameTest)
        intro holds
        obtain ⟨none, none'⟩ | ⟨v, w, found, found', _, paired⟩ :=
          varies.attribute? refl (if holds then Vocabulary.thenKey else Vocabulary.elseKey)
        · rw [none, none']
          exact c.pure p.nil
        · rw [found, found']
          exact inside v w paired scope near close depth inComment
  · exact c.raise_before .ifWithoutCheck

theorem shown_relates (inside : p.Inside inner first second) (close : p.near scope near)
    (related : List.Forall₂ inner node.children nodes) :
    c.Relates p.alike
      (match node.attribute? Vocabulary.bindKey with
        | some binding => bound p.left first node ⟨scope, depth, inComment⟩ binding
        | none => unbound p.left first node ⟨scope, depth, inComment⟩)
      (match node.attribute? Vocabulary.bindKey with
        | some binding => bound p.right second { node with children := nodes } ⟨near, p.place depth, inComment⟩ binding
        | none => unbound p.right second { node with children := nodes } ⟨near, p.place depth, inComment⟩) := by
  cases node.attribute? Vocabulary.bindKey with
  | some binding => exact p.bound_relates inside close related binding
  | none => exact p.unbound_relates inside close related

theorem tag_relates (inside : p.Inside inner first second) (refl : ∀ v, inner v v)
    (close : p.near scope near) (varies : node.Varies inner other) :
    c.Relates p.alike (tag p.left first node ⟨scope, depth, inComment⟩)
      (tag p.right second other ⟨near, p.place depth, inComment⟩) := by
  unfold tag
  rw [varies.tag, varies.kind]
  split
  · exact c.raise _
  split
  · exact p.conditional_relates inside refl close varies
  rename_i plain
  split
  · exact c.raise _
  rw [isEmpty_of_forall₂ varies.children, varies.eq_of_plain plain]
  apply c.report_if rfl
  by_cases void : node.kind = .void
  · simp only [if_pos void]
    exact p.shown_relates inside close (.nil : List.Forall₂ inner { node with children := [] }.children [])
  · simp only [if_neg void]
    exact p.shown_relates inside close varies.children

end Parallel

theorem step_of_items {settings : Settings} {render : Renderer} {spot : Spot} {v : Value} {items : List Value}
    (found : v.listItems? = some items) : step settings render spot v = Run.collect (render spot) items := by
  cases v with
  | sequence shape identity vs => simp only [step, found]
  | _ => cases found

theorem step_of_tag {settings : Settings} {render : Renderer} {spot : Spot} {v : Value} {node : TagNode}
    (found : Template.tag? v = some node) : step settings render spot v = tag settings render node spot := by
  obtain ⟨tag, content, inner, got⟩ := Template.tag?_eq_some_iff.mp found
  have read : TagNode.ofEntries [(.text tag, content)] = .ok node :=
    Template.ofEntries_eq_ok_iff.mpr ⟨tag, content, rfl, got⟩
  cases v with
  | mapping identity es =>
    simp only [step, Value.listItems?, inner, read]
    rfl
  | _ => cases inner

namespace Parallel

variable {c : Run.Comparison} (p : Parallel c) {inner : Value → Value → Prop} {first second : Renderer}
  {scope near : Scope} {depth : Int} {inComment : Bool} {v w : Value}

-- The induction step of every statement about two renders.
theorem step_relates (inside : p.Inside inner first second) (refl : ∀ v, inner v v)
    (close : p.near scope near) (varies : Template.Varies inner v w) :
    c.Relates p.alike (step p.left first ⟨scope, depth, inComment⟩ v)
      (step p.right second ⟨near, p.place depth, inComment⟩ w) := by
  have items {vs ws : List Value} (related : List.Forall₂ inner vs ws) : c.Relates p.alike
      (Run.collect (first ⟨scope, depth, inComment⟩) vs) (Run.collect (second ⟨near, p.place depth, inComment⟩) ws) := by
    apply c.collect p.nil p.append
    exact related.imp fun v w paired => inside v w paired scope near close depth inComment
  cases varies with
  | items found found' related =>
    rw [step_of_items found, step_of_items found']
    exact items related
  | tag found found' varies =>
    rw [step_of_tag found, step_of_tag found']
    exact p.tag_relates inside refl close varies
  | same =>
    unfold step
    split
    · apply c.bind_eq (Interpolation.apply_relates p.tracks close _ _)
      intro html
      apply c.pure
      split
      · exact p.nil
      · exact p.single _
    · exact c.pure p.nil
    iterate 3
      · exact c.bind_eq (c.written _) fun _ => c.pure (p.single _)
    · split
      · exact items (List.forall₂_same.mpr fun v _ => refl v)
      · rename_i entries _ _
        apply c.bind_eq (c.ofExcept _ _)
        intro node
        apply p.tag_relates inside refl close
        exact ⟨rfl, rfl, List.forall₂_same.mpr fun e _ => ⟨rfl, .inl rfl⟩, List.forall₂_same.mpr fun v _ => refl v⟩
      · exact c.raise _

-- All levels of one template. The right render may have levels to spare, and what it
-- does with them once the left one has none left is `bottom`.
theorem node_relates
    (lost : ∀ depth problem, c.Relates p.alike (isolate depth (Run.raise problem))
      (isolate (p.place depth) (Run.raise problem)))
    {spare : Nat} (bottom : ∀ scope near, p.near scope near → ∀ depth inComment v,
      c.Relates p.alike (node p.left 0 ⟨scope, depth, inComment⟩ v) (node p.right spare ⟨near, p.place depth, inComment⟩ v))
    (budget : Nat) (close : p.near scope near) (depth : Int) (inComment : Bool) (v : Value) :
    c.Relates p.alike (node p.left budget ⟨scope, depth, inComment⟩ v)
      (node p.right (budget + spare) ⟨near, p.place depth, inComment⟩ v) := by
  induction budget generalizing scope near depth inComment v with
  | zero =>
    rw [Nat.zero_add]
    exact bottom scope near close depth inComment v
  | succ budget ih =>
    have inside : p.Inside Eq (node p.left budget) (node p.right (budget + spare)) := by
      rintro v _ rfl scope near close depth inComment
      exact ih close depth inComment v
    rw [Nat.add_right_comm]
    exact c.rescue (p.step_relates inside (fun _ => rfl) close .same) fun problem _ => lost depth problem

theorem document_relates (wrap : ∀ xs ys, p.alike xs ys → p.alike (wrapped p.left xs) (wrapped p.right ys))
    (mapped : w.isMapping = v.isMapping) (binds : bindsCurrent w = bindsCurrent v)
    (nodes : ∀ data, c.Relates p.alike (node p.left (budget p.left) ⟨⟨data, []⟩, 0, false⟩ v)
      (node p.right (budget p.right) ⟨⟨data, []⟩, 0, false⟩ w)) (data : Value) :
    c.Relates p.alike (document p.left v data) (document p.right w data) := by
  have whole : c.Relates p.alike (root p.left v data) (root p.right w data) := by
    unfold root
    rw [mapped, binds]
    cases data.items? with
    | none => exact nodes data
    | some items =>
      dsimp only
      split
      · apply c.collect p.nil p.append
        exact List.forall₂_same.mpr fun item _ => nodes item
      · exact nodes data
  apply c.bind whole
  intro xs ys related
  exact c.pure (wrap xs ys related)

end Parallel
end Render
end HtmlTemplate
