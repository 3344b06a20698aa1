import HtmlTemplate.Escape.Named
import HtmlTemplate.Proofs.Failures
import HtmlTemplate.Proofs.Guard
import HtmlTemplate.Template
namespace HtmlTemplate

open Run Failure

namespace Render

variable [Stack] {g : Ground} {settings : Settings} {scope : Scope} {render : Renderer} {node : TagNode} {spot : Spot} {v template : Value}

section Attributes

variable (answers : g.Answers settings.fallback) (sees : g.Sees scope)
include answers sees

theorem plainText_stops {value : Value} (short : g.Short value)
    (written : ∀ path ∈ Attribute.textPaths value, g.path path) :
    (plainText settings scope value).Stops (Inside g) := by
  cases value with
  | text s => exact Interpolation.apply_stops answers sees written
  | _ => exact stops_written fun _ => leaves_of_stringify short

theorem branchText_stops {name : String} {branch : Value} (given : g.value branch ∨ branch = .text "")
    (written : ∀ path ∈ Attribute.branchPaths name branch, g.path path) :
    (branchText settings scope name branch).Stops (Within (fun _ => True) g) := by
  unfold Attribute.branchPaths at written
  unfold branchText
  split
  · rename_i styled
    rw [if_pos styled] at written
    have knows (entries : List (Value × Value)) (found : branch.entries? = some entries) : g.Knows entries := by
      obtain inside | rfl := given
      · exact Ground.knows_entries inside found
      · cases found
    have clean : (Style.sanitize (Interpolation.inAttribute.apply settings.fallback scope) branch).Stops (Inside g) := by
      refine Style.sanitize_stops knows fun e member s text => ?_
      refine Interpolation.apply_stops answers sees fun path inText => written path ?_
      exact List.mem_flatMap.mpr ⟨e, member, by rwa [text]⟩
    exact (clean.mono fun _ => Inside.within).bind fun _ _ => stops_pure
  · rename_i unstyled
    rw [if_neg unstyled] at written
    have short : g.Short branch := by
      obtain inside | rfl := given
      · exact g.isShort inside
      · exact fun _ => rfl
    refine ((plainText_stops answers sees short written).mono fun _ => Inside.within).bind fun _ _ => ?_
    split
    · exact (stops_ofExcept fun _ _ => .inl ⟨_, rfl, trivial⟩).bind fun _ _ => stops_pure
    · exact stops_pure

theorem attributeText_stops {name : String} {value : Value} (known : g.value value)
    (written : ∀ path ∈ Attribute.valuePaths name value, g.path path) :
    (attributeText settings scope name value).Stops (Within (fun _ => True) g) := by
  rw [attributeText_eq]
  unfold Attribute.valuePaths at written
  cases conditional : Condition.conditional? value with
  | none =>
    rw [conditional] at written
    exact branchText_stops answers sees (.inl known) written
  | some descriptor =>
    simp only [conditional, List.mem_append, List.mem_flatMap] at written
    have knows := Ground.knows_conditional known conditional
    have chosen : (Condition.choose settings.fallback scope descriptor).Stops (Inside g) :=
      Condition.choose_stops knows fun path member => written path (.inl member)
    refine (chosen.mono fun _ => Inside.within).bind fun branch returned => ?_
    obtain ⟨key, listed, same⟩ := Condition.choose_ensures branch returned
    have given : g.value branch ∨ branch = .text "" := by
      cases found : Value.find? descriptor key with
      | none => exact .inr (by rw [same, found]; rfl)
      | some v => exact .inl (by rw [same, found]; exact knows.find? found)
    exact branchText_stops answers sees given fun path member => written path (.inr ⟨key, listed, same ▸ member⟩)

theorem pair_stops {tag : String} {key value : Value} (named : g.value key) (known : g.value value)
    (written : ∀ path ∈ Attribute.paths tag key value, g.path path) :
    (pair settings tag scope key value).Stops (Inside g) := by
  have inner : (do
      let name ← Run.ofExcept id (Attribute.check key tag)
      let text? ← attributeText settings scope name value
      Pure.pure (text?.map fun text => (name, text)).toList : Run (List (String × String))).Stops
        (Within (fun _ => True) g) := by
    refine (stops_ofExcept fun _ => Attribute.within_of_check named).bind fun name passed => ?_
    obtain ⟨rfl, allowed⟩ := check_eq_ok (ensures_ofExcept _ _ name passed)
    have listed : Attribute.paths tag (.text name) value = Attribute.valuePaths name value := if_pos allowed
    exact (attributeText_stops answers sees known (listed ▸ written)).bind fun _ _ => stops_pure
  refine inner.rescue (fun _ _ => stops_record.bind fun _ _ => stops_pure) ?_
  rintro failure (⟨problem, rfl, _⟩ | leaves) passed
  · refine .inl ⟨problem, rfl, ?_⟩
    have kept := passed problem rfl
    cases severity : problem.severity <;> simp [severity] at kept ⊢
  · exact .inr leaves

theorem attributes_stops {tag : String} {entries : List (Value × Value)} (knows : g.Knows entries)
    (written : ∀ path ∈ entries.flatMap fun e => Attribute.paths tag e.1 e.2, g.path path) :
    (attributes settings tag scope entries).Stops (Inside g) :=
  stops_collect fun e member => pair_stops answers sees (knows e member).1 (knows e member).2 fun path inside =>
    written path (List.mem_flatMap.mpr ⟨e, member, inside⟩)

end Attributes

structure Written (g : Ground) (node : TagNode) : Prop where
  knows : g.Knows node.attributes
  binding : ∀ path ∈ (node.attribute? Vocabulary.bindKey).toList.flatMap Path.written, g.path path
  filter : ∀ path ∈ ((node.attribute? Vocabulary.filterKey).bind Condition.conditional?).toList.flatMap Condition.paths,
    g.path path
  attributes : ∀ e ∈ node.attributes, ∀ path ∈ Attribute.paths node.tag e.1 e.2, g.path path

omit [Stack] in
theorem written_of_paths (plain : node.kind ≠ .conditional) (knows : g.Knows node.attributes)
    (written : ∀ path ∈ node.paths, g.path path) : Written g node := by
  simp only [TagNode.paths, if_neg plain, List.mem_append] at written
  exact ⟨knows, fun path member => written path (.inl (.inl member)),
    fun path member => written path (.inl (.inr member)),
    fun e member path inside => written path (.inr (List.mem_flatMap.mpr ⟨e, member, inside⟩))⟩

def InnerStops (g : Ground) (render : Renderer) (nodes : List Value) : Prop :=
  ∀ v ∈ nodes, ∀ spot, g.Sees spot.scope → (render spot v).Stops (Leaves g)

theorem children_stops (inner : InnerStops g render node.children) (sees : g.Sees scope) :
    (children render node spot scope).Stops (Inside g) :=
  stops_collect fun child member => (inner child member _ sees).mono fun _ => .inr

section Nodes

variable (answers : g.Answers settings.fallback)
include answers

theorem element_stops {entries : List (Value × Value)} {depth : Int} {events : List Event} (sees : g.Sees scope)
    (written : Written g node) (part : entries.Sublist node.attributes) :
    (element settings node scope depth entries events).Stops (Inside g) := by
  refine (attributes_stops answers sees (written.knows.sublist part) fun path member => ?_).bind fun _ _ => stops_pure
  obtain ⟨e, kept, inside⟩ := List.mem_flatMap.mp member
  exact written.attributes e (part.subset kept) path inside

omit answers in
theorem filtered_stops {filter : Option Value} {items : List Value} (known : ∀ v, filter = some v → g.value v)
    (written : ∀ path ∈ (filter.bind Condition.conditional?).toList.flatMap Condition.paths, g.path path) :
    (filtered settings scope filter items).Stops (Inside g) := by
  unfold filtered
  split
  · exact stops_pure
  · rename_i condition
    split
    · exact stops_raise rfl
    · rename_i descriptor found
      have knows := Ground.knows_conditional (known condition rfl) found
      refine stops_keep fun item _ => Condition.check_stops knows fun path member => written path ?_
      simpa [found] using member

omit answers in
theorem filtered_sublist {filter : Option Value} {items : List Value} :
    (filtered settings scope filter items).Ensures (·.Sublist items) := by
  unfold filtered
  split
  · exact ensures_pure (List.Sublist.refl items)
  · split
    · exact ensures_fail
    · exact ensures_keep

theorem bound_stops {binding : Value} (sees : g.Sees spot.scope)
    (found : node.attribute? Vocabulary.bindKey = some binding) (written : Written g node)
    (inner : InnerStops g render node.children) : (bound settings render node spot binding).Stops (Inside g) := by
  unfold bound
  refine (Path.checked_stops (written.knows.find? found)).bind fun path passed => ?_
  have listed := written.binding (Blank.strip path) (by simpa [found] using Path.written_of_checked passed)
  refine (Path.resolve_stops listed).bind fun data resolved => ?_
  have short := Path.resolve_short answers sees data resolved
  split
  · dsimp only
    split
    case' isTrue => refine stops_record.bind fun _ _ => ?_
    all_goals
      refine (children_stops inner (sees.push short)).bind fun _ _ => ?_
      exact element_stops answers (sees.push short) written List.filter_sublist
  · rename_i items sequence
    refine (filtered_stops (fun v => written.knows.find?) written.filter).bind fun kept returned => ?_
    refine (stops_collect fun item member => children_stops inner (sees.push ?_)).bind fun _ _ => ?_
    · exact fun all => Value.isShort_items (short all) sequence item ((filtered_sublist kept returned).subset member)
    · exact element_stops answers sees written List.filter_sublist

theorem unbound_stops (sees : g.Sees spot.scope) (written : Written g node)
    (inner : InnerStops g render node.children) : (unbound settings render node spot).Stops (Inside g) := by
  unfold unbound
  dsimp only
  split
  case' isTrue => refine stops_record.bind fun _ _ => ?_
  all_goals exact (children_stops inner sees).bind fun _ _ => element_stops answers sees written List.filter_sublist

omit answers in
theorem conditional_stops (sees : g.Sees spot.scope) (conditional : node.kind = .conditional)
    (knows : g.Knows node.attributes) (written : ∀ path ∈ node.paths, g.path path)
    (inner : InnerStops g render (Template.branches node)) :
    (Render.conditional settings render node spot).Stops (Inside g) := by
  rw [TagNode.paths, if_pos conditional] at written
  have ignored : (Run.each ignoreKey (unknownKeys node)).Stops (Inside g) := by
    refine stops_each fun e member => ?_
    have key := (knows e (List.mem_of_mem_filter member)).1
    exact (stops_written fun _ => leaves_of_display key).bind fun _ _ => stops_record
  unfold Render.conditional
  dsimp only
  split
  · refine ignored.bind fun _ _ => ?_
    split
    case' isFalse => refine stops_record.bind fun _ _ => ?_
    all_goals
      split
      · exact (stops_raise rfl).bind fun _ returned => by cases returned
      · refine (Condition.check_stops knows written).bind fun holds _ => ?_
        split
        · rename_i branch found
          refine (inner branch ?_ spot sees).mono fun _ => .inr
          rw [Template.branches, if_pos conditional]
          refine List.mem_filterMap.mpr ⟨_, ?_, found⟩
          cases holds <;> simp
        · exact stops_pure
  · exact (stops_raise rfl).bind fun _ returned => by cases returned

theorem tag_stops (sees : g.Sees spot.scope) (knows : g.Knows node.attributes)
    (written : ∀ path ∈ node.paths, g.path path) (inner : InnerStops g render node.children)
    (inBranch : InnerStops g render (Template.branches node)) : (tag settings render node spot).Stops (Inside g) := by
  unfold tag
  split
  · exact stops_raise rfl
  split
  · rename_i conditional
    exact conditional_stops sees conditional knows written inBranch
  rename_i plain
  split
  · exact stops_raise rfl
  have rest (kept : TagNode)
      (same : kept = if node.kind = Vocabulary.TagKind.void then { node with children := [] } else node) :
      Written g kept ∧ InnerStops g render kept.children := by
    have whole := written_of_paths plain knows written
    by_cases void : node.kind = Vocabulary.TagKind.void
    · rw [same, if_pos void]
      exact ⟨⟨whole.knows, whole.binding, whole.filter, whole.attributes⟩, by simp [InnerStops]⟩
    · rw [same, if_neg void]
      exact ⟨whole, inner⟩
  obtain ⟨keptWritten, keptInner⟩ := rest _ rfl
  dsimp only
  split
  case' isTrue => refine stops_record.bind fun _ _ => ?_
  all_goals
    split
    · rename_i binding found
      exact bound_stops answers sees found keptWritten keptInner
    · exact unbound_stops answers sees keptWritten keptInner

theorem step_stops (sees : g.Sees spot.scope) (known : g.value v) (written : ∀ path ∈ Template.partPaths v, g.path path)
    (inner : InnerStops g render (Template.inside v)) : (step settings render spot v).Stops (Inside g) := by
  have scalar : (Run.written v.stringify).Stops (Inside g) :=
    stops_written fun _ => leaves_of_stringify (g.isShort known)
  unfold step
  split
  · exact (Interpolation.apply_stops answers sees written).bind fun _ _ => stops_pure
  · exact stops_pure
  · exact scalar.bind fun _ _ => stops_pure
  · exact scalar.bind fun _ _ => stops_pure
  · exact scalar.bind fun _ _ => stops_pure
  · split
    · rename_i items found
      have listed : Template.inside v = items := by simp [Template.inside, found]
      exact stops_collect fun child member => (inner child (listed ▸ member) spot sees).mono fun _ => .inr
    · rename_i entries noList found
      have knows := Ground.knows_entries known found
      refine (stops_ofExcept fun _ => TagNode.inside_of_ofEntries knows).bind fun node passed => ?_
      have read : TagNode.ofEntries entries = .ok node := ensures_ofExcept _ _ node passed
      have isTag : Template.tag? v = some node := Template.tag?_of_entries found read
      have listed : Template.inside v = node.children ++ Template.branches node := by
        simp [Template.inside, noList, isTag]
      have attributes : g.Knows node.attributes := fun e member =>
        ((Template.holds_tag isTag).1 e member).imp (g.held known) (g.held known)
      rw [listed] at inner
      refine tag_stops answers sees attributes (fun path member => written path ?_)
        (fun child member => inner child (List.mem_append_left _ member))
        (fun child member => inner child (List.mem_append_right _ member))
      unfold Template.partPaths
      split
      · cases found
      · simpa [isTag] using member
    · exact stops_raise rfl

omit answers in
theorem isolate_stops {run : Run (List Event)} {depth : Int} (first : run.Stops (Inside g)) :
    (isolate depth run).Stops (Leaves g) := by
  refine first.rescue (fun _ _ => stops_record.bind fun _ _ => stops_record.bind fun _ _ => stops_pure) ?_
  rintro failure (⟨problem, rfl, _⟩ | leaves) passed
  · exact absurd (passed problem rfl) (by simp)
  · exact leaves

end Nodes
end Render

-- What a render of a template comes upon, where a template of short integers alone is
-- among what makes them all short.
def Template.ground (template : Value) (short : Prop) (within : short → template.isShort = true) : Ground where
  path := Writes template
  value := template.Holds
  short := short
  held := Value.Holds.trans
  isShort held all := Value.isShort_of_holds (within all) held

namespace Render

variable [Stack] {settings : Settings} {template v : Value} {short : Prop} {within : short → template.isShort = true}
  (answers : (Template.ground template short within).Answers settings.fallback)
include answers

-- The induction is on the levels that may still be entered.
theorem node_stops {spot : Spot} (budget : Nat) (part : Template.Part template v)
    (sees : (Template.ground template short within).Sees spot.scope) :
    (Render.node settings budget spot v).Stops (Leaves (Template.ground template short within)) := by
  induction budget generalizing v spot with
  | zero => exact isolate_stops (stops_raise rfl)
  | succ budget ih =>
    exact isolate_stops (step_stops answers sees part.holds (fun path member => ⟨v, part, member⟩)
      fun child member spot => ih (.inner part member))

theorem root_stops {data : Value} (given : (Template.ground template short within).Short data) :
    (root settings template data).Stops (Leaves (Template.ground template short within)) := by
  have sees {v : Value} (own : (Template.ground template short within).Short v) :
      (Template.ground template short within).Sees ⟨v, []⟩ := by
    rintro w (rfl | outer)
    · exact own
    · cases outer
  unfold root
  dsimp only
  split
  · rename_i items found
    split
    · refine stops_collect fun item member => node_stops answers _ .whole (sees fun all => ?_)
      exact Value.isShort_items (given all) found item member
    · exact node_stops answers _ .whole (sees given)
  · exact node_stops answers _ .whole (sees given)

theorem document_stops {data : Value} (given : (Template.ground template short within).Short data) :
    (document settings template data).Stops (Leaves (Template.ground template short within)) :=
  (root_stops answers given).bind fun _ _ => stops_pure

end Render

namespace Input

end Input
end HtmlTemplate
