import HtmlTemplate.Proofs.Exchange
import HtmlTemplate.Proofs.Standalone
namespace HtmlTemplate

namespace TagNode

def shown (node : TagNode) : List Value := if node.kind = .void then [] else node.children

def inner (node : TagNode) (spot : Render.Spot) (scope : Scope) : Render.Spot :=
  ⟨scope, spot.depth + 1, spot.inComment || node.kind = .comment⟩

theorem attribute?_without (node : TagNode) {key : String} {keys : List String} (left : key ∈ keys) :
    TagNode.attribute? { node with attributes := node.without keys } key = none := by
  unfold attribute? without Value.find? Value.entry?
  simp only [Option.map_eq_none_iff, List.find?_eq_none, List.mem_filter, Bool.not_eq_true']
  rintro e ⟨_, other⟩
  simpa using List.any_eq_false.mp other key left

theorem without_without (node : TagNode) {keys more : List String} (within : more ⊆ keys) :
    TagNode.without { node with attributes := node.without keys } more = node.without keys := by
  unfold without
  simp only [List.filter_eq_self, List.mem_filter, Bool.not_eq_true']
  rintro e ⟨_, other⟩
  exact List.any_eq_false.mpr fun key member => List.any_eq_false.mp other key (within member)

end TagNode

namespace Template

def isBinding (e : Value × Value) : Bool :=
  [Vocabulary.bindKey, Vocabulary.filterKey].any fun key => Value.isText key e.1

-- `w` is the tag object `v`, less its binding and its filter.
def Unbound (v w : Value) : Prop :=
  ∃ tag content rest entries, v.entries? = some [(.text tag, content)] ∧ content.entries? = some entries ∧
    w.entries? = some [(.text tag, rest)] ∧ rest.entries? = some (entries.filter fun e => !isBinding e)

variable {v w : Value} {object : TagNode}

theorem tag?_unbound (unbound : Unbound v w) (read : tag? v = some object) :
    tag? w = some { object with attributes := object.without [Vocabulary.bindKey, Vocabulary.filterKey] } := by
  obtain ⟨tag, content, rest, entries, outer, inner, outer', inner'⟩ := unbound
  have children : Value.find? (entries.filter fun e => !isBinding e) Vocabulary.childrenKey =
      Value.find? entries Vocabulary.childrenKey := find?_filter fun _ => rfl
  unfold tag? at read ⊢
  rw [outer] at read
  rw [outer']
  simp only [TagNode.ofContent, inner] at read
  simp only [TagNode.ofContent, inner', children]
  cases listed : TagNode.childrenOf ((Value.find? entries Vocabulary.childrenKey).getD .null) with
  | error problem =>
    rw [listed] at read
    cases read
  | ok nodes =>
    rw [listed] at read
    cases read
    simp only [Except.map, Except.toOption, TagNode.without]
    rw [List.filter_comm]
    rfl

theorem exists_unbound (alone : v.standsAlone = true) (read : tag? v = some object)
    (written : (object.attribute? key).isSome = true) (other : key ≠ Vocabulary.childrenKey) :
    ∃ w, Unbound v w := by
  obtain ⟨tag, content, outer, attributes⟩ := entries_of_tag read
  rw [attributes key other] at written
  unfold Value.get? at written
  cases inner : content.entries? with
  | none => simp [inner] at written
  | some entries =>
    have contentAlone : content.standsAlone = true := by
      have known := Value.standsAlone_entries alone outer
      simp only [Value.entriesUpTo, Bool.and_true] at known
      exact known
    have rest := Value.entriesUpTo_filter (Value.standsAlone_entries contentAlone inner) fun e => !isBinding e
    refine ⟨.mapping 0 [(.text tag, .mapping 0 (entries.filter fun e => !isBinding e))], tag, content, _, entries,
      outer, inner, Value.entries?_mapping ?_ 0, Value.entries?_mapping rest 0⟩
    simp only [Value.entriesUpTo, Value.upTo, Bool.and_true]
    exact Value.entriesUpTo_mono (Nat.zero_le 1) rest

end Template

namespace Render

variable {settings : Settings} {render : Renderer} {object : TagNode} {spot : Spot} {v w data binding : Value}
  {path : String} {items : List Value} {budget : Nat}

theorem settled_bind {ending : Except Failure α} (passed : ∀ problem, ending ≠ .error (.problem problem))
    (next : α → Except Failure (List Event)) : settled (ending.bind next) = ending.bind fun a => settled (next a) := by
  cases ending with
  | ok a => rfl
  | error failure =>
    cases failure with
    | problem problem => exact absurd rfl (passed problem)
    | numeral _ | unwritten _ | nestedKey _ => rfl

def framed (object : TagNode) (depth : Int) (pairs : List (String × String)) (inner : List Event) : List Event :=
  match object.kind with
  | .comment => .openComment depth :: inner ++ [.closeComment depth]
  | .void => [.openTag depth object.tag pairs true]
  | _ => .openTag depth object.tag pairs false :: inner ++ [.closeTag depth object.tag]

theorem outcome_element [Stack] (scope : Scope) (depth : Int) (entries : List (Value × Value)) (inner : List Event) :
    (element settings object scope depth entries inner).outcome =
      (attributes settings object.tag scope entries).outcome.map fun pairs => framed object depth pairs inner :=
  Run.outcome_bind_pure _ _

theorem outcome_tag [Stack] (allowed : Vocabulary.isAllowedTag object.tag = true) (plain : object.kind ≠ .conditional)
    (apart : object.kind = .comment → spot.inComment = false) :
    (tag settings render object spot).outcome =
      match object.attribute? Vocabulary.bindKey with
      | some binding => (bound settings render { object with children := object.shown } spot binding).outcome
      | none => (unbound settings render { object with children := object.shown } spot).outcome := by
  have free : ¬(decide (object.kind = .comment) && spot.inComment) = true := by simpa using apart
  unfold tag
  rw [if_neg (by simp [allowed]), if_neg plain, if_neg free]
  refine Run.outcome_report_if.trans ?_
  unfold TagNode.shown
  by_cases void : object.kind = .void
  · have same : TagNode.attribute? { object with children := [] } Vocabulary.bindKey =
        object.attribute? Vocabulary.bindKey := rfl
    simp only [if_pos void, same]
    cases object.attribute? Vocabulary.bindKey <;> rfl
  · simp only [if_neg void]
    cases object.attribute? Vocabulary.bindKey <;> rfl

theorem outcome_bound [Stack] (accepted : Path.check Vocabulary.bindKey binding = .ok path) :
    (bound settings render object spot binding).outcome =
      (Path.resolve settings.fallback spot.scope (Blank.strip path)).outcome.bind fun data =>
        match data.items? with
        | none =>
          ((children render object spot (spot.scope.push data)).bind fun inner =>
            element settings object (spot.scope.push data) spot.depth
              (object.without [Vocabulary.bindKey, Vocabulary.filterKey]) inner).outcome
        | some items =>
          ((filtered settings spot.scope (object.attribute? Vocabulary.filterKey) items).bind fun items =>
            (Run.collect (fun item => children render object spot (spot.scope.push item)) items).bind fun inner =>
              element settings object spot.scope spot.depth
                (object.without [Vocabulary.bindKey, Vocabulary.filterKey]) inner).outcome := by
  have checked : (Path.checked Vocabulary.bindKey binding).outcome = .ok path := by
    unfold Path.checked
    rw [accepted]
    rfl
  unfold bound
  refine (Run.outcome_bind_of_ok checked _).trans ?_
  refine (Run.outcome_bind _ _).trans ?_
  congr 1
  funext data
  cases data.items? with
  | none => exact Run.outcome_report_if
  | some items => rfl

theorem outcome_bound_of_refused [Stack] {failure : Failure} (refused : Path.check Vocabulary.bindKey binding = .error failure) :
    (bound settings render object spot binding).outcome = .error failure := by
  unfold bound Path.checked
  rw [refused]
  rfl

theorem outcome_around [Stack] (entries : List (Value × Value)) (scope : Scope) (inner : Run (List Event)) :
    (inner.bind (element settings { object with children := object.shown } scope spot.depth entries)).outcome =
      inner.outcome.bind fun inner =>
        (attributes settings object.tag scope entries).outcome.map fun pairs => framed object spot.depth pairs inner := by
  rw [Run.outcome_bind]
  congr 1
  funext inner
  exact outcome_element scope spot.depth entries inner

-- An element that has its children and its attributes in one scope.
def evaluated [Stack] (settings : Settings) (render : Renderer) (object : TagNode) (spot : Spot)
    (entries : List (Value × Value)) : Except Failure (List Event) :=
  (Run.collect (render (object.inner spot spot.scope)) object.shown).outcome.bind fun inner =>
    (attributes settings object.tag spot.scope entries).outcome.map fun pairs => framed object spot.depth pairs inner

section Element

variable [Stack] (allowed : Vocabulary.isAllowedTag object.tag = true) (plain : object.kind ≠ .conditional)
  (apart : object.kind = .comment → spot.inComment = false)
include allowed plain apart

theorem tag_of_unbound (free : object.attribute? Vocabulary.bindKey = none) :
    (tag settings render object spot).outcome =
      evaluated settings render object spot (object.without [Vocabulary.filterKey]) := by
  rw [outcome_tag allowed plain apart, free]
  exact Run.outcome_report_if.trans (outcome_around _ _ _)

variable (written : object.attribute? Vocabulary.bindKey = some binding)
  (valid : Path.check Vocabulary.bindKey binding = .ok path)
  (found : (Path.resolve settings.fallback spot.scope (Blank.strip path)).outcome = .ok data)
include written valid found

theorem tag_of_bound :
    (tag settings render object spot).outcome =
      match data.items? with
      | none =>
        evaluated settings render object { spot with scope := spot.scope.push data }
          (object.without [Vocabulary.bindKey, Vocabulary.filterKey])
      | some items =>
        (filtered settings spot.scope (object.attribute? Vocabulary.filterKey) items).outcome.bind fun items =>
          (Run.collect (fun item =>
            Run.collect (render (object.inner spot (spot.scope.push item))) object.shown) items).outcome.bind fun inner =>
          (attributes settings object.tag spot.scope
            (object.without [Vocabulary.bindKey, Vocabulary.filterKey])).outcome.map fun pairs =>
          framed object spot.depth pairs inner := by
  rw [outcome_tag allowed plain apart, written]
  refine (outcome_bound valid).trans ?_
  rw [found]
  dsimp only [Except.bind]
  cases data.items? with
  | none => exact outcome_around _ _ _
  | some items =>
    refine (Run.outcome_bind _ _).trans ?_
    apply congrArg
    funext items
    exact outcome_around _ _ _

end Element

theorem node_of_tag [Stack] (read : Template.tag? v = some object) :
    (node settings (budget + 1) spot v).outcome = settled (tag settings (node settings budget) object spot).outcome := by
  rw [outcome_node, attempt, step_of_tag read]

section Elimination

variable [Stack] (read : Template.tag? v = some object) (allowed : Vocabulary.isAllowedTag object.tag = true)
  (plain : object.kind ≠ .conditional) (apart : object.kind = .comment → spot.inComment = false)
  (written : object.attribute? Vocabulary.bindKey = some binding)
  (valid : Path.check Vocabulary.bindKey binding = .ok path)
  (found : (Path.resolve settings.fallback spot.scope (Blank.strip path)).outcome = .ok data)
include read allowed plain apart written valid found

theorem node_of_single (single : data.items? = none) (unbound : Template.Unbound v w) :
    (node settings (budget + 1) spot v).outcome =
      (node settings (budget + 1) { spot with scope := spot.scope.push data } w).outcome := by
  have free := object.attribute?_without (List.mem_cons_self : Vocabulary.bindKey ∈ [_, Vocabulary.filterKey])
  have rest := @tag_of_unbound settings (node settings budget)
    { object with attributes := object.without [Vocabulary.bindKey, Vocabulary.filterKey] }
    { spot with scope := spot.scope.push data } _ allowed plain apart free
  rw [object.without_without (List.subset_cons_self _ _)] at rest
  rw [node_of_tag read, tag_of_bound allowed plain apart written valid found, single,
    node_of_tag (Template.tag?_unbound unbound read), rest]
  rfl

theorem node_of_list (listed : data.items? = some items) (whole : object.attribute? Vocabulary.filterKey = none) :
    (node settings (budget + 1) spot v).outcome =
      (Run.collect (fun item => Run.collect (node settings budget (object.inner spot (spot.scope.push item))) object.shown)
        items).outcome.bind fun inner =>
      settled ((attributes settings object.tag spot.scope
        (object.without [Vocabulary.bindKey, Vocabulary.filterKey])).outcome.map fun pairs =>
          framed object spot.depth pairs inner) := by
  rw [node_of_tag read, tag_of_bound allowed plain apart written valid found, listed, whole]
  have passed (problem : Problem) (item : Value) := Run.collect_ne (fun v => node_ne settings budget
    (object.inner spot (spot.scope.push item)) v problem) object.shown
  exact settled_bind (fun problem => Run.collect_ne (passed problem) items) _

-- A binding can be eliminated. One value in place of the data is a scope in which
-- the same tag stands unbound. A sequence is the tag around its children, once more
-- for every item, where the attributes keep the scope outside and a problem in them
-- costs the whole tag.
theorem binding_eliminated :
    (data.items? = none → ∀ w, Template.Unbound v w →
      (node settings (budget + 1) spot v).outcome =
        (node settings (budget + 1) { spot with scope := spot.scope.push data } w).outcome) ∧
    (∀ items, data.items? = some items → object.attribute? Vocabulary.filterKey = none →
      (node settings (budget + 1) spot v).outcome =
        (Run.collect (fun item =>
          Run.collect (node settings budget (object.inner spot (spot.scope.push item))) object.shown)
          items).outcome.bind fun inner =>
        settled ((attributes settings object.tag spot.scope
          (object.without [Vocabulary.bindKey, Vocabulary.filterKey])).outcome.map fun pairs =>
            framed object spot.depth pairs inner)) ∧
    (v.standsAlone = true → ∃ w, Template.Unbound v w) := by
  refine ⟨?_, ?_, ?_⟩
  · intro single w unbound
    exact node_of_single read allowed plain apart written valid found single unbound
  · intro items listed whole
    exact node_of_list read allowed plain apart written valid found listed whole
  · intro alone
    exact Template.exists_unbound alone read (by rw [written]; rfl) (by decide)

end Elimination

def headline (binding : List (Value × Value)) : Value :=
  .mapping 1 [(.text "h1", .mapping 2 (binding ++ [(.text "title", .text "\x7b\x7bname\x7d\x7d"),
    (.text "$children", .sequence .list 3 [.text "\x7b\x7b..team\x7d\x7d"])]))]

def boundHeadline : Value := headline [(.text "$bind", .text "lead"), (.text "$filter", .null)]

def roster : Value :=
  .mapping 1 [(.text "ul", .mapping 2 [(.text "$bind", .text "names"), (.text "class", .text "\x7b\x7bteam\x7d\x7d"),
    (.text "$children", .sequence .list 3 [.mapping 4 [(.text "li", .text "\x7b\x7b.\x7d\x7d")]])])]

def leader : Value := .mapping 6 [(.text "name", .text "Ada")]

def crew : Value :=
  .mapping 5 [(.text "team", .text "Ops"), (.text "lead", leader),
    (.text "names", .sequence .list 7 [.text "Bo", .text "Cy"])]

theorem crew_unbound :
    Template.Unbound boundHeadline (headline []) ∧
    (node {} 2 ⟨⟨crew, []⟩, 0, false⟩ boundHeadline).outcome = (node {} 2 ⟨⟨leader, [crew]⟩, 0, false⟩ (headline [])).outcome ∧
    (node {} 2 ⟨⟨leader, [crew]⟩, 0, false⟩ (headline [])).outcome =
      .ok [.openTag 0 "h1" [("title", "Ada")] false, .text 1 "Ops", .closeTag 0 "h1"] ∧
    (node {} 3 ⟨⟨crew, []⟩, 0, false⟩ roster).outcome =
      .ok [.openTag 0 "ul" [("class", "Ops")] false, .openTag 1 "li" [] false, .text 2 "Bo", .closeTag 1 "li",
        .openTag 1 "li" [] false, .text 2 "Cy", .closeTag 1 "li", .closeTag 0 "ul"] := by
  have unbound : Template.Unbound boundHeadline (headline []) := ⟨"h1", _, _, _, rfl, rfl, rfl, rfl⟩
  have read : Template.tag? boundHeadline = some ⟨"h1", .container, [(.text "$bind", .text "lead"),
    (.text "$filter", .null), (.text "title", .text "\x7b\x7bname\x7d\x7d")], [.text "\x7b\x7b..team\x7d\x7d"]⟩ := rfl
  have found : (Path.resolve ({} : Settings).fallback ⟨crew, []⟩ (Blank.strip "lead")).outcome = .ok leader := rfl
  obtain ⟨same, _, _⟩ := @binding_eliminated {} _ ⟨⟨crew, []⟩, 0, false⟩ _ _ _ _ 1 _ read rfl (by decide)
    (by decide) rfl rfl found
  have readList : Template.tag? roster = some ⟨"ul", .container, [(.text "$bind", .text "names"),
    (.text "class", .text "\x7b\x7bteam\x7d\x7d")], [.mapping 4 [(.text "li", .text "\x7b\x7b.\x7d\x7d")]]⟩ := rfl
  have foundList : (Path.resolve ({} : Settings).fallback ⟨crew, []⟩ (Blank.strip "names")).outcome =
    .ok (.sequence .list 7 [.text "Bo", .text "Cy"]) := rfl
  obtain ⟨_, repeated, _⟩ := @binding_eliminated {} _ ⟨⟨crew, []⟩, 0, false⟩ _ _ _ _ 2 _ readList rfl (by decide)
    (by decide) rfl rfl foundList
  exact ⟨unbound, same rfl _ unbound, rfl, (repeated _ rfl rfl).trans rfl⟩

end Render
end HtmlTemplate
