import HtmlTemplate.Proofs.Boundary
namespace HtmlTemplate

namespace Template

-- `w` is `v`, with `new` in one place directly inside where `v` has `old`: among the
-- items of a list, among the children of a tag, or as a branch of a condition. A
-- branch may not become a list, nor cease to be one.
inductive Swap (old new v w : Value) : Prop where
  | item (before after : List Value) : v.listItems? = some (before ++ old :: after) →
      w.listItems? = some (before ++ new :: after) → Swap old new v w
  | child (node : TagNode) (before after : List Value) :
      tag? v = some { node with children := before ++ old :: after } →
      tag? w = some { node with children := before ++ new :: after } → Swap old new v w
  | branch (node : TagNode) (key : String) (before after : List (Value × Value)) :
      node.kind = .conditional → key = Vocabulary.thenKey ∨ key = Vocabulary.elseKey →
      new.listItems?.isSome = old.listItems?.isSome →
      tag? v = some { node with attributes := before ++ (.text key, old) :: after } →
      tag? w = some { node with attributes := before ++ (.text key, new) :: after } → Swap old new v w

inductive Exchanged (old new : Value) : Value → Value → Prop where
  | inside : Swap old new v w → Exchanged old new v w
  | deeper : Exchanged old new a b → Swap a b v w → Exchanged old new v w

variable {old new v w : Value} {R : Value → Value → Prop} {node : TagNode}

theorem forall₂_swap {S : α → α → Prop} (refl : ∀ a, S a a) {old new : α} (paired : S old new)
    (before after : List α) : List.Forall₂ S (before ++ old :: after) (before ++ new :: after) := by
  induction before with
  | nil => exact .cons paired (List.forall₂_same.mpr fun a _ => refl a)
  | cons a before ih => exact .cons (refl a) ih

theorem Swap.varies (swap : Swap old new v w) (refl : ∀ v, R v v) (paired : R old new) : Varies R v w := by
  cases swap with
  | item before after found found' => exact .items found found' (forall₂_swap refl paired before after)
  | child node before after found found' =>
    refine .tag found found' ⟨rfl, rfl, ?_, forall₂_swap refl paired before after⟩
    exact List.forall₂_same.mpr fun e _ => ⟨rfl, .inl rfl⟩
  | branch node key before after condition branch listed found found' =>
    refine .tag found found' ⟨rfl, rfl, ?_, List.forall₂_same.mpr fun v _ => refl v⟩
    have isBranch : Value.text key = .text Vocabulary.thenKey ∨ Value.text key = .text Vocabulary.elseKey :=
      branch.imp (congrArg _) (congrArg _)
    exact forall₂_swap (fun e => ⟨rfl, .inl rfl⟩) ⟨rfl, .inr ⟨condition, isBranch, listed, paired⟩⟩ before after

def Replaced (old new v w : Value) : Prop := v = w ∨ v = old ∧ w = new ∨ Exchanged old new v w

theorem Exchanged.varies (exchanged : Exchanged old new v w) : Varies (Replaced old new) v w := by
  have refl (v : Value) : Replaced old new v v := .inl rfl
  cases exchanged with
  | inside swap => exact swap.varies refl (.inr (.inl ⟨rfl, rfl⟩))
  | deeper below swap => exact swap.varies refl (.inr (.inr below))

theorem find?_filter {entries : List (Value × Value)} {keep : Value × Value → Bool}
    (kept : ∀ v, keep (.text key, v) = true) :
    Value.find? (entries.filter keep) key = Value.find? entries key := by
  unfold Value.find? Value.entry?
  rw [List.find?_filter]
  congr 2
  funext ⟨other, v⟩
  cases found : Value.isText key other with
  | true =>
    cases Value.isText_iff.mp found
    simp [kept]
  | false => simp

theorem attribute?_of_content {content : Value} (read : TagNode.ofContent tag content = .ok node)
    (other : key ≠ Vocabulary.childrenKey) : node.attribute? key = content.get? key := by
  unfold TagNode.ofContent at read
  unfold TagNode.attribute? Value.get?
  split at read
  · rename_i entries mapped
    obtain ⟨children, _, rfl⟩ := map_eq_ok.mp read
    rw [mapped]
    exact find?_filter fun _ => by simpa [Value.isText] using other
  · rename_i single
    rw [single]
    split at read
    case' h_7 => cases read
    case h_1 | h_2 | h_3 =>
      obtain ⟨children, _, rfl⟩ := map_eq_ok.mp read
      rfl
    all_goals
      cases read
      rfl

theorem entries_of_tag (found : tag? v = some node) :
    ∃ tag content, v.entries? = some [(.text tag, content)] ∧
      ∀ key, key ≠ Vocabulary.childrenKey → node.attribute? key = content.get? key := by
  obtain ⟨tag, content, mapped, read⟩ := tag?_eq_some_iff.mp found
  exact ⟨tag, content, mapped, fun key other => attribute?_of_content read other⟩

theorem bindsCurrent_of_tag (found : tag? v = some node) :
    Render.bindsCurrent v = (node.attribute? Vocabulary.bindKey).any (Value.isText ".") := by
  obtain ⟨tag, content, mapped, written⟩ := entries_of_tag found
  unfold Render.bindsCurrent
  rw [mapped, written _ (by decide)]

theorem Varies.root (varies : Varies R v w) :
    w.isMapping = v.isMapping ∧ Render.bindsCurrent w = Render.bindsCurrent v := by
  cases varies with
  | same => exact ⟨rfl, rfl⟩
  | items found found' =>
    have noMapping {v : Value} {items : List Value} (found : v.listItems? = some items) : v.entries? = none := by
      cases v with
      | sequence => rfl
      | _ => cases found
    simp [Value.isMapping, Render.bindsCurrent, noMapping found, noMapping found']
  | tag found found' varies =>
    obtain ⟨_, _, mapped, _⟩ := entries_of_tag found
    obtain ⟨_, _, mapped', _⟩ := entries_of_tag found'
    refine ⟨by simp [Value.isMapping, mapped, mapped'], ?_⟩
    rw [bindsCurrent_of_tag found, bindsCurrent_of_tag found']
    have same := varies.sameTest Vocabulary.bindKey (by decide) (by decide)
    rw [TagNode.attribute?, TagNode.attribute?, same]

end Template

def Run.endings : Run.Comparison :=
  .upTo (fun _ => False) (fun _ _ => True) trivial (fun _ _ => trivial) fun _ _ => trivial

theorem Run.endings_iff {α : Type} {left right : Run α} :
    Run.endings.Relates Eq left right ↔ left.outcome = right.outcome := by
  constructor
  · rintro (⟨_, _, ⟨⟩⟩ | ⟨_, meets⟩)
    exact meets_eq_iff.mp meets
  · intro same
    exact .inr ⟨trivial, meets_eq_iff.mpr same⟩

namespace Render

variable {settings : Settings} {old new v w template changed : Value}

-- Two nodes with the same events in every scope, at every depth, at every level that
-- a render can come to, and in comments as outside of them.
def Interchangeable [Stack] (settings : Settings) (v w : Value) : Prop :=
  ∀ level ≤ budget settings, ∀ spot, (node settings level spot v).outcome = (node settings level spot w).outcome

def AlwaysFails [Stack] (settings : Settings) (v : Value) : Prop :=
  ∀ level ≤ budget settings, ∀ spot, ∃ problem, (attempt settings level spot v).outcome = .error (.problem problem)

theorem interchangeable_null [Stack] (fails : AlwaysFails settings v) : Interchangeable settings v .null := by
  intro level within spot
  obtain ⟨problem, failed⟩ := fails level within spot
  rw [node_eq_isolate, isolate_of_problem failed]
  cases level <;> rfl

theorem ending_tracks (settings : Settings) : Run.endings.Tracks settings.fallback settings.fallback Eq :=
  Run.endings.tracks_same fun _ _ => Run.endings_iff.mpr rfl

def ending (settings : Settings) : Parallel Run.endings := .beside settings settings (ending_tracks settings)

-- The induction is on the levels: nodes that differ only inside end alike, if those
-- inside do.
theorem interchangeable_of_replaced [Stack] (same : Interchangeable settings old new)
    (replaced : Template.Replaced old new v w) : Interchangeable settings v w := by
  intro level within spot
  induction level generalizing v w spot with
  | zero => rfl
  | succ level ih =>
    obtain rfl | ⟨rfl, rfl⟩ | exchanged := replaced
    · rfl
    · exact same _ within spot
    · rw [node_eq_isolate, node_eq_isolate]
      have inside : (ending settings).Inside (Template.Replaced old new) (node settings level)
          (node settings level) := by
        rintro v w replaced scope _ rfl depth inComment
        exact Run.endings_iff.mpr (ih replaced (by omega) _)
      have steps : Run.endings.Relates Eq (attempt settings (level + 1) spot v) (attempt settings (level + 1) spot w) :=
        (ending settings).step_relates inside (fun _ => .inl rfl) rfl exchanged.varies
      apply Run.endings_iff.mp
      exact Run.endings.rescue steps fun _ _ => Run.endings_iff.mpr rfl

-- What stands in one place below the root can be exchanged for whatever renders to
-- the same events; so a node that always fails can as well be left out.
theorem document_of_exchanged [Stack] (settings : Settings) (exchanged : Template.Exchanged old new template changed)
    (data : Value) :
    (Interchangeable settings old new →
      (document settings template data).outcome = (document settings changed data).outcome) ∧
    (AlwaysFails settings old → new = .null →
      (document settings template data).outcome = (document settings changed data).outcome) := by
  have congruence (same : Interchangeable settings old new) :
      (document settings template data).outcome = (document settings changed data).outcome := by
    have nodes := interchangeable_of_replaced same (.inr (.inr exchanged))
    obtain ⟨mapped, binds⟩ := exchanged.varies.root
    have whole := (ending settings).document_relates (by rintro _ _ rfl; rfl) mapped binds
      (fun _ => Run.endings_iff.mpr (nodes _ le_rfl _)) data
    exact Run.endings_iff.mp whole
  refine ⟨congruence, ?_⟩
  rintro fails rfl
  exact congruence (interchangeable_null fails)

def scriptTag : Value := .mapping 4 [(.text "script", .sequence .list 5 [])]

def listing (branch : Value) : Value :=
  .mapping 1 [(.text "ul", .mapping 2 [(.text "$bind", .text "."), (.text "$children", .sequence .list 3
    [.mapping 6 [(.text "$if", .mapping 7 [(.text "$check", .text "."), (.text "$then", branch)])], .text "x"])])]

theorem listing_without_script :
    AlwaysFails {} scriptTag ∧ Template.Exchanged scriptTag .null (listing scriptTag) (listing .null) ∧
    (document {} (listing scriptTag) (.sequence .list 8 [.bool true])).outcome =
      (document {} (listing .null) (.sequence .list 8 [.bool true])).outcome ∧
    (document {} (listing scriptTag) (.sequence .list 8 [.bool true])).outcome =
      .ok [.openTag 0 "ul" [] false, .text 1 "x", .closeTag 0 "ul"] := by
  have fails : AlwaysFails {} scriptTag := by
    intro level _ spot
    cases level with
    | zero => exact ⟨_, rfl⟩
    | succ level => exact ⟨_, rfl⟩
  have exchanged : Template.Exchanged scriptTag .null (listing scriptTag) (listing .null) := by
    apply Template.Exchanged.deeper (.inside _)
    · exact .child ⟨"ul", .container, [(.text "$bind", .text ".")], []⟩ [] [.text "x"] rfl rfl
    · exact .branch ⟨"$if", .conditional, [], []⟩ "$then" [(.text "$check", .text ".")] [] rfl (.inl rfl) rfl rfl rfl
  obtain ⟨same, gone⟩ := document_of_exchanged {} exchanged (.sequence .list 8 [.bool true])
  exact ⟨fails, exchanged, gone fails rfl, (same (interchangeable_null fails)).trans rfl⟩

end Render
end HtmlTemplate
