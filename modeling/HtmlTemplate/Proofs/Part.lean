import HtmlTemplate.Proofs.Keys
import HtmlTemplate.Proofs.Unwritten
import HtmlTemplate.TagNode
namespace HtmlTemplate.Template

def tag? (v : Value) : Option TagNode :=
  match v.entries? with
  | some [(.text tag, content)] => (TagNode.ofContent tag content).toOption
  | _ => none

theorem ofEntries_eq_ok_iff [Stack] {entries : List (Value × Value)} {node : TagNode} :
    TagNode.ofEntries entries = .ok node ↔
      ∃ tag content, entries = [(.text tag, content)] ∧ TagNode.ofContent tag content = .ok node := by
  constructor
  · intro read
    unfold TagNode.ofEntries at read
    split at read
    · rename_i tag content
      cases got : TagNode.ofContent tag content with
      | error problem =>
        rw [got] at read
        cases read
      | ok normal =>
        rw [got] at read
        cases read
        exact ⟨tag, content, rfl, got⟩
    · cases read
    · cases read
  · rintro ⟨tag, content, rfl, read⟩
    rw [TagNode.ofEntries, read]
    rfl

theorem tag?_eq_some_iff {v : Value} {node : TagNode} :
    tag? v = some node ↔
      ∃ tag content, v.entries? = some [(.text tag, content)] ∧ TagNode.ofContent tag content = .ok node := by
  constructor
  · intro found
    unfold tag? at found
    split at found
    · rename_i tag content inner
      cases got : TagNode.ofContent tag content with
      | error problem => simp [got, Except.toOption] at found
      | ok normal =>
        simp only [got, Except.toOption, Option.some.injEq] at found
        exact ⟨tag, content, inner, found ▸ got⟩
    · cases found
  · rintro ⟨tag, content, inner, read⟩
    simp [tag?, inner, read, Except.toOption]

theorem tag?_of_entries [Stack] {v : Value} {node : TagNode} {entries : List (Value × Value)}
    (found : v.entries? = some entries) (read : TagNode.ofEntries entries = .ok node) : tag? v = some node := by
  obtain ⟨tag, content, rfl, got⟩ := ofEntries_eq_ok_iff.mp read
  exact tag?_eq_some_iff.mpr ⟨tag, content, found, got⟩

-- Only a condition has branches; elsewhere the two keys are attributes like any other.
def branches (node : TagNode) : List Value :=
  if node.kind = .conditional then
    [Vocabulary.thenKey, Vocabulary.elseKey].filterMap node.attribute?
  else []

def inside (v : Value) : List Value :=
  match v.listItems?, tag? v with
  | some items, _ => items
  | none, some node => node.children ++ branches node
  | none, none => []

-- All nodes of a template, itself among them. A template that holds itself has
-- them nested without end, but not more of them.
inductive Part : Value → Value → Prop where
  | whole : Part template template
  | inner : Part template part → child ∈ inside part → Part template child

theorem Part.mem {nodes : List Value} (known : template ∈ nodes)
    (closed : ∀ node ∈ nodes, ∀ child ∈ inside node, child ∈ nodes) (part : Part template v) : v ∈ nodes := by
  induction part with
  | whole => exact known
  | inner _ member ih => exact closed _ ih _ member

def names (entries : List (Value × Value)) : List String :=
  entries.filterMap fun e =>
    match e.1 with
    | .text name => some name
    | _ => none

theorem mem_names {entries : List (Value × Value)} : name ∈ names entries ↔ ∃ v, (.text name, v) ∈ entries := by
  induction entries with
  | nil => simp [names]
  | cons e entries ih =>
    obtain ⟨key, v⟩ := e
    simp only [names, List.mem_filterMap] at ih ⊢
    grind

theorem names_nodup {entries : List (Value × Value)} (once : Value.hasDuplicateKey entries = false) :
    (names entries).Nodup := by
  induction entries with
  | nil => exact List.nodup_nil
  | cons e entries ih =>
    obtain ⟨key, v⟩ := e
    simp only [Value.hasDuplicateKey, Bool.or_eq_false_iff] at once
    have rest := ih once.2
    cases key with
    | text name =>
      refine List.nodup_cons.mpr ⟨?_, rest⟩
      intro again
      obtain ⟨w, member⟩ := mem_names.mp again
      have differs := List.any_eq_false.mp once.1 _ member
      simp [Value.sameKey, Value.keyNumber?, Value.number?, Value.same] at differs
    | _ => exact rest

theorem keysOnce_childrenOf {v : Value} (once : v.keysOnce = true) (read : TagNode.childrenOf v = .ok children) :
    ∀ child ∈ children, child.keysOnce = true := by
  unfold TagNode.childrenOf at read
  split at read
  · cases read; simp
  · cases read; simp [Value.keysOnce]
  · split at read
    · cases read
      rename_i items found
      exact Value.keysOnce_listItems once found
    · cases read

structure KeysOnce (node : TagNode) : Prop where
  names : (names node.attributes).Nodup
  attributes : Value.entriesKeysOnce node.attributes = true
  children : ∀ child ∈ node.children, child.keysOnce = true

theorem keysOnce_ofContent {content : Value} (once : content.keysOnce = true)
    (read : TagNode.ofContent tag content = .ok node) : KeysOnce node := by
  unfold TagNode.ofContent at read
  split at read
  · rename_i entries found
    obtain ⟨single, each⟩ := Value.keysOnce_entries once found
    have listed : ((Value.find? entries Vocabulary.childrenKey).getD .null).keysOnce = true := by
      cases got : Value.find? entries Vocabulary.childrenKey with
      | none => rfl
      | some v => exact Value.keysOnce_find? each got
    obtain ⟨children, got, rfl⟩ := map_eq_ok.mp read
    exact ⟨(names_nodup single).sublist (List.filter_sublist.filterMap _),
      Value.entriesKeysOnce_filter each, keysOnce_childrenOf listed got⟩
  · split at read
    case' h_7 => cases read
    case h_1 | h_2 | h_3 =>
      obtain ⟨children, got, rfl⟩ := map_eq_ok.mp read
      exact ⟨List.nodup_nil, rfl, keysOnce_childrenOf once got⟩
    all_goals
      cases read
      exact ⟨List.nodup_nil, rfl, by simpa using once⟩

theorem keysOnce_tag {v : Value} (once : v.keysOnce = true) (read : tag? v = some node) : KeysOnce node := by
  obtain ⟨tag, content, inner, got⟩ := tag?_eq_some_iff.mp read
  have each := (Value.keysOnce_entries once inner).2
  simp only [Value.entriesKeysOnce, Bool.and_true] at each
  exact keysOnce_ofContent each got

theorem keysOnce_inside {v child : Value} (once : v.keysOnce = true) (member : child ∈ inside v) :
    child.keysOnce = true := by
  unfold inside at member
  split at member
  · rename_i items found
    exact Value.keysOnce_listItems once found child member
  · rename_i node found
    have known := keysOnce_tag once found
    rcases List.mem_append.mp member with child | branch
    · exact known.children _ child
    · unfold branches at branch
      split at branch
      · obtain ⟨key, _, found⟩ := List.mem_filterMap.mp branch
        exact Value.keysOnce_find? known.attributes found
      · cases branch
  · cases member

theorem Part.keysOnce (once : template.keysOnce = true) (part : Part template v) : v.keysOnce = true := by
  induction part with
  | whole => exact once
  | inner _ member ih => exact keysOnce_inside ih member

section Holds

open Value (Holds)

theorem holds_listItems {v : Value} {items : List Value} (found : v.listItems? = some items) :
    ∀ item ∈ items, Holds v item := by
  intro item member
  unfold Value.listItems? at found
  split at found
  · exact .item .whole found member
  · cases found

theorem holds_childrenOf {v : Value} {children : List Value} (read : TagNode.childrenOf v = .ok children) :
    ∀ child ∈ children, Holds v child := by
  unfold TagNode.childrenOf at read
  split at read
  · cases read
    nofun
  · cases read
    exact List.forall_mem_singleton.mpr .whole
  · split at read
    · cases read
      rename_i found
      exact holds_listItems found
    · cases read

theorem holds_ofContent {content : Value} (read : TagNode.ofContent tag content = .ok node) :
    (∀ e ∈ node.attributes, Holds content e.1 ∧ Holds content e.2) ∧ ∀ child ∈ node.children, Holds content child := by
  unfold TagNode.ofContent at read
  split at read
  · rename_i entries found
    obtain ⟨children, listed, rfl⟩ := map_eq_ok.mp read
    refine ⟨fun e kept => ?_, fun child member => ?_⟩
    · have member := List.mem_of_mem_filter kept
      exact ⟨.key .whole found member, .content .whole found member⟩
    · cases named : Value.find? entries Vocabulary.childrenKey with
      | none =>
        rw [named] at listed
        cases listed
        cases member
      | some w =>
        rw [named] at listed
        obtain ⟨e, inside, rfl⟩ := Value.mem_of_find? named
        exact (Holds.content .whole found inside).trans (holds_childrenOf listed child member)
  · split at read
    case' h_7 => cases read
    case h_1 | h_2 | h_3 =>
      obtain ⟨children, listed, rfl⟩ := map_eq_ok.mp read
      exact ⟨nofun, holds_childrenOf listed⟩
    all_goals
      cases read
      exact ⟨nofun, List.forall_mem_singleton.mpr .whole⟩

theorem holds_tag {v : Value} (read : tag? v = some node) :
    (∀ e ∈ node.attributes, Holds v e.1 ∧ Holds v e.2) ∧ ∀ child ∈ node.children, Holds v child := by
  obtain ⟨tag, content, found, got⟩ := tag?_eq_some_iff.mp read
  obtain ⟨attributes, children⟩ := holds_ofContent got
  have outer : Holds v content := .content .whole found List.mem_cons_self
  exact ⟨fun e member => (attributes e member).imp outer.trans outer.trans,
    fun child member => outer.trans (children child member)⟩

theorem holds_inside {v child : Value} (member : child ∈ inside v) : Holds v child := by
  unfold inside at member
  split at member
  · rename_i items found
    exact holds_listItems found child member
  · rename_i node read
    obtain ⟨attributes, children⟩ := holds_tag read
    rcases List.mem_append.mp member with listed | branch
    · exact children child listed
    · unfold branches at branch
      split at branch
      · obtain ⟨key, _, found⟩ := List.mem_filterMap.mp branch
        obtain ⟨e, inside, rfl⟩ := Value.mem_of_find? found
        exact (attributes e inside).2
      · cases branch
  · cases member

theorem Part.holds (part : Part template v) : Holds template v := by
  induction part with
  | whole => exact .whole
  | inner _ member ih => exact ih.trans (holds_inside member)

end Holds
end HtmlTemplate.Template
