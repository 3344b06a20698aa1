import HtmlTemplate.Proofs.Spacing
import Mathlib.Data.List.Perm.Basic
namespace HtmlTemplate

theorem Run.outcome_keep {α : Type} {f : α → Run Bool} {as : List α} {holds : α → Bool}
    (decided : ∀ a ∈ as, (f a).outcome = .ok (holds a)) : (Run.keep f as).outcome = .ok (as.filter holds) := by
  induction as with
  | nil => rfl
  | cons a as ih =>
    have rest := ih fun b member => decided b (List.mem_cons_of_mem _ member)
    rw [Run.keep, outcome_bind_of_ok (decided a List.mem_cons_self), outcome_bind_of_ok rest, List.filter_cons]
    rfl

namespace Condition

variable {descriptor other : Descriptor} {fallback : Option Path.Fallback} {scope : Scope}

-- The same condition with the truth of its `$not` turned round. Nothing is said of
-- its branches yet.
structure Negated (descriptor other : Descriptor) : Prop where
  kept : ∀ key, key ≠ Vocabulary.notKey → key ≠ Vocabulary.thenKey → key ≠ Vocabulary.elseKey →
    Value.find? other key = Value.find? descriptor key
  turned : (Value.find? other Vocabulary.notKey).any truthy = !(Value.find? descriptor Vocabulary.notKey).any truthy

structure Exchanged (descriptor other : Descriptor) : Prop where
  first : Value.find? other Vocabulary.thenKey = Value.find? descriptor Vocabulary.elseKey
  second : Value.find? other Vocabulary.elseKey = Value.find? descriptor Vocabulary.thenKey

def isStranger : Value → Bool
  | .text _ => false
  | _ => true

-- The keys that are no texts. No condition understands them.
def strangers (descriptor : Descriptor) : List Value := (descriptor.map (·.1)).filter isStranger

theorem strangers_filter {keep : Value → Bool} (all : ∀ key, isStranger key = true → keep key = true)
    (descriptor : Descriptor) : strangers (descriptor.filter fun e => keep e.1) = strangers descriptor := by
  have keys : (descriptor.filter fun e => keep e.1).map (·.1) = (descriptor.map (·.1)).filter keep :=
    List.filter_map.symm
  rw [strangers, keys, List.filter_filter, strangers]
  refine List.filter_congr fun key _ => ?_
  cases stranger : isStranger key with
  | false => rfl
  | true => exact all key stranger

theorem not_isText_of_isStranger {key : Value} (stranger : isStranger key = true) (s : String) :
    Value.isText s key = false := by
  cases key <;> first | rfl | cases stranger

theorem Negated.operator (negated : Negated descriptor other) (op : Operator) :
    Value.find? other op.key = Value.find? descriptor op.key := by
  apply negated.kept <;> cases op <;> decide

theorem Negated.evaluate_eq (negated : Negated descriptor other) (v : Value) :
    evaluate v other = !evaluate v descriptor := by
  have found : results v other = results v descriptor := by
    unfold results
    apply List.filterMap_congr
    intro op _
    rw [negated.operator op]
  have join := negated.kept Vocabulary.joinKey (by decide) (by decide) (by decide)
  simp only [evaluate, found, join, negated.turned]
  cases (Value.find? descriptor Vocabulary.notKey).any truthy <;> simp

theorem Negated.check_eq [Stack] (negated : Negated descriptor other) :
    check fallback scope other = (do
      let holds ← check fallback scope descriptor
      pure !holds) := by
  unfold check
  rw [negated.kept Vocabulary.checkKey (by decide) (by decide) (by decide)]
  cases Value.find? descriptor Vocabulary.checkKey with
  | none => rfl
  | some path => simp only [bind_assoc, pure_bind, negated.evaluate_eq]

theorem Exchanged.branch (exchanged : Exchanged descriptor other) (holds : Bool) :
    Value.find? other (if !holds then Vocabulary.thenKey else Vocabulary.elseKey) =
      Value.find? descriptor (if holds then Vocabulary.thenKey else Vocabulary.elseKey) := by
  cases holds with
  | false => exact exchanged.first
  | true => exact exchanged.second

theorem choose_negated [Stack] (negated : Negated descriptor other) (exchanged : Exchanged descriptor other) :
    choose fallback scope other = choose fallback scope descriptor := by
  unfold choose
  simp only [negated.check_eq, bind_assoc, pure_bind, exchanged.branch]

end Condition

namespace Render

variable {settings : Settings} {render : Renderer} {object : TagNode} {spot : Spot} {entries : List (Value × Value)}
  {v w : Value} {descriptor other : Condition.Descriptor}

theorem listBranch?_exchanged (exchanged : Condition.Exchanged object.attributes entries) :
    (listBranch? { object with attributes := entries }).isSome = (listBranch? object).isSome := by
  simp only [listBranch?, TagNode.attribute?, List.find?_cons, List.find?_nil, exchanged.first, exchanged.second]
  cases (Value.find? object.attributes Vocabulary.thenKey).any fun v => v.listItems?.isSome <;>
    cases (Value.find? object.attributes Vocabulary.elseKey).any fun v => v.listItems?.isSome <;> rfl

-- A text can always be shown, so only the other keys can keep a tag from ignoring them.
theorem outcome_each_ignoreKey [Stack] (es : List (Value × Value)) :
    (Run.each ignoreKey es).outcome =
      (Run.each (fun key => ignoreKey (key, .null)) (Condition.strangers es)).outcome := by
  induction es with
  | nil => rfl
  | cons e es ih =>
    obtain ⟨key, v⟩ := e
    have own : ignoreKey (key, v) = ignoreKey (key, .null) := rfl
    cases key with
    | text s => exact ih
    | _ =>
      rw [Run.each, Run.outcome_bind, ih, own]
      exact (Run.outcome_bind _ _).symm

theorem strangers_unknownKeys (object : TagNode) :
    Condition.strangers (unknownKeys object) = Condition.strangers object.attributes := by
  apply @Condition.strangers_filter fun key => !Condition.keys.any fun name => Value.isText name key
  intro key stranger
  simp [Condition.not_isText_of_isStranger stranger]

theorem conditional_negated [Stack] (negated : Condition.Negated object.attributes entries)
    (exchanged : Condition.Exchanged object.attributes entries)
    (same : Condition.strangers entries = Condition.strangers object.attributes) :
    settled (conditional settings render { object with attributes := entries } spot).outcome =
      settled (conditional settings render object spot).outcome := by
  have listed := listBranch?_exchanged exchanged
  have test : TagNode.attribute? { object with attributes := entries } Vocabulary.checkKey =
      object.attribute? Vocabulary.checkKey := negated.kept _ (by decide) (by decide) (by decide)
  have branch (holds : Bool) : TagNode.attribute? { object with attributes := entries }
      (if !holds then Vocabulary.thenKey else Vocabulary.elseKey) =
      object.attribute? (if holds then Vocabulary.thenKey else Vocabulary.elseKey) := exchanged.branch holds
  have answer : (Condition.check settings.fallback spot.scope entries).outcome =
      (Condition.check settings.fallback spot.scope object.attributes).outcome.map Bool.not := by
    rw [negated.check_eq]
    exact Run.outcome_bind_pure _ _
  have ignored : (Run.each ignoreKey (unknownKeys { object with attributes := entries })).outcome =
      (Run.each ignoreKey (unknownKeys object)).outcome := by
    rw [outcome_each_ignoreKey, outcome_each_ignoreKey, strangers_unknownKeys, strangers_unknownKeys, same]
  rw [outcome_conditional, outcome_conditional, test, ignored]
  cases object.attribute? Vocabulary.checkKey with
  | none => rfl
  | some path =>
    cases path with
    | text s =>
      dsimp only
      cases (Run.each ignoreKey (unknownKeys object)).outcome with
      | error failure => rfl
      | ok _ =>
      cases plain : listBranch? object with
      | some key =>
        cases changed : listBranch? { object with attributes := entries } with
        | some other => rfl
        | none => simp [plain, changed] at listed
      | none =>
        cases changed : listBranch? { object with attributes := entries } with
        | some other => simp [plain, changed] at listed
        | none =>
          dsimp only
          rw [answer]
          cases (Condition.check settings.fallback spot.scope object.attributes).outcome with
          | error failure => rfl
          | ok holds => simp only [Except.map, Except.bind, branch]
    | _ => rfl

def IfTag (v : Value) (descriptor : Condition.Descriptor) : Prop :=
  ∃ content, v.entries? = some [(.text Vocabulary.ifTag, content)] ∧ content.entries? = some descriptor

theorem step_if [Stack] (written : IfTag v descriptor) :
    step settings render spot v =
      (Run.ofExcept .problem (TagNode.childrenOf ((Value.find? descriptor Vocabulary.childrenKey).getD .null))).bind fun children =>
        conditional settings render ⟨Vocabulary.ifTag, .conditional,
          descriptor.filter fun e => !Value.isText Vocabulary.childrenKey e.1, children⟩ spot := by
  obtain ⟨content, outer, inner⟩ := written
  rw [step_of_entries outer, TagNode.ofEntries]
  simp only [TagNode.ofContent, inner]
  cases TagNode.childrenOf ((Value.find? descriptor Vocabulary.childrenKey).getD .null) with
  | error problem => rfl
  | ok children => rfl

theorem find?_attributes {key : String} (other : key ≠ Vocabulary.childrenKey) :
    Value.find? (descriptor.filter fun e => !Value.isText Vocabulary.childrenKey e.1) key = Value.find? descriptor key :=
  Template.find?_filter fun _ => by simpa [Value.isText] using other

theorem negated_attributes (negated : Condition.Negated descriptor other) :
    Condition.Negated (descriptor.filter fun e => !Value.isText Vocabulary.childrenKey e.1)
      (other.filter fun e => !Value.isText Vocabulary.childrenKey e.1) where
  kept := by
    intro key notNot notThen notElse
    by_cases own : key = Vocabulary.childrenKey
    · have absent (entries : List (Value × Value)) :
          Value.find? (entries.filter fun e => !Value.isText Vocabulary.childrenKey e.1) Vocabulary.childrenKey = none := by
        simp [Value.find?, Value.entry?]
      rw [own, absent, absent]
    · rw [find?_attributes own, find?_attributes own, negated.kept key notNot notThen notElse]
  turned := by
    rw [find?_attributes (by decide), find?_attributes (by decide)]
    exact negated.turned

theorem strangers_attributes (descriptor : Condition.Descriptor) :
    Condition.strangers (descriptor.filter fun e => !Value.isText Vocabulary.childrenKey e.1) =
      Condition.strangers descriptor := by
  apply @Condition.strangers_filter fun key => !Value.isText Vocabulary.childrenKey key
  intro key stranger
  simp [Condition.not_isText_of_isStranger stranger]

theorem step_negated [Stack] (written : IfTag v descriptor) (rewritten : IfTag w other)
    (negated : Condition.Negated descriptor other) (exchanged : Condition.Exchanged descriptor other)
    (same : Condition.strangers other = Condition.strangers descriptor) :
    settled (step settings render spot w).outcome = settled (step settings render spot v).outcome := by
  rw [step_if written, step_if rewritten, negated.kept Vocabulary.childrenKey (by decide) (by decide) (by decide)]
  cases TagNode.childrenOf ((Value.find? descriptor Vocabulary.childrenKey).getD .null) with
  | error problem => rfl
  | ok children =>
    refine @conditional_negated _ _ ⟨_, _, _, _⟩ _ _ _ (negated_attributes negated) ⟨?_, ?_⟩ ?_
    · rw [find?_attributes (by decide), find?_attributes (by decide), exchanged.first]
    · rw [find?_attributes (by decide), find?_attributes (by decide), exchanged.second]
    · rw [strangers_attributes, strangers_attributes, same]

theorem node_negated [Stack] (written : IfTag v descriptor) (rewritten : IfTag w other)
    (negated : Condition.Negated descriptor other) (exchanged : Condition.Exchanged descriptor other)
    (same : Condition.strangers other = Condition.strangers descriptor) (budget : Nat) :
    (node settings budget spot w).outcome = (node settings budget spot v).outcome := by
  rw [outcome_node, outcome_node]
  cases budget with
  | zero => rfl
  | succ budget => exact step_negated written rewritten negated exchanged same

theorem pair_negated [Stack] {scope : Scope} (written : Condition.conditional? v = some descriptor)
    (rewritten : Condition.conditional? w = some other) (negated : Condition.Negated descriptor other)
    (exchanged : Condition.Exchanged descriptor other) (tag : String) (key : Value) :
    pair settings tag scope key w = pair settings tag scope key v := by
  have text (name : String) : attributeText settings scope name w = attributeText settings scope name v := by
    unfold attributeText
    rw [written, rewritten]
    simp only [Condition.choose_negated negated exchanged]
  unfold pair
  simp only [text]

theorem outcome_filtered [Stack] {scope : Scope} {items : List Value} {holds : Value → Bool}
    (written : Condition.conditional? v = some descriptor)
    (decided : ∀ item ∈ items, (Condition.check settings.fallback (scope.push item) descriptor).outcome = .ok (holds item)) :
    (filtered settings scope (some v) items).outcome = .ok (items.filter holds) := by
  simp only [filtered, written]
  exact Run.outcome_keep decided

-- Turning `$not` round turns the answer of a condition round, and nothing else: what
-- is reported and what fails stays. So a condition renders the same with its branches
-- exchanged, be it a tag or the value of an attribute; and of a list, a filter keeps
-- just what the other one leaves out, both in the order of the list. A tag shows the
-- keys that are no texts when it ignores them, so both tags have the same ones.
theorem negation_exact [Stack] (settings : Settings) {descriptor other : Condition.Descriptor}
    (negated : Condition.Negated descriptor other) :
    (∀ scope, Condition.check settings.fallback scope other = (do
      let holds ← Condition.check settings.fallback scope descriptor
      pure !holds)) ∧
    (Condition.Exchanged descriptor other →
      (∀ v w, IfTag v descriptor → IfTag w other →
        Condition.strangers other = Condition.strangers descriptor → ∀ budget spot,
        (node settings budget spot w).outcome = (node settings budget spot v).outcome) ∧
      (∀ scope, Condition.choose settings.fallback scope other = Condition.choose settings.fallback scope descriptor) ∧
      ∀ v w, Condition.conditional? v = some descriptor → Condition.conditional? w = some other →
        ∀ tag scope key, pair settings tag scope key w = pair settings tag scope key v) ∧
    ∀ v w, Condition.conditional? v = some descriptor → Condition.conditional? w = some other → ∀ scope items,
      (∀ item ∈ items, ∃ answer, (Condition.check settings.fallback (scope.push item) descriptor).outcome = .ok answer) →
      ∃ holds : Value → Bool,
        (∀ item ∈ items, (Condition.check settings.fallback (scope.push item) descriptor).outcome = .ok (holds item)) ∧
        (filtered settings scope (some v) items).outcome = .ok (items.filter holds) ∧
        (filtered settings scope (some w) items).outcome = .ok (items.filter fun item => !holds item) ∧
        (items.filter holds ++ items.filter fun item => !holds item).Perm items := by
  refine ⟨fun scope => negated.check_eq, ?_, ?_⟩
  · intro exchanged
    refine ⟨?_, ?_, ?_⟩
    · intro v w written rewritten same budget spot
      exact node_negated written rewritten negated exchanged same budget
    · intro scope
      exact Condition.choose_negated negated exchanged
    · intro v w written rewritten tag scope key
      exact pair_negated written rewritten negated exchanged tag key
  · intro v w written rewritten scope items returns
    obtain ⟨holds, decided⟩ : ∃ holds : Value → Bool, ∀ item ∈ items,
        (Condition.check settings.fallback (scope.push item) descriptor).outcome = .ok (holds item) := by
      choose! holds decided using returns
      exact ⟨holds, decided⟩
    have turned : ∀ item ∈ items,
        (Condition.check settings.fallback (scope.push item) other).outcome = .ok !holds item := by
      intro item member
      rw [negated.check_eq]
      exact Run.outcome_bind_of_ok (decided item member) _
    exact ⟨holds, decided, outcome_filtered written decided, outcome_filtered rewritten turned,
      List.filter_append_perm holds items⟩

def adult : Condition.Descriptor :=
  [(.text "$check", .text "age"), (.text "$>=", .int 18), (.text "$then", .text "adult")]

def minor : Condition.Descriptor :=
  [(.text "$not", .int 1), (.text "$check", .text "age"), (.text "$>=", .int 18), (.text "$else", .text "adult")]

def aged (identity : Nat) (age : Value) : Value := .mapping identity [(.text "age", age)]

def ages : List Value := [aged 1 (.int 36), aged 2 (.float .nan), aged 3 (.int 9), aged 4 (.int 18)]

def ifTag (descriptor : Condition.Descriptor) : Value := .mapping 5 [(.text "$if", .mapping 6 descriptor)]

theorem minor_negated : Condition.Negated adult minor where
  kept := by
    intro key notNot notThen notElse
    have apart {name : String} (other : key ≠ name) : Value.isText key (.text name) = false := by
      simpa [Value.isText] using other.symm
    have first : Value.isText key (.text "$not") = false := apart notNot
    have second : Value.isText key (.text "$then") = false := apart notThen
    have third : Value.isText key (.text "$else") = false := apart notElse
    simp only [adult, minor, Value.find?, Value.entry?, List.find?_cons, List.find?_nil, first, second, third]
  turned := rfl

theorem minor_exact :
    Condition.Negated adult minor ∧ Condition.Exchanged adult minor ∧
    Condition.check none ⟨aged 2 (.float .nan), []⟩ adult = ⟨[], .ok false⟩ ∧
    Condition.check none ⟨aged 2 (.float .nan), []⟩ minor = ⟨[], .ok true⟩ ∧
    (node {} 2 ⟨⟨aged 1 (.int 36), []⟩, 0, false⟩ (ifTag minor)).outcome =
      (node {} 2 ⟨⟨aged 1 (.int 36), []⟩, 0, false⟩ (ifTag adult)).outcome ∧
    (node {} 2 ⟨⟨aged 1 (.int 36), []⟩, 0, false⟩ (ifTag adult)).outcome = .ok [.text 0 "adult"] ∧
    pair {} "p" ⟨aged 3 (.int 9), []⟩ (.text "class") (.mapping 6 minor) =
      pair {} "p" ⟨aged 3 (.int 9), []⟩ (.text "class") (.mapping 6 adult) ∧
    pair {} "p" ⟨aged 3 (.int 9), []⟩ (.text "class") (.mapping 6 adult) = ⟨[], .ok [("class", "")]⟩ ∧
    ∃ holds : Value → Bool,
      (filtered {} ⟨.null, []⟩ (some (.mapping 6 adult)) ages).outcome = .ok (ages.filter holds) ∧
      (filtered {} ⟨.null, []⟩ (some (.mapping 6 minor)) ages).outcome = .ok (ages.filter fun item => !holds item) ∧
      ages.filter holds = [aged 1 (.int 36), aged 4 (.int 18)] := by
  have exchanged : Condition.Exchanged adult minor := ⟨rfl, rfl⟩
  obtain ⟨turned, branches, parted⟩ := negation_exact {} minor_negated
  obtain ⟨nodes, _, pairs⟩ := branches exchanged
  have alone : Condition.check none ⟨aged 2 (.float .nan), []⟩ adult = ⟨[], .ok false⟩ := rfl
  have returns : ∀ item ∈ ages, ∃ answer, (Condition.check none (Scope.push ⟨.null, []⟩ item) adult).outcome = .ok answer :=
    List.forall_mem_cons.mpr ⟨⟨true, rfl⟩, List.forall_mem_cons.mpr ⟨⟨false, rfl⟩,
      List.forall_mem_cons.mpr ⟨⟨false, rfl⟩, List.forall_mem_singleton.mpr ⟨true, rfl⟩⟩⟩⟩
  obtain ⟨holds, _, kept, left, _⟩ := parted (.mapping 6 adult) (.mapping 6 minor) rfl rfl ⟨.null, []⟩ ages returns
  refine ⟨minor_negated, exchanged, alone, ?_, nodes _ _ ⟨_, rfl, rfl⟩ ⟨_, rfl, rfl⟩ rfl _ _, rfl,
    pairs _ _ rfl rfl _ _ _, rfl, holds, kept, left, ?_⟩
  · exact (turned _).trans (by rw [alone]; rfl)
  · have found : (filtered {} ⟨.null, []⟩ (some (.mapping 6 adult)) ages).outcome =
        .ok [aged 1 (.int 36), aged 4 (.int 18)] := rfl
    exact Except.ok.inj (kept.symm.trans found)

end Render
end HtmlTemplate
