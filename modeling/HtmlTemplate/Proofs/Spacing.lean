import HtmlTemplate.Proofs.Iteration
import HtmlTemplate.Proofs.Locality
namespace HtmlTemplate

namespace Blank

variable {s lead trail : List Char}

theorem trimEnd_append (blank : ∀ c ∈ trail, isBlank c = true) (s : List Char) : trimEnd (s ++ trail) = trimEnd s := by
  unfold trimEnd
  rw [List.reverse_append, List.dropWhile_append_of_pos (by simpa using blank)]

theorem trim_append (blank : ∀ c ∈ trail, isBlank c = true) (s : List Char) : trim (s ++ trail) = trim s := by
  unfold trim trimStart
  rw [List.dropWhile_append]
  split
  · rename_i nothing
    rw [List.isEmpty_iff.mp nothing, List.dropWhile_eq_nil_iff.mpr blank]
  · exact trimEnd_append blank _

def Padded (s t : String) : Prop :=
  ∃ lead trail : List Char, (∀ c ∈ lead, isBlank c = true) ∧ (∀ c ∈ trail, isBlank c = true) ∧
    t.toList = lead ++ s.toList ++ trail

variable {s t : String}

theorem Padded.trim_eq (padded : Padded s t) : trim t.toList = trim s.toList := by
  obtain ⟨lead, trail, before, after, written⟩ := padded
  rw [written, trim_append after]
  unfold trim trimStart
  rw [List.dropWhile_append_of_pos before]

theorem Padded.strip_eq (padded : Padded s t) : strip t = strip s := by
  rw [strip, strip, onChars, onChars, padded.trim_eq]

theorem Padded.eq_of_visible (padded : Padded s t) (visible : ∀ c ∈ t.toList, isBlank c = false) : t = s := by
  obtain ⟨lead, trail, before, after, written⟩ := padded
  have none {part : List Char} (blank : ∀ c ∈ part, isBlank c = true) (within : part ⊆ t.toList) : part = [] := by
    apply List.eq_nil_iff_forall_not_mem.mpr
    intro c member
    have seen := visible c (within member)
    rw [blank c member] at seen
    cases seen
  have noLead : lead = [] := none before (by simp [written])
  have noTrail : trail = [] := none after (by simp [written])
  rw [noLead, noTrail, List.nil_append, List.append_nil] at written
  exact String.toList_inj.mp written

end Blank

namespace Path

variable {s t key : String}

theorem literal_iff_trim {s : List Char} :
    Literal s ↔ Blank.trim s ≠ [] ∧ ¬['.', '.'] <:+: Blank.trim s ∧ ¬['\x7b', '\x7b'] <:+: Blank.trim s := by
  have dots := @Blank.pair_infix_trim s '.' '.' (by decide) (by decide)
  have braces := @Blank.pair_infix_trim s '\x7b' '\x7b' (by decide) (by decide)
  rw [dots, braces]
  exact ⟨fun ⟨present, flat, unmarked⟩ => ⟨present, flat, unmarked⟩,
    fun ⟨present, flat, unmarked⟩ => ⟨present, flat, unmarked⟩⟩

theorem literal_padded (padded : Blank.Padded s t) : Literal t.toList ↔ Literal s.toList := by
  rw [literal_iff_trim, literal_iff_trim, padded.trim_eq]

theorem check_text_of_literal [Stack] (literal : Literal s.toList) (key : String) : check key (.text s) = .ok s :=
  check_eq_ok_iff.mpr ⟨rfl, literal⟩

theorem check_text_of_not_literal [Stack] (refused : ¬Literal s.toList) (key : String) :
    ∃ problem, check key (.text s) = .error (.problem problem) := by
  cases ended : check key (.text s) with
  | ok t =>
    obtain ⟨same, literal⟩ := check_eq_ok_iff.mp ended
    cases same
    exact absurd literal refused
  | error failure =>
    unfold check at ended
    dsimp only at ended
    repeat' split at ended
    all_goals cases ended
    all_goals exact ⟨_, rfl⟩

end Path

namespace Template

variable {inner : Value → Value → Prop} {es fs : List (Value × Value)} {v w u : Value} {key : String}

def PathPadded (key v w : Value) : Prop :=
  w = v ∨ key = .text Vocabulary.bindKey ∧ ∃ s t, Blank.Padded s t ∧ v = .text s ∧ w = .text t

def EntriesPadded (es fs : List (Value × Value)) : Prop :=
  List.Forall₂ (fun e f => f.1 = e.1 ∧ PathPadded e.1 e.2 f.2) es fs

theorem find?_padded (padded : EntriesPadded es fs) (other : key ≠ Vocabulary.bindKey) :
    Value.find? fs key = Value.find? es key := by
  have found := Value.find?_forall₂ padded key
  revert found
  generalize Value.find? es key = v?
  generalize Value.find? fs key = w?
  rintro (⟨rfl | ⟨bound, _⟩⟩ | _)
  · rfl
  · cases bound
    exact absurd rfl other
  · rfl

theorem EntriesPadded.filter (padded : EntriesPadded es fs) (keep : Value → Bool) :
    EntriesPadded (es.filter fun e => keep e.1) (fs.filter fun e => keep e.1) := by
  have kept := List.rel_filter (R := fun e f : Value × Value => f.1 = e.1 ∧ PathPadded e.1 e.2 f.2)
    (p := fun e => keep e.1) (q := fun e => keep e.1) (by rintro e f ⟨same, _⟩; simp [same])
  exact kept padded

theorem filter_padded (padded : EntriesPadded es fs) {keep : Value → Bool}
    (dropped : keep (.text Vocabulary.bindKey) = false) :
    (fs.filter fun e => keep e.1) = es.filter fun e => keep e.1 := by
  induction padded with
  | nil => rfl
  | @cons e f es fs first _ ih =>
    obtain ⟨key, v⟩ := e
    obtain ⟨_, w⟩ := f
    obtain ⟨rfl, rfl | ⟨rfl, _⟩⟩ := first
    · simp only [List.filter_cons, ih]
    · simp [dropped, ih]

theorem eq_of_unbound (padded : EntriesPadded es fs) (free : Value.find? es Vocabulary.bindKey = none) : fs = es := by
  induction padded with
  | nil => rfl
  | @cons e f es fs first _ ih =>
    obtain ⟨key, v⟩ := e
    obtain ⟨_, w⟩ := f
    simp only [Value.find?, Value.entry?, Option.map_eq_none_iff, List.find?_cons] at free ih
    split at free
    · cases free
    · rename_i other
      obtain ⟨rfl, rfl | ⟨rfl, _⟩⟩ := first
      · rw [ih free]
      · simp [Value.isText] at other

theorem binding_padded (padded : EntriesPadded es fs) :
    Value.find? es Vocabulary.bindKey = none ∧ fs = es ∨
    ∃ v w, Value.find? es Vocabulary.bindKey = some v ∧ Value.find? fs Vocabulary.bindKey = some w ∧
      PathPadded (.text Vocabulary.bindKey) v w := by
  have found := Value.find?_forall₂ padded Vocabulary.bindKey
  cases free : Value.find? es Vocabulary.bindKey with
  | none => exact .inl ⟨rfl, eq_of_unbound padded free⟩
  | some v =>
    rw [free] at found
    cases written : Value.find? fs Vocabulary.bindKey with
    | none =>
      rw [written] at found
      cases found
    | some w =>
      rw [written] at found
      cases found with
      | some related => exact .inr ⟨v, w, rfl, rfl, related⟩

-- `w` is the tag object `v`, with more white space around the path of its binding.
def Padded (v w : Value) : Prop :=
  ∃ tag content changed es fs, v.entries? = some [(.text tag, content)] ∧ content.entries? = some es ∧
    w.entries? = some [(.text tag, changed)] ∧ changed.entries? = some fs ∧ EntriesPadded es fs

theorem ofContent_padded {tag : String} {content changed : Value} (written : content.entries? = some es)
    (rewritten : changed.entries? = some fs) (padded : EntriesPadded es fs) :
    (∃ problem, TagNode.ofContent tag content = .error problem ∧ TagNode.ofContent tag changed = .error problem) ∨
    ∃ node entries, TagNode.ofContent tag content = .ok node ∧
      TagNode.ofContent tag changed = .ok { node with attributes := entries } ∧ EntriesPadded node.attributes entries := by
  have children : Value.find? fs Vocabulary.childrenKey = Value.find? es Vocabulary.childrenKey :=
    find?_padded padded (by decide)
  simp only [TagNode.ofContent, written, rewritten, children]
  cases TagNode.childrenOf ((Value.find? es Vocabulary.childrenKey).getD .null) with
  | error problem => exact .inl ⟨problem, rfl, rfl⟩
  | ok nodes => exact .inr ⟨_, _, rfl, rfl, padded.filter fun key => !Value.isText Vocabulary.childrenKey key⟩

theorem root_padded (padded : Padded v w) :
    w.isMapping = v.isMapping ∧ (Render.bindsCurrent w = true → Render.bindsCurrent v = true) := by
  obtain ⟨tag, content, changed, es, fs, outer, written, outer', rewritten, entries⟩ := padded
  refine ⟨by simp [Value.isMapping, outer, outer'], ?_⟩
  simp only [Render.bindsCurrent, Value.get?, outer, outer', written, rewritten, Option.bind_some]
  obtain ⟨_, rfl⟩ | ⟨binding, changed, found, found', related⟩ := binding_padded entries
  · exact id
  · rw [found, found']
    obtain rfl | ⟨_, s, t, around, rfl, rfl⟩ := related
    · exact id
    · intro dot
      have isDot : Value.text t = .text "." := Value.isText_iff.mp dot
      cases isDot
      rw [← around.eq_of_visible (List.forall_mem_singleton.mpr rfl)]
      rfl

-- `w` is `v` with more white space around the paths of bindings, in one place or in
-- many. `inner` says which nodes go together: two of them are the same but for those
-- directly inside, and then for their own binding. So templates that hold themselves
-- are no exception.
def Respaced (v w : Value) : Prop :=
  ∃ inner : Value → Value → Prop, (∀ v, inner v v) ∧ inner v w ∧
    ∀ v w, inner v w → ∃ u, Varies inner v u ∧ (w = u ∨ Padded u w)

theorem respaced_of_replaced {old new : Value} (padded : Padded old new) (replaced : Replaced old new v w) :
    Respaced v w := by
  refine ⟨Replaced old new, fun _ => .inl rfl, replaced, ?_⟩
  rintro v w (rfl | ⟨rfl, rfl⟩ | exchanged)
  · exact ⟨v, .same, .inl rfl⟩
  · exact ⟨v, .same, .inr padded⟩
  · exact ⟨w, exchanged.varies, .inl rfl⟩

end Template

namespace Render

variable {settings : Settings} {render : Renderer} {object : TagNode} {spot : Spot} {binding : Value}
  {entries : List (Value × Value)} {path s t : String}

section Conditional

theorem each_ignoreKey [Stack] {es fs : List (Value × Value)} (padded : Template.EntriesPadded es fs) :
    Run.each ignoreKey fs = Run.each ignoreKey es := by
  induction padded with
  | nil => rfl
  | cons first _ ih => rw [Run.each, Run.each, ih, ignoreKey, ignoreKey, first.1]

theorem outcome_conditional [Stack] :
    (conditional settings render object spot).outcome =
      match object.attribute? Vocabulary.checkKey with
      | some (.text _) =>
        (Run.each ignoreKey (unknownKeys object)).outcome.bind fun _ =>
          match listBranch? object with
          | some key => .error (.problem (.listBranch key))
          | none =>
            (Condition.check settings.fallback spot.scope object.attributes).outcome.bind fun holds =>
              match object.attribute? (if holds then Vocabulary.thenKey else Vocabulary.elseKey) with
              | some branch => (render spot branch).outcome
              | none => .ok []
      | _ => .error (.problem .ifWithoutCheck) := by
  unfold conditional
  cases object.attribute? Vocabulary.checkKey with
  | none => rfl
  | some test =>
    cases test with
    | text s =>
      refine (Run.outcome_bind _ _).trans ?_
      apply congrArg
      funext _
      dsimp only
      split
      case' isFalse => refine (Run.outcome_bind_of_ok (rfl : (Run.report _).outcome = .ok ()) _).trans ?_
      all_goals
        cases listBranch? object with
        | some key => rfl
        | none =>
          refine (Run.outcome_bind _ _).trans ?_
          apply congrArg
          funext holds
          cases object.attribute? (if holds then Vocabulary.thenKey else Vocabulary.elseKey) <;> rfl
    | _ => rfl

variable (padded : Template.EntriesPadded object.attributes entries)
include padded

theorem check_padded [Stack] (scope : Scope) :
    Condition.check settings.fallback scope entries = Condition.check settings.fallback scope object.attributes := by
  have same {key : String} (other : key ≠ Vocabulary.bindKey) := Template.find?_padded padded other
  have evaluated (v : Value) : Condition.evaluate v entries = Condition.evaluate v object.attributes :=
    Condition.evaluate_eq (fun op => same (by cases op <;> decide)) (same (by decide)) (same (by decide)) v
  unfold Condition.check
  rw [same (by decide)]
  simp only [evaluated]

theorem conditional_padded [Stack] :
    (conditional settings render { object with attributes := entries } spot).outcome =
      (conditional settings render object spot).outcome := by
  have same {key : String} (other : key ≠ Vocabulary.bindKey) :
      TagNode.attribute? { object with attributes := entries } key = object.attribute? key :=
    Template.find?_padded padded other
  have branch (holds : Bool) := @same (if holds then Vocabulary.thenKey else Vocabulary.elseKey) (by cases holds <;> decide)
  have listed : listBranch? { object with attributes := entries } = listBranch? object := by
    simp only [listBranch?, List.find?_cons, List.find?_nil, same (show Vocabulary.thenKey ≠ Vocabulary.bindKey by decide),
      same (show Vocabulary.elseKey ≠ Vocabulary.bindKey by decide)]
  have ignored : Run.each ignoreKey (unknownKeys { object with attributes := entries }) =
      Run.each ignoreKey (unknownKeys object) :=
    each_ignoreKey (padded.filter fun key => !Condition.keys.any fun name => Value.isText name key)
  simp only [outcome_conditional, same (show Vocabulary.checkKey ≠ Vocabulary.bindKey by decide), ignored, listed, branch,
    check_padded padded]

end Conditional

theorem bound_entries [Stack] (padded : Template.EntriesPadded object.attributes entries) (binding : Value) :
    bound settings render { object with attributes := entries } spot binding = bound settings render object spot binding := by
  have filter : TagNode.attribute? { object with attributes := entries } Vocabulary.filterKey =
      object.attribute? Vocabulary.filterKey := Template.find?_padded padded (by decide)
  have rest : TagNode.without { object with attributes := entries } [Vocabulary.bindKey, Vocabulary.filterKey] =
      object.without [Vocabulary.bindKey, Vocabulary.filterKey] :=
    @Template.filter_padded _ _ padded (fun key =>
      !List.any [Vocabulary.bindKey, Vocabulary.filterKey] fun name => Value.isText name key) (by decide)
  unfold bound
  rw [filter, rest]
  rfl

theorem bound_text [Stack] (around : Blank.Padded s t) :
    settled (bound settings render object spot (.text t)).outcome =
      settled (bound settings render object spot (.text s)).outcome := by
  by_cases literal : Path.Literal s.toList
  · have literal' := (Path.literal_padded around).mpr literal
    rw [outcome_bound (Path.check_text_of_literal literal _), outcome_bound (Path.check_text_of_literal literal' _),
      around.strip_eq]
  · have refused' := mt (Path.literal_padded around).mp literal
    obtain ⟨problem, refused⟩ := Path.check_text_of_not_literal literal Vocabulary.bindKey
    obtain ⟨problem', refused'⟩ := Path.check_text_of_not_literal refused' Vocabulary.bindKey
    rw [outcome_bound_of_refused refused, outcome_bound_of_refused refused']
    rfl

theorem tag_of_conditional [Stack] (allowed : Vocabulary.isAllowedTag object.tag = true) (condition : object.kind = .conditional) :
    tag settings render object spot = conditional settings render object spot := by
  unfold tag
  rw [if_neg (by simp [allowed]), if_pos condition]

theorem tag_padded [Stack] (padded : Template.EntriesPadded object.attributes entries) :
    settled (tag settings render { object with attributes := entries } spot).outcome =
      settled (tag settings render object spot).outcome := by
  by_cases allowed : Vocabulary.isAllowedTag object.tag = true
  case neg => simp [tag, allowed]
  by_cases condition : object.kind = .conditional
  case pos =>
    rw [tag_of_conditional allowed condition,
      @tag_of_conditional _ _ { object with attributes := entries } _ _ allowed condition, conditional_padded padded]
  by_cases apart : object.kind = .comment → spot.inComment = false
  case neg =>
    obtain ⟨comment, inside⟩ := Classical.not_imp.mp apart
    simp [tag, allowed, comment, inside]
  rw [outcome_tag allowed condition apart,
    @outcome_tag _ _ { object with attributes := entries } _ _ allowed condition apart]
  have same := @bound_entries settings render { object with children := object.shown } spot entries _ padded
  obtain ⟨free, rfl⟩ | ⟨binding, changed, found, found', related⟩ := Template.binding_padded padded
  · rfl
  · have bound : settled (bound settings render { object with children := object.shown, attributes := entries } spot changed).outcome =
        settled (bound settings render { object with children := object.shown } spot binding).outcome := by
      rw [same]
      obtain rfl | ⟨_, s, t, around, rfl, rfl⟩ := related
      · rfl
      · exact bound_text around
    simp only [TagNode.attribute?, found, found']
    exact bound

theorem step_of_entries [Stack] {v : Value} {es : List (Value × Value)} (found : v.entries? = some es) :
    step settings render spot v = (Run.ofExcept id (TagNode.ofEntries es)).bind fun node => tag settings render node spot := by
  cases v with
  | mapping identity entries =>
    cases found
    rfl
  | _ => cases found

theorem step_padded [Stack] {v w : Value} (padded : Template.Padded v w) :
    settled (step settings render spot w).outcome = settled (step settings render spot v).outcome := by
  obtain ⟨name, content, changed, es, fs, outer, written, outer', rewritten, entries⟩ := padded
  rw [step_of_entries outer, step_of_entries outer', TagNode.ofEntries, TagNode.ofEntries]
  obtain ⟨problem, refused, refused'⟩ | ⟨object, others, read, read', padded⟩ :=
    Template.ofContent_padded written rewritten entries
  · rw [refused, refused']
  · rw [read, read']
    exact tag_padded padded

-- The induction is on the levels. A node goes over to its counterpart in two steps,
-- by what is inside and by its own binding.
theorem node_respaced [Stack] {v w : Value} (respaced : Template.Respaced v w) (settings : Settings) (budget : Nat) (spot : Spot) :
    (node settings budget spot w).outcome = (node settings budget spot v).outcome := by
  obtain ⟨inner, refl, related, closed⟩ := respaced
  induction budget generalizing v w spot with
  | zero => rfl
  | succ budget ih =>
    obtain ⟨u, varies, own⟩ := closed v w related
    have inside : (ending settings).Inside inner (node settings budget) (node settings budget) := by
      rintro v w related scope _ rfl depth inComment
      exact Run.endings_iff.mpr (ih _ related).symm
    have steps : Run.endings.Relates Eq (step settings (node settings budget) spot v)
        (step settings (node settings budget) spot u) := (ending settings).step_relates inside refl rfl varies
    have same := Run.endings_iff.mp steps
    rw [outcome_node, outcome_node, attempt, attempt, same]
    obtain rfl | padded := own
    · rfl
    · exact step_padded padded

theorem root_respaced {template changed : Value} (respaced : Template.Respaced template changed) :
    changed.isMapping = template.isMapping ∧ (bindsCurrent changed = true → bindsCurrent template = true) := by
  obtain ⟨inner, _, related, closed⟩ := respaced
  obtain ⟨u, varies, own⟩ := closed template changed related
  obtain ⟨mapped, binds⟩ := varies.root
  rw [← mapped, ← binds]
  obtain rfl | padded := own
  · exact ⟨rfl, id⟩
  · exact Template.root_padded padded

theorem isMapping_of_binds {template : Value} (binds : bindsCurrent template = true) : template.isMapping = true := by
  unfold bindsCurrent at binds
  split at binds
  · rename_i mapped
    simp [Value.isMapping, mapped]
  · cases binds

-- White space around the paths of bindings is insignificant to every node, and to a
-- whole render but for one case: data that is a sequence, and a single tag bound to
-- the data itself. The tag iterates by itself then, and with white space around its
-- `.` it is repeated for the items of the sequence instead.
theorem document_of_respaced [Stack] {template changed : Value} (respaced : Template.Respaced template changed)
    (settings : Settings) (data : Value) :
    (∀ budget spot, (node settings budget spot changed).outcome = (node settings budget spot template).outcome) ∧
    (data.isSequence = false ∨ bindsCurrent changed = bindsCurrent template →
      (document settings changed data).outcome = (document settings template data).outcome) ∧
    (∀ items, data.items? = some items → bindsCurrent changed ≠ bindsCurrent template →
      bindsCurrent template = true ∧ bindsCurrent changed = false ∧
      (root settings template data).outcome =
        (node settings (budget settings) ⟨⟨data, []⟩, 0, false⟩ template).outcome ∧
      (root settings changed data).outcome =
        (Run.collect (fun item => node settings (budget settings) ⟨⟨item, []⟩, 0, false⟩ template) items).outcome) := by
  have nodes := node_respaced respaced settings
  obtain ⟨mapped, fewer⟩ := root_respaced respaced
  refine ⟨nodes, ?_, ?_⟩
  · rintro (single | agree)
    · have none : data.items? = none := by simpa [Value.isSequence] using single
      simp only [outcome_document, root, none, nodes]
    · have whole := (ending settings).document_relates (by rintro _ _ rfl; rfl) mapped agree
        (fun _ => Run.endings_iff.mpr (nodes _ _).symm) data
      exact (Run.endings_iff.mp whole).symm
  · intro items listed differ
    cases free : bindsCurrent changed with
    | true =>
      rw [fewer free, free] at differ
      exact absurd rfl differ
    | false =>
      have binds : bindsCurrent template = true := by simpa [free] using differ
      have single : changed.isMapping = true := mapped.trans (isMapping_of_binds binds)
      have alike : Run.endings.Relates Eq
          (Run.collect (fun item => node settings (budget settings) ⟨⟨item, []⟩, 0, false⟩ changed) items)
          (Run.collect (fun item => node settings (budget settings) ⟨⟨item, []⟩, 0, false⟩ template) items) := by
        apply Run.endings.collect rfl (congrArg₂ _)
        exact List.forall₂_same.mpr fun item _ => Run.endings_iff.mpr (nodes _ _)
      refine ⟨binds, rfl, by rw [root_of_binds binds], ?_⟩
      rw [root_of_items single free listed]
      exact Run.endings_iff.mp alike

def menu (path : String) : Value :=
  .mapping 1 [(.text "ul", .mapping 2 [(.text "$bind", .text path),
    (.text "$children", .sequence .list 3 [.mapping 4 [(.text "li", .text "\x7b\x7b.\x7d\x7d")]])])]

def offered (menu : Value) : Value :=
  .mapping 5 [(.text "$if", .mapping 6 [(.text "$check", .text "dishes"), (.text "$then", menu)])]

def dishes : Value := .sequence .list 7 [.text "soup", .text "rice"]

def kitchen : Value := .mapping 8 [(.text "dishes", dishes)]

def menuEvents (items : List String) : List Event :=
  .openTag 0 "ul" [] false :: items.flatMap (fun item => [.openTag 1 "li" [] false, .text 2 item, .closeTag 1 "li"]) ++
    [.closeTag 0 "ul"]

theorem menu_padded {s t : String} (around : Blank.Padded s t) : Template.Padded (menu s) (menu t) :=
  ⟨"ul", _, _, _, _, rfl, rfl, rfl, rfl, .cons ⟨rfl, .inr ⟨rfl, s, t, around, rfl, rfl⟩⟩ (.cons ⟨rfl, .inl rfl⟩ .nil)⟩

theorem menu_respaced :
    Template.Respaced (offered (menu "dishes")) (offered (menu "\tdishes ")) ∧
    (document {} (offered (menu "\tdishes ")) kitchen).outcome = (document {} (offered (menu "dishes")) kitchen).outcome ∧
    (document {} (offered (menu "dishes")) kitchen).outcome = .ok (menuEvents ["soup", "rice"]) := by
  have around : Blank.Padded "dishes" "\tdishes " :=
    ⟨['\t'], [' '], List.forall_mem_singleton.mpr rfl, List.forall_mem_singleton.mpr rfl, rfl⟩
  have branch : Template.Exchanged (menu "dishes") (menu "\tdishes ") (offered (menu "dishes")) (offered (menu "\tdishes ")) :=
    .inside (.branch ⟨"$if", .conditional, [], []⟩ "$then" [(.text "$check", .text "dishes")] [] rfl (.inl rfl) rfl rfl rfl)
  have respaced := Template.respaced_of_replaced (menu_padded around) (.inr (.inr branch))
  obtain ⟨_, same, _⟩ := document_of_respaced respaced {} kitchen
  exact ⟨respaced, same (.inl rfl), rfl⟩

theorem menu_repeated :
    Template.Respaced (menu ".") (menu " .") ∧
    (document {} (menu ".") dishes).outcome = .ok (menuEvents ["soup", "rice"]) ∧
    (document {} (menu " .") dishes).outcome = .ok (menuEvents ["soup"] ++ menuEvents ["rice"]) ∧
    (document {} (menu " .") dishes).outcome ≠ (document {} (menu ".") dishes).outcome := by
  have around : Blank.Padded "." " ." := ⟨[' '], [], List.forall_mem_singleton.mpr rfl, List.forall_mem_nil _, rfl⟩
  have respaced := Template.respaced_of_replaced (menu_padded around) (.inr (.inl ⟨rfl, rfl⟩))
  have once : (document {} (menu ".") dishes).outcome = .ok (menuEvents ["soup", "rice"]) := rfl
  have twice : (document {} (menu " .") dishes).outcome = .ok (menuEvents ["soup"] ++ menuEvents ["rice"]) := rfl
  refine ⟨respaced, once, twice, ?_⟩
  rw [once, twice]
  simp [menuEvents]

end Render
end HtmlTemplate
