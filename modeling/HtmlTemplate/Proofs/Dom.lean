import HtmlTemplate.Dom
import HtmlTemplate.Proofs.Escape
import HtmlTemplate.Proofs.Markup
import Mathlib.Data.List.TakeWhile
namespace HtmlTemplate

-- A forest as nodes. The body of a comment is compact markup, not a tree.
def Forest.nodes (names : Escape.Names) : Forest → List Dom.Node
  | .nil => []
  | .text html rest =>
    (if html = "" then [] else [.text (onChars names.decode html)]) ++ rest.nodes names
  | .void tag pairs rest => .element tag (Dom.setAttributes pairs) [] :: rest.nodes names
  | .element tag pairs inner rest => .element tag (Dom.setAttributes pairs) (inner.nodes names) :: rest.nodes names
  | .comment inner rest => .comment (String.ofList (Comment.breakDashes inner.markup)) :: rest.nodes names

namespace Dom

variable {names : Escape.Names}

def State.extend (state : State) (added : List Node) : State :=
  match state.frames with
  | [] => { state with nodes := state.nodes ++ added }
  | frame :: rest => { state with frames := { frame with children := frame.children ++ added } :: rest }

theorem add_eq_extend (state : State) (node : Node) : state.add node = state.extend [node] := rfl

theorem extend_nil (state : State) : state.extend [] = state := by
  obtain ⟨nodes, frames, comment⟩ := state
  cases frames <;> simp [State.extend]

theorem extend_extend (state : State) (xs ys : List Node) :
    (state.extend xs).extend ys = state.extend (xs ++ ys) := by
  obtain ⟨nodes, frames, comment⟩ := state
  cases frames <;> simp [State.extend]

theorem comment_extend {state : State} (apart : state.comment = none) (xs : List Node) :
    (state.extend xs).comment = none := by
  obtain ⟨nodes, frames, comment⟩ := state
  cases frames <;> exact apart

def State.enter (state : State) (tag : String) (attributes : List (String × String)) : State :=
  { state with frames := ⟨tag, attributes, []⟩ :: state.frames }

theorem step_text {state : State} (apart : state.comment = none) (depth : Int) (html : String) :
    step names state (.text depth html) =
      state.extend (if html = "" then [] else [.text (onChars names.decode html)]) := by
  simp only [step, apart]
  split
  · exact (extend_nil state).symm
  · exact add_eq_extend state _

theorem step_void {state : State} (apart : state.comment = none) (depth : Int) (tag : String)
    (pairs : List (String × String)) :
    step names state (.openTag depth tag pairs true) = state.extend [.element tag (setAttributes pairs) []] := by
  simp only [step, apart, add_eq_extend]

theorem step_openTag {state : State} (apart : state.comment = none) (depth : Int) (tag : String)
    (pairs : List (String × String)) :
    step names state (.openTag depth tag pairs false) = state.enter tag (setAttributes pairs) := by
  simp only [step, apart, State.enter]

theorem step_closeTag {state : State} (apart : state.comment = none) (depth : Int) (tag : String)
    (attributes : List (String × String)) (xs : List Node) :
    step names ((state.enter tag attributes).extend xs) (.closeTag depth tag) =
      state.extend [.element tag attributes xs] := by
  have outside : (state.enter tag attributes).comment = none := apart
  simp only [step, comment_extend outside]
  rfl

theorem ne_closeComment {forest : Forest} {depth : Int} {event : Event}
    (emitted : event ∈ forest.events (depth + 1)) : event ≠ .closeComment depth := by
  rintro rfl
  have deeper := Forest.depth_le emitted
  simp only [Event.depth] at deeper
  omega

theorem step_collect {state : State} {depth : Int} {collected : List Event} {event : Event}
    (collecting : state.comment = some (depth, collected)) (inside : event ≠ .closeComment depth) :
    step names state event = { state with comment := some (depth, collected ++ [event]) } := by
  simp only [step, collecting, if_neg inside]

theorem foldl_step_collect {events : List Event} {state : State} {depth : Int} {collected : List Event}
    (collecting : state.comment = some (depth, collected)) (inside : ∀ event ∈ events, event ≠ .closeComment depth) :
    events.foldl (step names) state = { state with comment := some (depth, collected ++ events) } := by
  induction events generalizing state collected with
  | nil => simp [← collecting]
  | cons event events ih =>
    rw [List.foldl_cons, step_collect collecting (inside event List.mem_cons_self),
      ih rfl fun later member => inside later (List.mem_cons_of_mem _ member)]
    simp

theorem step_openComment {state : State} (apart : state.comment = none) (depth : Int) :
    step names state (.openComment depth) = { state with comment := some (depth, []) } := by
  simp only [step, apart]

theorem foldl_step_comment (inner : Forest) (depth : Int) {state : State} (apart : state.comment = none) :
    step names ((inner.events (depth + 1)).foldl (step names) { state with comment := some (depth, []) }) (.closeComment depth) =
      state.extend [.comment (String.ofList (Comment.breakDashes inner.markup))] := by
  have unchanged : { state with comment := none } = state := by rw [← apart]
  rw [foldl_step_collect rfl fun _ => ne_closeComment]
  simp only [step, if_true, List.nil_append, unchanged, commentNode, Markup.format_compact, add_eq_extend]

theorem foldl_step_events (forest : Forest) (depth : Int) (state : State) (apart : state.comment = none) :
    (forest.events depth).foldl (step names) state = state.extend (forest.nodes names) := by
  induction forest generalizing depth state with
  | nil => exact (extend_nil state).symm
  | text html rest ih =>
    rw [Forest.events, List.foldl_cons, step_text apart, ih depth _ (comment_extend apart _), extend_extend, Forest.nodes]
  | void tag pairs rest ih =>
    rw [Forest.events, List.foldl_cons, step_void apart, ih depth _ (comment_extend apart _), extend_extend, Forest.nodes,
      List.singleton_append]
  | element tag pairs inner rest innerIh ih =>
    simp only [Forest.events, List.cons_append, List.foldl_cons, List.foldl_append]
    rw [step_openTag apart, innerIh (depth + 1) (state.enter tag _) apart, step_closeTag apart, ih depth _ (comment_extend apart _), extend_extend,
      Forest.nodes, List.singleton_append]
  | comment inner rest _ ih =>
    simp only [Forest.events, List.cons_append, List.foldl_cons, List.foldl_append]
    rw [step_openComment apart, foldl_step_comment inner depth apart, ih depth _ (comment_extend apart _), extend_extend,
      Forest.nodes, List.singleton_append]

-- An end finds on top of the open elements what it ends, and a comment that is
-- collected ends with a body that has all its own ends.
def Ready (state : State) (event : Event) : Prop :=
  match state.comment, event with
  | some (depth, collected), event => event = .closeComment depth → Markup.Balanced [] collected
  | none, .closeTag _ tag => ∃ attributes children frames, state.frames = ⟨tag, attributes, children⟩ :: frames
  | none, .closeComment _ => False
  | none, .openTag _ _ _ _ | none, .text _ _ | none, .openComment _ => True

theorem throughout_collect {events : List Event} {state : State} {depth : Int} {collected : List Event}
    (collecting : state.comment = some (depth, collected)) (inside : ∀ event ∈ events, event ≠ .closeComment depth) :
    Throughout (step names) Ready state events := by
  induction events generalizing state collected with
  | nil => trivial
  | cons event events ih =>
    have other := inside event List.mem_cons_self
    refine ⟨?_, ?_⟩
    · simpa only [Ready, collecting] using fun same => absurd same other
    · rw [step_collect collecting other]
      exact ih rfl fun later member => inside later (List.mem_cons_of_mem _ member)

theorem throughout_events (forest : Forest) (depth : Int) (state : State) (apart : state.comment = none) :
    Throughout (step names) Ready state (forest.events depth) := by
  induction forest generalizing depth state with
  | nil => trivial
  | text html rest ih =>
    refine ⟨by simp only [Ready, apart], ?_⟩
    rw [step_text apart]
    exact ih depth _ (comment_extend apart _)
  | void tag pairs rest ih =>
    refine ⟨by simp only [Ready, apart], ?_⟩
    rw [step_void apart]
    exact ih depth _ (comment_extend apart _)
  | element tag pairs inner rest innerIh ih =>
    have outside : (state.enter tag (setAttributes pairs)).comment = none := apart
    refine ⟨by simp only [Ready, apart], ?_⟩
    rw [step_openTag apart]
    refine throughout_append (innerIh (depth + 1) (state.enter tag _) apart) ?_
    rw [foldl_step_events inner (depth + 1) (state.enter tag _) apart]
    refine ⟨?_, ?_⟩
    · simp only [Ready, comment_extend outside]
      exact ⟨_, _, state.frames, rfl⟩
    · rw [step_closeTag apart]
      exact ih depth _ (comment_extend apart _)
  | comment inner rest _ ih =>
    refine ⟨by simp only [Ready, apart], ?_⟩
    rw [step_openComment apart]
    refine throughout_append (throughout_collect rfl fun _ => ne_closeComment) ⟨?_, ?_⟩
    · rw [foldl_step_collect rfl fun _ => ne_closeComment]
      exact fun _ => Markup.balanced_events [] inner (depth + 1)
    · rw [foldl_step_comment inner depth apart]
      exact ih depth _ (comment_extend apart _)

structure Balanced (names : Escape.Names) (events : List Event) : Prop where
  ready : Throughout (step names) Ready {} events
  closed : (events.foldl (step names) {}).frames = []
  apart : (events.foldl (step names) {}).comment = none

theorem balanced_events (forest : Forest) (depth : Int) : Balanced names (forest.events depth) := by
  have built := @foldl_step_events names forest depth {} rfl
  exact ⟨throughout_events forest depth {} rfl, by rw [built]; rfl, by rw [built]; rfl⟩

theorem ofEvents_events (forest : Forest) (depth : Int) : ofEvents names (forest.events depth) = normalize (forest.nodes names) := by
  rw [ofEvents, foldl_step_events forest depth {} rfl]
  rfl

theorem html_text (data : String) (nodes : List Node) :
    html (.text data :: nodes) = Escape.html data.toList ++ html nodes := rfl

theorem html_comment (data : String) (nodes : List Node) :
    html (.comment data :: nodes) = "<!--".toList ++ data.toList ++ "-->".toList ++ html nodes := rfl

theorem html_element (tag : String) (attributes : List (String × String)) (children nodes : List Node) :
    html (.element tag attributes children :: nodes) =
      (if tag ∈ Vocabulary.voidTags then Markup.startTag tag attributes
        else Markup.startTag tag attributes ++ html children ++ Markup.endTag tag) ++ html nodes := rfl

theorem html_append (xs ys : List Node) : html (xs ++ ys) = html xs ++ html ys := by
  induction xs with
  | nil => rfl
  | cons x xs ih => rw [List.cons_append, html, html, ih, List.append_assoc]

theorem html_normalize : (nodes : List Node) → html (normalize nodes) = html nodes
  | [] => rfl
  | .text data :: rest => by
    have same := html_normalize rest
    rw [normalize]
    split
    · rename_i empty
      rw [same, empty]
      rfl
    split
    · rename_i more nodes merged
      rw [merged, html_text] at same
      rw [html_text, html_text, ← same, String.toList_append, Escape.html_append, List.append_assoc]
    · rw [html_text, html_text, same]
  | .comment data :: rest => by
    rw [normalize.eq_3 _ _ (by simp), normalizeNode, html_comment, html_comment, html_normalize rest]
  | .element tag attributes children :: rest => by
    rw [normalize.eq_3 _ _ (by simp), normalizeNode, html_element, html_element, html_normalize children,
      html_normalize rest]

theorem localName_eq {name : String} (plain : ':' ∉ name.toList) : localName name = name.toList := by
  have all : name.toList.dropWhile (· ≠ ':') = [] := by
    rw [List.dropWhile_eq_nil_iff]
    intro c member
    simpa using fun same : c = ':' => plain (same ▸ member)
  rw [localName, all]

theorem setAttribute_new {attributes : List (String × String)} {pair : String × String}
    (new : ∀ old ∈ attributes, old.1 ≠ pair.1) (plain : ':' ∉ pair.1.toList)
    (plainOld : ∀ old ∈ attributes, ':' ∉ old.1.toList) : setAttribute attributes pair = attributes ++ [pair] := by
  have kept : attributes.filter (fun old => localName old.1 ≠ localName pair.1) = attributes := by
    rw [List.filter_eq_self]
    intro old member
    rw [localName_eq plain, localName_eq (plainOld old member), decide_eq_true_eq, ne_eq, String.toList_inj]
    exact new old member
  rw [setAttribute, if_neg (by simpa using fun value member => new (pair.1, value) member rfl), kept]

theorem foldl_setAttribute {pairs attributes : List (String × String)}
    (once : ((attributes ++ pairs).map (·.1)).Nodup) (plain : ∀ pair ∈ attributes ++ pairs, ':' ∉ pair.1.toList) :
    pairs.foldl setAttribute attributes = attributes ++ pairs := by
  induction pairs generalizing attributes with
  | nil => exact (List.append_nil attributes).symm
  | cons pair pairs ih =>
    have next : setAttribute attributes pair = attributes ++ [pair] := by
      refine setAttribute_new (fun old member same => ?_) (plain pair (by simp))
        fun old member => plain old (List.mem_append_left _ member)
      rw [List.map_append, List.nodup_append] at once
      exact once.2.2 _ (List.mem_map_of_mem member) _ (List.mem_map_of_mem List.mem_cons_self) same
    have grouped : attributes ++ pair :: pairs = attributes ++ [pair] ++ pairs := by simp
    rw [List.foldl_cons, next, grouped]
    rw [grouped] at once plain
    exact ih once plain

theorem setAttributes_eq {pairs : List (String × String)} (once : (pairs.map (·.1)).Nodup)
    (plain : ∀ pair ∈ pairs, ':' ∉ pair.1.toList) : setAttributes pairs = pairs := foldl_setAttribute once plain

end Dom
end HtmlTemplate
