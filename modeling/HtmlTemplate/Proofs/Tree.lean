import HtmlTemplate.Escape.Named
import HtmlTemplate.Proofs.Dom
import HtmlTemplate.Proofs.Guard
namespace HtmlTemplate

def Dom.textNode (data : String) : List Dom.Node := if data = "" then [] else [.text data]

-- The tree that a forest stands for. Texts next to each other are one node with what
-- they decode to, one behind the other; `run` is what has been decoded since the
-- last other node.
def Forest.tree (names : Escape.Names) (depth : Int) (run : String) : Forest → List Dom.Node
  | .nil => Dom.textNode run
  | .text html rest => rest.tree names depth (run ++ onChars names.decode html)
  | .void tag pairs rest => Dom.textNode run ++ .element tag pairs [] :: rest.tree names depth ""
  | .element tag pairs inner rest =>
    Dom.textNode run ++ .element tag pairs (inner.tree names (depth + 1) "") :: rest.tree names depth ""
  | .comment inner rest =>
    Dom.textNode run ++
      .comment (String.ofList (Comment.breakDashes (Markup.format [] (inner.events (depth + 1))))) :: rest.tree names depth ""

namespace Dom

def withText (data : String) (nodes : List Node) : List Node :=
  if data = "" then nodes
  else
    match nodes with
    | .text more :: rest => .text (data ++ more) :: rest
    | rest => .text data :: rest

theorem normalize_text (data : String) (nodes : List Node) :
    normalize (.text data :: nodes) = withText data (normalize nodes) := rfl

theorem withText_withText (first second : String) (nodes : List Node) :
    withText first (withText second nodes) = withText (first ++ second) nodes := by
  by_cases none : first = ""
  · rw [none, String.empty_append]
    rfl
  by_cases last : second = ""
  · rw [last, String.append_empty]
    rfl
  have both : first ++ second ≠ "" := by simp [none]
  simp only [withText, if_neg none, if_neg last, if_neg both]
  cases nodes with
  | nil => rfl
  | cons node rest =>
    cases node with
    | text more => simp only [String.append_assoc]
    | comment data => rfl
    | element tag attributes children => rfl

theorem withText_nil (data : String) : withText data [] = textNode data := rfl

theorem withText_comment (data comment : String) (nodes : List Node) :
    withText data (.comment comment :: nodes) = textNode data ++ .comment comment :: nodes := by
  unfold withText textNode
  split <;> rfl

theorem withText_element (data tag : String) (attributes : List (String × String)) (children nodes : List Node) :
    withText data (.element tag attributes children :: nodes) =
      textNode data ++ .element tag attributes children :: nodes := by
  unfold withText textNode
  split <;> rfl

def Keeps : Event → Prop
  | .openTag _ _ pairs _ => setAttributes pairs = pairs
  | .closeTag _ _ | .text _ _ | .openComment _ | .closeComment _ => True

theorem normalize_nodes (names : Escape.Names) (forest : Forest) (depth : Int) (run : String)
    (keeps : ∀ event ∈ forest.events depth, Keeps event) :
    withText run (normalize (forest.nodes names)) = forest.tree names depth run := by
  induction forest generalizing depth run with
  | nil => exact withText_nil run
  | text html rest ih =>
    have later : ∀ event ∈ rest.events depth, Keeps event := fun event member => keeps event (List.mem_cons_of_mem _ member)
    rw [Forest.nodes, Forest.tree, ← ih depth _ later]
    split
    · rename_i empty
      rw [empty, List.nil_append]
      exact congrArg (withText · _) (String.append_empty).symm
    · rw [List.singleton_append, normalize_text, withText_withText]
  | void tag pairs rest ih =>
    obtain ⟨own, later⟩ := List.forall_mem_cons.mp keeps
    have kept : setAttributes pairs = pairs := own
    rw [Forest.nodes, Forest.tree, normalize.eq_3 _ _ (by simp), normalizeNode, withText_element, ← ih depth "" later, kept]
    rfl
  | element tag pairs inner rest innerIh ih =>
    obtain ⟨own, others⟩ := List.forall_mem_cons.mp keeps
    obtain ⟨inside, closing⟩ := List.forall_mem_append.mp others
    obtain ⟨_, later⟩ := List.forall_mem_cons.mp closing
    have kept : setAttributes pairs = pairs := own
    rw [Forest.nodes, Forest.tree, normalize.eq_3 _ _ (by simp), normalizeNode, withText_element, ← ih depth "" later, kept,
      ← innerIh (depth + 1) "" inside]
    rfl
  | comment inner rest _ ih =>
    obtain ⟨_, others⟩ := List.forall_mem_cons.mp keeps
    obtain ⟨_, closing⟩ := List.forall_mem_append.mp others
    obtain ⟨_, later⟩ := List.forall_mem_cons.mp closing
    rw [Forest.nodes, Forest.tree, normalize.eq_3 _ _ (by simp), normalizeNode, withText_comment, ← ih depth "" later,
      Markup.format_compact]
    rfl

end Dom

variable {settings : Render.Settings} {template : Value}

def Contents.single : Contents := ⟨fun _ => True, fun _ pairs _ => (pairs.map (·.1)).Nodup⟩

section

variable [Stack]

theorem Contents.single_admits (once : template.keysOnce = true) : Contents.single.Admits settings template where
  text _ _ _ := fun _ _ _ => trivial
  scalar _ _ _ _ := trivial
  tag _ _ inside read _ _ _ kept := Render.attributes_ensures.mono fun _ known => known.once once inside read kept

end

theorem Contents.single_admitsWrappers : Contents.single.AdmitsWrappers := by
  unfold AdmitsWrappers single
  decide

namespace Render

-- The nodes that are built for a render are the tree of the forest that its events
-- spell, with all attributes of all its elements.
theorem tree_of_document [Stack] (names : Escape.Names) (once : template.keysOnce = true) (data : Value) :
    (document settings template data).Ensures fun events =>
      (∀ depth tag pairs void, .openTag depth tag pairs void ∈ events → ∀ pair ∈ pairs, ':' ∉ pair.1.toList) →
        (∃ forest : Forest, events = forest.events 0) ∧
        ∀ forest : Forest, events = forest.events 0 → Dom.ofEvents names events = forest.tree names 0 "" := by
  refine (Contents.document_stream (Contents.single_admits once) Contents.single_admitsWrappers).mono ?_
  intro events stream plain
  have keeps : ∀ event ∈ events, Dom.Keeps event := by
    intro event emitted
    have allowed := stream.allows emitted
    cases event with
    | openTag depth tag pairs void => exact Dom.setAttributes_eq allowed (plain depth tag pairs void emitted)
    | closeTag depth tag => trivial
    | text depth html => trivial
    | openComment depth => trivial
    | closeComment depth => trivial
  refine ⟨?_, ?_⟩
  · obtain ⟨forest, spelled, _⟩ := stream
    exact ⟨forest, spelled⟩
  · intro forest spelled
    subst spelled
    rw [Dom.ofEvents_events]
    exact Dom.normalize_nodes names forest 0 "" keeps

def remarks : Value :=
  .sequence .list 1 [.text "a &lt; ", .mapping 2 [(.text "script", .null)], .text "\x7b\x7b.\x7d\x7d",
    .mapping 3 [(.text "$comment", .sequence .list 4 [.text "--", .mapping 5 [(.text "br", .null)]])],
    .mapping 6 [(.text "p", .mapping 7 [(.text "title", .text "t"), (.text "id", .text "<"),
      (.text "$children", .sequence .list 8 [.text "&#1;", .mapping 9 [(.text "br", .null)]])])]]

def remarksForest : Forest :=
  .text "a &lt; " (.text "&amp;lt;" (.comment (.text "--" (.void "br" [] .nil))
    (.element "p" [("title", "t"), ("id", "<")] (.text "&#1;" (.void "br" [] .nil)) .nil)))

theorem tree_of_remarks :
    remarks.keysOnce = true ∧
    (document {} remarks (.text "&lt;")).outcome = .ok (remarksForest.events 0) ∧
    (∀ depth tag pairs void, .openTag depth tag pairs void ∈ remarksForest.events 0 → ∀ pair ∈ pairs, ':' ∉ pair.1.toList) ∧
    Dom.ofEvents .standard (remarksForest.events 0) = [
      .text "a < &lt;", .comment "- -<br>",
      .element "p" [("title", "t"), ("id", "<")] [.element "br" [] []]] := by
  have once : remarks.keysOnce = true := by decide
  have returned : (document {} remarks (.text "&lt;")).outcome = .ok (remarksForest.events 0) :=
    Run.outcome_of_toOption (by decide +kernel)
  have plain : ∀ depth tag pairs void, .openTag depth tag pairs void ∈ remarksForest.events 0 →
      ∀ pair ∈ pairs, ':' ∉ pair.1.toList := by
    intro depth tag pairs void emitted
    simp only [remarksForest, Forest.events, List.mem_cons, List.mem_append, List.not_mem_nil, reduceCtorEq,
      Event.openTag.injEq, false_or, or_false] at emitted
    rcases emitted with ⟨-, -, rfl, -⟩ | ⟨-, -, rfl, -⟩ | ⟨-, -, rfl, -⟩
    all_goals decide
  obtain ⟨_, built⟩ := tree_of_document .standard once (.text "&lt;") _ returned plain
  refine ⟨once, returned, plain, (built remarksForest rfl).trans ?_⟩
  rfl

end Render
end HtmlTemplate
