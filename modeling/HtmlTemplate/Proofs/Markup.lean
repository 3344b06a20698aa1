import HtmlTemplate.Markup
import HtmlTemplate.Proofs.Forest
namespace HtmlTemplate

def Markup.commented (body : List Char) : List Char :=
  "<!--".toList ++ Comment.breakDashes body ++ "-->".toList

theorem Markup.commented_eq (body : List Char) :
    commented body = "<!--".toList ++ Comment.breakDashes body ++ "-->".toList := rfl

namespace Forest

def lines (indent : List Char) (isTop : Bool) (depth : Int) : Forest → List Markup.Line
  | .nil => []
  | .text html rest => Markup.textLines indent isTop depth html.toList ++ rest.lines indent isTop depth
  | .void tag pairs rest => ⟨depth, Markup.startTag tag pairs⟩ :: rest.lines indent isTop depth
  | .element tag pairs inner rest =>
    Markup.Frame.close indent ⟨.element tag pairs, depth, inner.lines indent false (depth + 1)⟩ ::
      rest.lines indent isTop depth
  | .comment inner rest =>
    Markup.Frame.close indent ⟨.comment, depth, inner.lines indent false (depth + 1)⟩ ::
      rest.lines indent isTop depth

def markup : Forest → List Char
  | .nil => []
  | .text html rest => html.toList ++ rest.markup
  | .void tag pairs rest => Markup.startTag tag pairs ++ rest.markup
  | .element tag pairs inner rest =>
    Markup.startTag tag pairs ++ inner.markup ++ Markup.endTag tag ++ rest.markup
  | .comment inner rest => Markup.commented inner.markup ++ rest.markup

theorem markup_append (forest other : Forest) :
    (forest.append other).markup = forest.markup ++ other.markup := by
  induction forest with
  | nil => rfl
  | text html rest ih | void tag pairs rest ih | element tag pairs inner rest _ ih | comment inner rest _ ih =>
    simp only [append, markup, ih, List.append_assoc]

end Forest

namespace Markup

theorem add_nil (state : State) : state.add [] = state := by
  obtain ⟨lines, frames⟩ := state
  cases frames <;> simp [State.add]

theorem add_add (state : State) (xs ys : List Line) : (state.add xs).add ys = state.add (xs ++ ys) := by
  obtain ⟨lines, frames⟩ := state
  cases frames <;> simp [State.add]

theorem isEmpty_frames_add (state : State) (xs : List Line) :
    (state.add xs).frames.isEmpty = state.frames.isEmpty := by
  obtain ⟨lines, frames⟩ := state
  cases frames <;> simp [State.add]

theorem pop_add (indent : List Char) (state : State) (opener : Opener) (depth : Int) (lines : List Line) :
    (State.add { state with frames := ⟨opener, depth, []⟩ :: state.frames } lines).pop indent =
      state.add [Frame.close indent ⟨opener, depth, lines⟩] := rfl

theorem foldl_step_events (indent : List Char) (forest : Forest) (depth : Int) (state : State) :
    (forest.events depth).foldl (step indent) state =
      state.add (forest.lines indent state.frames.isEmpty depth) := by
  induction forest generalizing depth state with
  | nil => exact (add_nil state).symm
  | text html rest ih =>
    simp only [Forest.events, Forest.lines, List.foldl_cons, step]
    rw [ih, add_add, isEmpty_frames_add]
  | void tag pairs rest ih =>
    simp only [Forest.events, Forest.lines, List.foldl_cons, step]
    rw [ih, add_add, isEmpty_frames_add, List.singleton_append]
  | element tag pairs inner rest innerIh ih =>
    simp only [Forest.events, Forest.lines, List.foldl_cons, List.cons_append, List.foldl_append, step]
    rw [innerIh, pop_add, ih, add_add, isEmpty_frames_add, List.singleton_append]
    rfl
  | comment inner rest innerIh ih =>
    simp only [Forest.events, Forest.lines, List.foldl_cons, List.cons_append, List.foldl_append, step]
    rw [innerIh, pop_add, ih, add_add, isEmpty_frames_add, List.singleton_append]
    rfl

def Ready (state : State) : Event → Prop
  | .closeTag depth tag => ∃ pairs lines frames, state.frames = ⟨.element tag pairs, depth, lines⟩ :: frames
  | .closeComment depth => ∃ lines frames, state.frames = ⟨.comment, depth, lines⟩ :: frames
  | .openTag _ _ _ _ | .text _ _ | .openComment _ => True

theorem throughout_events (indent : List Char) (forest : Forest) (depth : Int) (state : State) :
    Throughout (step indent) Ready state (forest.events depth) := by
  induction forest generalizing depth state with
  | nil => trivial
  | text html rest ih | void tag pairs rest ih => exact ⟨trivial, ih depth _⟩
  | element tag pairs inner rest innerIh ih =>
    refine ⟨trivial, throughout_append (innerIh (depth + 1) _) ⟨?_, ih depth _⟩⟩
    rw [foldl_step_events]
    exact ⟨pairs, _, state.frames, rfl⟩
  | comment inner rest innerIh ih =>
    refine ⟨trivial, throughout_append (innerIh (depth + 1) _) ⟨?_, ih depth _⟩⟩
    rw [foldl_step_events]
    exact ⟨_, state.frames, rfl⟩

structure Balanced (indent : List Char) (events : List Event) : Prop where
  ready : Throughout (step indent) Ready {} events
  closed : (events.foldl (step indent) {}).frames = []

theorem balanced_events (indent : List Char) (forest : Forest) (depth : Int) :
    Balanced indent (forest.events depth) := by
  refine ⟨throughout_events indent forest depth {}, ?_⟩
  rw [foldl_step_events]
  rfl

theorem joinWith_nil (pieces : List (List Char)) : Chars.joinWith [] pieces = pieces.flatten := by
  induction pieces with
  | nil => rfl
  | cons piece pieces ih =>
    cases pieces with
    | nil => simp [Chars.joinWith]
    | cons next pieces => simp [Chars.joinWith, ih]

theorem flatMap_filter_html (lines : List Line) :
    (lines.filter fun line => !line.html.isEmpty).flatMap (·.html) = lines.flatMap (·.html) := by
  induction lines with
  | nil => rfl
  | cons line lines ih =>
    by_cases empty : line.html = []
    · simp [empty, ih]
    · simp [empty, ih]

theorem body_compact (lines : List Line) : body [] lines = lines.flatMap (·.html) :=
  flatMap_filter_html lines

theorem close_element (tag : String) (pairs : List (String × String)) (depth : Int) (lines : List Line) :
    (Frame.close [] ⟨.element tag pairs, depth, lines⟩).html =
      startTag tag pairs ++ lines.flatMap (·.html) ++ endTag tag := by
  simp only [Frame.close, body_compact, List.isEmpty_nil, Bool.not_true, Bool.false_and, Bool.false_eq_true,
    if_false, List.append_nil]

theorem close_comment (depth : Int) (lines : List Line) :
    (Frame.close [] ⟨.comment, depth, lines⟩).html = commented (lines.flatMap (·.html)) := by
  rw [← body_compact]
  exact congrArg (· ++ "-->".toList) (List.append_nil ("<!--".toList ++ Comment.breakDashes (body [] lines)))

theorem textLines_compact (isTop : Bool) (depth : Int) (html : List Char) :
    (textLines [] isTop depth html).flatMap (·.html) = html := by
  cases html with
  | nil => rfl
  | cons c s => exact List.append_nil (c :: s)

theorem textLines_top (isTop other : Bool) (depth : Int) (html : List Char) :
    textLines [] isTop depth html = textLines [] other depth html := rfl

-- With nothing to indent the levels are not read: what spells a forest adds lines
-- with its markup to the innermost open frame and leaves the others alone.
theorem foldl_step_spells (spells : Spells events forest) :
    ∃ lines : List Line, lines.flatMap (·.html) = forest.markup ∧
      ∀ state, events.foldl (step []) state = state.add lines := by
  induction spells with
  | nil => exact ⟨[], rfl, fun state => (add_nil state).symm⟩
  | text depth html _ ih =>
    obtain ⟨lines, written, run⟩ := ih
    refine ⟨textLines [] true depth html.toList ++ lines, ?_, ?_⟩
    · rw [List.flatMap_append, textLines_compact, written, Forest.markup]
    · intro state
      rw [List.foldl_cons, step, run, add_add, textLines_top]
  | void depth tag pairs _ ih =>
    obtain ⟨lines, written, run⟩ := ih
    refine ⟨⟨depth, startTag tag pairs⟩ :: lines, ?_, ?_⟩
    · rw [List.flatMap_cons, written, Forest.markup]
    · intro state
      rw [List.foldl_cons, step, run, add_add, List.singleton_append]
  | element depth last tag pairs _ _ innerIh ih =>
    obtain ⟨inside, innerWritten, innerRun⟩ := innerIh
    obtain ⟨lines, written, run⟩ := ih
    refine ⟨Frame.close [] ⟨.element tag pairs, depth, inside⟩ :: lines, ?_, ?_⟩
    · rw [List.flatMap_cons, close_element, innerWritten, written, Forest.markup]
    · intro state
      rw [List.foldl_append, List.foldl_cons, List.foldl_cons, step, innerRun, step, pop_add, run, add_add,
        List.singleton_append]
  | comment depth last _ _ innerIh ih =>
    obtain ⟨inside, innerWritten, innerRun⟩ := innerIh
    obtain ⟨lines, written, run⟩ := ih
    refine ⟨Frame.close [] ⟨.comment, depth, inside⟩ :: lines, ?_, ?_⟩
    · rw [List.flatMap_cons, close_comment, innerWritten, written, Forest.markup]
    · intro state
      rw [List.foldl_append, List.foldl_cons, List.foldl_cons, step, innerRun, step, pop_add, run, add_add,
        List.singleton_append]

theorem format_spells (spells : Spells events forest) : format [] events = forest.markup := by
  obtain ⟨lines, written, run⟩ := foldl_step_spells spells
  have top : (events.foldl (step []) {}).lines = lines := by
    rw [run]
    rfl
  rw [format, top, List.isEmpty_nil, if_pos rfl, joinWith_nil, ← List.flatMap_def, flatMap_filter_html, written]

theorem format_compact (forest : Forest) (depth : Int) : format [] (forest.events depth) = forest.markup :=
  format_spells (.ofForest forest depth)

theorem format_events (indent : List Char) (forest : Forest) (depth : Int) :
    format indent (forest.events depth) =
      Chars.joinWith (if indent.isEmpty then [] else ['\n'])
        (((forest.lines indent true depth).filter fun line => !line.html.isEmpty).map (·.html)) := by
  have topLines : ((forest.events depth).foldl (step indent) {}).lines = forest.lines indent true depth := by
    rw [foldl_step_events]
    rfl
  rw [format, topLines]

end Markup
end HtmlTemplate
