import HtmlTemplate.Proofs.Comment
namespace HtmlTemplate

def isInk (c : Char) : Bool := !(c = ' ' || c = '\t' || c = '\n')
def ink (s : List Char) : List Char := s.filter isInk

section Ink

variable {s separator : List Char}

theorem ink_append (s t : List Char) : ink (s ++ t) = ink s ++ ink t := List.filter_append ..

theorem ink_cons (c : Char) (s : List Char) : ink (c :: s) = ink [c] ++ ink s := ink_append [c] s

theorem ink_blank (blank : ∀ c ∈ s, c = ' ' ∨ c = '\t') : ink s = [] := by
  refine List.filter_eq_nil_iff.mpr ?_
  intro c member
  rcases blank c member with rfl | rfl <;> decide

theorem ink_breakDashes (s : List Char) : ink (Comment.breakDashes s) = ink s := by
  fun_induction Comment.breakDashes s with
  | case1 => rfl
  | case2 s ih => exact congrArg ('-' :: ·) ih
  | case3 c s other ih => rw [ink_cons, ih, ← ink_cons]

theorem ink_splitOn (s : List Char) : (Chars.splitOn '\n' s).flatMap ink = ink s := by
  induction s with
  | nil => rfl
  | cons c s ih =>
    unfold Chars.splitOn
    split
    · rename_i same
      rw [same, List.flatMap_cons, ih]
      rfl
    · rw [ink_cons, ← ih]
      cases Chars.splitOn '\n' s with
      | nil => rfl
      | cons piece pieces => simp only [List.flatMap_cons, ink_cons c piece, List.append_assoc]

theorem ink_joinWith (unseen : ink separator = []) (pieces : List (List Char)) :
    ink (Chars.joinWith separator pieces) = pieces.flatMap ink := by
  fun_induction Chars.joinWith separator pieces with
  | case1 => rfl
  | case2 only => exact (List.append_nil (ink only)).symm
  | case3 first rest more ih => rw [ink_append, ink_append, unseen, List.append_nil, ih, List.flatMap_cons]

end Ink

namespace Markup

def linesInk (lines : List Line) : List Char := lines.flatMap fun line => ink line.html

theorem linesInk_append (xs ys : List Line) : linesInk (xs ++ ys) = linesInk xs ++ linesInk ys := List.flatMap_append

theorem linesInk_single (line : Line) : linesInk [line] = ink line.html := List.append_nil (ink line.html)

theorem linesInk_shown (lines : List Line) :
    linesInk (lines.filter fun line => !line.html.isEmpty) = linesInk lines := by
  induction lines with
  | nil => rfl
  | cons line lines ih =>
    by_cases empty : line.html = []
    · simpa [linesInk, empty, ink] using ih
    · simpa [linesInk, empty] using ih

theorem linesInk_textLines (indent : List Char) (isTop : Bool) (depth : Int) (html : List Char) :
    linesInk (textLines indent isTop depth html) = ink html := by
  unfold textLines
  split
  · rename_i empty
    rw [List.isEmpty_iff.mp empty]
    rfl
  split
  · rw [linesInk, List.flatMap_map]
    exact ink_splitOn html
  · exact linesInk_single ⟨depth, html⟩

def Opener.around (opener : Opener) (inner : List Char) : List Char :=
  match opener with
  | .element tag pairs => ink (startTag tag pairs) ++ inner ++ ink (endTag tag)
  | .comment => ink "<!--".toList ++ inner ++ ink "-->".toList

section Pieces

variable {indent : List Char} (blank : ∀ c ∈ indent, c = ' ' ∨ c = '\t')
include blank

theorem ink_margin (level : Int) : ink (margin indent level) = [] :=
  ink_blank fun _ member => margin_blank blank member

theorem ink_body (lines : List Line) : ink (body indent lines) = linesInk lines := by
  have own (line : Line) : ink (margin indent line.level ++ line.html) = ink line.html := by
    rw [ink_append, ink_margin blank, List.nil_append]
  have broken (s : List Char) : ink ('\n' :: s ++ ['\n']) = ink s := by
    rw [ink_append]
    exact List.append_nil (ink s)
  rw [← linesInk_shown lines]
  unfold body
  dsimp only
  generalize lines.filter (fun line => !line.html.isEmpty) = shown
  split
  · rw [List.flatMap_def, ← joinWith_nil, ink_joinWith rfl, List.flatMap_map]
    rfl
  split
  · rfl
  · rename_i line
    rw [linesInk_single]
    split
    · rw [List.cons_append, broken, own]
    · rfl
  · rw [broken, ink_joinWith rfl, List.flatMap_map]
    simp only [own]
    rfl

theorem ink_close (frame : Frame) : ink (frame.close indent).html = frame.opener.around (linesInk frame.lines) := by
  obtain ⟨opener, depth, lines⟩ := frame
  have last : ink (if !indent.isEmpty && (body indent lines).head? = some '\n' then margin indent depth else []) = [] := by
    split
    · exact ink_margin blank depth
    · rfl
  cases opener with
  | element tag pairs =>
    simp only [Frame.close, Opener.around, ink_append, ink_body blank, last, List.append_nil]
  | comment =>
    simp only [Frame.close, Opener.around, ink_append, ink_breakDashes, ink_body blank, last, List.append_nil]

end Pieces

-- What can be seen of a state. It is kept by a machine of its own, which knows
-- neither levels nor lines.
structure Sketch where
  done : List Char := []
  frames : List (Opener × List Char) := []

namespace Sketch

def write (sketch : Sketch) (s : List Char) : Sketch :=
  match sketch.frames with
  | [] => { sketch with done := sketch.done ++ s }
  | (opener, inner) :: rest => { sketch with frames := (opener, inner ++ s) :: rest }

def enter (sketch : Sketch) (opener : Opener) : Sketch := { sketch with frames := (opener, []) :: sketch.frames }

def leave (sketch : Sketch) : Sketch :=
  match sketch.frames with
  | [] => sketch
  | (opener, inner) :: rest => write { sketch with frames := rest } (opener.around inner)

def step (sketch : Sketch) : Event → Sketch
  | .text _ html => sketch.write (ink html.toList)
  | .openTag _ tag pairs true => sketch.write (ink (startTag tag pairs))
  | .openTag _ tag pairs false => sketch.enter (.element tag pairs)
  | .openComment _ => sketch.enter .comment
  | .closeTag _ _ | .closeComment _ => sketch.leave

end Sketch

def State.sketch (state : State) : Sketch :=
  ⟨linesInk state.lines, state.frames.map fun frame => (frame.opener, linesInk frame.lines)⟩

theorem sketch_add (state : State) (added : List Line) :
    (state.add added).sketch = state.sketch.write (linesInk added) := by
  obtain ⟨lines, frames⟩ := state
  cases frames with
  | nil => simp only [State.add, State.sketch, Sketch.write, linesInk_append, List.map_nil]
  | cons frame rest => simp only [State.add, State.sketch, Sketch.write, linesInk_append, List.map_cons]

section Run

variable {indent : List Char} (blank : ∀ c ∈ indent, c = ' ' ∨ c = '\t')
include blank

theorem sketch_pop (state : State) : (state.pop indent).sketch = state.sketch.leave := by
  obtain ⟨lines, frames⟩ := state
  cases frames with
  | nil => rfl
  | cons frame rest =>
    rw [State.pop, sketch_add, linesInk_single, ink_close blank]
    rfl

theorem sketch_step (state : State) (event : Event) : (step indent state event).sketch = state.sketch.step event := by
  cases event with
  | openTag depth tag pairs void =>
    cases void with
    | true => rw [step, sketch_add, linesInk_single, Sketch.step]
    | false => rfl
  | closeTag depth tag => exact sketch_pop blank state
  | text depth html => rw [step, sketch_add, linesInk_textLines, Sketch.step]
  | openComment depth => rfl
  | closeComment depth => exact sketch_pop blank state

theorem sketch_run (events : List Event) (state : State) :
    (events.foldl (step indent) state).sketch = events.foldl Sketch.step state.sketch := by
  induction events generalizing state with
  | nil => rfl
  | cons event events ih => rw [List.foldl_cons, List.foldl_cons, ih, sketch_step blank]

theorem ink_format (events : List Event) : ink (format indent events) = (events.foldl Sketch.step {}).done := by
  have separator : ink (if indent.isEmpty then [] else ['\n']) = [] := by split <;> rfl
  have whole : (events.foldl (step indent) {}).sketch = events.foldl Sketch.step {} := sketch_run blank events {}
  rw [format, ink_joinWith separator, List.flatMap_map, ← whole]
  exact linesInk_shown _

end Run

-- Indented output and compact output of any stream differ in nothing but their
-- spaces, tabs and line breaks, and what else is in them is what the forest spells.
theorem ink_render {unit : String} (blank : ∀ c ∈ unit.toList, c = ' ' ∨ c = '\t') (events : List Event) :
    ink (render (some unit) events).toList = ink (render none events).toList ∧
    ∀ (forest : Forest) (depth : Int), events = forest.events depth →
      ink (render (some unit) events).toList = ink forest.markup := by
  have unindented : ∀ c ∈ ([] : List Char), c = ' ' ∨ c = '\t' := fun _ member => absurd member List.not_mem_nil
  have same : ink (render (some unit) events).toList = ink (render none events).toList := by
    simp only [render, String.toList_ofList, Option.map_some, Option.map_none, Option.getD_some, Option.getD_none]
    rw [ink_format blank, ink_format unindented]
  refine ⟨same, ?_⟩
  intro forest depth spelled
  rw [same, spelled, render, String.toList_ofList, Option.map_none, Option.getD_none, format_compact]

def noteForest : Forest :=
  .element "div" [("title", "a b")] (.text "x\n\ny" (.comment (.text "-" (.text "-" .nil)) .nil)) .nil

theorem ink_note :
    (∀ c ∈ "\t".toList, c = ' ' ∨ c = '\t') ∧
    render (some "\t") (noteForest.events 0) =
      "<div title=\"a b\">\n\tx\n\ty\n\t<!--\n\t\t-\n\t\t-\n\t-->\n</div>" ∧
    render none (noteForest.events 0) = "<div title=\"a b\">x\n\ny<!--- ---></div>" ∧
    ink (render (some "\t") (noteForest.events 0)).toList = ink (render none (noteForest.events 0)).toList ∧
    ink (render (some "\t") (noteForest.events 0)).toList = ink noteForest.markup := by
  have blank : ∀ c ∈ "\t".toList, c = ' ' ∨ c = '\t' := by simp
  obtain ⟨same, spelled⟩ := ink_render blank (noteForest.events 0)
  exact ⟨blank, by decide +kernel, by decide +kernel, same, spelled noteForest 0 rfl⟩

end Markup
end HtmlTemplate
