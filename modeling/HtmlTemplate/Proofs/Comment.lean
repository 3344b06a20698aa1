import HtmlTemplate.Escape.Named
import HtmlTemplate.Comment
import HtmlTemplate.Proofs.Clean
import HtmlTemplate.Proofs.Dom
namespace HtmlTemplate

namespace Comment

variable {s t body : List Char}

-- How HTML reads on behind `<!--`: up to the first `-->`. A comment that begins with
-- `>` or `->` has ended there already.

def readBody : List Char → Option (List Char × List Char)
  | '-' :: '-' :: '>' :: rest => some ([], rest)
  | c :: s => (readBody s).map fun read => (c :: read.1, read.2)
  | [] => none

def read : List Char → Option (List Char × List Char)
  | '>' :: rest | '-' :: '>' :: rest => some ([], rest)
  | s => readBody s

-- A body that has no end of a comment in it and forms none with what is around it.
structure Sealed (body : List Char) : Prop where
  broken : ¬['-', '-'] <:+: body
  start : ¬['>'] <+: body ∧ ¬['-', '>'] <+: body

theorem not_infix_cons {c : Char} :
    ¬['-', '-'] <:+: c :: s ↔ ¬(c = '-' ∧ s.head? = some '-') ∧ ¬['-', '-'] <:+: s := by
  rw [Chars.pair_infix_cons, not_or]

-- The end that is written is the first one: a hyphen at the end of the body stands
-- before two more, and no `>` comes in between.
theorem readBody_append (broken : ¬['-', '-'] <:+: body) (rest : List Char) :
    readBody (body ++ "-->".toList ++ rest) = some (body, rest) := by
  induction body with
  | nil => rfl
  | cons c body ih =>
    obtain ⟨single, more⟩ := not_infix_cons.mp broken
    have early : ∀ after, c = '-' → body ++ "-->".toList ++ rest = '-' :: '>' :: after → False := by
      rintro after rfl same
      cases body with
      | nil => simp at same
      | cons d body => simp_all
    rw [List.cons_append, List.cons_append, readBody.eq_2 _ _ early, ih more]
    rfl

theorem read_append (closed : Sealed body) (rest : List Char) :
    read (body ++ "-->".toList ++ rest) = some (body, rest) := by
  have notBracket : ∀ after, body ++ "-->".toList ++ rest = '>' :: after → False := by
    intro after same
    cases body with
    | nil => simp at same
    | cons c body =>
      obtain ⟨rfl, _⟩ := List.cons.inj same
      exact closed.start.1 (by simp)
  have notArrow : ∀ after, body ++ "-->".toList ++ rest = '-' :: '>' :: after → False := by
    intro after same
    match body with
    | [] => simp at same
    | [c] => simp at same
    | c :: d :: body =>
      obtain ⟨rfl, next⟩ := List.cons.inj same
      obtain ⟨rfl, _⟩ := List.cons.inj next
      exact closed.start.2 (by simp)
  rw [read.eq_3 _ notBracket notArrow, readBody_append closed.broken]

theorem breakDashes_cons {c : Char} (alone : ¬(c = '-' ∧ s.head? = some '-')) :
    breakDashes (c :: s) = c :: breakDashes s := by
  refine breakDashes.eq_3 c s fun rest same begins => alone ⟨same, by rw [begins]; rfl⟩

theorem head?_breakDashes (s : List Char) : (breakDashes s).head? = s.head? := by
  fun_cases breakDashes s <;> rfl

theorem breakDashes_broken (s : List Char) : ¬['-', '-'] <:+: breakDashes s := by
  fun_induction breakDashes s with
  | case1 => simp
  | case2 s ih => exact not_infix_cons.mpr ⟨by simp, not_infix_cons.mpr ⟨by simp, ih⟩⟩
  | case3 c s other ih =>
    refine not_infix_cons.mpr ⟨?_, ih⟩
    rw [head?_breakDashes]
    rintro ⟨rfl, next⟩
    obtain ⟨rest, rfl⟩ := List.head?_eq_some_iff.mp next
    exact other rest rfl rfl

theorem breakDashes_eq (broken : ¬['-', '-'] <:+: s) : breakDashes s = s := by
  induction s with
  | nil => rfl
  | cons c s ih =>
    obtain ⟨alone, rest⟩ := not_infix_cons.mp broken
    rw [breakDashes_cons alone, ih rest]

theorem breakDashes_append (plain : '-' ∉ t) : breakDashes (s ++ t) = breakDashes s ++ t := by
  fun_induction breakDashes s with
  | case1 => exact breakDashes_eq fun pair => plain (pair.subset List.mem_cons_self)
  | case2 s ih => rw [List.cons_append, List.cons_append, breakDashes, ← List.cons_append, ih]; rfl
  | case3 c s other ih =>
    have alone : ¬(c = '-' ∧ (s ++ t).head? = some '-') := by
      rintro ⟨rfl, next⟩
      cases s with
      | nil => exact plain (List.mem_of_head? next)
      | cons d s => exact other s rfl (by simpa using next)
    rw [List.cons_append, breakDashes_cons alone, ih, List.cons_append]

theorem sealed_breakDashes (start : ¬['>'] <+: s ∧ ¬['-', '>'] <+: s) : Sealed (breakDashes s) := by
  refine ⟨breakDashes_broken s, ?_, ?_⟩
  · rintro ⟨rest, same⟩
    have first : s.head? = some '>' := by rw [← head?_breakDashes, ← same]; rfl
    obtain ⟨tail, rfl⟩ := List.head?_eq_some_iff.mp first
    exact start.1 (by simp)
  · rintro ⟨rest, same⟩
    have first : s.head? = some '-' := by rw [← head?_breakDashes, ← same]; rfl
    obtain ⟨tail, rfl⟩ := List.head?_eq_some_iff.mp first
    by_cases run : tail.head? = some '-'
    · obtain ⟨more, rfl⟩ := List.head?_eq_some_iff.mp run
      cases same
    · rw [breakDashes_cons fun both => run both.2] at same
      have second : tail.head? = some '>' := by rw [← head?_breakDashes, ← (List.cons.inj same).2]; rfl
      obtain ⟨more, rfl⟩ := List.head?_eq_some_iff.mp second
      exact start.2 (by simp)

def OpensFirst : List Char → Prop
  | [] => True
  | c :: s => c ≠ '>' ∧ (c = '<' ∨ OpensFirst s)

theorem opensFirst_of_not_mem (plain : '>' ∉ s) : OpensFirst s := by
  induction s with
  | nil => trivial
  | cons c s ih =>
    obtain ⟨other, rest⟩ := not_or.mp (mt List.mem_cons.mpr plain)
    exact ⟨Ne.symm other, .inr (ih rest)⟩

theorem opensFirst_angle (s : List Char) : OpensFirst ('<' :: s) := ⟨by decide, .inl rfl⟩

theorem OpensFirst.append (first : OpensFirst s) (second : OpensFirst t) : OpensFirst (s ++ t) := by
  induction s with
  | nil => exact second
  | cons c s ih => exact ⟨first.1, first.2.imp_right ih⟩

theorem OpensFirst.start (opens : OpensFirst s) : ¬['>'] <+: s ∧ ¬['-', '>'] <+: s := by
  constructor
  · rintro ⟨rest, rfl⟩
    exact opens.1 rfl
  · rintro ⟨rest, rfl⟩
    exact opens.2.elim (by decide) fun inner => inner.1 rfl

end Comment

namespace Chars

theorem mem_of_mem_splitOn {separator c : Char} {s piece : List Char} (split : piece ∈ splitOn separator s)
    (member : c ∈ piece) : c ∈ s := by
  induction s generalizing piece with
  | nil =>
    obtain rfl := List.mem_singleton.mp split
    exact member
  | cons d s ih =>
    unfold splitOn at split
    split at split
    · rcases List.mem_cons.mp split with rfl | later
      · cases member
      · exact List.mem_cons_of_mem _ (ih later member)
    split at split
    · obtain rfl := List.mem_singleton.mp split
      exact List.mem_cons.mpr (.inl (List.mem_singleton.mp member))
    · rename_i first pieces more
      rw [more] at ih
      rcases List.mem_cons.mp split with rfl | later
      · rcases List.mem_cons.mp member with rfl | inside
        · exact List.mem_cons_self
        · exact List.mem_cons_of_mem _ (ih List.mem_cons_self inside)
      · exact List.mem_cons_of_mem _ (ih (List.mem_cons_of_mem _ later) member)

theorem infix_joinWith {separator piece : List Char} {pieces : List (List Char)} (member : piece ∈ pieces) :
    piece <:+: joinWith separator pieces := by
  fun_induction joinWith separator pieces with
  | case1 => cases member
  | case2 only =>
    obtain rfl := List.mem_singleton.mp member
    exact List.infix_rfl
  | case3 first rest more ih =>
    rcases List.mem_cons.mp member with rfl | later
    · exact ⟨[], separator ++ joinWith separator rest, by simp⟩
    · exact (ih later).trans (List.suffix_append _ _).isInfix

theorem opensFirst_joinWith {separator : List Char} {pieces : List (List Char)} (between : Comment.OpensFirst separator)
    (each : ∀ piece ∈ pieces, Comment.OpensFirst piece) : Comment.OpensFirst (joinWith separator pieces) := by
  fun_induction joinWith separator pieces with
  | case1 => trivial
  | case2 only => exact each only List.mem_cons_self
  | case3 first rest more ih =>
    obtain ⟨own, others⟩ := List.forall_mem_cons.mp each
    exact (own.append between).append (ih others)

end Chars

namespace Markup

variable {indent output : List Char} {lines : List Line} {line : Line} {depth : Int} {inComment isTop : Bool}
  {forest : Forest}

def commentBody (indent : List Char) (depth : Int) (lines : List Line) : List Char :=
  Comment.breakDashes (body indent lines) ++
    if !indent.isEmpty && (body indent lines).head? = some '\n' then margin indent depth else []

theorem close_comment_html (indent : List Char) (depth : Int) (lines : List Line) :
    (Frame.close indent ⟨.comment, depth, lines⟩).html =
      "<!--".toList ++ commentBody indent depth lines ++ "-->".toList := by
  simp only [Frame.close, commentBody, List.append_assoc]

theorem infix_close (indent : List Char) (tag : String) (pairs : List (String × String)) :
    body indent lines <:+: (Frame.close indent ⟨.element tag pairs, depth, lines⟩).html := by
  exact (List.infix_append (startTag tag pairs) (body indent lines) _).trans (List.prefix_append _ _).isInfix

theorem infix_body (member : line ∈ lines) : line.html <:+: body indent lines := by
  by_cases empty : line.html = []
  · rw [empty]
    exact List.nil_infix
  have shown : line ∈ lines.filter fun line => !line.html.isEmpty := by simp [member, empty]
  unfold body
  dsimp only
  split
  · rw [List.flatMap_def]
    exact List.infix_of_mem_flatten (List.mem_map_of_mem shown)
  split
  · rename_i none
    rw [none] at shown
    cases shown
  · rename_i only lone
    rw [lone] at shown
    obtain rfl := List.mem_singleton.mp shown
    split
    · exact ⟨'\n' :: margin indent line.level, ['\n'], rfl⟩
    · exact List.infix_rfl
  · have own : line.html <:+: margin indent line.level ++ line.html := (List.suffix_append _ _).isInfix
    refine (own.trans (Chars.infix_joinWith ?_)).trans ⟨['\n'], ['\n'], rfl⟩
    exact List.mem_map_of_mem shown

theorem infix_format (member : line ∈ forest.lines indent true depth) :
    line.html <:+: format indent (forest.events depth) := by
  by_cases empty : line.html = []
  · rw [empty]
    exact List.nil_infix
  · rw [format_events]
    exact Chars.infix_joinWith (List.mem_map_of_mem (by simp [member, empty]))

section Blank

variable (blank : ∀ c ∈ indent, c = ' ' ∨ c = '\t')
include blank

theorem margin_blank {c : Char} {level : Int} (member : c ∈ margin indent level) : c = ' ' ∨ c = '\t' := by
  obtain ⟨unit, copies, inside⟩ := List.mem_flatten.mp member
  rw [List.eq_of_mem_replicate copies] at inside
  exact blank c inside

theorem opensFirst_margin (level : Int) : Comment.OpensFirst (margin indent level) := by
  refine Comment.opensFirst_of_not_mem fun member => ?_
  rcases margin_blank blank member with same | same <;> cases same

theorem opensFirst_body (each : ∀ line ∈ lines, Comment.OpensFirst line.html) :
    Comment.OpensFirst (body indent lines) := by
  have shown : ∀ line ∈ lines.filter fun line => !line.html.isEmpty, Comment.OpensFirst line.html :=
    fun line member => each line (List.mem_filter.mp member).1
  have lineBreak : Comment.OpensFirst ['\n'] := ⟨by decide, .inr trivial⟩
  unfold body
  dsimp only
  split
  · rw [List.flatMap_def, ← joinWith_nil]
    exact Chars.opensFirst_joinWith trivial (List.forall_mem_map.mpr shown)
  split
  · trivial
  · rename_i only lone
    have own := shown only (by simp [lone])
    split
    · exact ((lineBreak.append (opensFirst_margin blank _)).append own).append lineBreak
    · exact own
  · have own : ∀ line ∈ lines.filter fun line => !line.html.isEmpty,
        Comment.OpensFirst (margin indent line.level ++ line.html) :=
      fun line member => (opensFirst_margin blank line.level).append (shown line member)
    exact (lineBreak.append (Chars.opensFirst_joinWith lineBreak (List.forall_mem_map.mpr own))).append lineBreak

theorem sealed_commentBody (each : ∀ line ∈ lines, Comment.OpensFirst line.html) (depth : Int) :
    Comment.Sealed (commentBody indent depth lines) := by
  unfold commentBody
  split
  · have plain : '-' ∉ margin indent depth := by
      intro member
      rcases margin_blank blank member with same | same <;> cases same
    rw [← Comment.breakDashes_append plain]
    exact Comment.sealed_breakDashes ((opensFirst_body blank each).append (opensFirst_margin blank depth)).start
  · rw [List.append_nil]
    exact Comment.sealed_breakDashes (opensFirst_body blank each).start

end Blank

theorem opensFirst_lines (fits : forest.Fits Contents.clean inComment) :
    ∀ line ∈ forest.lines indent isTop depth, Comment.OpensFirst line.html := by
  induction forest generalizing inComment isTop depth with
  | nil => exact List.forall_mem_nil _
  | text html rest ih =>
    have plain : ∀ piece : List Char, (∀ c ∈ piece, c ∈ html.toList) → Comment.OpensFirst piece :=
      fun piece part => Comment.opensFirst_of_not_mem fun member => (fits.1.plain '>' (part '>' member)).2.1 rfl
    refine List.forall_mem_append.mpr ⟨?_, ih fits.2⟩
    unfold textLines
    split
    · exact List.forall_mem_nil _
    split
    · exact List.forall_mem_map.mpr fun piece split => plain piece fun c => Chars.mem_of_mem_splitOn split
    · exact List.forall_mem_singleton.mpr (plain _ fun _ member => member)
  | void tag pairs rest ih => exact List.forall_mem_cons.mpr ⟨Comment.opensFirst_angle _, ih fits.2⟩
  | element tag pairs inner rest _ ih | comment inner rest _ ih =>
    exact List.forall_mem_cons.mpr ⟨Comment.opensFirst_angle _, ih fits.2.2⟩

-- The end of a comment finds that comment open. What is written for it stands in the
-- output, and HTML reads on from its opener to just this end.
def EndsSealed (indent output : List Char) (state : State) : Event → Prop
  | .closeComment depth => ∃ lines frames, state.frames = ⟨.comment, depth, lines⟩ :: frames ∧
      (Frame.close indent ⟨.comment, depth, lines⟩).html =
        "<!--".toList ++ commentBody indent depth lines ++ "-->".toList ∧
      Comment.Sealed (commentBody indent depth lines) ∧
      ∃ before rest, output = before ++ (Frame.close indent ⟨.comment, depth, lines⟩).html ++ rest ∧
        Comment.read (commentBody indent depth lines ++ "-->".toList ++ rest) =
          some (commentBody indent depth lines, rest)
  | .openTag _ _ _ _ | .closeTag _ _ | .text _ _ | .openComment _ => True

theorem throughout_inside (fits : forest.Fits Contents.clean true) (depth : Int) (state : State) :
    Throughout (step indent) (EndsSealed indent output) state (forest.events depth) := by
  induction forest generalizing depth state with
  | nil => trivial
  | text html rest ih | void tag pairs rest ih => exact ⟨trivial, ih fits.2 depth _⟩
  | element tag pairs inner rest innerIh ih =>
    exact ⟨trivial, throughout_append (innerIh fits.2.1 (depth + 1) _) ⟨trivial, ih fits.2.2 depth _⟩⟩
  | comment inner rest _ _ => cases fits.1

theorem throughout_sealed (blank : ∀ c ∈ indent, c = ' ' ∨ c = '\t') (fits : forest.Fits Contents.clean false)
    (state : State) (written : ∀ line ∈ forest.lines indent state.frames.isEmpty depth, line.html <:+: output) :
    Throughout (step indent) (EndsSealed indent output) state (forest.events depth) := by
  induction forest generalizing depth state with
  | nil => trivial
  | text html rest ih =>
    refine ⟨trivial, ih fits.2 _ ?_⟩
    rw [step, isEmpty_frames_add]
    exact fun line later => written line (List.mem_append_right _ later)
  | void tag pairs rest ih =>
    refine ⟨trivial, ih fits.2 _ ?_⟩
    rw [step, isEmpty_frames_add]
    exact fun line later => written line (List.mem_cons_of_mem _ later)
  | element tag pairs inner rest innerIh ih =>
    obtain ⟨own, others⟩ := List.forall_mem_cons.mp written
    refine ⟨trivial, throughout_append (innerIh fits.2.1 _ fun line inside => ?_) ⟨trivial, ih fits.2.2 _ ?_⟩⟩
    · exact ((infix_body inside).trans (infix_close indent tag pairs)).trans own
    · rw [foldl_step_events, step, step, pop_add, isEmpty_frames_add]
      exact others
  | comment inner rest _ ih =>
    obtain ⟨own, others⟩ := List.forall_mem_cons.mp written
    refine ⟨trivial, throughout_append (throughout_inside fits.2.1 (depth + 1) _) ⟨?_, ih fits.2.2 _ ?_⟩⟩
    · have sealed : Comment.Sealed (commentBody indent depth (inner.lines indent false (depth + 1))) :=
        sealed_commentBody blank (opensFirst_lines fits.2.1) depth
      obtain ⟨before, rest, same⟩ := own
      rw [foldl_step_events]
      exact ⟨_, state.frames, rfl, close_comment_html .., sealed, before, rest, same.symm,
        Comment.read_append sealed rest⟩
    · rw [foldl_step_events, step, step, pop_add, isEmpty_frames_add]
      exact others

end Markup

namespace Dom

mutual
def nodeComments : Node → List String
  | .text _ => []
  | .comment data => [data]
  | .element _ _ children => comments children
termination_by structural node => node
def comments : List Node → List String
  | [] => []
  | node :: rest => nodeComments node ++ comments rest
termination_by structural nodes => nodes
end

theorem comments_append (xs ys : List Node) : comments (xs ++ ys) = comments xs ++ comments ys := by
  induction xs with
  | nil => rfl
  | cons x xs ih => rw [List.cons_append, comments, comments, ih, List.append_assoc]

theorem comments_normalize : (nodes : List Node) → comments (normalize nodes) = comments nodes
  | [] => rfl
  | .text data :: rest => by
    have same : comments (normalize rest) = comments (.text data :: rest) := comments_normalize rest
    rw [normalize]
    split
    · exact same
    split
    · rename_i more nodes merged
      rw [merged] at same
      exact same
    · exact same
  | .comment data :: rest => by
    rw [normalize.eq_3 _ _ (by simp), normalizeNode, comments, comments, comments_normalize rest]
  | .element tag attributes children :: rest => by
    rw [normalize.eq_3 _ _ (by simp), normalizeNode, comments, comments, nodeComments, nodeComments,
      comments_normalize children, comments_normalize rest]

theorem comments_broken (names : Escape.Names) (forest : Forest) : ∀ data ∈ comments (forest.nodes names), ¬['-', '-'] <:+: data.toList := by
  induction forest with
  | nil => exact List.forall_mem_nil _
  | text html rest ih =>
    have own : comments (if html = "" then [] else [.text (onChars names.decode html)]) = [] := by split <;> rfl
    rw [Forest.nodes, comments_append, own]
    exact ih
  | void tag pairs rest ih => exact ih
  | element tag pairs inner rest innerIh ih => exact List.forall_mem_append.mpr ⟨innerIh, ih⟩
  | comment inner rest _ ih =>
    refine List.forall_mem_cons.mpr ⟨?_, ih⟩
    rw [String.toList_ofList]
    exact Comment.breakDashes_broken _

end Dom

namespace Render

-- No comment is closed early, neither in a text with any blank margin nor in a tree.
theorem comments_sealed [Stack] (settings : Settings) (template data : Value) :
    (document settings template data).Ensures fun events =>
      (∀ indent, (∀ c ∈ indent, c = ' ' ∨ c = '\t') →
        Throughout (Markup.step indent) (Markup.EndsSealed indent (Markup.format indent events)) {} events) ∧
      ∀ names, ∀ data ∈ Dom.comments (Dom.ofEvents names events), ¬['-', '-'] <:+: data.toList := by
  refine (Contents.document_stream Contents.clean_admits Contents.clean_admitsWrappers).mono fun events stream => ?_
  obtain ⟨forest, rfl, fits⟩ := stream
  refine ⟨fun indent blank => Markup.throughout_sealed blank fits {} fun line => Markup.infix_format, fun names => ?_⟩
  rw [Dom.ofEvents_events, Dom.comments_normalize]
  exact Dom.comments_broken names forest

def hidden : Value :=
  .mapping 1 [(.text "$comment", .sequence .list 2 [
    .text "->-{{s}}", .mapping 3 [(.text "p", .mapping 4 [(.text "data--x", .text "-")])], .text "-"])]

def hiddenData : Value := .mapping 5 [(.text "s", .text "-->")]

def hiddenEvents : List Event := [
  .openComment 0, .text 1 "-&gt;---&gt;", .openTag 1 "p" [("data--x", "-")] false, .closeTag 1 "p", .text 1 "-",
  .closeComment 0]

theorem comments_of_hidden :
    (document {} hidden hiddenData).outcome = .ok hiddenEvents ∧
    (∀ c ∈ [' ', '\t'], c = ' ' ∨ c = '\t') ∧
    Throughout (Markup.step [' ', '\t'])
      (Markup.EndsSealed [' ', '\t'] (Markup.format [' ', '\t'] hiddenEvents)) {} hiddenEvents ∧
    "-&gt;- - -&gt;<p data- -x=\"-\"></p>-" ∈ Dom.comments (Dom.ofEvents .standard hiddenEvents) ∧
    ¬['-', '-'] <:+: "-&gt;- - -&gt;<p data- -x=\"-\"></p>-".toList := by
  have returned : (document {} hidden hiddenData).outcome = .ok hiddenEvents :=
    Run.outcome_of_toOption (by decide +kernel)
  have blank : ∀ c ∈ [' ', '\t'], c = ' ' ∨ c = '\t' := by simp
  have built : "-&gt;- - -&gt;<p data- -x=\"-\"></p>-" ∈ Dom.comments (Dom.ofEvents .standard hiddenEvents) := by decide +kernel
  obtain ⟨markup, dom⟩ := comments_sealed {} hidden hiddenData hiddenEvents returned
  exact ⟨returned, blank, markup _ blank, built, dom .standard _ built⟩

end Render
end HtmlTemplate
