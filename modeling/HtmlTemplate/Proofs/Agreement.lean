import HtmlTemplate.Escape.Named
import HtmlTemplate.Proofs.Dom
import HtmlTemplate.Proofs.Guard
import HtmlTemplate.Template
namespace HtmlTemplate

variable {fallback : Option Path.Fallback} {settings : Render.Settings} {template : Value}

theorem Marker.scanFrom_subset (skip : Nat) (s : List Char) :
    (scanFrom skip s).1 ⊆ s ∧ ∀ marked ∈ (scanFrom skip s).2, marked.2 ⊆ s := by
  have wider (c : Char) {part s : List Char} (known : part ⊆ s) : part ⊆ c :: s :=
    List.subset_cons_of_subset c known
  fun_induction scanFrom skip s with
  | case1 skip => simp
  | case2 skip c s ih => exact ⟨wider c ih.1, fun marked member => wider c (ih.2 marked member)⟩
  | case3 c s marker length found ih =>
    refine ⟨List.nil_subset _, fun marked member => ?_⟩
    rcases List.mem_cons.mp member with rfl | later
    · exact wider c ih.1
    · exact wider c (ih.2 marked later)
  | case4 c s none ih =>
    exact ⟨List.cons_subset_cons c ih.1, fun marked member => wider c (ih.2 marked member)⟩

namespace Interpolation

theorem fill_escaped [Stack] {scope : Scope} {marked : List (Marker × List Char)} (plain : ∀ m ∈ marked, '&' ∉ m.2) :
    (inText.fill fallback scope marked).Ensures fun s => ∃ raw, s = Escape.html raw := by
  induction marked with
  | nil => exact Run.ensures_pure ⟨[], rfl⟩
  | cons first rest ih =>
    obtain ⟨marker, after⟩ := first
    refine Run.ensures_bind fun value => ?_
    refine (ih fun m member => plain m (List.mem_cons_of_mem _ member)).bind fun filled escaped => ?_
    obtain ⟨raw, rfl⟩ := escaped
    refine Run.ensures_pure ⟨value.toList ++ after ++ raw, ?_⟩
    rw [Escape.html_append, Escape.html_append, ← Escape.text_eq_html (plain _ List.mem_cons_self)]
    rfl

theorem inText_escaped [Stack] {scope : Scope} {s : String} (plain : '&' ∉ s.toList) :
    (inText.apply fallback scope s).Ensures fun html => ∃ raw, html.toList = Escape.html raw := by
  have parts := Marker.scanFrom_subset 0 s.toList
  refine (fill_escaped fun m member inside => plain (parts.2 m member inside)).bind fun filled escaped => ?_
  obtain ⟨raw, rfl⟩ := escaped
  refine Run.ensures_pure ⟨(Marker.scanFrom 0 s.toList).1 ++ raw, ?_⟩
  rw [String.toList_ofList, Escape.html_append, ← Escape.text_eq_html fun inside => plain (parts.1 inside)]
  rfl

end Interpolation

-- Templates without ampersands in their texts and without colons in the names of
-- their attributes.
structure Template.Plain (template : Value) : Prop where
  once : template.keysOnce = true
  text : ∀ s, Part template (.text s) → '&' ∉ s.toList
  names : ∀ part node, Part template part → tag? part = some node → Vocabulary.isElement node.tag = true →
    ∀ name ∈ names node.attributes, ':' ∉ name.toList

def Template.plainNode (v : Value) : Bool :=
  (match v with
    | .text s => !s.toList.contains '&'
    | _ => true) &&
  (tag? v).all fun node => (names node.attributes).all fun name => !name.toList.contains ':'

theorem Template.plain_of_nodes {nodes : List Value} (once : template.keysOnce = true) (known : template ∈ nodes)
    (closed : ∀ node ∈ nodes, ∀ child ∈ inside node, child ∈ nodes) (each : ∀ node ∈ nodes, plainNode node = true) :
    Plain template where
  once := once
  text s part := by
    have plain := each _ (part.mem known closed)
    simp only [plainNode, Bool.and_eq_true] at plain
    simpa using plain.1
  names v node part read _ name member := by
    have plain := each _ (part.mem known closed)
    simp only [plainNode, Bool.and_eq_true, read, Option.all_some, List.all_eq_true] at plain
    simpa using plain.2 name member

def Contents.serial : Contents where
  text html := ∃ raw, html.toList = Escape.html raw
  tag tag pairs void := (void = true ↔ tag ∈ Vocabulary.voidTags) ∧ (pairs.map (·.1)).Nodup ∧
    ∀ pair ∈ pairs, ':' ∉ pair.1.toList

theorem Contents.serial_admits [Stack] (plain : Template.Plain template) : Contents.serial.Admits settings template where
  text s _ part := (Interpolation.inText_escaped (plain.text s part)).mono fun _ escaped _ => escaped
  scalar v s _ _ := ⟨s.toList, toList_onChars ..⟩
  tag part node inside read element scope entries kept := by
    refine Render.attributes_ensures.mono fun pairs known => ?_
    have names := known.names.trans (kept.filterMap _)
    refine ⟨by simp, known.once plain.once inside read kept, ?_⟩
    intro pair member
    exact plain.names part node inside read element _ (names.subset (List.mem_map_of_mem member))

theorem Contents.serial_admitsWrappers : Contents.serial.AdmitsWrappers := by
  unfold AdmitsWrappers serial
  decide +kernel

theorem Forest.html_nodes {names : Escape.Names} {forest : Forest} {inComment : Bool} (fits : forest.Fits Contents.serial inComment) :
    Dom.html (forest.nodes names) = forest.markup := by
  induction forest generalizing inComment with
  | nil => rfl
  | text html rest ih =>
    obtain ⟨⟨raw, escaped⟩, fits⟩ := fits
    have same : Dom.html (if html = "" then [] else [.text (onChars names.decode html)]) = html.toList := by
      split
      · rename_i empty
        rw [empty]
        rfl
      · rw [Dom.html_text, toList_onChars, escaped, names.decode_html]
        exact List.append_nil _
    rw [nodes, markup, Dom.html_append, same, ih fits]
  | void tag pairs rest ih =>
    obtain ⟨⟨void, once, plain⟩, fits⟩ := fits
    rw [nodes, markup, Dom.html_element, if_pos (void.mp rfl), Dom.setAttributes_eq once plain, ih fits]
  | element tag pairs inner rest innerIh ih =>
    obtain ⟨⟨void, once, plain⟩, innerFits, fits⟩ := fits
    rw [nodes, markup, Dom.html_element, if_neg (fun known => absurd (void.mpr known) (by simp)),
      Dom.setAttributes_eq once plain, innerIh innerFits, ih fits]
  | comment inner rest _ ih =>
    rw [nodes, markup, Dom.html_comment, ih fits.2.2, Markup.commented_eq,
      String.toList_ofList (l := Comment.breakDashes inner.markup)]

theorem Contents.format_eq_html (names : Escape.Names) {events : List Event} (stream : Contents.serial.Stream false 0 events) :
    Markup.format [] events = Dom.html (Dom.ofEvents names events) := by
  obtain ⟨forest, rfl, fits⟩ := stream
  rw [Markup.format_compact, Dom.ofEvents_events, Dom.html_normalize, Forest.html_nodes fits]

-- The two outputs of one render are the same text, and one of them fails exactly
-- when the other does.
theorem Input.markup_eq_toHtml_tree [Stack] (names : Escape.Names) {input : Input} {options : Options}
    (plain : Template.Plain input.template) (compact : options.indentUnit = none) :
    (input.markup options fallback).outcome = (input.tree names options fallback).outcome.map Dom.toHtml := by
  rw [outcome_markup, outcome_tree]
  cases returned : (input.events (options.settings fallback)).outcome with
  | error failure => rfl
  | ok events =>
    have stream : Contents.serial.Stream false 0 events :=
      Contents.document_stream (Contents.serial_admits plain) Contents.serial_admitsWrappers events returned
    have same := Contents.format_eq_html names stream
    simp only [Except.map, Markup.render, compact, Option.map_none, Option.getD_none, same, Dom.toHtml]

def quotation : Input where
  template := .mapping 1 [(.text "p", .mapping 2 [(.text "title", .text "\x7b\x7bs\x7d\x7d"),
    (.text "$children", .sequence .list 3 [.text "< \x7b\x7bs\x7d\x7d", .mapping 4 [(.text "br", .null)],
      .mapping 5 [(.text "$comment", .text "\x7b\x7bs\x7d\x7d")]])])]
  data := .mapping 6 [(.text "s", .text "&lt;--\"")]

def quotationNodes : List Value := [
  quotation.template, .text "< \x7b\x7bs\x7d\x7d", .mapping 4 [(.text "br", .null)],
  .mapping 5 [(.text "$comment", .text "\x7b\x7bs\x7d\x7d")], .text "\x7b\x7bs\x7d\x7d"]

theorem Input.quotation_markup_eq :
    Template.Plain quotation.template ∧ Options.indentUnit {} = none ∧
    (quotation.markup {} none).outcome = .ok
      "<p title=\"&amp;lt;--&quot;\">&lt; &amp;lt;--&quot;<br><!--&amp;lt;- -&quot;--></p>" ∧
    (quotation.markup {} none).outcome = (quotation.tree .standard {} none).outcome.map Dom.toHtml := by
  have plain : Template.Plain quotation.template :=
    @Template.plain_of_nodes _ quotationNodes (by decide) (by decide) (by decide +kernel) (by decide +kernel)
  have returned : (quotation.markup {} none).outcome = .ok
      "<p title=\"&amp;lt;--&quot;\">&lt; &amp;lt;--&quot;<br><!--&amp;lt;- -&quot;--></p>" :=
    Run.outcome_of_toOption (by decide +kernel)
  exact ⟨plain, rfl, returned, markup_eq_toHtml_tree .standard plain rfl⟩

end HtmlTemplate
