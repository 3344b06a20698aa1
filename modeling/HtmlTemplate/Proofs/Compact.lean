import HtmlTemplate.Proofs.Balance
import HtmlTemplate.Template
namespace HtmlTemplate
namespace Render

variable {settings : Settings}

def Settings.bare (settings : Settings) : Settings := { settings with blockContainer := false, shadowDom := false }

theorem step_bare [Stack] (settings : Settings) : step settings.bare = step settings := rfl

theorem node_bare [Stack] (settings : Settings) (budget : Nat) : node settings.bare budget = node settings budget := by
  induction budget with
  | zero => rfl
  | succ budget ih =>
    funext spot template
    rw [node, node, ih, step_bare]

theorem root_bare [Stack] (settings : Settings) (template data : Value) :
    root settings.bare template data = root settings template data := by
  unfold root
  rw [node_bare]
  rfl

def opening (block shadow : Bool) : List Char :=
  (if block then Markup.startTag Vocabulary.blockContainer.1 Vocabulary.blockContainer.2 else []) ++
    if shadow then Markup.startTag Vocabulary.shadowHost.1 Vocabulary.shadowHost.2 ++
      Markup.startTag Vocabulary.shadowRoot.1 Vocabulary.shadowRoot.2 else []

def closing (block shadow : Bool) : List Char :=
  (if shadow then Markup.endTag Vocabulary.shadowRoot.1 ++ Markup.endTag Vocabulary.shadowHost.1 else []) ++
    if block then Markup.endTag Vocabulary.blockContainer.1 else []

theorem format_wrapped (settings : Settings) (spells : Spells events forest) :
    Markup.format [] (wrapped settings events) =
      opening settings.blockContainer settings.shadowDom ++ forest.markup ++
        closing settings.blockContainer settings.shadowDom := by
  obtain ⟨fallback, maxDepth, block, shadow⟩ := settings
  have hosted := (spells.wrap Vocabulary.shadowRoot.1 Vocabulary.shadowRoot.2).wrap Vocabulary.shadowHost.1
    Vocabulary.shadowHost.2
  unfold wrapped
  cases block <;> cases shadow <;> simp only [opening, closing, if_true, Bool.false_eq_true, if_false]
  · simp only [Markup.format_spells spells, List.nil_append, List.append_nil]
  · simp only [Markup.format_spells hosted, Forest.markup, List.nil_append, List.append_nil, List.append_assoc]
  · rw [Markup.format_spells (spells.wrap _ _)]
    simp only [Forest.markup, List.append_nil, List.nil_append]
  · rw [Markup.format_spells (hosted.wrap _ _)]
    simp only [Forest.markup, List.append_nil, List.append_assoc]

end Render

namespace Input

variable {fallback : Option Path.Fallback}

def bare (options : Options) : Options := { options with blockContainer := .bool false, shadowDom := .bool false }

theorem outcome_compact [Stack] {options : Options} (compact : options.indentUnit = none) (input : Input) :
    (input.markup options fallback).outcome =
      (Render.root (options.settings fallback) input.template input.data).outcome.map fun events =>
        String.ofList (Markup.format [] (Render.wrapped (options.settings fallback) events)) := by
  have emitted : (input.events (options.settings fallback)).outcome =
      (Render.root (options.settings fallback) input.template input.data).outcome.map
        (Render.wrapped (options.settings fallback)) :=
    Render.outcome_document ..
  rw [outcome_markup, emitted, compact]
  cases (Render.root (options.settings fallback) input.template input.data).outcome with
  | error failure => rfl
  | ok events => rfl

theorem markup_bare [Stack] {options : Options} (compact : options.indentUnit = none) (input : Input) :
    (input.markup options fallback).outcome =
      (input.markup (bare options) fallback).outcome.map fun body =>
        String.ofList (Render.opening (Options.isOn options.blockContainer) (Options.isOn options.shadowDom)) ++ body ++
          String.ofList (Render.closing (Options.isOn options.blockContainer) (Options.isOn options.shadowDom)) := by
  have settings : (bare options).settings fallback = (options.settings fallback).bare := rfl
  have unindented : (bare options).indentUnit = none := compact
  rw [outcome_compact compact, outcome_compact unindented, settings, Render.root_bare]
  cases returned : (Render.root (options.settings fallback) input.template input.data).outcome with
  | error failure => rfl
  | ok events =>
    have stream := Contents.root_stream (Contents.shown_admits (options.settings fallback) input.template) events returned
    obtain ⟨forest, rfl, _⟩ := stream
    have spells := Spells.ofForest forest 0
    have plain : Markup.format [] (Render.wrapped (options.settings fallback).bare (forest.events 0)) = forest.markup :=
      Markup.format_spells spells
    refine congrArg Except.ok (String.toList_inj.mp ?_)
    simp only [String.toList_ofList, String.toList_append, plain, Render.format_wrapped _ spells]
    rfl

-- Compact output is structural: what spells a forest is written as the forest is,
-- streams in a row are written one behind the other, and the depths play no part. So
-- what the wrappers put around an output is the same for every input.
theorem compact_of_parts [Stack] :
    (∀ events forest, Spells events forest → Markup.render none events = String.ofList forest.markup) ∧
    (∀ xs ys forest other, Spells xs forest → Spells ys other →
      Markup.render none (xs ++ ys) = Markup.render none xs ++ Markup.render none ys) ∧
    (∀ amount events forest, Spells events forest →
      Markup.render none (Event.shift amount events) = Markup.render none events) ∧
    ∀ (input : Input) (options : Options) (fallback : Option Path.Fallback), options.indentUnit = none →
      (input.markup options fallback).outcome =
        (input.markup (bare options) fallback).outcome.map fun body =>
          String.ofList (Render.opening (Options.isOn options.blockContainer) (Options.isOn options.shadowDom)) ++ body ++
            String.ofList (Render.closing (Options.isOn options.blockContainer) (Options.isOn options.shadowDom)) := by
  have written : ∀ events forest, Spells events forest → Markup.render none events = String.ofList forest.markup := by
    intro events forest spells
    exact congrArg String.ofList (Markup.format_spells spells)
  refine ⟨written, ?_, ?_, fun input options fallback compact => markup_bare compact input⟩
  · intro xs ys forest other first second
    rw [written _ _ (first.append second), written _ _ first, written _ _ second, Forest.markup_append,
      String.ofList_append]
  · intro amount events forest spells
    rw [written _ _ (spells.shift amount), written _ _ spells]

def loose : List Event := [.openComment 7, .text 0 "-", .openComment (-1), .text 3 "-", .closeComment 2, .closeComment 7]

def looseForest : Forest := .comment (.text "-" (.comment (.text "-" .nil) .nil)) .nil

def greeting : Input where
  template := .mapping 1 [(.text "p", .text "Hello \x7b\x7b.\x7d\x7d")]
  data := .sequence .list 2 [.text "<b>", .int 2]

def enclosed : Options where
  blockContainer := .bool true
  shadowDom := .int 1

theorem compact_of_greeting :
    Spells loose looseForest ∧ Markup.render none loose = "<!---<!- - - - ->-->" ∧
    Markup.render none (loose ++ Event.shift 4 loose) = "<!---<!- - - - ->--><!---<!- - - - ->-->" ∧
    enclosed.indentUnit = none ∧
    (greeting.markup (bare enclosed) none).outcome = .ok "<p>Hello &lt;b&gt;</p><p>Hello 2</p>" ∧
    (greeting.markup enclosed none).outcome = .ok
      ("<div style=\"contain: content; isolation: isolate;\" data-treebark-container=\"true\">" ++
        "<div data-treebark-shadow=\"true\"><template shadowrootmode=\"open\">" ++
        "<p>Hello &lt;b&gt;</p><p>Hello 2</p></template></div></div>") := by
  obtain ⟨written, joined, shifted, around⟩ := compact_of_parts
  have spells : Spells loose looseForest :=
    .comment 7 7 (.text 0 "-" (.comment (-1) 2 (.text 3 "-" .nil) .nil)) .nil
  have body : (greeting.markup (bare enclosed) none).outcome = .ok "<p>Hello &lt;b&gt;</p><p>Hello 2</p>" :=
    Run.outcome_of_toOption (by decide +kernel)
  have once : Markup.render none loose = "<!---<!- - - - ->-->" := (written _ _ spells).trans (by decide +kernel)
  refine ⟨spells, once, ?_, rfl, body, ?_⟩
  · rw [joined _ _ _ _ spells (spells.shift 4), shifted _ _ _ spells, once]
    rfl
  · rw [around greeting enclosed none rfl, body]
    exact congrArg Except.ok (by decide +kernel)

end Input
end HtmlTemplate
