import HtmlTemplate.Escape.Named
import HtmlTemplate.Proofs.Dom
import HtmlTemplate.Proofs.Emission
namespace HtmlTemplate

theorem Chars.signed_ne_nil (n : Int) : signed n ≠ [] := by
  unfold signed
  split
  · simp
  · simp [decimal]

theorem Binary64.layout_ne_nil (d : Decimal) : layout d ≠ [] := by
  unfold layout
  dsimp only
  repeat' split
  all_goals simp

theorem Binary64.text_ne_nil (x : Binary64) : x.text ≠ [] := by
  unfold text
  split
  · simp
  · split <;> simp
  · dsimp only
    split
    · simp
    · split
      · simp
      · exact layout_ne_nil _

section

variable [Stack]

theorem Value.stringify_ne_empty {v : Value} {s : String} (scalar : Contents.isScalar v = true)
    (written : v.stringify = .ok s) : s ≠ "" := by
  have shown {chars : List Char} (present : chars ≠ []) : String.ofList chars ≠ "" := by simpa using present
  cases v with
  | bool b => cases b <;> cases written <;> decide
  | int n =>
    obtain ⟨chars, read, rfl⟩ := map_eq_ok.mp written
    obtain ⟨_, rfl⟩ := Digit.write_eq_ok_iff.mp read
    exact shown (Chars.signed_ne_nil n)
  | float x =>
    cases written
    apply shown
    unfold floatChars
    split
    · exact Chars.signed_ne_nil _
    · exact x.text_ne_nil
  | _ => cases scalar

def Contents.shown : Contents := ⟨fun html => html ≠ "", fun _ _ _ => True⟩

theorem Contents.shown_admits (settings : Render.Settings) (template : Value) :
    Contents.shown.Admits settings template where
  text _ _ _ := fun _ _ present => present
  scalar v s scalar written := by
    have present : s.toList ≠ [] := by simpa using Value.stringify_ne_empty scalar written
    have escaped : Escape.html s.toList ≠ [] := by rwa [ne_eq, Escape.html_eq_nil_iff]
    simpa [Contents.shown, onChars] using escaped
  tag _ _ _ _ := fun _ _ _ _ _ _ => trivial

-- Every node writes a forest at its own depth, whatever the data and however deep
-- it stands, and a whole output is a forest at depth 0 that both outputs can take.
theorem Render.forest_of_render (settings : Settings) (template : Value) :
    (∀ budget spot, (node settings budget spot template).Ensures
      (Contents.shown.Stream spot.inComment spot.depth)) ∧
    ∀ data, (document settings template data).Ensures fun events =>
      Contents.shown.Stream false 0 events ∧ (∀ indent, Markup.Balanced indent events) ∧
        ∀ names, Dom.Balanced names events := by
  have admits := Contents.shown_admits settings template
  refine ⟨fun budget spot => Contents.node_stream admits budget .whole, fun data => ?_⟩
  refine (Contents.document_stream admits fun _ _ => trivial).mono fun events stream => ⟨stream, ?_⟩
  obtain ⟨forest, rfl, _⟩ := stream
  exact ⟨fun indent => Markup.balanced_events indent forest 0, fun _ => Dom.balanced_events forest 0⟩

end

def repeated : Value :=
  .mapping 1 [(.text "p", .sequence .list 2 [
    .text "\x7b\x7bn\x7d\x7d", .mapping 3 [(.text "br", .null)],
    .mapping 4 [(.text "$comment", .sequence .list 5 [.int 7, .mapping 6 [(.text "$comment", .null)]])]])]

def repeatedData : Value :=
  .sequence .list 7 [.mapping 8 [(.text "n", .text "")], .mapping 9 [(.text "n", .bool true)]]

def repeatedEvents : List Event := [
  .openTag 0 "div" [("data-treebark-shadow", "true")] false,
  .openTag 1 "template" [("shadowrootmode", "open")] false,
  .openTag 2 "p" [] false, .openTag 3 "br" [] true, .openComment 3, .text 4 "7", .closeComment 3, .closeTag 2 "p",
  .openTag 2 "p" [] false, .text 3 "true", .openTag 3 "br" [] true, .openComment 3, .text 4 "7", .closeComment 3,
  .closeTag 2 "p", .closeTag 1 "template", .closeTag 0 "div"]

theorem Render.forest_of_repeated :
    (document { shadowDom := true } repeated repeatedData).outcome = .ok repeatedEvents ∧
    Contents.shown.Stream false 0 repeatedEvents ∧ Markup.Balanced [] repeatedEvents ∧
    Dom.Balanced .standard repeatedEvents := by
  have returned : (document { shadowDom := true } repeated repeatedData).outcome = .ok repeatedEvents :=
    Run.outcome_of_toOption (by decide +kernel)
  obtain ⟨stream, markup, dom⟩ := (forest_of_render { shadowDom := true } repeated).2 repeatedData _ returned
  exact ⟨returned, stream, markup [], dom .standard⟩

end HtmlTemplate
