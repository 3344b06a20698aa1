import HtmlTemplate.Proofs.Guard
import HtmlTemplate.Proofs.StartTag
namespace HtmlTemplate
open StartTag (IsToken isTagName isWhole)

variable {settings : Render.Settings} {template : Value} {name tag : String} {pairs : List (String × String)}

namespace Attribute

def isOpen (name : String) : Bool :=
  Vocabulary.globalLeads.any fun lead => Chars.beginsWith lead.toList name.toList

def Whole (pairs : List (String × String)) : Prop :=
  ∀ pair ∈ pairs, isOpen pair.1 = true → isWhole pair.1 = true

theorem isToken_tagAttributes : ∀ name ∈ Vocabulary.tagAttributes tag, IsToken name := by
  unfold Vocabulary.tagAttributes
  repeat' split
  all_goals decide +kernel

theorem isToken_of_listed (allowed : isAllowed (.text name) tag = true) (listed : isOpen name = false) :
    IsToken name := by
  have globals : ∀ name ∈ Vocabulary.globalAttributes, IsToken name := by decide +kernel
  simp only [isAllowed, isAllowedName, Bool.and_eq_true, Bool.or_eq_true, decide_eq_true_eq] at allowed
  rcases allowed.2 with (known | begun) | known
  · exact globals name known
  · rw [isOpen, begun] at listed
    cases listed
  · exact isToken_tagAttributes name known

end Attribute

def Template.Whole (template : Value) : Prop :=
  ∀ part node, Part template part → tag? part = some node → Vocabulary.isElement node.tag = true →
    ∀ name ∈ names node.attributes, Attribute.isOpen name = true → isWhole name = true

theorem Vocabulary.isToken_wrappers : ∀ wrapper ∈ wrappers, ∀ pair ∈ wrapper.2, IsToken pair.1 := by
  decide +kernel

theorem StartTag.isTagName_of_isElement (element : Vocabulary.isElement tag = true) : isTagName tag = true := by
  have known : ∀ tag ∈ Vocabulary.containerTags ++ Vocabulary.voidTags, isTagName tag = true := by decide +kernel
  exact known tag (by simpa [Vocabulary.isElement] using element)

namespace Contents

-- A start tag and where its attributes come from: the library itself, or an
-- element of the template, which has their names among its keys.
structure Sourced (template : Value) (tag : String) (pairs : List (String × String)) : Prop where
  proper : isTagName tag = true
  listed : ∀ pair ∈ pairs, Attribute.isOpen pair.1 = false → IsToken pair.1
  source : (tag, pairs) ∈ Vocabulary.wrappers ∨
    ∃ part node, Template.Part template part ∧ Template.tag? part = some node ∧
      Vocabulary.isElement node.tag = true ∧ node.tag = tag ∧
      (pairs.map (·.1)).Sublist (Template.names node.attributes) ∧
      ∀ pair ∈ pairs, Attribute.isAllowed (.text pair.1) tag = true

section

variable [Stack]

theorem sourced_admits : Admits ⟨fun _ => True, fun tag pairs _ => Sourced template tag pairs⟩ settings template where
  text _ _ _ := fun _ _ _ => trivial
  scalar _ _ _ _ := trivial
  tag part node inside read element scope entries kept := by
    refine Render.attributes_ensures.mono fun pairs known => ?_
    have allowed (pair) (member : pair ∈ pairs) := (known.guarded pair member).allowed
    exact ⟨StartTag.isTagName_of_isElement element,
      fun pair member => Attribute.isToken_of_listed (allowed pair member),
      .inr ⟨part, node, inside, read, element, rfl, known.names.trans (kept.filterMap _), allowed⟩⟩

end

theorem sourced_admitsWrappers :
    AdmitsWrappers ⟨fun _ => True, fun tag pairs _ => Sourced template tag pairs⟩ := by
  intro wrapper known
  have proper : ∀ wrapper ∈ Vocabulary.wrappers, isTagName wrapper.1 = true := by decide +kernel
  exact ⟨proper wrapper known, fun pair member _ => Vocabulary.isToken_wrappers wrapper known pair member, .inl known⟩

end Contents

namespace StartTag

theorem tokens_iff_whole (sourced : Contents.Sourced template tag pairs) :
    (∀ pair ∈ pairs, IsToken pair.1) ↔ Attribute.Whole pairs := by
  refine ⟨fun tokens pair member _ => (tokens pair member).whole, fun whole pair member => ?_⟩
  cases begun : Attribute.isOpen pair.1 with
  | false => exact sourced.listed pair member begun
  | true =>
    refine ⟨?_, whole pair member begun⟩
    intro empty
    rw [empty] at begun
    revert begun
    decide +kernel

theorem read_iff_whole (sourced : Contents.Sourced template tag pairs) (s : List Char) :
    read (Markup.startTag tag pairs ++ s) = some (tag, pairs, s) ↔ Attribute.Whole pairs := by
  rw [← tokens_iff_whole sourced]
  exact ⟨fun found => isToken_of_read found, fun tokens => read_startTag sourced.proper tokens s⟩

theorem whole_of_template (sourced : Contents.Sourced template tag pairs) (whole : Template.Whole template) :
    Attribute.Whole pairs := by
  intro pair member begun
  rcases sourced.source with own | ⟨part, node, inside, read, element, _, names, _⟩
  · exact (Vocabulary.isToken_wrappers _ own pair member).whole
  · exact whole part node inside read element _ (names.subset (List.mem_map_of_mem member)) begun

end StartTag

namespace Render

-- Every start tag of a whole output is read back as the attributes it was written from,
-- exactly when nothing breaks a name that is allowed for its beginning. All of its names
-- are allowed on the tag, unless the tag is the library's own.
theorem startTag_read_iff [Stack] {data : Value} {events : List Event} {depth : Int} {void : Bool}
    (returned : (document settings template data).outcome = .ok events)
    (emitted : .openTag depth tag pairs void ∈ events) :
    ((∀ pair ∈ pairs, IsToken pair.1) ↔ Attribute.Whole pairs) ∧
    (∀ s, StartTag.read (Markup.startTag tag pairs ++ s) = some (tag, pairs, s) ↔ Attribute.Whole pairs) ∧
    (Template.Whole template → Attribute.Whole pairs) ∧
    ((tag, pairs) ∈ Vocabulary.wrappers ∨ ∀ pair ∈ pairs, Attribute.isAllowed (.text pair.1) tag = true) := by
  have stream := Contents.document_stream Contents.sourced_admits Contents.sourced_admitsWrappers events returned
  have sourced : Contents.Sourced template tag pairs := stream.allows emitted
  exact ⟨StartTag.tokens_iff_whole sourced, StartTag.read_iff_whole sourced,
    StartTag.whole_of_template sourced, sourced.source.imp id fun ⟨_, _, _, _, _, _, _, allowed⟩ => allowed⟩

def labelled : Value :=
  .mapping 1 [(.text "div", .mapping 2 [(.text "aria-label", .text "a\"b"), (.text "id", .text "x")])]

def labelledPairs : List (String × String) := [("aria-label", "a\"b"), ("id", "x")]

theorem labelled_read :
    (document {} labelled .null).outcome = .ok [.openTag 0 "div" labelledPairs false, .closeTag 0 "div"] ∧
    Attribute.Whole labelledPairs ∧ (∀ pair ∈ labelledPairs, IsToken pair.1) ∧
    ∀ s, StartTag.read (Markup.startTag "div" labelledPairs ++ s) = some ("div", labelledPairs, s) := by
  have returned : (document {} labelled .null).outcome =
      .ok [.openTag 0 "div" labelledPairs false, .closeTag 0 "div"] := Run.outcome_of_toOption (by decide +kernel)
  have whole : Attribute.Whole labelledPairs := by
    unfold Attribute.Whole
    decide +kernel
  obtain ⟨tokens, read, _⟩ := startTag_read_iff returned List.mem_cons_self
  exact ⟨returned, whole, tokens.mpr whole, fun s => (read s).mpr whole⟩

-- One name that begins as it may and goes on with white space is read back as
-- three attributes, one of which is not allowed on the tag.
def broken : Value :=
  .mapping 1 [(.text "div", .mapping 2 [(.text "data-x onclick=alert(1) y", .text "z")])]

def brokenPairs : List (String × String) := [("data-x onclick=alert(1) y", "z")]

theorem broken_read :
    (document {} broken .null).outcome = .ok [.openTag 0 "div" brokenPairs false, .closeTag 0 "div"] ∧
    StartTag.read (Markup.startTag "div" brokenPairs) =
      some ("div", [("data-x", ""), ("onclick", "alert(1)"), ("y", "z")], []) ∧
    ¬IsToken "data-x onclick=alert(1) y" ∧ Attribute.isAllowed (.text "onclick") "div" = false :=
  ⟨Run.outcome_of_toOption (by decide +kernel), by decide +kernel, by decide +kernel, by decide +kernel⟩

end Render
end HtmlTemplate
