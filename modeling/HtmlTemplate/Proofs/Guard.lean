import HtmlTemplate.Proofs.Declarations
import HtmlTemplate.Proofs.Emission
namespace HtmlTemplate

variable {settings : Render.Settings} {tag name : String} {scope : Scope} {entries : List (Value × Value)}

structure Attribute.Checked (name text : String) : Prop where
  url : name ∈ Vocabulary.urlAttributes →
    ∀ scheme, Url.scheme? text = some scheme → scheme ∈ Vocabulary.safeSchemes
  style : name = Vocabulary.styleAttribute → Style.Declares text

structure Attribute.Guarded (tag : String) (pair : String × String) : Prop
    extends Attribute.Checked pair.1 pair.2 where
  allowed : Attribute.isAllowed (.text pair.1) tag = true

structure Attribute.Kept (tag : String) (entries : List (Value × Value)) (pairs : List (String × String)) :
    Prop where
  names : (pairs.map (·.1)).Sublist (Template.names entries)
  guarded : ∀ pair ∈ pairs, Attribute.Guarded tag pair

theorem Attribute.Kept.none : Attribute.Kept tag entries [] := ⟨by simp, by simp⟩

theorem Attribute.Kept.append {more : List (Value × Value)} {xs ys : List (String × String)}
    (first : Attribute.Kept tag entries xs) (second : Attribute.Kept tag more ys) :
    Attribute.Kept tag (entries ++ more) (xs ++ ys) := by
  refine ⟨?_, fun pair member => (List.mem_append.mp member).elim (first.guarded pair) (second.guarded pair)⟩
  rw [List.map_append, Template.names, List.filterMap_append]
  exact first.names.append second.names

theorem Attribute.Kept.once {template part : Value} {node : TagNode} {pairs : List (String × String)}
    (kept : Attribute.Kept tag entries pairs) (once : template.keysOnce = true) (inside : Template.Part template part)
    (read : Template.tag? part = some node) (within : entries.Sublist node.attributes) : (pairs.map (·.1)).Nodup :=
  (Template.keysOnce_tag (inside.keysOnce once) read).names.sublist (kept.names.trans (within.filterMap _))

namespace Render

theorem scheme_of_check {url checked : String} (passed : Url.check name url = .ok checked) :
    checked = url ∧ ∀ scheme, Url.scheme? url = some scheme → scheme ∈ Vocabulary.safeSchemes := by
  unfold Url.check at passed
  split at passed
  · rename_i relative
    cases passed
    simp [relative]
  · rename_i scheme found
    split at passed
    · rename_i safe
      cases passed
      simpa [found] using safe
    · cases passed

section

variable [Stack]

-- The text of an attribute once its branch is chosen.
def branchText (settings : Settings) (scope : Scope) (name : String) (value : Value) : Run (Option String) :=
  if name = Vocabulary.styleAttribute then do
    let text ← Style.sanitize (Interpolation.inAttribute.apply settings.fallback scope) value
    return if text = "" then none else some text
  else do
    let text ← plainText settings scope value
    if Attribute.isUrl name then
      let text ← Run.ofExcept .problem (Url.check name text)
      return some text
    else return some text

theorem attributeText_eq (name : String) (value : Value) :
    attributeText settings scope name value =
      match Condition.conditional? value with
      | some descriptor => Condition.choose settings.fallback scope descriptor >>= branchText settings scope name
      | none => branchText settings scope name value := by
  unfold attributeText
  cases Condition.conditional? value with
  | some descriptor => rfl
  | none => exact pure_bind value (branchText settings scope name)

theorem branchText_ensures (branch : Value) :
    (branchText settings scope name branch).Ensures fun text? => ∀ text, text? = some text →
      Attribute.Checked name text := by
  unfold branchText
  split
  · rename_i styled
    refine (Style.sanitize_ensures _ branch).bind fun text declares => Run.ensures_pure ?_
    intro kept same
    split at same
    · cases same
    · rename_i present
      cases same
      exact ⟨fun isUrl => absurd (styled ▸ isUrl) (by decide), fun _ => declares present⟩
  · rename_i unstyled
    refine Run.ensures_bind fun text => ?_
    split
    · refine (Run.ensures_ofExcept _ _).bind fun checked passed => Run.ensures_pure ?_
      rintro kept ⟨⟩
      obtain ⟨rfl, safe⟩ := scheme_of_check passed
      exact ⟨fun _ => safe, fun styled => absurd styled unstyled⟩
    · rename_i plain
      refine Run.ensures_pure fun kept _ => ⟨fun isUrl => ?_, fun styled => absurd styled unstyled⟩
      exact absurd isUrl (by simpa [Attribute.isUrl] using plain)

-- Whatever the value is, and whichever branch a conditional value takes: the text
-- went through the check that belongs to the name.
theorem attributeText_ensures (value : Value) :
    (attributeText settings scope name value).Ensures fun text? => ∀ text, text? = some text →
      Attribute.Checked name text := by
  rw [attributeText_eq]
  split
  · exact Run.ensures_bind fun branch => branchText_ensures branch
  · exact branchText_ensures value

theorem check_eq_ok {key : Value} (passed : Attribute.check key tag = .ok name) :
    key = .text name ∧ Attribute.isAllowed (.text name) tag = true := by
  unfold Attribute.check at passed
  split at passed
  · split at passed
    · rename_i s allowed
      cases passed
      exact ⟨rfl, allowed⟩
    · cases passed
  · cases passed

theorem pair_ensures (key value : Value) :
    (pair settings tag scope key value).Ensures (Attribute.Kept tag [(key, value)]) := by
  refine Run.Ensures.rescue ?_ fun _ => Run.ensures_bind fun _ => Run.ensures_pure .none
  refine (Run.ensures_ofExcept _ _).bind fun name passed => ?_
  obtain ⟨rfl, allowed⟩ := check_eq_ok passed
  refine (attributeText_ensures value).bind fun text? checked => Run.ensures_pure ?_
  cases text? with
  | none => exact .none
  | some text =>
    refine ⟨by simp [Template.names], fun pair member => ?_⟩
    rw [List.mem_singleton.mp member]
    exact ⟨checked text rfl, allowed⟩

theorem attributes_ensures : (attributes settings tag scope entries).Ensures (Attribute.Kept tag entries) :=
  Run.ensures_collect_along .none (fun _ _ _ _ => .append) fun e _ => pair_ensures e.1 e.2

structure Guarded (tag : String) (pairs : List (String × String)) (void : Bool) : Prop where
  element : tag ∈ Vocabulary.containerTags ∨ tag ∈ Vocabulary.voidTags
  void : void = true ↔ tag ∈ Vocabulary.voidTags
  names : (pairs.map (·.1)).Nodup
  attributes : ∀ pair ∈ pairs, Attribute.Guarded tag pair

theorem guarded_admits {template : Value} (once : template.keysOnce = true) :
    Contents.Admits ⟨fun _ => True, Guarded⟩ settings template where
  text _ _ _ := fun _ _ _ => trivial
  scalar _ _ _ _ := trivial
  tag part node inside read element scope entries kept := by
    refine attributes_ensures.mono fun pairs known => ?_
    exact ⟨by simpa [Vocabulary.isElement] using element, by simp, known.once once inside read kept, known.guarded⟩

-- Every start tag of a rendered node, wherever it stands.
theorem openTag_guarded {settings : Settings} {template : Value} {budget : Nat} {spot : Spot}
    {events : List Event} {depth : Int} {tag : String} {pairs : List (String × String)} {void : Bool}
    (once : template.keysOnce = true) (returned : (node settings budget spot template).outcome = .ok events)
    (emitted : .openTag depth tag pairs void ∈ events) : Guarded tag pairs void :=
  (Contents.node_stream (guarded_admits once) budget .whole events returned).allows emitted

end

def commentedLink : Value :=
  .mapping 1 [(.text "$comment", .sequence .list 2 [.mapping 3 [(.text "a", .mapping 4 [
    (.text "onclick", .text "x"), (.text "href", .text "\x7b\x7bto\x7d\x7d"),
    (.text "style", .mapping 5 [(.text "color", .text "red; top: 0")])])]])]

def commentedLinkEvents : List Event := [
  .openComment 0, .openTag 1 "a" [("href", "https://a.b"), ("style", "color: red;")] false,
  .closeTag 1 "a", .closeComment 0]

theorem commentedLink_guarded :
    commentedLink.keysOnce = true ∧
    (node {} 3 ⟨⟨.mapping 6 [(.text "to", .text "https://a.b")], []⟩, 0, false⟩ commentedLink).outcome =
      .ok commentedLinkEvents ∧
    .openTag 1 "a" [("href", "https://a.b"), ("style", "color: red;")] false ∈ commentedLinkEvents ∧
    Guarded "a" [("href", "https://a.b"), ("style", "color: red;")] false := by
  have once : commentedLink.keysOnce = true := by decide
  have returned : (node {} 3 ⟨⟨.mapping 6 [(.text "to", .text "https://a.b")], []⟩, 0, false⟩
      commentedLink).outcome = .ok commentedLinkEvents := Run.outcome_of_toOption (by decide +kernel)
  have emitted : .openTag 1 "a" [("href", "https://a.b"), ("style", "color: red;")] false ∈
      commentedLinkEvents := by simp [commentedLinkEvents]
  exact ⟨once, returned, emitted, openTag_guarded once returned emitted⟩

end Render
end HtmlTemplate
