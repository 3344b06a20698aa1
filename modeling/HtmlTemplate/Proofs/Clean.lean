import HtmlTemplate.Proofs.Escape
import HtmlTemplate.Proofs.Markup
import HtmlTemplate.Proofs.Names
import Mathlib.Data.List.TakeWhile
namespace HtmlTemplate

namespace Escape

variable {s t body : List Char} {c : Char}

-- Text that HTML reads as nothing but text: no bracket and no quote, and every
-- ampersand starts a reference that is complete.
structure IsClean (s : List Char) : Prop where
  plain : ∀ c ∈ s, c ≠ '<' ∧ c ≠ '>' ∧ c ≠ '"' ∧ c ≠ '\''
  references : ∀ rest, '&' :: rest <:+ s → startsReference rest = true

inductive Complete : List Char → Prop where
  | named {c : Char} {name : List Char} : c.isAlpha = true → name.length ≤ 31 →
      (∀ d ∈ name, d.isAlphanum = true) → Complete (c :: name)
  | decimal {digits : List Char} : digits ≠ [] → digits.length ≤ 7 →
      (∀ d ∈ digits, d.isDigit = true) → Complete ('#' :: digits)
  | hexadecimal {mark : Char} {digits : List Char} : mark = 'x' ∨ mark = 'X' → digits ≠ [] → digits.length ≤ 6 →
      (∀ d ∈ digits, isHexDigit d = true) → Complete ('#' :: mark :: digits)

theorem takeWhile_closed {isMember : Char → Bool} (ends : isMember ';' = false) (members : ∀ c ∈ body, isMember c = true)
    (rest : List Char) : (body ++ ';' :: rest).takeWhile isMember = body := by
  rw [List.takeWhile_append_of_pos members, List.takeWhile_cons_of_neg (by simp [ends]), List.append_nil]

theorem closes_iff {isMember : Char → Bool} {limit : Nat} (ends : isMember ';' = false) :
    closes isMember limit s = true ↔
      ∃ body rest, s = body ++ ';' :: rest ∧ (∀ c ∈ body, isMember c = true) ∧ body ≠ [] ∧ body.length ≤ limit := by
  constructor
  · intro closed
    simp only [closes, Bool.and_eq_true, decide_eq_true_eq, beq_iff_eq] at closed
    obtain ⟨⟨present, short⟩, next⟩ := closed
    obtain ⟨after, split⟩ := List.takeWhile_prefix isMember (l := s)
    have dropped := congrArg (List.drop (s.takeWhile isMember).length) split
    rw [List.drop_left] at dropped
    rw [← dropped] at next
    obtain ⟨rest, rfl⟩ := List.head?_eq_some_iff.mp next
    exact ⟨_, rest, split.symm, fun c => List.mem_takeWhile_imp, List.ne_nil_of_length_pos present, short⟩
  · rintro ⟨body, rest, rfl, members, present, short⟩
    simp [closes, takeWhile_closed ends members, short, Nat.one_le_iff_ne_zero, present]

def isReferenceChar (c : Char) : Bool := c = '#' || c.isAlphanum

theorem isAlphanum_of_isAlpha (letter : c.isAlpha = true) : c.isAlphanum = true := Bool.or_eq_true_iff.mpr (.inl letter)

theorem isAlphanum_of_isDigit (digit : c.isDigit = true) : c.isAlphanum = true := Bool.or_eq_true_iff.mpr (.inr digit)

theorem isAlphanum_of_isHexDigit (hex : isHexDigit c = true) : c.isAlphanum = true := by
  simp only [isHexDigit, Bool.or_eq_true, Bool.and_eq_true, decide_eq_true_eq, Char.le_def] at hex
  rcases hex with (digit | ⟨low, high⟩) | ⟨low, high⟩
  · exact isAlphanum_of_isDigit digit
  · have lower : c.isLower = true :=
      Bool.and_eq_true_iff.mpr ⟨decide_eq_true low, decide_eq_true (UInt32.le_trans high (by decide))⟩
    exact isAlphanum_of_isAlpha (Bool.or_eq_true_iff.mpr (.inr lower))
  · have upper : c.isUpper = true := decide_eq_true ⟨low, UInt32.le_trans high (by decide)⟩
    exact isAlphanum_of_isAlpha (Bool.or_eq_true_iff.mpr (.inl upper))

theorem Complete.starts (complete : Complete body) (rest : List Char) : startsReference (body ++ ';' :: rest) = true := by
  cases complete with
  | @named c name letter short members =>
    have other : c ≠ '#' := by
      rintro rfl
      cases letter
    have closed : closes Char.isAlphanum 32 (c :: (name ++ ';' :: rest)) = true := by
      refine (closes_iff (by decide)).mpr ⟨c :: name, rest, rfl, ?_, List.cons_ne_nil _ _, Nat.succ_le_succ short⟩
      exact List.forall_mem_cons.mpr ⟨isAlphanum_of_isAlpha letter, members⟩
    simp [startsReference, other, letter, closed]
  | @decimal digits present short members =>
    have closed : closes Char.isDigit 7 (digits ++ ';' :: rest) = true :=
      (closes_iff (by decide)).mpr ⟨digits, rest, rfl, members, present, short⟩
    obtain ⟨d, digits, rfl⟩ := List.exists_cons_of_ne_nil present
    rw [List.cons_append] at closed
    simp [startsReference, closed]
  | @hexadecimal mark digits marked present short members =>
    have closed : closes isHexDigit 6 (digits ++ ';' :: rest) = true :=
      (closes_iff (by decide)).mpr ⟨digits, rest, rfl, members, present, short⟩
    simp [startsReference, marked, closed]

theorem startsReference_iff :
    startsReference s = true ↔ ∃ body rest, s = body ++ ';' :: rest ∧ Complete body := by
  constructor
  · intro starts
    unfold startsReference at starts
    split at starts
    · rename_i c s
      rcases Bool.or_eq_true_iff.mp starts with closed | hex
      · obtain ⟨digits, rest, same, members, present, short⟩ := (closes_iff (by decide)).mp closed
        exact ⟨'#' :: digits, rest, congrArg _ same, .decimal present short members⟩
      · obtain ⟨mark, closed⟩ := Bool.and_eq_true_iff.mp hex
        obtain ⟨digits, rest, rfl, members, present, short⟩ := (closes_iff (by decide)).mp closed
        exact ⟨'#' :: c :: digits, rest, rfl, .hexadecimal (by simpa using mark) present short members⟩
    · rename_i c s _
      obtain ⟨letter, closed⟩ := Bool.and_eq_true_iff.mp starts
      obtain ⟨name, rest, same, members, present, short⟩ := (closes_iff (by decide)).mp closed
      obtain ⟨d, name, rfl⟩ := List.exists_cons_of_ne_nil present
      obtain ⟨rfl, _⟩ := List.cons.inj same
      exact ⟨c :: name, rest, same, .named letter (Nat.le_of_succ_le_succ short) (List.forall_mem_cons.mp members).2⟩
    · cases starts
  · rintro ⟨body, rest, rfl, complete⟩
    exact complete.starts rest

theorem isReferenceChar_of_isAlphanum (known : c.isAlphanum = true) : isReferenceChar c = true := by
  simp [isReferenceChar, known]

theorem Complete.plain (complete : Complete body) : ∀ c ∈ body, isReferenceChar c = true := by
  cases complete with
  | named letter _ members =>
    refine List.forall_mem_cons.mpr ⟨isReferenceChar_of_isAlphanum (isAlphanum_of_isAlpha letter), ?_⟩
    exact fun d member => isReferenceChar_of_isAlphanum (members d member)
  | decimal _ _ members =>
    refine List.forall_mem_cons.mpr ⟨rfl, ?_⟩
    exact fun d member => isReferenceChar_of_isAlphanum (isAlphanum_of_isDigit (members d member))
  | @hexadecimal mark _ marked _ _ members =>
    have own : isReferenceChar mark = true := by rcases marked with rfl | rfl <;> rfl
    refine List.forall_mem_cons.mpr ⟨rfl, List.forall_mem_cons.mpr ⟨own, ?_⟩⟩
    exact fun d member => isReferenceChar_of_isAlphanum (isAlphanum_of_isHexDigit (members d member))

theorem isClean_nil : IsClean [] := ⟨by simp, by simp⟩

theorem isClean_cons :
    IsClean (c :: s) ↔
      (c ≠ '<' ∧ c ≠ '>' ∧ c ≠ '"' ∧ c ≠ '\'') ∧ (c = '&' → startsReference s = true) ∧ IsClean s := by
  constructor
  · rintro ⟨plain, references⟩
    refine ⟨plain c List.mem_cons_self, ?_, fun d member => plain d (List.mem_cons_of_mem _ member),
      fun rest later => references rest (later.trans (List.suffix_cons c s))⟩
    rintro rfl
    exact references s List.suffix_rfl
  · rintro ⟨first, starts, rest⟩
    refine ⟨List.forall_mem_cons.mpr ⟨first, rest.plain⟩, fun after later => ?_⟩
    rcases List.suffix_cons_iff.mp later with whole | inside
    · obtain ⟨rfl, rfl⟩ := List.cons.inj whole
      exact starts rfl
    · exact rest.references after inside

theorem startsReference_append (starts : startsReference s = true) : startsReference (s ++ t) = true := by
  obtain ⟨body, rest, rfl, complete⟩ := startsReference_iff.mp starts
  rw [List.append_assoc, List.cons_append]
  exact complete.starts (rest ++ t)

-- No cut between two clean pieces leaves half a reference.
theorem IsClean.append (first : IsClean s) (second : IsClean t) : IsClean (s ++ t) := by
  induction s with
  | nil => exact second
  | cons c s ih =>
    obtain ⟨plain, starts, rest⟩ := isClean_cons.mp first
    exact isClean_cons.mpr ⟨plain, fun same => startsReference_append (starts same), ih rest⟩

theorem isClean_plain (plain : c ≠ '<' ∧ c ≠ '>' ∧ c ≠ '"' ∧ c ≠ '\'') (other : c ≠ '&') : IsClean [c] :=
  isClean_cons.mpr ⟨plain, fun same => absurd same other, isClean_nil⟩

theorem isClean_reserved (c : Char) : IsClean (reserved c) := by
  have named (body : List Char) (starts : startsReference body = true)
      (plain : body.all (fun d => d ∉ ['<', '>', '"', '\'', '&']) = true) : IsClean ('&' :: body) := by
    have shown (d : Char) (member : d ∈ body) : (d ≠ '<' ∧ d ≠ '>' ∧ d ≠ '"' ∧ d ≠ '\'') ∧ d ≠ '&' := by
      simpa [and_assoc] using List.all_eq_true.mp plain d member
    refine isClean_cons.mpr ⟨by decide, fun _ => starts, fun d member => (shown d member).1, fun rest inside => ?_⟩
    exact absurd rfl (shown '&' (inside.subset List.mem_cons_self)).2
  unfold reserved
  split
  · exact named "amp;".toList (by decide) (by decide)
  split
  · exact named "lt;".toList (by decide) (by decide)
  split
  · exact named "gt;".toList (by decide) (by decide)
  split
  · exact named "quot;".toList (by decide) (by decide)
  split
  · exact named "#39;".toList (by decide) (by decide)
  · exact isClean_plain (by simp_all) (by assumption)

theorem isClean_html (s : List Char) : IsClean (html s) := by
  induction s with
  | nil => exact isClean_nil
  | cons c s ih => exact (isClean_reserved c).append ih

theorem reserved_plain (plain : c ≠ '<' ∧ c ≠ '>' ∧ c ≠ '"' ∧ c ≠ '\'') (other : c ≠ '&') : reserved c = [c] := by
  simp [reserved, plain, other]

theorem ne_of_isReferenceChar (known : isReferenceChar c = true) {special : Char}
    (shown : isReferenceChar special = false) : c ≠ special := by
  rintro rfl
  exact absurd known (by simp [shown])

theorem text_append (plain : ∀ c ∈ s, isReferenceChar c = true) : text (s ++ t) = s ++ text t := by
  induction s with
  | nil => rfl
  | cons c s ih =>
    have other {special : Char} := @ne_of_isReferenceChar c (plain c List.mem_cons_self) special
    have ampersand : c ≠ '&' := other rfl
    have same : reserved c = [c] := reserved_plain ⟨other rfl, other rfl, other rfl, other rfl⟩ ampersand
    rw [List.cons_append, text_cons ampersand, same, ih fun d member => plain d (List.mem_cons_of_mem _ member),
      List.singleton_append, List.cons_append]

theorem text_closed (plain : ∀ c ∈ s, isReferenceChar c = true) : text (s ++ ';' :: t) = s ++ ';' :: text t := by
  rw [text_append plain, text_cons (by decide)]
  rfl

theorem startsReference_text (starts : startsReference s = true) : startsReference (text s) = true := by
  obtain ⟨body, rest, rfl, complete⟩ := startsReference_iff.mp starts
  rw [text_closed complete.plain]
  exact complete.starts (text rest)

theorem isClean_text (s : List Char) : IsClean (text s) := by
  fun_induction text s with
  | case1 => exact isClean_nil
  | case2 s ih =>
    split
    · rename_i starts
      exact isClean_cons.mpr ⟨by decide, fun _ => startsReference_text starts, ih⟩
    · exact (isClean_reserved '&').append ih
  | case3 c s other ih => exact (isClean_reserved c).append ih

end Escape
variable {fallback : Option Path.Fallback} {scope : Scope} {settings : Render.Settings} {template : Value}

namespace Interpolation

theorem fill_clean [Stack] {marked : List (Marker × List Char)} : (inText.fill fallback scope marked).Ensures Escape.IsClean := by
  induction marked with
  | nil => exact Run.ensures_pure Escape.isClean_nil
  | cons first rest ih =>
    refine Run.ensures_bind fun value => ih.bind fun filled clean => Run.ensures_pure ?_
    exact ((Escape.isClean_html value.toList).append (Escape.isClean_text first.2)).append clean

theorem inText_clean [Stack] {s : String} : (inText.apply fallback scope s).Ensures fun html => Escape.IsClean html.toList := by
  refine fill_clean.bind fun filled clean => Run.ensures_pure ?_
  rw [String.toList_ofList]
  exact (Escape.isClean_text _).append clean

end Interpolation

def Contents.clean : Contents := ⟨fun html => Escape.IsClean html.toList, fun tag _ _ => StartTag.isTagName tag = true⟩

theorem Contents.clean_admits [Stack] : Contents.clean.Admits settings template where
  text _ _ _ := Interpolation.inText_clean.mono fun _ known _ => known
  scalar v s _ _ := by
    simp only [Contents.clean, toList_onChars]
    exact Escape.isClean_html _
  tag _ _ _ _ := fun element _ _ _ _ _ => StartTag.isTagName_of_isElement element

theorem Contents.clean_admitsWrappers : Contents.clean.AdmitsWrappers := by
  unfold AdmitsWrappers clean
  decide +kernel

def angles (s : List Char) : List Char := s.filter fun c => c = '<' || c = '>'

-- Those that are written for an event: around tags and comments, and whatever the
-- names of attributes have in them. Texts and the values of attributes have none.
def Event.angles : Event → List Char
  | .openTag _ _ pairs _ => '<' :: pairs.flatMap (fun pair => HtmlTemplate.angles pair.1.toList) ++ ['>']
  | .closeTag _ _ => ['<', '>']
  | .text _ _ => []
  | .openComment _ => ['<']
  | .closeComment _ => ['>']

section Angles

variable {s t : List Char} {tag : String}

theorem angles_append (s t : List Char) : angles (s ++ t) = angles s ++ angles t := List.filter_append ..

theorem angles_clean (clean : Escape.IsClean s) : angles s = [] := by
  refine List.filter_eq_nil_iff.mpr fun c member => ?_
  obtain ⟨left, right, _⟩ := clean.plain c member
  simp [left, right]

theorem angles_tagName (proper : StartTag.isTagName tag = true) : angles tag.toList = [] := by
  have named : ∀ c ∈ tag.toList, c.isAlphanum = true := by
    unfold StartTag.isTagName at proper
    split at proper
    · rename_i c s spelled
      obtain ⟨letter, rest⟩ := Bool.and_eq_true_iff.mp proper
      rw [spelled]
      exact List.forall_mem_cons.mpr ⟨by simp [Char.isAlphanum, letter], List.all_eq_true.mp rest⟩
    · cases proper
  refine List.filter_eq_nil_iff.mpr fun c member special => ?_
  have alphanumeric := named c member
  have known : c = '<' ∨ c = '>' := by simpa using special
  rcases known with rfl | rfl <;> exact absurd alphanumeric (by decide)

theorem angles_breakDashes (s : List Char) : angles (Comment.breakDashes s) = angles s := by
  unfold angles
  fun_induction Comment.breakDashes s with
  | case1 => rfl
  | case2 s ih => simpa using ih
  | case3 c s other ih => rw [List.filter_cons, List.filter_cons, ih]

theorem angles_attributes (pairs : List (String × String)) :
    angles (Markup.attributes pairs) = pairs.flatMap fun pair => angles pair.1.toList := by
  induction pairs with
  | nil => rfl
  | cons pair pairs ih =>
    have own : angles (' ' :: pair.1.toList ++ ['=', '"'] ++ Escape.html pair.2.toList ++ ['"']) =
        angles pair.1.toList := by
      rw [angles_append, angles_append, angles_append, angles_clean (Escape.isClean_html _), List.append_nil]
      exact (List.append_nil _).trans (List.append_nil _)
    rw [Markup.attributes, List.flatMap_cons, List.flatMap_cons, angles_append, own, ← Markup.attributes, ih]

theorem angles_startTag (proper : StartTag.isTagName tag = true) (pairs : List (String × String)) :
    angles (Markup.startTag tag pairs) = '<' :: pairs.flatMap (fun pair => angles pair.1.toList) ++ ['>'] := by
  have begun : angles ('<' :: tag.toList) = ['<'] := congrArg ('<' :: ·) (angles_tagName proper)
  rw [Markup.startTag, angles_append, angles_append, begun, angles_attributes]
  rfl

theorem angles_endTag (proper : StartTag.isTagName tag = true) : angles (Markup.endTag tag) = ['<', '>'] := by
  rw [Markup.endTag, angles_append, angles_append, angles_tagName proper]
  rfl

theorem angles_commented (s : List Char) : angles (Markup.commented s) = '<' :: angles s ++ ['>'] := by
  rw [Markup.commented, angles_append, angles_append, angles_breakDashes]
  rfl

theorem Forest.angles_markup {forest : Forest} {inComment : Bool} (fits : forest.Fits Contents.clean inComment)
    (depth : Int) : angles forest.markup = (forest.events depth).flatMap Event.angles := by
  induction forest generalizing inComment depth with
  | nil => rfl
  | text html rest ih =>
    simp only [markup, events, List.flatMap_cons, Event.angles]
    rw [angles_append, angles_clean fits.1, ih fits.2 depth]
  | void tag pairs rest ih =>
    simp only [markup, events, List.flatMap_cons, Event.angles]
    rw [angles_append, angles_startTag fits.1, ih fits.2 depth]
  | element tag pairs inner rest innerIh ih =>
    simp only [markup, events, List.flatMap_cons, List.flatMap_append, List.cons_append, Event.angles]
    rw [angles_append, angles_append, angles_append, angles_startTag fits.1, angles_endTag fits.1,
      innerIh fits.2.1 (depth + 1), ih fits.2.2 depth]
    simp
  | comment inner rest innerIh ih =>
    simp only [markup, events, List.flatMap_cons, List.flatMap_append, List.cons_append, Event.angles]
    rw [angles_append, angles_commented, innerIh fits.2.1 (depth + 1), ih fits.2.2 depth]
    simp

end Angles

namespace Render

-- Every text that is written, wherever it stands, and every value of an attribute
-- is clean; so all brackets of a compact output belong to tags, to comments or to
-- the names of attributes.
theorem clean_of_render [Stack] (settings : Settings) (template : Value) :
    (∀ budget spot, (node settings budget spot template).Ensures fun events =>
      ∀ depth html, .text depth html ∈ events → Escape.IsClean html.toList) ∧
    (∀ pair pairs, Markup.attributes (pair :: pairs) =
        ' ' :: pair.1.toList ++ ['=', '"'] ++ Escape.html pair.2.toList ++ ['"'] ++ Markup.attributes pairs ∧
      Escape.IsClean (Escape.html pair.2.toList)) ∧
    ∀ data, (document settings template data).Ensures fun events =>
      (∀ depth html, .text depth html ∈ events → Escape.IsClean html.toList) ∧
      angles (Markup.format [] events) = events.flatMap Event.angles := by
  refine ⟨fun budget spot => ?_, fun pair pairs => ⟨rfl, Escape.isClean_html _⟩, fun data => ?_⟩
  · exact (Contents.node_stream Contents.clean_admits budget .whole).mono fun events stream depth html emitted =>
      stream.allows emitted
  · refine (Contents.document_stream Contents.clean_admits Contents.clean_admitsWrappers).mono fun events stream =>
      ⟨fun depth html emitted => stream.allows emitted, ?_⟩
    obtain ⟨forest, rfl, fits⟩ := stream
    rw [Markup.format_compact, Forest.angles_markup fits]

def remark : Value :=
  .mapping 1 [(.text "p", .mapping 2 [(.text "title", .text "\x7b\x7bs\x7d\x7d"),
    (.text "$children", .sequence .list 3 [.text "&am\x7b\x7bt\x7d\x7d &lt;",
      .mapping 4 [(.text "$comment", .text "\x7b\x7bs\x7d\x7d")]])])]

def remarkData : Value := .mapping 5 [(.text "s", .text "<\"'&>"), (.text "t", .text "p;")]

def remarkEvents : List Event := [
  .openTag 0 "p" [("title", "<\"'&>")] false, .text 1 "&amp;amp; &lt;", .openComment 1,
  .text 2 "&lt;&quot;&#39;&amp;&gt;", .closeComment 1, .closeTag 0 "p"]

theorem clean_of_remark :
    (document {} remark remarkData).outcome = .ok remarkEvents ∧
    .text 1 "&amp;amp; &lt;" ∈ remarkEvents ∧ Escape.IsClean "&amp;amp; &lt;".toList ∧
    angles (Markup.format [] remarkEvents) = ['<', '>', '<', '>', '<', '>'] := by
  have returned : (document {} remark remarkData).outcome = .ok remarkEvents :=
    Run.outcome_of_toOption (by decide +kernel)
  have emitted : .text 1 "&amp;amp; &lt;" ∈ remarkEvents := by simp [remarkEvents]
  obtain ⟨texts, brackets⟩ := (clean_of_render {} remark).2.2 remarkData remarkEvents returned
  exact ⟨returned, emitted, texts 1 _ emitted, brackets.trans (by decide +kernel)⟩

end Render
end HtmlTemplate
