import HtmlTemplate.Escape.Named
import HtmlTemplate.Proofs.Clean
import HtmlTemplate.Proofs.Splicing
namespace HtmlTemplate

namespace Escape

variable {s t body : List Char} {c : Char}

inductive Reference : List Char → Prop where
  | decimal {digits : List Char} : digits ≠ [] → (∀ c ∈ digits, c.isDigit = true) → Reference ('#' :: digits)
  | hexadecimal {mark : Char} {digits : List Char} : mark = 'x' ∨ mark = 'X' → digits ≠ [] →
      (∀ c ∈ digits, isHexDigit c = true) → Reference ('#' :: mark :: digits)
  | named {name : List Char} : name ≠ [] → name.length ≤ 32 → (∀ c ∈ name, c.isAlphanum = true) → Reference name

theorem Complete.reference (complete : Complete body) : Reference body := by
  cases complete with
  | named letter short members =>
    refine .named (List.cons_ne_nil _ _) (Nat.succ_le_succ short) ?_
    exact List.forall_mem_cons.mpr ⟨isAlphanum_of_isAlpha letter, members⟩
  | decimal present _ members => exact .decimal present members
  | hexadecimal marked present _ members => exact .hexadecimal marked present members

theorem named_alphanum (alphanumeric : c.isAlphanum = true) : isNameChar c = true ∧ c ≠ '#' := by
  have other {special : Char} (shown : special.isAlphanum = false) : c ≠ special := Chars.ne_of_kind alphanumeric shown
  have named : c ≠ '\t' ∧ c ≠ '\n' ∧ c ≠ '\x0c' ∧ c ≠ ' ' ∧ c ≠ '<' ∧ c ≠ '&' ∧ c ≠ '#' ∧ c ≠ ';' := by
    refine ⟨?_, ?_, ?_, ?_, ?_, ?_, ?_, ?_⟩
    all_goals exact other rfl
  exact ⟨by simp [isNameChar, named], other rfl⟩

theorem Reference.decodeAt_eq (names : Names) (reference : Reference body) :
    ∃ text, ∀ rest, names.decodeAt (body ++ ';' :: rest) = (text, body.length + 1) := by
  cases reference with
  | @decimal digits present members =>
    refine ⟨ofCode (codeOf 10 digits), fun rest => ?_⟩
    have run := takeWhile_closed (by decide) members rest
    obtain ⟨c, more, rfl⟩ := List.exists_cons_of_ne_nil present
    rw [List.cons_append, Names.decodeAt, List.cons_append, decodeNumber, ← List.cons_append, run, List.drop_left]
    simp [withSemicolon]
    omega
  | @hexadecimal mark digits marked present members =>
    refine ⟨ofCode (codeOf 16 digits), fun rest => ?_⟩
    have run := takeWhile_closed (by decide) members rest
    have decimal : (mark :: (digits ++ ';' :: rest)).takeWhile Char.isDigit = [] := by
      rcases marked with rfl | rfl <;> rfl
    rw [List.cons_append, Names.decodeAt, List.cons_append, decodeNumber, decimal, run]
    simp [withSemicolon, marked, present]
    omega
  | @named _ present short members =>
    refine ⟨names.meaning (body ++ [';']), fun rest => ?_⟩
    have run := @takeWhile_closed body isNameChar (by decide) (fun c member => (named_alphanum (members c member)).1) rest
    have plain (more : List Char) : body ++ ';' :: rest ≠ '#' :: more := by
      obtain ⟨c, name, rfl⟩ := List.exists_cons_of_ne_nil present
      intro same
      exact (named_alphanum (members c List.mem_cons_self)).2 (List.cons.inj same).1
    rw [Names.decodeAt.eq_2 _ _ plain, run, List.take_of_length_le short, List.drop_left]
    simp [withSemicolon, present]

theorem Reference.decode_eq (names : Names) (reference : Reference body) :
    ∃ text, ∀ rest, names.decode ('&' :: (body ++ ';' :: rest)) = text ++ names.decode rest := by
  obtain ⟨text, decoded⟩ := reference.decodeAt_eq names
  refine ⟨text, fun rest => ?_⟩
  have skipped := names.decodeFrom_length (body ++ [';']) rest
  rw [List.length_append, List.length_singleton, List.append_assoc, List.singleton_append] at skipped
  rw [Names.decode, Names.decodeFrom, decoded rest, skipped]

theorem IsClean.suffix (clean : IsClean s) (later : t <:+ s) : IsClean t :=
  ⟨fun c member => clean.plain c (later.subset member), fun rest inside => clean.references rest (inside.trans later)⟩

-- Nothing forms or breaks behind a text whose references are all complete. The induction
-- is on the length, since a reference is passed over in one step.
theorem Names.decode_append (names : Names) (clean : IsClean s) (t : List Char) :
    names.decode (s ++ t) = names.decode s ++ names.decode t := by
  induction h : s.length using Nat.strongRecOn generalizing s with
  | ind n ih =>
    cases s with
    | nil => rfl
    | cons c s =>
      obtain ⟨_, starts, rest⟩ := isClean_cons.mp clean
      by_cases ampersand : c = '&'
      · subst ampersand
        obtain ⟨body, after, rfl, complete⟩ := startsReference_iff.mp (starts rfl)
        obtain ⟨text, decoded⟩ := complete.reference.decode_eq names
        have later : IsClean after := rest.suffix ⟨body ++ [';'], by simp⟩
        have step := ih after.length (by simp [← h]; omega) later rfl
        rw [List.cons_append, List.append_assoc, List.cons_append, decoded, decoded, step, List.append_assoc]
      · have step := ih s.length (by simp [← h]) rest rfl
        rw [List.cons_append, names.decode_plain ampersand, names.decode_plain ampersand, step, List.cons_append]

end Escape

namespace Marker

theorem scanFrom_whole (skip : Nat) (s : List Char) :
    s.take skip ++ (scanFrom skip s).1 ++ (scanFrom skip s).2.flatMap (fun piece => piece.1.written ++ piece.2) = s := by
  fun_induction scanFrom skip s with
  | case1 skip => simp
  | case2 skip c s ih => simpa using ih
  | case3 c s marker length found ih =>
    obtain ⟨within, count⟩ := at?_written found
    have lead : marker.written = c :: s.take (length - 1) := by
      obtain ⟨inner, opened⟩ := marker.written_eq_cons
      have size : length = (length - 1) + 1 := by simp [← count, opened]
      rw [List.prefix_iff_eq_take.mp within, count, size, List.take_succ_cons, Nat.add_sub_cancel]
    simpa [lead] using ih
  | case4 c s none ih => simpa using ih

theorem scan_whole (s : List Char) :
    (scan s).1 ++ (scan s).2.flatMap (fun piece => piece.1.written ++ piece.2) = s := scanFrom_whole 0 s

end Marker

namespace Interpolation

variable {fallback : Option Path.Fallback} {scope : Scope}

-- What a text says: its literal runs as they are read, and between them the markers,
-- each as the text it stands for.
def said [Stack] (literal : List Char → List Char) (fallback : Option Path.Fallback) (scope : Scope) (template : String) :
    Run (List Char) := do
  let (before, marked) := Marker.scan template.toList
  let rest ← Run.collect (fun (marker, after) => do
    let value ← marker.value fallback scope
    pure (value.toList ++ literal after)) marked
  pure (literal before ++ rest)

theorem fill_decoded [Stack] (names : Escape.Names) (marked : List (Marker × List Char)) :
    (do
      let html ← inText.fill fallback scope marked
      pure (names.decode html)) =
    Run.collect (fun (marker, after) => do
      let value ← marker.value fallback scope
      pure (value.toList ++ names.decode (Escape.text after))) marked := by
  induction marked with
  | nil => rfl
  | cons piece rest ih =>
    obtain ⟨marker, after⟩ := piece
    have read (value : String) (filled : List Char) :
        names.decode (Escape.html value.toList ++ Escape.text after ++ filled) =
          value.toList ++ names.decode (Escape.text after) ++ names.decode filled := by
      rw [List.append_assoc, names.decode_append (Escape.isClean_html _), names.decode_append (Escape.isClean_text _),
        names.decode_html, List.append_assoc]
    rw [Run.collect_cons, ← ih]
    simp only [fill, bind_assoc, pure_bind]
    simp only [inText, read]

theorem apply_decoded [Stack] (names : Escape.Names) (fallback : Option Path.Fallback) (scope : Scope) (template : String) :
    (do
      let html ← inText.apply fallback scope template
      pure (names.decode html.toList)) = said (fun run => names.decode (Escape.text run)) fallback scope template := by
  unfold apply said
  simp only [← fill_decoded, bind_assoc, pure_bind, String.toList_ofList]
  simp only [inText, names.decode_append (Escape.isClean_text _)]

-- Decoded again, a text that was filled in says what the template and the data say:
-- every value as it was, every literal run as it reads when it stands alone, and
-- nothing between them, whichever names are decoded. The same is looked up and reported.
theorem escaped_once [Stack] (fallback : Option Path.Fallback) (scope : Scope) (template : String) :
    (do
      let html ← inText.apply fallback scope template
      pure (Escape.decode html.toList)) =
        said (fun run => Escape.decode (Escape.text run)) fallback scope template ∧
    (∀ names : Escape.Names, (do
      let html ← inText.apply fallback scope template
      pure (names.decode html.toList)) =
        said (fun run => names.decode (Escape.text run)) fallback scope template) ∧
    (Marker.scan template.toList).1 ++
      (Marker.scan template.toList).2.flatMap (fun piece => piece.1.written ++ piece.2) = template.toList := by
  exact ⟨apply_decoded .standard fallback scope template, fun names => apply_decoded names fallback scope template,
    Marker.scan_whole _⟩

-- So at a marker that is known to stand there: what is around it is decoded on either
-- side of it alone.
theorem decoded_spliced [Stack] (names : Escape.Names) (marker : Marker) {a : String} (clear : ¬['\x7b'] <:+ a.toList)
    (plain : ∀ c ∈ marker.body, Marker.isPlain c = true) (b : String) :
    (do
      let html ← inText.apply fallback scope (a ++ String.ofList marker.written ++ b)
      pure (names.decode html.toList)) = (do
      let before ← inText.apply fallback scope a
      let value ← marker.value fallback scope
      let after ← inText.apply fallback scope b
      pure (names.decode before.toList ++ value.toList ++ names.decode after.toList)) := by
  rw [apply_written inText marker clear plain]
  simp only [bind_assoc, pure_bind]
  refine Run.bind_congr fun before returned => ?_
  have clean : Escape.IsClean before.toList := inText_clean before returned
  have decoded (value after : String) :
      names.decode (before ++ onChars inText.value value ++ after).toList =
        names.decode before.toList ++ value.toList ++ names.decode after.toList := by
    rw [String.toList_append, String.toList_append, toList_onChars, List.append_assoc, names.decode_append clean,
      inText, names.decode_append (Escape.isClean_html _), names.decode_html, List.append_assoc]
  simp only [decoded]

example : inText.apply none ⟨.mapping 1 [(.text "end", .text "p; <")], []⟩ "&am\x7b\x7bend\x7d\x7d &lt;" =
    ⟨[], .ok "&amp;amp; &lt; &lt;"⟩ := by rfl

end Interpolation
end HtmlTemplate
