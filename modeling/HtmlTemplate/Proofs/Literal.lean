import HtmlTemplate.Proofs.Clean
namespace HtmlTemplate.Escape

variable {s t body : List Char} {c : Char}

theorem text_eq_self_iff : text s = s ↔ IsClean s := by
  constructor
  · intro same
    rw [← same]
    exact isClean_text s
  · intro clean
    induction s with
    | nil => rfl
    | cons c s ih =>
      obtain ⟨plain, starts, rest⟩ := isClean_cons.mp clean
      by_cases ampersand : c = '&'
      · subst ampersand
        rw [text.eq_2, if_pos (starts rfl), ih rest]
        rfl
      · rw [text_cons ampersand, reserved_plain plain ampersand, ih rest]
        rfl

theorem startsReference_seam (outside : isReferenceChar c = false) (other : c ≠ ';') (s t : List Char) :
    startsReference (s ++ c :: t) = startsReference s := by
  rw [Bool.eq_iff_iff]
  refine ⟨fun starts => ?_, startsReference_append⟩
  obtain ⟨body, rest, same, complete⟩ := startsReference_iff.mp starts
  apply startsReference_iff.mpr
  rcases List.append_eq_append_iff.mp same with ⟨more, rfl, after⟩ | ⟨more, rfl, after⟩
  · cases more with
    | nil => exact absurd (List.cons.inj after).1 other
    | cons d more =>
      obtain ⟨rfl, _⟩ := List.cons.inj after
      exact absurd rfl (ne_of_isReferenceChar (complete.plain c (by simp)) outside)
  · cases more with
    | nil => exact absurd (List.cons.inj after).1.symm other
    | cons d more =>
      obtain ⟨rfl, _⟩ := List.cons.inj after
      exact ⟨body, more, rfl, complete⟩

theorem text_seam (s t : List Char) : text (s ++ '&' :: t) = text s ++ text ('&' :: t) := by
  induction s with
  | nil => rfl
  | cons c s ih =>
    by_cases ampersand : c = '&'
    · subst ampersand
      rw [List.cons_append, text.eq_2, text.eq_2, startsReference_seam rfl (by decide), ih, List.append_assoc]
    · rw [List.cons_append, text_cons ampersand, text_cons ampersand, ih, List.append_assoc]

theorem text_complete (complete : Complete body) (before after : List Char) :
    text (before ++ '&' :: (body ++ ';' :: after)) = text before ++ '&' :: (body ++ ';' :: text after) := by
  rw [text_seam, text.eq_2, if_pos (complete.starts after), text_closed complete.plain]
  rfl

-- The same in two passes: brackets and quotes first, and then the ampersands that start
-- no reference. The second pass reads over what the first one has written.

def brackets (s : List Char) : List Char := s.flatMap fun c => if c = '&' then ['&'] else reserved c

def ampersands : List Char → List Char
  | [] => []
  | '&' :: s => (if startsReference s then ['&'] else "&amp;".toList) ++ ampersands s
  | c :: s => c :: ampersands s

theorem reserved_cases (c : Char) (other : c ≠ '&') :
    reserved c = [c] ∨ isReferenceChar c = false ∧ c ≠ ';' ∧ ∃ body, Complete body ∧ reserved c = '&' :: (body ++ [';']) := by
  have lt : Complete "lt".toList := .named rfl (by decide) (List.all_eq_true.mp rfl)
  have gt : Complete "gt".toList := .named rfl (by decide) (List.all_eq_true.mp rfl)
  have quot : Complete "quot".toList := .named rfl (by decide) (List.all_eq_true.mp rfl)
  have apostrophe : Complete "#39".toList := .decimal (by decide) (by decide) (List.all_eq_true.mp rfl)
  by_cases special : c = '<' ∨ c = '>' ∨ c = '"' ∨ c = '\''
  · rcases special with rfl | rfl | rfl | rfl
    · exact .inr ⟨rfl, by decide, _, lt, rfl⟩
    · exact .inr ⟨rfl, by decide, _, gt, rfl⟩
    · exact .inr ⟨rfl, by decide, _, quot, rfl⟩
    · exact .inr ⟨rfl, by decide, _, apostrophe, rfl⟩
  · exact .inl (reserved_plain (by simpa only [not_or] using special) other)

theorem brackets_ampersand (s : List Char) : brackets ('&' :: s) = '&' :: brackets s := rfl

theorem brackets_cons (other : c ≠ '&') (s : List Char) : brackets (c :: s) = reserved c ++ brackets s := by
  rw [brackets, List.flatMap_cons, if_neg other]
  rfl

theorem startsReference_brackets (before s : List Char) :
    startsReference (before ++ brackets s) = startsReference (before ++ s) := by
  induction s generalizing before with
  | nil => rfl
  | cons c s ih =>
    have step : startsReference (before ++ c :: brackets s) = startsReference (before ++ c :: s) := by
      simpa using ih (before ++ [c])
    by_cases ampersand : c = '&'
    · subst ampersand
      exact step
    rw [brackets_cons ampersand]
    rcases reserved_cases c ampersand with kept | ⟨outside, other, body, _, written⟩
    · rw [kept]
      exact step
    · rw [written, List.cons_append, startsReference_seam rfl (by decide), startsReference_seam outside other]

theorem text_brackets (s : List Char) : text (brackets s) = text s := by
  induction s with
  | nil => rfl
  | cons c s ih =>
    by_cases ampersand : c = '&'
    · subst ampersand
      have starts : startsReference (brackets s) = startsReference s := startsReference_brackets [] s
      rw [brackets_ampersand, text.eq_2, text.eq_2, starts, ih]
    rw [brackets_cons ampersand, text_cons ampersand]
    rcases reserved_cases c ampersand with kept | ⟨_, _, body, complete, written⟩
    · rw [kept, List.singleton_append, text_cons ampersand, kept, ih]
    · have closed (rest : List Char) : '&' :: (body ++ [';']) ++ rest = '&' :: (body ++ ';' :: rest) := by
        rw [List.cons_append, List.append_assoc, List.singleton_append]
      rw [written, closed, closed, ← ih]
      exact text_complete complete [] (brackets s)

theorem ampersands_eq_text (plain : ∀ c ∈ s, c ≠ '<' ∧ c ≠ '>' ∧ c ≠ '"' ∧ c ≠ '\'') : ampersands s = text s := by
  induction s with
  | nil => rfl
  | cons c s ih =>
    obtain ⟨own, others⟩ := List.forall_mem_cons.mp plain
    by_cases ampersand : c = '&'
    · subst ampersand
      rw [ampersands, text.eq_2, ih others]
    · rw [ampersands.eq_3 c s (by simpa using ampersand), text_cons ampersand, reserved_plain own ampersand, ih others]
      rfl

theorem plain_brackets : ∀ c ∈ brackets s, c ≠ '<' ∧ c ≠ '>' ∧ c ≠ '"' ∧ c ≠ '\'' := by
  intro c member
  obtain ⟨d, _, written⟩ := List.mem_flatMap.mp member
  split at written
  · obtain rfl := List.mem_singleton.mp written
    decide
  · exact (isClean_reserved d).plain c written

-- Literal text is settled once it has been escaped. What is written has no bracket, no
-- quote and no bare ampersand, and every complete reference stands in it at its place.
theorem text_settled (s : List Char) :
    text s = ampersands (brackets s) ∧
    text (text s) = text s ∧
    (∀ c ∈ text s, c ≠ '<' ∧ c ≠ '>' ∧ c ≠ '"' ∧ c ≠ '\'') ∧
    (∀ before rest, text s = before ++ '&' :: rest → ∃ body after, rest = body ++ ';' :: after ∧ Complete body) ∧
    ∀ before body after, s = before ++ '&' :: (body ++ ';' :: after) → Complete body →
      text s = text before ++ '&' :: (body ++ ';' :: text after) := by
  have clean := isClean_text s
  refine ⟨?_, text_eq_self_iff.mpr clean, clean.plain, ?_, ?_⟩
  · rw [ampersands_eq_text plain_brackets, text_brackets]
  · intro before rest same
    exact startsReference_iff.mp (clean.references rest ⟨before, same.symm⟩)
  · rintro before body after rfl complete
    exact text_complete complete before after

theorem text_settled_mixed :
    text "&#<&#x3C;'&amp".toList = "&amp;#&lt;&#x3C;&#39;&amp;amp".toList ∧ Complete "#x3C".toList ∧
    text "&#<&#x3C;'&amp".toList = text "&#<".toList ++ '&' :: ("#x3C".toList ++ ';' :: text "'&amp".toList) ∧
    text "&amp;#&lt;&#x3C;&#39;&amp;amp".toList = "&amp;#&lt;&#x3C;&#39;&amp;amp".toList := by
  have complete : Complete "#x3C".toList := .hexadecimal (.inl rfl) (by decide) (by decide) (List.all_eq_true.mp rfl)
  have written : text "&#<&#x3C;'&amp".toList = "&amp;#&lt;&#x3C;&#39;&amp;amp".toList := by decide
  obtain ⟨_, again, _, _, kept⟩ := text_settled "&#<&#x3C;'&amp".toList
  rw [written] at again
  exact ⟨written, complete, kept "&#<".toList "#x3C".toList "'&amp".toList rfl complete, again⟩

example : text "&#1234567;&#12345678;".toList = "&#1234567;&amp;#12345678;".toList := by decide

end HtmlTemplate.Escape
