import HtmlTemplate.Escape.Reference
namespace HtmlTemplate.Escape

theorem html_append (s t : List Char) : html (s ++ t) = html s ++ html t := List.flatMap_append

theorem html_eq_nil_iff {s : List Char} : html s = [] ↔ s = [] := by
  have shown (c : Char) : reserved c ≠ [] := by
    unfold reserved
    repeat' split
    all_goals simp
  cases s with
  | nil => simp [html]
  | cons c s => simp [html, shown]

theorem text_cons {c : Char} (other : c ≠ '&') (s : List Char) : text (c :: s) = reserved c ++ text s :=
  text.eq_3 c s (by simpa using other)

theorem text_eq_html {s : List Char} (plain : '&' ∉ s) : text s = html s := by
  induction s with
  | nil => rfl
  | cons c s ih =>
    have tail : text s = html s := ih fun member => plain (List.mem_cons_of_mem _ member)
    have other : c ≠ '&' := fun same => plain (same ▸ List.mem_cons_self)
    rw [text_cons other, tail]
    rfl

theorem Names.decodeFrom_length (names : Names) (s t : List Char) : names.decodeFrom s.length (s ++ t) = names.decode t := by
  induction s with
  | nil => rfl
  | cons c s ih => exact ih

theorem Names.decode_plain (names : Names) {c : Char} (other : c ≠ '&') (s : List Char) :
    names.decode (c :: s) = c :: names.decode s := Names.decodeFrom.eq_4 names c s (by simpa using other)

theorem Names.decode_known (names : Names) {body rest : List Char} {c : Char} (known : names.find? body = some [c])
    (whole : names.decodeAt (body ++ rest) = (names.meaning body, body.length)) :
    names.decode ('&' :: (body ++ rest)) = c :: names.decode rest := by
  rw [decode, decodeFrom, whole, names.decodeFrom_length, meaning, known]
  rfl

theorem Names.decode_reserved (names : Names) (c : Char) (rest : List Char) :
    names.decode (reserved c ++ rest) = c :: names.decode rest := by
  unfold reserved
  split
  · rename_i same
    exact same ▸ names.decode_known names.ampersand rfl
  split
  · rename_i same
    exact same ▸ names.decode_known names.less rfl
  split
  · rename_i same
    exact same ▸ names.decode_known names.greater rfl
  split
  · rename_i same
    exact same ▸ names.decode_known names.quote rfl
  split
  · rename_i same
    exact same ▸ rfl
  · exact names.decode_plain (by assumption) rest

theorem Names.decode_html (names : Names) (s : List Char) : names.decode (html s) = s := by
  induction s with
  | nil => rfl
  | cons c s ih => rw [html, List.flatMap_cons, names.decode_reserved, ← html, ih]

end HtmlTemplate.Escape
