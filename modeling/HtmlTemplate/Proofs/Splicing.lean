import HtmlTemplate.Marker
import HtmlTemplate.Proofs.Run
import Mathlib.Data.List.TakeWhile
namespace HtmlTemplate

namespace Chars

variable {lead s : List Char} {c : Char}

theorem ne_of_kind {kind : Char → Bool} {special : Char} (own : kind c = true) (other : kind special = false) :
    c ≠ special := by
  intro same
  rw [same, other] at own
  cases own

theorem beginsWith_append (outside : c ∉ lead) (s rest : List Char) :
    beginsWith lead (s ++ c :: rest) = beginsWith lead s := by
  induction lead generalizing s with
  | nil => rfl
  | cons x lead ih =>
    obtain ⟨other, outside⟩ := List.ne_and_not_mem_of_not_mem_cons outside
    cases s with
    | nil => simp [beginsWith, dropLead, Ne.symm other]
    | cons y s =>
      by_cases same : x = y
      · simpa [beginsWith, dropLead, same] using ih outside s
      · simp [beginsWith, dropLead, same]

end Chars

namespace Marker

variable {s rest : List Char} {marked : List (Marker × List Char)} {marker : Marker} {length skip : Nat}

def written : Marker → List Char
  | .path body => '\x7b' :: '\x7b' :: (body ++ ['\x7d', '\x7d'])
  | .literal body => '\x7b' :: '\x7b' :: '\x7b' :: (body ++ ['\x7d', '\x7d', '\x7d'])

def body : Marker → List Char
  | .path body | .literal body => body

theorem written_eq_cons (marker : Marker) : ∃ inner, marker.written = '\x7b' :: inner := by
  cases marker <;> exact ⟨_, rfl⟩

section Opening

theorem at?_three (s : List Char) :
    at? ('\x7b' :: '\x7b' :: '\x7b' :: s) =
      if Chars.beginsWith ['\x7d', '\x7d', '\x7d'] (s.drop (s.takeWhile isPlain).length) then
        some (.literal (s.takeWhile isPlain), (s.takeWhile isPlain).length + 6)
      else none := rfl

theorem at?_two (single : ¬['\x7b'] <+: s) :
    at? ('\x7b' :: '\x7b' :: s) =
      if Chars.beginsWith ['\x7d', '\x7d'] (s.drop (s.takeWhile isPlain).length) then
        some (.path (s.takeWhile isPlain), (s.takeWhile isPlain).length + 4)
      else none := by
  apply at?.eq_2
  rintro t rfl
  exact single ⟨t, rfl⟩

theorem at?_none (unopened : ¬['\x7b', '\x7b'] <+: s) : at? s = none := by
  apply at?.eq_3
  · rintro t rfl
    exact unopened ⟨_, rfl⟩
  · rintro t rfl
    exact unopened ⟨_, rfl⟩

theorem at?_written (found : at? s = some (marker, length)) : marker.written <+: s ∧ marker.written.length = length := by
  have closed {closing t : List Char} (ends : Chars.beginsWith closing (t.drop (t.takeWhile isPlain).length) = true) :
      t.takeWhile isPlain ++ closing <+: t := by
    have whole := List.prefix_iff_eq_take.mp (List.takeWhile_prefix isPlain (l := t))
    have split := List.take_append_drop (t.takeWhile isPlain).length t
    rw [← whole] at split
    have within := (List.prefix_append_right_inj (t.takeWhile isPlain)).mpr (Chars.beginsWith_iff.mp ends)
    rwa [split] at within
  revert found
  fun_cases at? s with
  | case1 t body ends =>
    rintro ⟨⟩
    simp [written, closed ends, body]
  | case3 t single body ends =>
    rintro ⟨⟩
    simp [written, closed ends, body]
  | case2 | case4 | case5 => rintro ⟨⟩

theorem takeWhile_seam {c : Char} (brace : isPlain c = false) (s rest : List Char) :
    (s ++ c :: rest).takeWhile isPlain = s.takeWhile isPlain := by
  rw [List.takeWhile_append]
  split
  · rename_i whole
    rw [List.takeWhile_cons_of_neg (by simp [brace]), List.append_nil]
    exact ((List.takeWhile_prefix isPlain).eq_of_length whole).symm
  · rfl

theorem at?_of_written (plain : ∀ c ∈ marker.body, isPlain c = true) (rest : List Char) :
    at? (marker.written ++ rest) = some (marker, marker.written.length) := by
  cases marker with
  | path body =>
    replace plain : ∀ c ∈ body, isPlain c = true := plain
    have single : ¬['\x7b'] <+: body ++ '\x7d' :: '\x7d' :: rest := by
      cases body with
      | nil => simp
      | cons c body =>
        rintro ⟨_, same⟩
        cases same
        exact absurd (plain _ List.mem_cons_self) (by decide)
    simp only [written, List.cons_append, List.append_assoc, List.nil_append, at?_two single]
    rw [takeWhile_seam rfl, List.takeWhile_eq_self_iff.mpr plain, List.drop_left]
    simp [Chars.beginsWith, Chars.dropLead]
  | literal body =>
    replace plain : ∀ c ∈ body, isPlain c = true := plain
    simp only [written, List.cons_append, List.append_assoc, List.nil_append, at?_three]
    rw [takeWhile_seam rfl, List.takeWhile_eq_self_iff.mpr plain, List.drop_left]
    simp [Chars.beginsWith, Chars.dropLead]

end Opening

section Seam

theorem closed_seam {closing : List Char} (outside : '\x7b' ∉ closing) (s rest : List Char) :
    Chars.beginsWith closing ((s ++ '\x7b' :: rest).drop (s.takeWhile isPlain).length) =
      Chars.beginsWith closing (s.drop (s.takeWhile isPlain).length) := by
  rw [List.drop_append_of_le_length (List.takeWhile_prefix isPlain).length_le, Chars.beginsWith_append outside]

theorem opening_within {opening : List Char} (present : s ≠ []) (clear : ¬['\x7b'] <:+ s)
    (braces : ∀ c ∈ opening, c = '\x7b') (opened : opening <+: s ++ rest) : opening <+: s := by
  obtain within | beyond := List.prefix_or_prefix_of_prefix opened (List.prefix_append s rest)
  · exact within
  · have last : s.getLast present = '\x7b' := braces _ (beyond.subset (List.getLast_mem present))
    exact absurd ⟨s.dropLast, last ▸ List.dropLast_concat_getLast present⟩ clear

theorem at?_append (present : s ≠ []) (clear : ¬['\x7b'] <:+ s) (rest : List Char) :
    at? (s ++ '\x7b' :: rest) = at? s := by
  by_cases three : ['\x7b', '\x7b', '\x7b'] <+: s
  · obtain ⟨t, rfl⟩ := three
    simp only [List.cons_append, List.nil_append, at?_three, takeWhile_seam (show isPlain '\x7b' = false from rfl),
      closed_seam (show '\x7b' ∉ ['\x7d', '\x7d', '\x7d'] by decide)]
  have still : ¬['\x7b', '\x7b', '\x7b'] <+: s ++ '\x7b' :: rest := mt (opening_within present clear (by simp)) three
  by_cases two : ['\x7b', '\x7b'] <+: s
  · obtain ⟨t, rfl⟩ := two
    have single : ¬['\x7b'] <+: t := fun more => three (by simpa using more)
    have single' : ¬['\x7b'] <+: t ++ '\x7b' :: rest := fun more => still (by simpa using more)
    simp only [List.cons_append, List.nil_append, at?_two single, at?_two single',
      takeWhile_seam (show isPlain '\x7b' = false from rfl), closed_seam (show '\x7b' ∉ ['\x7d', '\x7d'] by decide)]
  · rw [at?_none two, at?_none (mt (opening_within present clear (by simp)) two)]

end Seam

section Scan

theorem scanFrom_length (s rest : List Char) : scanFrom s.length (s ++ rest) = scan rest := by
  induction s with
  | nil => rfl
  | cons c s ih => exact ih

theorem scan_written (plain : ∀ c ∈ marker.body, isPlain c = true) (rest : List Char) :
    scan (marker.written ++ rest) = ([], (marker, (scan rest).1) :: (scan rest).2) := by
  obtain ⟨inner, opened⟩ := marker.written_eq_cons
  have found := at?_of_written plain rest
  rw [opened, List.cons_append] at found
  rw [opened, List.cons_append, scan, scanFrom, found]
  simp only [List.length_cons, Nat.add_sub_cancel, scanFrom_length]

-- The scan of a text is not disturbed by a marker behind it, in the middle of a marker or not.
theorem scanFrom_append (inside : skip ≤ s.length) (clear : ¬['\x7b'] <:+ s)
    (opened : scan ('\x7b' :: rest) = ([], marked)) :
    scanFrom skip (s ++ '\x7b' :: rest) = ((scanFrom skip s).1, (scanFrom skip s).2 ++ marked) := by
  have later {c : Char} {s : List Char} (clear : ¬['\x7b'] <:+ c :: s) : ¬['\x7b'] <:+ s :=
    fun ends => clear (ends.trans (List.suffix_cons c s))
  fun_induction scanFrom skip s with
  | case1 skip =>
    obtain rfl : skip = 0 := Nat.le_zero.mp inside
    exact opened
  | case2 skip c s ih => exact ih (Nat.le_of_succ_le_succ inside) (later clear)
  | case3 c s marker length found ih =>
    have found' := at?_append (List.cons_ne_nil c s) clear rest
    rw [found, List.cons_append] at found'
    obtain ⟨within, count⟩ := at?_written found
    have fits : length ≤ s.length + 1 := count ▸ within.length_le
    rw [List.cons_append, scanFrom, found']
    simp only [ih (by omega) (later clear), List.cons_append]
  | case4 c s none ih =>
    have none' := at?_append (List.cons_ne_nil c s) clear rest
    rw [none, List.cons_append] at none'
    rw [List.cons_append, scanFrom, none']
    simp only [ih (Nat.zero_le _) (later clear)]

theorem scan_spliced (clear : ¬['\x7b'] <:+ s) (plain : ∀ c ∈ marker.body, isPlain c = true) (rest : List Char) :
    scan (s ++ (marker.written ++ rest)) = ((scan s).1, (scan s).2 ++ (marker, (scan rest).1) :: (scan rest).2) := by
  obtain ⟨inner, opened⟩ := marker.written_eq_cons
  have scanned := scan_written plain rest
  rw [opened, List.cons_append] at scanned ⊢
  exact scanFrom_append (Nat.zero_le _) clear scanned

end Scan

end Marker

namespace Interpolation

section

variable [Stack] {fallback : Option Path.Fallback} {scope : Scope} {a p : String}

theorem fill_append (mode : Interpolation) (xs ys : List (Marker × List Char)) :
    mode.fill fallback scope (xs ++ ys) = (do
      let first ← mode.fill fallback scope xs
      let rest ← mode.fill fallback scope ys
      pure (first ++ rest)) := by
  induction xs with
  | nil => simp only [List.nil_append, fill, pure_bind, bind_pure]
  | cons x xs ih =>
    obtain ⟨marker, after⟩ := x
    simp only [List.cons_append, fill, ih, bind_assoc, pure_bind, List.append_assoc]

theorem apply_written (mode : Interpolation) (marker : Marker) (clear : ¬['\x7b'] <:+ a.toList)
    (plain : ∀ c ∈ marker.body, Marker.isPlain c = true) (b : String) :
    mode.apply fallback scope (a ++ String.ofList marker.written ++ b) = (do
      let before ← mode.apply fallback scope a
      let value ← marker.value fallback scope
      let after ← mode.apply fallback scope b
      pure (before ++ onChars mode.value value ++ after)) := by
  have text : (a ++ String.ofList marker.written ++ b).toList = a.toList ++ (marker.written ++ b.toList) := by simp
  unfold apply
  simp only [text, Marker.scan_spliced clear plain, fill_append, fill, bind_assoc, pure_bind]
  simp only [List.append_assoc, String.ofList_append, String.append_assoc, onChars]

-- A marker between two texts stands for itself alone, whatever braces are strewn over
-- them, unless the first one ends in a brace. What the texts and the path bring about
-- comes in this order, reports, questions and failures included, and the value goes
-- into the result as it is: braces in it are never looked at.
theorem apply_spliced (mode : Interpolation) (fallback : Option Path.Fallback) (scope : Scope) {a p : String}
    (clear : ¬['\x7b'] <:+ a.toList) (plain : ∀ c ∈ p.toList, Marker.isPlain c = true) (b : String) :
    mode.apply fallback scope (a ++ "\x7b\x7b" ++ p ++ "\x7d\x7d" ++ b) = (do
      let before ← mode.apply fallback scope a
      let v ← Path.resolve fallback scope (Blank.strip p)
      let text ← Run.written v.stringify
      let after ← mode.apply fallback scope b
      pure (before ++ onChars mode.value text ++ after)) ∧
    mode.apply fallback scope (a ++ "\x7b\x7b\x7b" ++ p ++ "\x7d\x7d\x7d" ++ b) = (do
      let before ← mode.apply fallback scope a
      let after ← mode.apply fallback scope b
      pure (before ++ onChars mode.value ("\x7b\x7b" ++ Blank.strip p ++ "\x7d\x7d") ++ after)) := by
  have path : a ++ "\x7b\x7b" ++ p ++ "\x7d\x7d" ++ b = a ++ String.ofList (Marker.path p.toList).written ++ b :=
    String.toList_inj.mp (by simp [Marker.written])
  have literal : a ++ "\x7b\x7b\x7b" ++ p ++ "\x7d\x7d\x7d" ++ b =
      a ++ String.ofList (Marker.literal p.toList).written ++ b :=
    String.toList_inj.mp (by simp [Marker.written])
  have text : String.ofList (['\x7b', '\x7b'] ++ Blank.trim p.toList ++ ['\x7d', '\x7d']) =
      "\x7b\x7b" ++ Blank.strip p ++ "\x7d\x7d" :=
    String.toList_inj.mp (by simp [Blank.strip])
  constructor
  · rw [path, apply_written mode (.path p.toList) clear plain b]
    simp only [Marker.value, bind_assoc]
    rfl
  · rw [literal, apply_written mode (.literal p.toList) clear plain b]
    simp only [Marker.value, pure_bind, text]

end

def badge : Scope := ⟨.mapping 1 [(.text "name", .text "\x7b\x7bname\x7d\x7d\x7b")], []⟩

theorem badge_spliced :
    ¬['\x7b'] <:+ "\x7b\x7b\x7bname\x7d & ".toList ∧ (∀ c ∈ " name ".toList, Marker.isPlain c = true) ∧
    inText.apply none badge "\x7b\x7b\x7bname\x7d & \x7b\x7b name \x7d\x7d\x7d <\x7b\x7bname\x7d" = (do
      let before ← inText.apply none badge "\x7b\x7b\x7bname\x7d & "
      let v ← Path.resolve none badge (Blank.strip " name ")
      let text ← Run.written v.stringify
      let after ← inText.apply none badge "\x7d <\x7b\x7bname\x7d"
      pure (before ++ onChars Escape.html text ++ after)) ∧
    inText.apply none badge "\x7b\x7b\x7bname\x7d & \x7b\x7b name \x7d\x7d\x7d <\x7b\x7bname\x7d" =
      ⟨[], .ok "\x7b\x7b\x7bname\x7d &amp; \x7b\x7bname\x7d\x7d\x7b\x7d &lt;\x7b\x7bname\x7d"⟩ ∧
    inText.apply none badge "\x7b\x7b\x7bname\x7d & \x7b\x7b\x7b name \x7d\x7d\x7d\x7d <\x7b\x7bname\x7d" =
      ⟨[], .ok "\x7b\x7b\x7bname\x7d &amp; \x7b\x7bname\x7d\x7d\x7d &lt;\x7b\x7bname\x7d"⟩ := by
  have clear : ¬['\x7b'] <:+ "\x7b\x7b\x7bname\x7d & ".toList := by decide
  have plain : ∀ c ∈ " name ".toList, Marker.isPlain c = true := List.all_eq_true.mp rfl
  obtain ⟨path, literal⟩ := apply_spliced inText none badge clear plain "\x7d <\x7b\x7bname\x7d"
  exact ⟨clear, plain, path, rfl, literal.trans rfl⟩

end Interpolation
end HtmlTemplate
