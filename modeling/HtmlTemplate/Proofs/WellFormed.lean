import HtmlTemplate.Proofs.Comment
import Mathlib.Data.List.SplitBy
namespace HtmlTemplate

namespace Comment

-- How XML reads on behind `<!--`. Two hyphens are the end of a comment, and a comment
-- in which anything but `>` follows them is not well-formed. Which characters XML takes
-- at all is not asked here.

def readStrict : List Char → Option (List Char × List Char)
  | '-' :: '-' :: '>' :: rest => some ([], rest)
  | '-' :: '-' :: _ => none
  | c :: s => (readStrict s).map fun read => (c :: read.1, read.2)
  | [] => none

def WellFormed (body : List Char) : Prop := ∀ rest, readStrict (body ++ "-->".toList ++ rest) = some (body, rest)

variable {c : Char} {s t body rest : List Char}

theorem readStrict_cons (alone : ¬(c = '-' ∧ s.head? = some '-')) :
    readStrict (c :: s) = (readStrict s).map fun read => (c :: read.1, read.2) := by
  refine readStrict.eq_3 c s ?_ ?_
  · rintro rest rfl rfl
    exact alone ⟨rfl, rfl⟩
  · rintro rest rfl rfl
    exact alone ⟨rfl, rfl⟩

theorem readStrict_pair : readStrict ('-' :: '-' :: s) ≠ some (c :: body, rest) := by
  by_cases ended : ∃ after, s = '>' :: after
  · obtain ⟨after, rfl⟩ := ended
    simp [readStrict]
  · rw [readStrict.eq_2 s fun after same => ended ⟨after, same⟩]
    simp

theorem readStrict_cons_iff :
    readStrict (c :: s) = some (c :: body, rest) ↔ ¬(c = '-' ∧ s.head? = some '-') ∧ readStrict s = some (body, rest) := by
  by_cases pair : c = '-' ∧ s.head? = some '-'
  · obtain ⟨rfl, next⟩ := pair
    obtain ⟨more, rfl⟩ := List.head?_eq_some_iff.mp next
    simp [readStrict_pair]
  · simp [readStrict_cons pair, pair, Prod.ext_iff]

theorem wellFormed_cons :
    WellFormed (c :: body) ↔ ¬(c = '-' ∧ (body ++ "-->".toList).head? = some '-') ∧ WellFormed body := by
  have next (rest : List Char) : (body ++ "-->".toList ++ rest).head? = (body ++ "-->".toList).head? := by
    cases body <;> rfl
  simp only [WellFormed, List.cons_append, readStrict_cons_iff, next, forall_and, forall_const]

theorem wellFormed_iff : WellFormed body ↔ ¬['-', '-'] <:+: body ∧ body.getLast? ≠ some '-' := by
  induction body with
  | nil => simp [WellFormed, readStrict]
  | cons c body ih =>
    rw [wellFormed_cons, ih, not_infix_cons]
    cases body with
    | nil => simp
    | cons d body => simp [List.getLast?_cons_cons, and_assoc]

def apart (c d : Char) : Bool := !(c = '-' && d = '-')
def pieces (s : List Char) : List (List Char) := s.splitBy apart

theorem not_infix_of_isChain (chain : s.IsChain fun c d => apart c d = true) : ¬['-', '-'] <:+: s := by
  induction chain with
  | nil => simp
  | singleton c => simp [not_infix_cons]
  | cons_cons single _ ih =>
    refine not_infix_cons.mpr ⟨?_, ih⟩
    simpa [apart, imp_iff_not_or] using single

theorem breakDashes_seam (broken : ¬['-', '-'] <:+: s) (last : s.getLast? = some '-') (first : t.head? = some '-') :
    breakDashes (s ++ t) = s ++ [' '] ++ breakDashes t := by
  induction s with
  | nil => cases last
  | cons c s ih =>
    obtain ⟨alone, rest⟩ := not_infix_cons.mp broken
    cases s with
    | nil =>
      obtain rfl : c = '-' := by simpa using last
      obtain ⟨t, rfl⟩ := List.head?_eq_some_iff.mp first
      rfl
    | cons d s =>
      have inner : ¬(c = '-' ∧ (d :: s ++ t).head? = some '-') := alone
      rw [List.cons_append, breakDashes_cons inner, ih rest (by simpa using last)]
      rfl

theorem breakDashes_flatten {parts : List (List Char)} (broken : ∀ part ∈ parts, ¬['-', '-'] <:+: part)
    (seams : parts.IsChain fun s t => s.getLast? = some '-' ∧ t.head? = some '-') :
    breakDashes parts.flatten = Chars.joinWith [' '] parts := by
  induction seams with
  | nil => rfl
  | singleton part => rw [List.flatten_singleton, breakDashes_eq (broken part List.mem_cons_self), Chars.joinWith]
  | @cons_cons s t rest seam _ ih =>
    obtain ⟨own, others⟩ := List.forall_mem_cons.mp broken
    have first : (t :: rest).flatten.head? = some '-' := by simp [seam.2]
    rw [List.flatten_cons, breakDashes_seam own seam.1 first, ih others]
    rfl

theorem breakDashes_pieces (s : List Char) : breakDashes s = Chars.joinWith [' '] (pieces s) := by
  have broken : ∀ part ∈ pieces s, ¬['-', '-'] <:+: part :=
    fun part member => not_infix_of_isChain (List.isChain_of_mem_splitBy member)
  have seams : (pieces s).IsChain fun s t => s.getLast? = some '-' ∧ t.head? = some '-' := by
    refine (List.isChain_getLast_head_splitBy apart s).imp ?_
    rintro s t ⟨present, next, meet⟩
    simpa [apart, List.getLast?_eq_some_getLast present, List.head?_eq_some_head next] using meet
  rw [← breakDashes_flatten broken seams, pieces, List.flatten_splitBy]

theorem getLast?_breakDashes (s : List Char) : (breakDashes s).getLast? = s.getLast? := by
  fun_induction breakDashes s with
  | case1 => rfl
  | case2 s ih => simp [List.getLast?_cons, ih]
  | case3 c s other ih => simp [List.getLast?_cons, ih]

-- What is written for a text has no two hyphens side by side, is not changed when it is
-- treated again, and is the text once the spaces between its pieces are gone. But its
-- last character is that of the text: no space goes in front of the end of the comment.
theorem breakDashes_wellFormed_iff (s : List Char) :
    ¬['-', '-'] <:+: breakDashes s ∧
    (breakDashes s).getLast? = s.getLast? ∧
    (WellFormed (breakDashes s) ↔ s.getLast? ≠ some '-') ∧
    breakDashes (breakDashes s) = breakDashes s ∧
    breakDashes s = Chars.joinWith [' '] (pieces s) ∧
    (pieces s).flatten = s := by
  have broken := breakDashes_broken s
  have last := getLast?_breakDashes s
  refine ⟨broken, last, ?_, breakDashes_eq broken, breakDashes_pieces s, List.flatten_splitBy apart s⟩
  rw [wellFormed_iff, last, and_iff_right broken]

-- Behind such a text the comment is written with three hyphens at its end.
theorem trailing_not_wellFormed :
    breakDashes "a-".toList = "a-".toList ∧ ¬WellFormed (breakDashes "a-".toList) := by
  have kept : breakDashes "a-".toList = "a-".toList := by decide
  have unread : readStrict "a--->".toList = none := by decide
  refine ⟨kept, fun formed => ?_⟩
  have read := formed []
  rw [kept] at read
  exact absurd (unread.symm.trans read) (by simp)

end Comment

end HtmlTemplate
