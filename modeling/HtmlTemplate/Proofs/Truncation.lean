import HtmlTemplate.Proofs.Declarations
namespace HtmlTemplate.Style

namespace Reading

variable {reading : Reading} {s : List Char}

def behind (s : List Char) : Reading := s.foldl next {}

def unquoted (quote : Option Char) : List Char → List Char
  | [] => []
  | c :: s =>
    match quote with
    | some q => unquoted (if c = q then none else some q) s
    | none => if c = '"' || c = '\'' then unquoted (some c) s else c :: unquoted none s

def level (depth : Nat) (c : Char) : Nat :=
  if c = '(' then depth + 1 else if c = ')' then depth - 1 else depth

theorem depth_foldl (reading : Reading) (s : List Char) :
    (s.foldl next reading).depth = (unquoted reading.quote s).foldl level reading.depth := by
  induction s generalizing reading with
  | nil => rfl
  | cons c s ih =>
    obtain ⟨quote, depth⟩ := reading
    rw [List.foldl_cons, ih]
    cases quote with
    | some q => rfl
    | none =>
      by_cases quotes : (c = '"' || c = '\'') = true
      · simp only [next, unquoted, quotes, if_true]
      · simp only [next, unquoted, quotes, if_false, List.foldl_cons, level, Bool.false_eq_true]
        split
        · rfl
        split <;> rfl

theorem foldl_level_le_iff {depth n : Nat} :
    s.foldl level depth ≤ n ↔
      depth + s.count '(' ≤ n + s.count ')' ∧ ∀ rest, rest <:+ s → rest.count '(' ≤ n + rest.count ')' := by
  induction s generalizing depth with
  | nil => simp
  | cons c s ih =>
    have ends : (∀ rest, rest <:+ c :: s → rest.count '(' ≤ n + rest.count ')') ↔
        (c :: s).count '(' ≤ n + (c :: s).count ')' ∧ ∀ rest, rest <:+ s → rest.count '(' ≤ n + rest.count ')' := by
      simp [List.suffix_cons_iff, or_imp, forall_and]
    rw [List.foldl_cons, ih, ends, ← and_assoc]
    refine and_congr_left fun shorter => ?_
    have whole := shorter s List.suffix_rfl
    by_cases opening : c = '('
    · subst opening
      have closers : ('(' :: s).count ')' = s.count ')' := List.count_cons_of_ne (by decide)
      rw [List.count_cons_self, closers, level, if_pos rfl]
      omega
    by_cases closing : c = ')'
    · subst closing
      have openers : (')' :: s).count '(' = s.count '(' := List.count_cons_of_ne (by decide)
      rw [List.count_cons_self, openers, level, if_neg (by decide), if_pos rfl]
      omega
    · rw [List.count_cons_of_ne opening, List.count_cons_of_ne closing, level, if_neg opening, if_neg closing]
      exact (and_iff_left_of_imp fun _ => whole).symm

-- A closing parenthesis too many counts for nothing: the depth is the largest excess of
-- opening parentheses in any end of what stands outside quotes.
theorem depth_behind_le_iff {n : Nat} :
    (behind s).depth ≤ n ↔ ∀ rest, rest <:+ unquoted none s → rest.count '(' ≤ n + rest.count ')' := by
  rw [behind, depth_foldl, foldl_level_le_iff, and_iff_right_iff_imp]
  intro ends
  simpa using ends _ List.suffix_rfl

theorem isOutside_iff : reading.isOutside = true ↔ reading.quote = none ∧ reading.depth = 0 := by
  simp [isOutside]

theorem uncut_iff :
    reading.Uncut s ↔ ∀ before after, s = before ++ ';' :: after → ¬(before.foldl next reading).isOutside = true := by
  induction s generalizing reading with
  | nil => simp [uncut_nil]
  | cons c s ih =>
    rw [uncut_cons, ih]
    constructor
    · rintro ⟨first, later⟩ before after same
      cases before with
      | nil =>
        obtain ⟨rfl, _⟩ := List.cons.inj same
        exact fun outside => first ⟨rfl, outside⟩
      | cons d before =>
        obtain ⟨rfl, inner⟩ := List.cons.inj same
        exact later before after inner
    · intro all
      refine ⟨?_, fun before after same => all (c :: before) after (by rw [same]; rfl)⟩
      rintro ⟨rfl, outside⟩
      exact all [] s rfl outside

theorem uncut_or_truncated (reading : Reading) (s : List Char) :
    reading.Uncut s ∨
      (reading.cut s).2 = true ∧ ((reading.cut s).1.foldl next reading).isOutside = true ∧
        ∃ rest, s = (reading.cut s).1 ++ ';' :: rest := by
  induction s generalizing reading with
  | nil => exact .inl (uncut_nil reading)
  | cons c s ih =>
    by_cases bare : c = ';' ∧ reading.isOutside = true
    · refine .inr ?_
      rw [cut_cons, if_pos bare]
      exact ⟨rfl, bare.2, s, by rw [bare.1]; rfl⟩
    · rcases ih (reading.next c) with uncut | ⟨truncated, outside, rest, same⟩
      · exact .inl (uncut_cons.mpr ⟨bare, uncut⟩)
      · refine .inr ?_
        rw [cut_cons, if_neg bare]
        exact ⟨truncated, outside, rest, congrArg (c :: ·) same⟩

end Reading

-- A value is cut at its first bare semicolon, if it has one, and what is left of it is not
-- cut again, as it is or trimmed.
theorem cut_at_first_bare (value : List Char) :
    (cut value).1 <+: value ∧
    ((cut value).2 = false → (cut value).1 = value) ∧
    ((cut value).2 = true →
      (∃ rest, value = (cut value).1 ++ ';' :: rest) ∧
        (Reading.behind (cut value).1).quote = none ∧ (Reading.behind (cut value).1).depth = 0) ∧
    (∀ before after, (cut value).1 = before ++ ';' :: after →
      (Reading.behind before).quote ≠ none ∨ 0 < (Reading.behind before).depth) ∧
    (∀ s n, (Reading.behind s).depth ≤ n ↔ ∀ rest, rest <:+ Reading.unquoted none s → rest.count '(' ≤ n + rest.count ')') ∧
    cut (cut value).1 = ((cut value).1, false) ∧
    cut (Blank.trim (cut value).1) = (Blank.trim (cut value).1, false) := by
  have settled : Reading.Uncut {} (cut value).1 := Reading.uncut_head {} value
  have inside : ∀ before after, (cut value).1 = before ++ ';' :: after →
      (Reading.behind before).quote ≠ none ∨ 0 < (Reading.behind before).depth := by
    intro before after same
    have covered := Reading.uncut_iff.mp settled before after same
    by_cases quoted : (Reading.behind before).quote = none
    · exact .inr (Nat.pos_of_ne_zero fun deep => covered (Reading.isOutside_iff.mpr ⟨quoted, deep⟩))
    · exact .inl quoted
  have trimmed := uncut_trim settled
  have depth (s : List Char) (n : Nat) := @Reading.depth_behind_le_iff s n
  rcases Reading.uncut_or_truncated {} value with uncut | ⟨truncated, outside, rest, same⟩
  · have whole : (cut value).1 = value := congrArg Prod.fst uncut
    have kept : (cut value).2 = false := congrArg Prod.snd uncut
    refine ⟨⟨[], ?_⟩, fun _ => whole, ?_, inside, depth, settled, trimmed⟩
    · rw [List.append_nil, whole]
    · intro truncated
      cases kept.symm.trans truncated
  · refine ⟨⟨';' :: rest, same.symm⟩, ?_, ?_, inside, depth, settled, trimmed⟩
    · intro kept
      cases kept.symm.trans truncated
    · intro _
      exact ⟨⟨rest, same⟩, Reading.isOutside_iff.mp outside⟩

theorem cut_at_first_bare_layered :
    cut ")url(';)';) ; x; y".toList = (")url(';)';) ".toList, true) ∧
    (∃ rest, ")url(';)';) ; x; y".toList = ")url(';)';) ".toList ++ ';' :: rest) ∧
    (Reading.behind ")url(';)';) ".toList).quote = none ∧ (Reading.behind ")url(';)';) ".toList).depth = 0 ∧
    ((Reading.behind ")url('".toList).quote ≠ none ∨ 0 < (Reading.behind ")url('".toList).depth) ∧
    cut ")url(';)';)".toList = (")url(';)';)".toList, false) ∧
    (cut "url(a;b)".toList).2 = false ∧ (cut "url(a;b)".toList).1 = "url(a;b)".toList := by
  have found : cut ")url(';)';) ; x; y".toList = (")url(';)';) ".toList, true) := by decide
  have whole : (cut "url(a;b)".toList).2 = false := by decide
  obtain ⟨_, _, truncated, inside, _, _, trimmed⟩ := cut_at_first_bare ")url(';)';) ; x; y".toList
  rw [found] at truncated inside trimmed
  obtain ⟨next, quote, depth⟩ := truncated rfl
  exact ⟨found, next, quote, depth, inside ")url('".toList ")';) ".toList rfl, trimmed, whole,
    (cut_at_first_bare "url(a;b)".toList).2.1 whole⟩

end HtmlTemplate.Style
