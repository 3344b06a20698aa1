import HtmlTemplate.Proofs.Declarations
import Mathlib.Data.List.TakeWhile
namespace HtmlTemplate

namespace Css

inductive Mode where
  | plain
  | slash
  | comment
  | star
  | string (quote : Char)
deriving DecidableEq

-- How CSS reads the declarations of a style. A string ends at its own quote or with
-- the line, comments are passed over, and blocks nest: only the closer that is
-- awaited closes one. Not read are escapes, which need a backslash, and the url token:
-- an address without quotes counts as a block.
structure Reading where
  mode : Mode := .plain
  closers : List Char := []
deriving DecidableEq

def isLineBreak (c : Char) : Bool := c = '\n' || c = '\r' || c = '\x0c'
def isBlank (c : Char) : Bool := c = ' ' || c = '\t' || isLineBreak c

namespace Reading

def isOutside (reading : Reading) : Bool := (reading.mode = .plain || reading.mode = .slash) && reading.closers = []

def enter (reading : Reading) (c : Char) : Reading :=
  if c = '"' || c = '\'' then ⟨.string c, reading.closers⟩
  else if c = '/' then ⟨.slash, reading.closers⟩
  else if c = '(' then ⟨.plain, ')' :: reading.closers⟩
  else if c = '[' then ⟨.plain, ']' :: reading.closers⟩
  else if c = '\x7b' then ⟨.plain, '\x7d' :: reading.closers⟩
  else if reading.closers.head? = some c then ⟨.plain, reading.closers.tail⟩
  else ⟨.plain, reading.closers⟩

def next (reading : Reading) (c : Char) : Reading :=
  match reading.mode with
  | .plain => reading.enter c
  | .slash => if c = '*' then ⟨.comment, reading.closers⟩ else reading.enter c
  | .comment => if c = '*' then ⟨.star, reading.closers⟩ else reading
  | .star => if c = '/' then ⟨.plain, reading.closers⟩ else if c = '*' then reading else ⟨.comment, reading.closers⟩
  | .string quote => if c = quote || isLineBreak c then ⟨.plain, reading.closers⟩ else reading

def pieces (reading : Reading) : List Char → List (List Char)
  | [] => [[]]
  | c :: s =>
    if c = ';' && reading.isOutside then [] :: pieces {} s
    else
      match pieces (reading.next c) s with
      | [] => [[c]]
      | piece :: more => (c :: piece) :: more

def closes (reading : Reading) : List Char → Bool
  | [] => reading.isOutside
  | c :: s => !(c = ';' && reading.isOutside) && (reading.next c).closes s

end Reading

def trim (s : List Char) : List Char := s.dropWhile isBlank
def declarations (s : List Char) : List (List Char) := ((Reading.pieces {} s).map trim).filter fun piece => !piece.isEmpty

def Closed (value : List Char) : Prop := Reading.closes {} value = true

instance (value : List Char) : Decidable (Closed value) := inferInstanceAs (Decidable (_ = true))

variable {reading : Reading} {c : Char} {s t : List Char}

namespace Reading

theorem pieces_ne_nil (reading : Reading) (s : List Char) : reading.pieces s ≠ [] := by
  fun_cases pieces reading s <;> simp

theorem pieces_bare (bare : (c = ';' && reading.isOutside) = true) : reading.pieces (c :: s) = [] :: pieces {} s := by
  rw [pieces, if_pos bare]

theorem pieces_cons (reading : Reading) (inside : (c = ';' && reading.isOutside) = false) :
    ∃ piece more, (reading.next c).pieces s = piece :: more ∧ reading.pieces (c :: s) = (c :: piece) :: more := by
  obtain ⟨piece, more, same⟩ := List.exists_cons_of_ne_nil (pieces_ne_nil (reading.next c) s)
  refine ⟨piece, more, same, ?_⟩
  rw [pieces, inside, same]
  rfl

theorem pieces_closed (closed : reading.closes s = true) : reading.pieces (s ++ ';' :: t) = s :: pieces {} t := by
  induction s generalizing reading with
  | nil => exact pieces_bare (by simpa [closes] using closed)
  | cons d s ih =>
    rw [closes, Bool.and_eq_true_iff, Bool.not_eq_true'] at closed
    obtain ⟨piece, more, same, whole⟩ := pieces_cons (s := s ++ ';' :: t) reading closed.1
    rw [ih closed.2] at same
    obtain ⟨rfl, rfl⟩ := List.cons.inj same
    exact whole

theorem closes_of_pieces {more : List (List Char)} (same : reading.pieces (s ++ ';' :: t) = s :: more) :
    reading.closes s = true := by
  induction s generalizing reading with
  | nil =>
    by_contra inside
    have within : (';' = ';' && reading.isOutside) = false := by simpa [closes] using inside
    obtain ⟨piece, others, _, whole⟩ := pieces_cons (s := t) reading within
    rw [List.nil_append, whole] at same
    cases same
  | cons d s ih =>
    rw [closes, Bool.and_eq_true_iff, Bool.not_eq_true']
    cases bare : d = ';' && reading.isOutside with
    | true =>
      rw [List.cons_append, pieces_bare bare] at same
      cases same
    | false =>
      obtain ⟨piece, others, inner, whole⟩ := pieces_cons (s := s ++ ';' :: t) reading bare
      rw [List.cons_append, whole] at same
      obtain ⟨own, rfl⟩ := List.cons.inj same
      obtain ⟨_, rfl⟩ := List.cons.inj own
      exact ⟨rfl, ih inner⟩

theorem not_special {special : List Char} {holds : Char → Bool} (none : special.all (fun c => !holds c) = true)
    (own : holds c = true) : c ∉ special := fun member => by simpa [own] using List.all_eq_true.mp none c member

theorem next_ordinary (ordinary : c ∉ "\"'/([\x7b".toList) : next {} c = {} := by
  simp_all [next, enter]

theorem closes_ordinary (ordinary : ∀ c ∈ s, c ∉ "\"'/([\x7b;".toList) : closes {} (s ++ t) = closes {} t := by
  induction s with
  | nil => rfl
  | cons c s ih =>
    obtain ⟨own, rest⟩ := List.forall_mem_cons.mp ordinary
    have inside : c ≠ ';' := by
      rintro rfl
      exact own (by decide)
    have same : next {} c = {} := next_ordinary fun member => own (by simp_all)
    rw [List.cons_append, closes, same, ih rest]
    simp [inside]

theorem next_blank (blank : isBlank c = true) : next {} c = {} :=
  next_ordinary (not_special (by decide) blank)

end Reading

theorem trim_cons (blank : isBlank c = true) (s : List Char) : trim (c :: s) = trim s :=
  List.dropWhile_cons_of_pos blank

theorem declarations_blank (blank : isBlank c = true) (s : List Char) : declarations (c :: s) = declarations s := by
  have inside : (c = ';' && Reading.isOutside {}) = false := by
    rw [Bool.and_eq_false_iff]
    refine .inl (decide_eq_false ?_)
    rintro rfl
    cases blank
  obtain ⟨piece, more, same, whole⟩ := Reading.pieces_cons (s := s) {} inside
  rw [Reading.next_blank blank] at same
  rw [declarations, declarations, whole, same, List.map_cons, List.map_cons, trim_cons blank]

theorem declarations_iff (begins : ¬isBlank c = true) (inside : c ≠ ';') {more : List (List Char)} :
    declarations (c :: s ++ ';' :: t) = (c :: s) :: more ↔ Closed (c :: s) ∧ declarations t = more := by
  have kept (piece : List Char) : trim (c :: piece) = c :: piece := List.dropWhile_cons_of_neg begins
  obtain ⟨piece, others, _, whole⟩ := Reading.pieces_cons (c := c) (s := s ++ ';' :: t) {} (by simp [inside])
  have first : declarations (c :: s ++ ';' :: t) = (c :: piece) :: (others.map trim).filter fun piece => !piece.isEmpty := by
    rw [declarations, List.cons_append, whole, List.map_cons, kept, List.filter_cons_of_pos (by simp)]
  constructor
  · intro same
    obtain ⟨own, rest⟩ := List.cons.inj (first.symm.trans same)
    rw [own] at whole
    have closed := Reading.closes_of_pieces (s := c :: s) whole
    refine ⟨closed, ?_⟩
    rw [← List.cons_append, Reading.pieces_closed closed] at whole
    rw [declarations, (List.cons.inj whole).2, rest]
  · rintro ⟨closed, rfl⟩
    rw [declarations, Reading.pieces_closed closed, List.map_cons, kept, List.filter_cons_of_pos (by simp)]
    rfl

-- A value in which CSS finds nothing that the cut does not look for.
structure Familiar (s : List Char) : Prop where
  unbroken : ∀ c ∈ s, isLineBreak c = false
  blocks : ∀ c ∈ s, c ≠ '[' ∧ c ≠ '\x7b'
  comments : ¬['/', '*'] <:+: s

structure Agrees (own : Style.Reading) (reading : Reading) : Prop where
  quoted : ∀ q, own.quote = some q → reading.mode = .string q
  unquoted : own.quote = none → reading.mode = .plain ∨ reading.mode = .slash
  depth : reading.closers = List.replicate own.depth ')'

theorem Agrees.isOutside {own : Style.Reading} (agrees : Agrees own reading) : reading.isOutside = own.isOutside := by
  have level : decide (reading.closers = []) = decide (own.depth = 0) := by
    rw [agrees.depth]
    simp
  cases quoted : own.quote with
  | some q => simp [Reading.isOutside, Style.Reading.isOutside, quoted, agrees.quoted q quoted]
  | none =>
    rcases agrees.unquoted quoted with mode | mode
    all_goals simp [Reading.isOutside, Style.Reading.isOutside, quoted, mode, level]

theorem slash_of_next (slash : (reading.next c).mode = .slash) : c = '/' := by
  have entered (slash : (reading.enter c).mode = .slash) : c = '/' := by
    by_contra other
    revert slash
    unfold Reading.enter
    repeat' split
    all_goals simp_all
  unfold Reading.next at slash
  split at slash
  · exact entered slash
  · split at slash
    · cases slash
    · exact entered slash
  all_goals
    repeat' split at slash
    all_goals simp_all

theorem agrees_enter (mode : Mode) (depth : Nat) (block : c ≠ '[' ∧ c ≠ '\x7b') :
    Agrees (Style.Reading.next ⟨none, depth⟩ c) (Reading.enter ⟨mode, List.replicate depth ')'⟩ c) := by
  have plain (depth : Nat) : Agrees ⟨none, depth⟩ ⟨.plain, List.replicate depth ')'⟩ := ⟨by simp, by simp, rfl⟩
  unfold Reading.enter Style.Reading.next
  dsimp only
  by_cases quotes : (c = '"' || c = '\'') = true
  · rw [if_pos quotes, if_pos quotes]
    exact ⟨by simp, by simp, rfl⟩
  rw [if_neg quotes, if_neg quotes]
  by_cases slash : c = '/'
  · subst slash
    exact ⟨by simp, by simp, rfl⟩
  rw [if_neg slash]
  by_cases opening : c = '('
  · rw [if_pos opening, if_pos opening]
    exact plain (depth + 1)
  rw [if_neg opening, if_neg opening, if_neg block.1, if_neg block.2]
  by_cases closing : c = ')'
  · rw [if_pos closing, closing]
    cases depth with
    | zero => exact plain 0
    | succ depth => exact plain depth
  · have awaited : (List.replicate depth ')').head? ≠ some c := by
      cases depth <;> simp [List.replicate_succ, Ne.symm closing]
    rw [if_neg closing, if_neg awaited]
    exact plain depth

theorem Agrees.next {own : Style.Reading} (agrees : Agrees own reading) (unbroken : isLineBreak c = false)
    (block : c ≠ '[' ∧ c ≠ '\x7b') (comment : ¬(reading.mode = .slash ∧ c = '*')) :
    Agrees (own.next c) (reading.next c) := by
  obtain ⟨quote, depth⟩ := own
  obtain ⟨mode, closers⟩ := reading
  obtain rfl : closers = List.replicate depth ')' := agrees.depth
  cases quote with
  | some q =>
    obtain rfl : mode = .string q := agrees.quoted q rfl
    simp only [Reading.next, unbroken, Bool.or_false, decide_eq_true_eq, Style.Reading.next]
    split <;> exact ⟨by simp, by simp, rfl⟩
  | none =>
    have entered (closers : List Char) : Reading.next ⟨mode, closers⟩ c = Reading.enter ⟨mode, closers⟩ c := by
      rcases agrees.unquoted rfl with rfl | rfl
      · rfl
      · exact if_neg (not_and.mp comment rfl)
    rw [entered]
    exact agrees_enter mode depth block

theorem Agrees.closes {own : Style.Reading} (agrees : Agrees own reading) (familiar : Familiar s)
    (comment : ¬(reading.mode = .slash ∧ s.head? = some '*')) :
    reading.closes s = true ↔ own.Uncut s ∧ (s.foldl Style.Reading.next own).isOutside = true := by
  induction s generalizing own reading with
  | nil => rw [Reading.closes, agrees.isOutside, List.foldl_nil, and_iff_right (Style.Reading.uncut_nil own)]
  | cons c s ih =>
    have further : ¬(c = '/' ∧ s.head? = some '*') ∧ ¬['/', '*'] <:+: s := by
      rw [← not_or, ← Chars.pair_infix_cons]
      exact familiar.comments
    have next := agrees.next (familiar.unbroken c List.mem_cons_self) (familiar.blocks c List.mem_cons_self)
      fun both => comment ⟨both.1, by rw [both.2]; rfl⟩
    have rest := ih next ⟨fun d member => familiar.unbroken d (List.mem_cons_of_mem _ member),
      fun d member => familiar.blocks d (List.mem_cons_of_mem _ member), further.2⟩
      fun both => further.1 ⟨slash_of_next both.1, both.2⟩
    have inside : (!(decide (c = ';') && own.isOutside)) = true ↔ ¬(c = ';' ∧ own.isOutside = true) := by
      simp [imp_iff_not_or]
    rw [Reading.closes, Bool.and_eq_true_iff, rest, agrees.isOutside, inside, Style.Reading.uncut_cons, List.foldl_cons,
      and_assoc]

end Css

namespace Style

variable {c : Char} {s name : List Char} {property : Property} {survivors : List Property}

theorem isNameRest_mem (rest : isNameRest s = true) (member : c ∈ s) : isNameChar c = true ∨ c = '\n' := by
  fun_induction isNameRest s with
  | case1 => cases member
  | case2 => exact .inr (List.mem_singleton.mp member)
  | case3 d s _ ih =>
    obtain ⟨own, others⟩ := Bool.and_eq_true_iff.mp rest
    rcases List.mem_cons.mp member with rfl | later
    · exact .inl own
    · exact ih others later

theorem isPropertyName_cons (named : isPropertyName name = true) :
    ∃ c s, name = c :: s ∧ isNameChar c = true ∧ isNameRest s = true := by
  unfold isPropertyName at named
  split at named
  · rename_i c s
    obtain ⟨start, rest⟩ := Bool.and_eq_true_iff.mp named
    have further : c = '\n' → s = [] → False := by
      rintro rfl
      cases start
    refine ⟨'-', c :: s, rfl, rfl, ?_⟩
    rw [isNameRest.eq_3 c s further]
    simp [isNameChar, start, rest]
  · rename_i c s _
    obtain ⟨start, rest⟩ := Bool.and_eq_true_iff.mp named
    exact ⟨c, s, rfl, by simp [isNameChar, start], rest⟩
  · cases named

theorem closed_declaration (proper : property.IsProper) : Css.Closed property.declaration ↔ Css.Closed property.value := by
  have ordinary {c : Char} (named : isNameChar c = true) : c ∉ "\"'/([\x7b;".toList :=
    Css.Reading.not_special (by decide) named
  have spelled : ∀ c ∈ property.name.toList ++ [':', ' '], c ∉ "\"'/([\x7b;".toList := by
    obtain ⟨c, s, same, start, rest⟩ := isPropertyName_cons proper.name
    rw [same]
    refine List.forall_mem_append.mpr ⟨List.forall_mem_cons.mpr ⟨ordinary start, fun d member => ?_⟩, by simp⟩
    rcases isNameRest_mem rest member with named | rfl
    · exact ordinary named
    · decide
  have grouped : property.declaration = property.name.toList ++ [':', ' '] ++ property.value := by
    simp [Property.declaration]
  rw [Css.Closed, grouped, Css.Reading.closes_ordinary spelled, Css.Closed]

theorem declarations_line (proper : property.IsProper) (t : List Char) (more : List (List Char)) :
    Css.declarations (property.line ++ t) = property.declaration :: more ↔
      Css.Closed property.value ∧ Css.declarations t = more := by
  obtain ⟨c, s, same, start, _⟩ := isPropertyName_cons proper.name
  have begins : ¬Css.isBlank c = true := by
    intro blank
    have known : c = ' ' ∨ c = '\t' ∨ c = '\n' ∨ c = '\r' ∨ c = '\x0c' := by
      simpa [Css.isBlank, Css.isLineBreak, or_assoc] using blank
    rcases known with rfl | rfl | rfl | rfl | rfl <;> cases start
  have inside : c ≠ ';' := by
    rintro rfl
    cases start
  have whole : property.declaration = c :: (s ++ ':' :: ' ' :: property.value) := by
    rw [Property.declaration, same, List.cons_append]
  rw [← closed_declaration proper, Property.line, List.append_assoc, List.singleton_append, whole,
    Css.declarations_iff begins inside]

-- The declarations read are the properties that survive, if and only if the value of
-- each of them is closed.
theorem declarations_lines (proper : ∀ property ∈ survivors, property.IsProper) :
    Css.declarations (Chars.joinWith [' '] (survivors.map Property.line)) = survivors.map Property.declaration ↔
      ∀ property ∈ survivors, Css.Closed property.value := by
  induction survivors with
  | nil => exact iff_of_true rfl (List.forall_mem_nil _)
  | cons property survivors ih =>
    obtain ⟨own, others⟩ := List.forall_mem_cons.mp proper
    have split : ∃ t, Chars.joinWith [' '] ((property :: survivors).map Property.line) = property.line ++ t ∧
        Css.declarations t = Css.declarations (Chars.joinWith [' '] (survivors.map Property.line)) := by
      cases survivors with
      | nil => exact ⟨[], (List.append_nil _).symm, rfl⟩
      | cons next survivors => exact ⟨' ' :: _, List.append_assoc .., Css.declarations_blank rfl _⟩
    obtain ⟨t, whole, same⟩ := split
    rw [whole, List.map_cons, declarations_line own, same, ih others, List.forall_mem_cons]

-- What is read of a style are the properties that survive, as they were written, if
-- and only if each of them is closed. So it is where a value has no comments, line
-- breaks, brackets or braces in it and leaves no quotes or parentheses open.
theorem declarations_of_sanitize [Stack] (interpolate : String → Run String) (style : Value) :
    (sanitize interpolate style).Ensures fun text =>
      ∃ entries survivors, style.entries? = some entries ∧
        (∀ others, Surviving interpolate entries others ↔ others = survivors) ∧
        text.toList = Chars.joinWith [' '] (survivors.map Property.line) ∧
        (Css.declarations text.toList = survivors.map Property.declaration ↔
          ∀ property ∈ survivors, Css.Closed property.value) ∧
        ∀ property ∈ survivors, Css.Familiar property.value →
          (Css.Closed property.value ↔ (property.value.foldl Reading.next {}).isOutside = true) := by
  refine (sanitize_surviving interpolate style).mono ?_
  rintro text ⟨entries, survivors, found, surviving, same⟩
  refine ⟨entries, survivors, found, fun others => ⟨fun known => known.eq surviving, ?_⟩, same, ?_, ?_⟩
  · rintro rfl
    exact surviving
  · rw [same]
    exact declarations_lines surviving.proper
  · intro property member familiar
    have agrees : Css.Agrees {} {} := ⟨by simp, fun _ => .inl rfl, rfl⟩
    have uncut : Reading.Uncut {} property.value := (surviving.proper property member).uncut
    rw [Css.Closed, agrees.closes familiar (by simp), and_iff_right uncut]

def banner : List (Value × Value) := [
  (.text "color", .text "red; position: fixed"), (.text "Width", .text "1px"),
  (.text "background", .text "url('data:a;b') top")]

def bannerProperties : List Property := [⟨"color", "red".toList⟩, ⟨"background", "url('data:a;b') top".toList⟩]

theorem declarations_of_banner :
    (sanitize Run.pure (.mapping 1 banner)).outcome = .ok "color: red; background: url('data:a;b') top;" ∧
    Surviving Run.pure banner bannerProperties ∧
    (∀ property ∈ bannerProperties, Css.Closed property.value) ∧
    Css.declarations "color: red; background: url('data:a;b') top;".toList =
      ["color: red".toList, "background: url('data:a;b') top".toList] := by
  have returned : (sanitize Run.pure (.mapping 1 banner)).outcome =
      .ok "color: red; background: url('data:a;b') top;" := Run.outcome_of_toOption (by decide +kernel)
  have surviving : Surviving Run.pure banner bannerProperties := by
    refine .kept ?_ (.dropped ?_ (.kept ?_ .nil))
    all_goals exact Run.outcome_of_toOption (by decide +kernel)
  have closed : ∀ property ∈ bannerProperties, Css.Closed property.value := by
    refine List.forall_mem_cons.mpr ⟨?_, List.forall_mem_singleton.mpr ?_⟩
    all_goals decide +kernel
  obtain ⟨_, survivors, ⟨⟩, only, _, read, _⟩ := declarations_of_sanitize Run.pure (.mapping 1 banner) _ returned
  obtain rfl := (only bannerProperties).mp surviving
  exact ⟨returned, surviving, closed, read.mpr closed⟩

-- A parenthesis that a comment hides from CSS keeps the cut away, and a second
-- declaration gets in; quotes that are left open take in the next property.

def smuggling : List (Value × Value) := [(.text "color", .text "red /*(*/; position: fixed")]

def swallowing : List (Value × Value) := [(.text "color", .text "\"a"), (.text "width", .text "1px")]

theorem smuggled_and_swallowed :
    ((sanitize Run.pure (.mapping 1 smuggling)).outcome = .ok "color: red /*(*/; position: fixed;" ∧
      Surviving Run.pure smuggling [⟨"color", "red /*(*/; position: fixed".toList⟩] ∧
      Css.declarations "color: red /*(*/; position: fixed;".toList =
        ["color: red /*(*/".toList, "position: fixed".toList]) ∧
    (sanitize Run.pure (.mapping 1 swallowing)).outcome = .ok "color: \"a; width: 1px;" ∧
      Surviving Run.pure swallowing [⟨"color", "\"a".toList⟩, ⟨"width", "1px".toList⟩] ∧
      Css.declarations "color: \"a; width: 1px;".toList = ["color: \"a; width: 1px;".toList] := by
  refine ⟨⟨?_, .kept ?_ .nil, by decide +kernel⟩, ?_, .kept ?_ (.kept ?_ .nil), by decide +kernel⟩
  all_goals exact Run.outcome_of_toOption (by decide +kernel)

end Style
end HtmlTemplate
