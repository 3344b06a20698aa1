import HtmlTemplate.Proofs.Css
import HtmlTemplate.Proofs.Splicing
namespace HtmlTemplate

namespace Chars

variable {part word s t : List Char} {c : Char}

-- Where a text is cut behind a character that a part can only end in, the part lies on
-- one side of the cut.

theorem prefix_seam (last : c ∉ part.dropLast) : part <+: s ++ c :: t ↔ part <+: s ++ [c] := by
  have grouped : s ++ c :: t = s ++ [c] ++ t := by simp
  rw [grouped]
  constructor
  · intro found
    rcases List.prefix_or_prefix_of_prefix found (List.prefix_append (s ++ [c]) t) with within | ⟨rest, rfl⟩
    · exact within
    · cases rest with
      | nil => exact ⟨[], by simp⟩
      | cons d rest => exact absurd (by simp [List.dropLast_append_of_ne_nil]) last
  · exact fun found => found.trans (List.prefix_append _ _)

theorem infix_seam (present : part ≠ []) (last : c ∉ part.dropLast) :
    part <:+: s ++ c :: t ↔ part <:+: s ++ [c] ∨ part <:+: t := by
  induction s with
  | nil =>
    have first := prefix_seam (s := []) (t := t) last
    rw [List.nil_append] at first
    rw [List.nil_append, List.nil_append, List.infix_cons_iff, List.infix_cons_iff, first, List.infix_nil]
    simp [present]
  | cons d s ih =>
    have first := prefix_seam (s := d :: s) (t := t) last
    rw [List.cons_append, List.cons_append] at first
    rw [List.cons_append, List.cons_append, List.infix_cons_iff, List.infix_cons_iff, first, ih, or_assoc]

theorem infix_concat (outside : c ∉ part) : part <:+: s ++ [c] ↔ part <:+: s := by
  rw [List.infix_concat_iff, or_iff_right_iff_imp, List.suffix_concat_iff]
  rintro (rfl | ⟨t, rfl, _⟩)
  · exact List.nil_infix
  · simp at outside

theorem infix_concat_last (outside : c ∉ s) : word ++ [c] <:+: s ++ [c] ↔ word <:+ s := by
  rw [List.infix_concat_iff, List.suffix_append_self_iff, or_iff_left_iff_imp]
  exact fun within => absurd (within.subset (by simp)) outside

end Chars

namespace Style

variable {c : Char} {s t name : List Char} {property : Property} {survivors : List Property}

def scan (compacted : List Char) : Option String :=
  if hasOutsideUrl compacted then some "url("
  else blockedPatterns.find? fun pattern => Chars.contains pattern.toList compacted

theorem scan_eq_none :
    scan s = none ↔ hasOutsideUrl s = false ∧ ∀ pattern ∈ blockedPatterns, ¬pattern.toList <:+: s := by
  unfold scan
  split
  · simp_all
  · rw [List.find?_eq_none]
    simp_all [Chars.contains_iff]

theorem blocked?_eq_none :
    blocked? s = none ↔ hasOutsideUrl (compact s) = false ∧
      ∀ pattern ∈ blockedPatterns, ¬pattern.toList <:+: compact s :=
  scan_eq_none

theorem compact_append (s t : List Char) : compact (s ++ t) = compact s ++ compact t := by
  rw [compact, List.flatMap_append, List.filter_append]
  rfl

theorem beginsData_append (begins : beginsData s = true) (t : List Char) : beginsData (s ++ t) = true := by
  have longer {s : List Char} (begins : Chars.beginsWith "data:".toList s = true) :
      Chars.beginsWith "data:".toList (s ++ t) = true :=
    Chars.beginsWith_iff.mpr ((Chars.beginsWith_iff.mp begins).trans (List.prefix_append s t))
  unfold beginsData at begins ⊢
  rcases Bool.or_eq_true_iff.mp begins with bare | quoted
  · rw [longer bare, Bool.true_or]
  · split at quoted
    · exact Bool.or_eq_true_iff.mpr (.inr (longer quoted))
    · exact Bool.or_eq_true_iff.mpr (.inr (longer quoted))
    · cases quoted

theorem hasOutsideUrl_cons :
    hasOutsideUrl (c :: s) = false ↔
      (∀ rest, c :: s = "url(".toList ++ rest → beginsData rest = true) ∧ hasOutsideUrl s = false := by
  rw [hasOutsideUrl, Bool.or_eq_false_iff]
  refine and_congr_left fun _ => ?_
  cases found : Chars.dropLead "url(".toList (c :: s) with
  | some rest =>
    rw [Chars.dropLead_eq_some_iff] at found
    simp [found]
  | none =>
    have unled (rest : List Char) : c :: s ≠ "url(".toList ++ rest := by
      intro same
      rw [Chars.dropLead_eq_some_iff.mpr same] at found
      cases found
    exact iff_of_true rfl fun rest same => absurd same (unled rest)

theorem hasOutsideUrl_seam (outside : c ∉ "url(".toList) (inline : hasOutsideUrl s = false)
    (after : hasOutsideUrl t = false) : hasOutsideUrl (s ++ c :: t) = false := by
  induction s with
  | nil =>
    refine hasOutsideUrl_cons.mpr ⟨fun rest same => ?_, after⟩
    rw [(List.cons.inj same).1] at outside
    exact absurd List.mem_cons_self outside
  | cons d s ih =>
    obtain ⟨first, others⟩ := hasOutsideUrl_cons.mp inline
    rw [List.cons_append]
    refine hasOutsideUrl_cons.mpr ⟨fun rest same => ?_, ih others⟩
    rw [← List.cons_append] at same
    have begins := Chars.beginsWith_append outside (d :: s) t
    rw [Chars.beginsWith_iff.mpr ⟨rest, same.symm⟩, eq_comm, Chars.beginsWith_iff] at begins
    obtain ⟨address, within⟩ := begins
    obtain rfl : address ++ c :: t = rest := by
      rw [← within, List.append_assoc] at same
      exact List.append_cancel_left same
    exact beginsData_append (first address within.symm) _

theorem hasOutsideUrl_plain (plain : '(' ∉ s) : hasOutsideUrl s = false := by
  induction s with
  | nil => rfl
  | cons c s ih =>
    refine hasOutsideUrl_cons.mpr ⟨fun rest same => ?_, ih fun member => plain (List.mem_cons_of_mem _ member)⟩
    exact absurd (by simp [same]) plain

theorem isNameChar_range (named : isNameChar c = true) :
    c.toNat = 45 ∨ (48 ≤ c.toNat ∧ c.toNat ≤ 57) ∨ (97 ≤ c.toNat ∧ c.toNat ≤ 122) := by
  simp only [isNameChar, isNameStart, Char.isDigit, Bool.or_eq_true, Bool.and_eq_true, decide_eq_true_eq, Char.le_def,
    UInt32.le_iff_toNat_le] at named
  rcases named with (letter | digit) | rfl
  · exact .inr (.inr letter)
  · exact .inr (.inl digit)
  · exact .inl rfl

theorem toLower_outside (outside : c.toNat < 65 ∨ 90 < c.toNat) : c.toLower = c := by
  refine dif_neg ?_
  rintro ⟨low, high⟩
  have low : 65 ≤ c.toNat := UInt32.le_iff_toNat_le.mp low
  have high : c.toNat ≤ 90 := UInt32.le_iff_toNat_le.mp high
  omega

theorem compact_nameChar (named : isNameChar c = true) : compact [c] = [c] := by
  have range := isNameChar_range named
  have unchanged := toLower_outside (c := c) (by omega)
  have same : lower c = [c] := by
    rw [lower, if_neg (Chars.ne_of_kind named rfl), if_neg (Chars.ne_of_kind named rfl), unchanged]
  have dark : Blank.isBlank c = false := by
    simp [Blank.isBlank]
    omega
  simp [compact, same, dark]

def Property.label (property : Property) : List Char := property.name.toList.filter (· ≠ '\n')

theorem name_chars (proper : property.IsProper) : ∀ c ∈ property.name.toList, isNameChar c = true ∨ c = '\n' := by
  obtain ⟨d, s, same, start, rest⟩ := isPropertyName_cons proper.name
  rw [same]
  exact List.forall_mem_cons.mpr ⟨.inl start, fun c member => isNameRest_mem rest member⟩

theorem label_chars (proper : property.IsProper) : ∀ c ∈ property.label, isNameChar c = true := by
  intro c member
  obtain ⟨inside, unbroken⟩ := List.mem_filter.mp member
  exact (name_chars proper c inside).resolve_right (by simpa using unbroken)

theorem compact_chars (chars : ∀ c ∈ s, isNameChar c = true ∨ c = '\n') : compact s = s.filter (· ≠ '\n') := by
  induction s with
  | nil => rfl
  | cons c s ih =>
    obtain ⟨own, others⟩ := List.forall_mem_cons.mp chars
    have split := compact_append [c] s
    rw [List.singleton_append, ih others] at split
    rcases own with named | rfl
    · have unbroken : c ≠ '\n' := Chars.ne_of_kind named rfl
      rw [split, compact_nameChar named, List.filter_cons_of_pos (by simpa using unbroken), List.singleton_append]
    · exact split

theorem compact_line (proper : property.IsProper) :
    compact property.line = property.label ++ ':' :: (compact property.value ++ [';']) := by
  have grouped : property.line = property.name.toList ++ ([':', ' '] ++ (property.value ++ [';'])) := by
    simp [Property.line, Property.declaration]
  rw [grouped, compact_append, compact_append, compact_append, compact_chars (name_chars proper)]
  rfl

-- The text that is scanned: white space and what joins the lines is gone.
theorem compact_lines (proper : ∀ property ∈ survivors, property.IsProper) :
    compact (Chars.joinWith [' '] (survivors.map Property.line)) =
      survivors.flatMap fun property => property.label ++ ':' :: (compact property.value ++ [';']) := by
  induction survivors with
  | nil => rfl
  | cons property survivors ih =>
    obtain ⟨own, others⟩ := List.forall_mem_cons.mp proper
    have split : compact (Chars.joinWith [' '] ((property :: survivors).map Property.line)) =
        compact property.line ++ compact (Chars.joinWith [' '] (survivors.map Property.line)) := by
      cases survivors with
      | nil => exact (List.append_nil _).symm
      | cons next survivors =>
        have joined : Chars.joinWith [' '] ((property :: next :: survivors).map Property.line) =
            property.line ++ [' '] ++ Chars.joinWith [' '] ((next :: survivors).map Property.line) := rfl
        have gone : compact [' '] = [] := rfl
        rw [joined, compact_append, compact_append, gone, List.append_nil]
    rw [split, ih others, compact_line own, List.flatMap_cons]

theorem inline_lines (proper : ∀ property ∈ survivors, property.IsProper) :
    hasOutsideUrl (compact (Chars.joinWith [' '] (survivors.map Property.line))) = false := by
  rw [compact_lines proper]
  induction survivors with
  | nil => rfl
  | cons property survivors ih =>
    obtain ⟨own, others⟩ := List.forall_mem_cons.mp proper
    have unopened : '(' ∉ property.label := by
      intro member
      cases label_chars own _ member
    have value := hasOutsideUrl_seam (c := ';') (by decide) (blocked?_eq_none.mp own.allowed).1 (ih others)
    have whole := hasOutsideUrl_seam (c := ':') (by decide) (hasOutsideUrl_plain unopened) value
    simpa using whole

theorem blockedPatterns_ends : ∀ pattern ∈ blockedPatterns,
    pattern.toList ≠ [] ∧ ':' ∉ pattern.toList.dropLast ∧ ';' ∉ pattern.toList := by
  decide +kernel

theorem pattern_lines {pattern : String} (listed : pattern ∈ blockedPatterns)
    (proper : ∀ property ∈ survivors, property.IsProper) :
    pattern.toList <:+: compact (Chars.joinWith [' '] (survivors.map Property.line)) ↔
      ∃ property ∈ survivors, pattern.toList <:+: property.label ++ [':'] := by
  obtain ⟨present, colon, semicolon⟩ := blockedPatterns_ends pattern listed
  rw [compact_lines proper]
  induction survivors with
  | nil => simp [present]
  | cons property survivors ih =>
    obtain ⟨own, others⟩ := List.forall_mem_cons.mp proper
    have value : ¬pattern.toList <:+: compact property.value ++ [';'] := by
      rw [Chars.infix_concat semicolon]
      exact (blocked?_eq_none.mp own.allowed).2 pattern listed
    have ends : ';' ∉ pattern.toList.dropLast := fun member => semicolon (List.dropLast_subset _ member)
    rw [List.flatMap_cons, List.append_assoc, List.cons_append, List.append_assoc, List.singleton_append,
      Chars.infix_seam present colon, Chars.infix_seam present ends, or_iff_right value, ih others]
    simp

def blockedWords : List String := ["behavior", "javascript", "vbscript"]
def unnamedPatterns : List String := ["expression(", "@import", "\\"]

structure Property.IsHarmless (property : Property) : Prop where
  bound : ¬"-moz-binding".toList <:+: property.label
  completed : ∀ word ∈ blockedWords, ¬word.toList <:+ property.label

theorem blockedPatterns_cases : ∀ pattern ∈ blockedPatterns,
    pattern ∈ unnamedPatterns ∨ pattern = "-moz-binding" ∨
      ∃ word ∈ blockedWords, pattern.toList = word.toList ++ [':'] := by
  decide +kernel

theorem blockedPatterns_completed : ∀ word ∈ blockedWords,
    ∃ pattern ∈ blockedPatterns, pattern.toList = word.toList ++ [':'] := by
  decide +kernel

theorem unnamedPatterns_special : ∀ pattern ∈ unnamedPatterns,
    '(' ∈ pattern.toList ∨ '@' ∈ pattern.toList ∨ '\\' ∈ pattern.toList := by
  decide

theorem unnamed_free {pattern : String} (special : pattern ∈ unnamedPatterns) (proper : property.IsProper) :
    ¬pattern.toList <:+: property.label ++ [':'] := by
  have absent (c : Char) (foreign : isNameChar c = false) (other : c ≠ ':') : c ∉ property.label ++ [':'] := by
    intro member
    rcases List.mem_append.mp member with named | colon
    · rw [label_chars proper c named] at foreign
      cases foreign
    · exact other (List.mem_singleton.mp colon)
  intro inside
  rcases unnamedPatterns_special pattern special with member | member | member
  all_goals exact absent _ (by decide) (by decide) (inside.subset member)

theorem isHarmless_iff (proper : property.IsProper) :
    property.IsHarmless ↔ ∀ pattern ∈ blockedPatterns, ¬pattern.toList <:+: property.label ++ [':'] := by
  have uncoloned : ':' ∉ property.label := by
    intro member
    cases label_chars proper _ member
  constructor
  · intro harmless pattern listed inside
    rcases blockedPatterns_cases pattern listed with special | rfl | ⟨word, known, same⟩
    · exact unnamed_free special proper inside
    · exact harmless.bound ((Chars.infix_concat (by decide)).mp inside)
    · rw [same, Chars.infix_concat_last uncoloned] at inside
      exact harmless.completed word known inside
  · intro free
    refine ⟨fun within => free "-moz-binding" (by decide) ((Chars.infix_concat (by decide)).mpr within), ?_⟩
    intro word known ends
    obtain ⟨pattern, listed, same⟩ := blockedPatterns_completed word known
    exact free pattern listed (by rwa [same, Chars.infix_concat_last uncoloned])

-- No value and nothing that joins values to names and to each other forms what is
-- blocked: a whole style has it if and only if the name of one of its properties is
-- blocked itself or becomes so with its colon, since names are not scanned. What is
-- not made of the characters of a name is in no style.
theorem constructs_of_sanitize [Stack] (interpolate : String → Run String) (style : Value) :
    (sanitize interpolate style).Ensures fun text =>
      ∃ entries survivors, style.entries? = some entries ∧
        (∀ others, Surviving interpolate entries others ↔ others = survivors) ∧
        text.toList = Chars.joinWith [' '] (survivors.map Property.line) ∧
        (blocked? text.toList = none ↔ ∀ property ∈ survivors, property.IsHarmless) ∧
        hasOutsideUrl (compact text.toList) = false ∧
        ∀ pattern ∈ unnamedPatterns, ¬pattern.toList <:+: compact text.toList := by
  refine (sanitize_surviving interpolate style).mono ?_
  rintro text ⟨entries, survivors, found, surviving, same⟩
  have proper := surviving.proper
  rw [same]
  refine ⟨entries, survivors, found, fun others => ⟨fun known => known.eq surviving, ?_⟩, rfl, ?_, inline_lines proper, ?_⟩
  · rintro rfl
    exact surviving
  · rw [blocked?_eq_none, and_iff_right (inline_lines proper)]
    constructor
    · intro free property member
      refine (isHarmless_iff (proper property member)).mpr fun pattern listed inside => ?_
      exact free pattern listed ((pattern_lines listed proper).mpr ⟨property, member, inside⟩)
    · intro harmless pattern listed inside
      obtain ⟨property, member, within⟩ := (pattern_lines listed proper).mp inside
      exact (isHarmless_iff (proper property member)).mp (harmless property member) pattern listed within
  · intro pattern special inside
    have listed : ∀ pattern ∈ unnamedPatterns, pattern ∈ blockedPatterns := by decide
    obtain ⟨property, member, within⟩ := (pattern_lines (listed pattern special) proper).mp inside
    exact unnamed_free special (proper property member) within

def mask : List (Value × Value) := [(.text "behaviors", .text "auto"), (.text "mask", .text "url(data:image/png;base64,A)")]

def maskProperties : List Property := [⟨"behaviors", "auto".toList⟩, ⟨"mask", "url(data:image/png;base64,A)".toList⟩]

theorem constructs_of_mask :
    (sanitize Run.pure (.mapping 1 mask)).outcome = .ok "behaviors: auto; mask: url(data:image/png;base64,A);" ∧
    Surviving Run.pure mask maskProperties ∧ (∀ property ∈ maskProperties, property.IsHarmless) ∧
    blocked? "behaviors: auto; mask: url(data:image/png;base64,A);".toList = none := by
  have returned : (sanitize Run.pure (.mapping 1 mask)).outcome =
      .ok "behaviors: auto; mask: url(data:image/png;base64,A);" := Run.outcome_of_toOption (by decide +kernel)
  have surviving : Surviving Run.pure mask maskProperties := by
    refine .kept ?_ (.kept ?_ .nil)
    all_goals exact Run.outcome_of_toOption (by decide +kernel)
  have harmless : ∀ property ∈ maskProperties, property.IsHarmless := by
    refine List.forall_mem_cons.mpr ⟨⟨?_, ?_⟩, List.forall_mem_singleton.mpr ⟨?_, ?_⟩⟩
    all_goals decide +kernel
  obtain ⟨_, survivors, ⟨⟩, only, _, free, _⟩ := constructs_of_sanitize Run.pure (.mapping 1 mask) _ returned
  obtain rfl := (only maskProperties).mp surviving
  exact ⟨returned, surviving, harmless, free.mpr harmless⟩

theorem named_and_written :
    ((sanitize Run.pure (.mapping 1 [(.text "-moz-binding", .text "url(data:text/xml,x)")])).outcome =
      .ok "-moz-binding: url(data:text/xml,x);" ∧
      blocked? "-moz-binding: url(data:text/xml,x);".toList = some "-moz-binding") ∧
    (sanitize Run.pure (.mapping 1 [(.text "behavior", .text "x")])).outcome = .ok "behavior: x;" ∧
      blocked? "behavior: x;".toList = some "behavior:" := by
  refine ⟨⟨Run.outcome_of_toOption ?_, ?_⟩, Run.outcome_of_toOption ?_, ?_⟩
  all_goals decide +kernel

end Style
end HtmlTemplate
