import HtmlTemplate.Proofs.Constructs
import Mathlib.Data.List.Find
namespace HtmlTemplate.Style

def dense (v : List Char) : List Char := v.filter fun c => !Blank.isBlank c

def plain (v : List Char) : List Char := dense (v.map Char.toLower)

def quotes : List String := ["", "\"", "'"]

theorem beginsData_iff {s : List Char} :
    beginsData s = true ↔ ∃ quote ∈ quotes, (quote ++ "data:").toList <+: s := by
  have cases : (∃ quote ∈ quotes, (quote ++ "data:").toList <+: s) ↔
      "data:".toList <+: s ∨ '"' :: "data:".toList <+: s ∨ '\'' :: "data:".toList <+: s := by
    simp [quotes]
  unfold beginsData
  rw [cases, Bool.or_eq_true_iff, Chars.beginsWith_iff]
  refine or_congr Iff.rfl ?_
  split
  · simp [Chars.beginsWith_iff, List.cons_prefix_cons]
  · simp [Chars.beginsWith_iff, List.cons_prefix_cons]
  · rename_i double single
    refine iff_of_false Bool.false_ne_true ?_
    rintro (⟨rest, rfl⟩ | ⟨rest, rfl⟩)
    · exact double _ rfl
    · exact single _ rfl

theorem hasOutsideUrl_eq_false {s : List Char} :
    hasOutsideUrl s = false ↔ ∀ address, "url(".toList ++ address <:+ s → beginsData address = true := by
  induction s with
  | nil => simp [hasOutsideUrl]
  | cons c s ih =>
    rw [hasOutsideUrl_cons, ih, ← forall_and]
    refine forall_congr' fun address => ?_
    rw [List.suffix_cons_iff, or_imp, eq_comm]

def Foreign (c : Char) : Prop := 128 ≤ c.toNat ∨ c = 'k'

instance : Decidable (Foreign c) := inferInstanceAs (Decidable (_ ∨ _))

structure IsKeyword (word : List Char) : Prop where
  known : ∀ c ∈ word, ¬Foreign c
  final : word.getLast? ≠ some 'i'

-- Texts that only differ beyond the keywords: in one of them there are other foreign
-- characters, and more of them, some with an i in front.
inductive Alike : List Char → List Char → Prop
  | nil : Alike [] []
  | same (c : Char) (rest : Alike s t) : Alike (c :: s) (c :: t)
  | other {c d : Char} (left : Foreign c) (right : Foreign d) (rest : Alike s t) : Alike (c :: s) (d :: t)
  | more {lead c d : Char} (extra : Foreign lead ∨ lead = 'i') (left : Foreign c) (right : Foreign d)
    (whole : Alike (c :: s) (d :: t)) : Alike (c :: s) (lead :: d :: t)

variable {c d : Char} {s t v word : List Char}

theorem IsKeyword.tail (keyword : IsKeyword (c :: word)) : IsKeyword word := by
  refine ⟨fun d member => keyword.known d (List.mem_cons_of_mem _ member), ?_⟩
  intro ends
  refine keyword.final ?_
  rw [List.getLast?_cons, ends]
  rfl

theorem IsKeyword.not_prefix (keyword : IsKeyword (c :: word)) (foreign : Foreign d) : ¬c :: word <+: d :: s := by
  intro leads
  obtain ⟨rfl, _⟩ := List.cons_prefix_cons.mp leads
  exact keyword.known c List.mem_cons_self foreign

theorem Alike.prefix_iff (alike : Alike s t) (keyword : IsKeyword word) : word <+: s ↔ word <+: t := by
  induction word generalizing s t with
  | nil => simp
  | cons a word ih =>
    cases alike with
    | nil => rfl
    | same c rest => rw [List.cons_prefix_cons, List.cons_prefix_cons, ih rest keyword.tail]
    | other left right rest => exact iff_of_false (keyword.not_prefix left) (keyword.not_prefix right)
    | more extra left right whole =>
      refine iff_of_false (keyword.not_prefix left) ?_
      rcases extra with foreign | rfl
      · exact keyword.not_prefix foreign
      · intro leads
        obtain ⟨rfl, within⟩ := List.cons_prefix_cons.mp leads
        cases word with
        | nil => exact keyword.final rfl
        | cons b word => exact keyword.tail.not_prefix right within

theorem exists_suffix_cons {p : List Char → Prop} : (∃ r, r <:+ c :: s ∧ p r) ↔ p (c :: s) ∨ ∃ r, r <:+ s ∧ p r := by
  simp [List.suffix_cons_iff, or_and_right, exists_or]

-- What is told by what is next is told alike of all that is to come. A further
-- character of one text is held against the same place of the other one.
theorem Alike.exists_iff {p : List Char → Prop} (agrees : ∀ {s t}, Alike s t → (p s ↔ p t)) (alike : Alike s t) :
    (∃ r, r <:+ s ∧ p r) ↔ ∃ r, r <:+ t ∧ p r := by
  induction alike with
  | nil => rfl
  | same c rest ih => rw [exists_suffix_cons, exists_suffix_cons, agrees (.same c rest), ih]
  | other left right rest ih => rw [exists_suffix_cons, exists_suffix_cons, agrees (.other left right rest), ih]
  | more extra left right whole ih =>
    refine Iff.trans ?_ exists_suffix_cons.symm
    rw [← agrees (.more extra left right whole), ← ih]
    exact (or_iff_right_of_imp fun here => ⟨_, List.suffix_rfl, here⟩).symm

theorem Alike.infix_iff (alike : Alike s t) (keyword : IsKeyword word) : word <:+: s ↔ word <:+: t := by
  have suffixes {s : List Char} : word <:+: s ↔ ∃ r, r <:+ s ∧ word <+: r := by
    simp only [List.infix_iff_prefix_suffix, and_comm]
  rw [suffixes, suffixes]
  exact alike.exists_iff fun alike => alike.prefix_iff keyword

instance : Decidable (IsKeyword word) :=
  decidable_of_iff (word.all (fun c => !decide (Foreign c)) = true ∧ word.getLast? ≠ some 'i')
    ⟨fun checked => ⟨by simpa using checked.1, checked.2⟩, fun keyword => ⟨by simpa using keyword.known, keyword.final⟩⟩

theorem isKeyword_blocked : ∀ pattern ∈ blockedPatterns, IsKeyword pattern.toList := by
  decide +kernel

theorem isKeyword_address : IsKeyword "url(".toList ∧
    ∀ quote ∈ quotes, IsKeyword ("url(".toList ++ (quote ++ "data:").toList) := by
  decide +kernel

theorem hasOutsideUrl_iff : hasOutsideUrl s = true ↔
    ∃ r, r <:+ s ∧ "url(".toList <+: r ∧ ∀ quote ∈ quotes, ¬"url(".toList ++ (quote ++ "data:").toList <+: r := by
  rw [← Bool.not_eq_false, hasOutsideUrl_eq_false]
  simp only [not_forall, beginsData_iff]
  constructor
  · rintro ⟨address, within, outside⟩
    refine ⟨_, within, List.prefix_append _ _, fun quote listed leads => outside ⟨quote, listed, ?_⟩⟩
    exact (List.prefix_append_right_inj _).mp leads
  · rintro ⟨_, within, ⟨address, rfl⟩, outside⟩
    refine ⟨address, within, fun ⟨quote, listed, leads⟩ => outside quote listed ?_⟩
    exact (List.prefix_append_right_inj _).mpr leads

theorem Alike.hasOutsideUrl_eq (alike : Alike s t) : hasOutsideUrl s = hasOutsideUrl t := by
  rw [Bool.eq_iff_iff, hasOutsideUrl_iff, hasOutsideUrl_iff]
  refine alike.exists_iff fun alike => and_congr (alike.prefix_iff isKeyword_address.1) (forall₂_congr fun quote listed => ?_)
  exact not_congr (alike.prefix_iff (isKeyword_address.2 quote listed))

theorem Alike.scan_eq (alike : Alike s t) : scan s = scan t := by
  unfold scan
  rw [alike.hasOutsideUrl_eq]
  congr 1
  refine List.find?_congr fun pattern listed => ?_
  rw [Bool.eq_iff_iff, Chars.contains_iff, Chars.contains_iff]
  exact alike.infix_iff (isKeyword_blocked pattern listed)

-- Lower case over all characters, of which only this much is used: one of them may
-- become several, by what stands before and behind it.
structure Lowering where
  image : (before : List Char) → Char → (after : List Char) → List Char
  ascii : ∀ before c after, c.toNat < 128 → image before c after = [c.toLower]
  blank : ∀ before c after, Blank.isBlank c = true → image before c after = [c]
  dotted : ∀ before after, image before '\u0130' after = ['i', '\u0307']
  kelvin : ∀ before after, image before '\u212a' after = ['k']
  other : ∀ before c after, 128 ≤ c.toNat → Blank.isBlank c = false → c ≠ '\u0130' → c ≠ '\u212a' →
    image before c after ≠ [] ∧ ∀ d ∈ image before c after, 128 ≤ d.toNat ∧ Blank.isBlank d = false

def Lowering.text (lowering : Lowering) (before : List Char) : List Char → List Char
  | [] => []
  | c :: after => lowering.image before c after ++ lowering.text (before ++ [c]) after

def Lowering.compact (lowering : Lowering) (v : List Char) : List Char := dense (lowering.text [] v)

theorem dense_append (s t : List Char) : dense (s ++ t) = dense s ++ dense t := List.filter_append s t

theorem dense_shown (shown : ∀ c ∈ s, Blank.isBlank c = false) : dense s = s :=
  List.filter_eq_self.mpr fun c member => by rw [shown c member]; rfl

theorem plain_cons (c : Char) (v : List Char) : plain (c :: v) = dense [c.toLower] ++ plain v :=
  dense_append [c.toLower] (v.map Char.toLower)

theorem Alike.image {image : List Char} (left : Foreign c) (present : image ≠ []) (foreign : ∀ d ∈ image, Foreign d)
    (rest : Alike s t) : Alike (c :: s) (image ++ t) := by
  induction image with
  | nil => exact absurd rfl present
  | cons d image ih =>
    obtain ⟨own, others⟩ := List.forall_mem_cons.mp foreign
    cases image with
    | nil => exact .other left own rest
    | cons e image => exact .more (.inl own) left (others e List.mem_cons_self) (ih (List.cons_ne_nil _ _) others)

theorem Alike.dense (letter : Char) (rest : Alike s t) : Alike (dense [letter] ++ s) (dense [letter] ++ t) := by
  cases blank : Blank.isBlank letter with
  | true => simpa [Style.dense, blank] using rest
  | false => simpa [Style.dense, blank] using Alike.same letter rest

theorem Lowering.alike_step (lowering : Lowering) (before : List Char) (c : Char) (after : List Char) (rest : Alike s t) :
    Alike (dense [c.toLower] ++ s) (dense (lowering.image before c after) ++ t) := by
  by_cases small : c.toNat < 128
  · rw [lowering.ascii before c after small]
    exact rest.dense c.toLower
  have large : 128 ≤ c.toNat := Nat.not_lt.mp small
  have left : Foreign c := .inl large
  have same : c.toLower = c := toLower_outside (.inr (by omega))
  rw [same]
  cases blank : Blank.isBlank c with
  | true =>
    rw [lowering.blank before c after blank]
    exact rest.dense c
  | false =>
    rw [dense_shown (List.forall_mem_singleton.mpr blank)]
    by_cases dotted : c = '\u0130'
    · subst dotted
      rw [lowering.dotted]
      exact .more (.inr rfl) left (.inl (by decide)) (.other left (.inl (by decide)) rest)
    by_cases kelvin : c = '\u212a'
    · subst kelvin
      rw [lowering.kelvin]
      exact .other left (.inr rfl) rest
    obtain ⟨present, beyond⟩ := lowering.other before c after large blank dotted kelvin
    rw [dense_shown fun d member => (beyond d member).2]
    exact Alike.image left present (fun d member => .inl (beyond d member).1) rest

theorem Lowering.alike (lowering : Lowering) (before v : List Char) :
    Alike (plain v) (dense (lowering.text before v)) := by
  induction v generalizing before with
  | nil => exact .nil
  | cons c v ih =>
    rw [plain_cons, Lowering.text, dense_append]
    exact lowering.alike_step before c v (ih (before ++ [c]))

theorem Lowering.scan_compact (lowering : Lowering) (v : List Char) : scan (lowering.compact v) = scan (plain v) :=
  (lowering.alike [] v).scan_eq.symm

theorem toLower_of_blank (blank : Blank.isBlank c = true) : c.toLower = c := by
  refine toLower_outside ?_
  simp [Blank.isBlank] at blank
  omega

theorem lower_single (dotted : c ≠ '\u0130') (kelvin : c ≠ '\u212a') : lower c = [c.toLower] := by
  rw [lower, if_neg dotted, if_neg kelvin]

def Lowering.simple : Lowering where
  image _ c _ := lower c
  ascii _ _ _ small :=
    lower_single (by rintro rfl; exact absurd small (by decide)) (by rintro rfl; exact absurd small (by decide))
  blank _ _ _ blank := by
    rw [lower_single (by rintro rfl; cases blank) (by rintro rfl; cases blank), toLower_of_blank blank]
  dotted _ _ := rfl
  kelvin _ _ := rfl
  other _ _ _ large shown dotted kelvin := by
    rw [lower_single dotted kelvin, toLower_outside (.inr (by omega))]
    exact ⟨List.cons_ne_nil _ _, List.forall_mem_singleton.mpr ⟨large, shown⟩⟩

theorem compact_eq (v : List Char) : compact v = Lowering.simple.compact v := by
  have text (before : List Char) : Lowering.simple.text before v = v.flatMap lower := by
    induction v generalizing before with
    | nil => rfl
    | cons c v ih => rw [Lowering.text, ih, List.flatMap_cons, Lowering.simple]
  rw [Lowering.compact, text]
  rfl

theorem blocked?_eq (v : List Char) : blocked? v = scan (plain v) :=
  (congrArg scan (compact_eq v)).trans (Lowering.simple.scan_compact v)

-- Capitals and white space hide nothing, however the other characters are lowered:
-- a value is refused by what its plain form has in it.
theorem keywords_of_value (lowering : Lowering) (v : List Char) :
    scan (lowering.compact v) = blocked? v ∧
    (∀ w, plain w = plain v → blocked? w = blocked? v) ∧
    (blocked? v = none ↔
      (∀ address, "url(".toList ++ address <:+ plain v → ∃ quote ∈ quotes, (quote ++ "data:").toList <+: address) ∧
      ∀ pattern ∈ blockedPatterns, ¬pattern.toList <:+: plain v) := by
  refine ⟨?_, ?_, ?_⟩
  · rw [lowering.scan_compact, blocked?_eq]
  · intro w same
    rw [blocked?_eq, blocked?_eq, same]
  · rw [blocked?_eq, scan_eq_none, hasOutsideUrl_eq_false]
    simp only [beginsData_iff]

def Lowering.sigma : Lowering where
  image before c after :=
    if c = 'Σ' then [if before.getLast?.any Char.isAlpha && !after.head?.any Char.isAlpha then 'ς' else 'σ']
    else lower c
  ascii before c after small := by
    rw [if_neg (by rintro rfl; exact absurd small (by decide))]
    exact Lowering.simple.ascii before c after small
  blank before c after blank := by
    rw [if_neg (by rintro rfl; cases blank)]
    exact Lowering.simple.blank before c after blank
  dotted _ _ := rfl
  kelvin _ _ := rfl
  other before c after large shown dotted kelvin := by
    by_cases sigma : c = 'Σ'
    · rw [if_pos sigma]
      refine ⟨List.cons_ne_nil _ _, List.forall_mem_singleton.mpr ?_⟩
      split <;> decide
    · rw [if_neg sigma]
      exact Lowering.simple.other before c after large shown dotted kelvin

def disguised : List Char := "Url( 'DATA:,AΣ') EX\u2003PRESSION(\u212a\u0130".toList
def unmasked : List Char := "url('data:,aΣ')expression(\u212a\u0130".toList

theorem keywords_of_disguised :
    Lowering.sigma.compact disguised = "url('data:,aς')expression(ki\u0307".toList ∧
    scan (Lowering.sigma.compact disguised) = some "expression(" ∧
    plain unmasked = plain disguised ∧ blocked? unmasked = some "expression(" := by
  obtain ⟨lowered, same, _⟩ := keywords_of_value Lowering.sigma disguised
  have blocked : blocked? disguised = some "expression(" := by decide +kernel
  have plain : plain unmasked = plain disguised := by decide +kernel
  exact ⟨by decide +kernel, lowered.trans blocked, plain, (same unmasked plain).trans blocked⟩

end HtmlTemplate.Style
