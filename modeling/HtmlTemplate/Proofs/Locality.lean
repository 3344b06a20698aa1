import HtmlTemplate.Proofs.OuterContext
import Mathlib.Data.List.DropRight
namespace HtmlTemplate

namespace Blank

variable {s : List Char} {a b : Char}

theorem infix_trim (s : List Char) : trim s <:+: s :=
  (List.rdropWhile_prefix isBlank (l := trimStart s)).isInfix.trans (List.dropWhile_suffix isBlank).isInfix

theorem pair_infix_trimStart (visible : isBlank a = false) (within : [a, b] <:+: s) : [a, b] <:+: trimStart s := by
  induction s with
  | nil => exact within
  | cons c s ih =>
    unfold trimStart at ih ⊢
    cases blank : isBlank c with
    | false => simpa [blank] using within
    | true =>
      obtain ⟨rfl, _⟩ | later := Chars.pair_infix_cons.mp within
      · rw [visible] at blank
        cases blank
      · simpa [blank] using ih later

theorem pair_infix_trimEnd (visible : isBlank b = false) (within : [a, b] <:+: s) : [a, b] <:+: trimEnd s := by
  rw [trimEnd, ← List.reverse_infix, List.reverse_reverse]
  exact pair_infix_trimStart visible (List.reverse_infix.mpr within)

theorem pair_infix_trim (first : isBlank a = false) (second : isBlank b = false) :
    [a, b] <:+: trim s ↔ [a, b] <:+: s :=
  ⟨fun within => within.trans (infix_trim s),
    fun within => pair_infix_trimEnd second (pair_infix_trimStart first within)⟩

end Blank

namespace Path

variable {key s : String} {path : Value}

-- What a binding or a condition takes for a path: not blank, without parent levels
-- and without the start of a marker. The path `.` is no exception.
structure Literal (s : List Char) : Prop where
  present : Blank.trim s ≠ []
  flat : ¬['.', '.'] <:+: s
  unmarked : ¬['\x7b', '\x7b'] <:+: s

theorem check_eq_ok_iff [Stack] : check key path = .ok s ↔ path = .text s ∧ Literal s.toList := by
  constructor
  · intro accepted
    unfold check at accepted
    split at accepted
    · rename_i t
      split at accepted
      · cases accepted
      rename_i present
      split at accepted
      · rename_i dot
        cases accepted
        subst dot
        exact ⟨rfl, by decide, by decide, by decide⟩
      split at accepted
      · cases accepted
      rename_i flat
      split at accepted
      · cases accepted
      rename_i unmarked
      cases accepted
      rw [Chars.contains_iff] at flat unmarked
      exact ⟨rfl, by simpa using present, flat, unmarked⟩
    · cases accepted
  · rintro ⟨rfl, present, flat, unmarked⟩
    rw [← Chars.contains_iff] at flat unmarked
    simp [check, present, flat, unmarked]

theorem literal_of_checked [Stack] (passed : (checked key path).outcome = .ok s) : Literal s.toList :=
  (check_eq_ok_iff.mp (Run.ensures_ofExcept _ _ s passed)).2

theorem parents_of_flat {path : List Char} (flat : ¬['.', '.'] <:+: path) : parents path = (0, path) :=
  parents_of_no_dots fun front => flat front.isInfix

theorem not_overflows_of_literal (literal : Literal s.toList) (scope : Scope) : ¬Overflows (Blank.strip s) scope := by
  have flat : ¬['.', '.'] <:+: Blank.trim s.toList :=
    fun within => literal.flat (within.trans (Blank.infix_trim s.toList))
  rw [Overflows, Blank.strip, toList_onChars, splitParents, parents_of_flat flat]
  exact Nat.not_lt_zero _

theorem resolve_of_literal (literal : Literal s.toList) (data : Value) (near far : List Value) :
    resolve none ⟨data, near⟩ (Blank.strip s) = resolve none ⟨data, far⟩ (Blank.strip s) := by
  have alone (outer : List Value) := lookup_within (not_overflows_of_literal literal ⟨data, []⟩) outer
  have found : lookup ⟨data, near⟩ (Blank.strip s).toList = lookup ⟨data, far⟩ (Blank.strip s).toList :=
    (alone near).trans (alone far).symm
  rw [resolve_eq, resolve_eq, found]

end Path

namespace Condition

variable {data : Value} {near far : List Value} {descriptor : Descriptor}

theorem check_local [Stack] : check none ⟨data, near⟩ descriptor = check none ⟨data, far⟩ descriptor := by
  unfold check
  cases Value.find? descriptor Vocabulary.checkKey with
  | none => dsimp only
  | some path =>
    apply Run.bind_congr
    intro s passed
    rw [Path.resolve_of_literal (Path.literal_of_checked passed) data near far]

theorem choose_local [Stack] : choose none ⟨data, near⟩ descriptor = choose none ⟨data, far⟩ descriptor := by
  unfold choose
  rw [check_local]

end Condition

namespace Render

theorem filtered_local [Stack] {settings : Settings} (silent : settings.fallback = none) (scope other : Scope)
    (filter : Option Value) (items : List Value) :
    filtered settings scope filter items = filtered settings other filter items := by
  have same (descriptor : Condition.Descriptor) :
      (fun item => Condition.check settings.fallback (scope.push item) descriptor) =
        fun item => Condition.check settings.fallback (other.push item) descriptor := by
    rw [silent]
    exact funext fun item => Condition.check_local
  simp only [filtered, same]

-- Without a fallback a binding or a condition sees the current data alone. Whatever
-- path is accepted leads to the same in any contexts, reports included; so does every
-- condition, every choice, and every filter, which takes the data itself for a context.
theorem contexts_unseen [Stack] (data : Value) (near far : List Value) :
    (∀ key path s, Path.check key path = .ok s →
      Path.resolve none ⟨data, near⟩ (Blank.strip s) = Path.resolve none ⟨data, far⟩ (Blank.strip s)) ∧
    (∀ descriptor, Condition.check none ⟨data, near⟩ descriptor = Condition.check none ⟨data, far⟩ descriptor) ∧
    (∀ descriptor, Condition.choose none ⟨data, near⟩ descriptor = Condition.choose none ⟨data, far⟩ descriptor) ∧
    ∀ settings : Settings, settings.fallback = none → ∀ scope other filter items,
      filtered settings scope filter items = filtered settings other filter items := by
  refine ⟨?_, fun _ => Condition.check_local, fun _ => Condition.choose_local, ?_⟩
  · intro key path s accepted
    exact Path.resolve_of_literal (Path.check_eq_ok_iff.mp accepted).2 data near far
  · intro settings silent scope other filter items
    exact filtered_local silent scope other filter items

def guest : Value := .mapping 1 [(.text "name", .text "Ada")]

def house : Value := .mapping 2 [(.text "name", .text "Ockham")]

def named (name : String) : Value := .mapping 3 [(.text "$check", .text "name "), (.text "$=", .text name)]

theorem guest_unseen :
    Path.check "$bind" (.text " name\t") = .ok " name\t" ∧
    Path.resolve none ⟨guest, [house]⟩ (Blank.strip " name\t") = Path.resolve none ⟨guest, []⟩ (Blank.strip " name\t") ∧
    Path.resolve none ⟨guest, [house]⟩ (Blank.strip " name\t") = ⟨[], .ok (.text "Ada")⟩ ∧
    filtered {} ⟨house, [guest]⟩ (some (named "Ada")) [house, guest] =
      filtered {} ⟨guest, []⟩ (some (named "Ada")) [house, guest] ∧
    filtered {} ⟨guest, []⟩ (some (named "Ada")) [house, guest] = ⟨[], .ok [guest]⟩ ∧
    Path.resolve none ⟨guest, [house]⟩ "..name" = ⟨[], .ok (.text "Ockham")⟩ ∧
    ∀ s, Path.check "$bind" (.text "..name") ≠ .ok s := by
  have accepted : Path.check "$bind" (.text " name\t") = .ok " name\t" := rfl
  obtain ⟨unseen, _, _, kept⟩ := contexts_unseen guest [house] []
  exact ⟨accepted, unseen _ _ _ accepted, rfl, kept {} rfl _ _ _ _, rfl, rfl, nofun⟩

end Render
end HtmlTemplate
