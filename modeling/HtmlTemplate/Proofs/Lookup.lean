import HtmlTemplate.Path
import Mathlib.Data.List.TakeWhile
namespace HtmlTemplate

namespace Digit

end Digit

namespace Path

variable {scope : Scope} {v : Value} {path segment : List Char} {parts : List (List Char)}
  {error : Digit.NumeralError}

-- Where a segment is read as a number: in a sequence, and in a mapping that does
-- not have it as a key.
def Counts (v : Value) (segment : List Char) : Prop :=
  v.isSequence = true ∨ ∃ entries, v.entries? = some entries ∧ Value.find? entries (String.ofList segment) = none

theorem isBlocked_of_isNumeral (numeral : Digit.isNumeral segment = true) : isBlocked segment = false := by
  simp only [Digit.isNumeral, Bool.and_eq_true, Bool.not_eq_true', List.all_eq_true] at numeral
  have letter : Digit.isDigit 'c' = false ∧ Digit.isDigit '_' = false ∧ Digit.isDigit 'p' = false := by decide
  cases segment with
  | nil => simp at numeral
  | cons c s =>
    have digit := numeral.2 c List.mem_cons_self
    have named (lead : Char) (other : Digit.isDigit lead = false) : lead ≠ c := by
      rintro rfl
      exact absurd digit (by simp [other])
    have first := named 'c' letter.1
    have second := named '_' letter.2.1
    have third := named 'p' letter.2.2
    simp [isBlocked, Vocabulary.blockedNames, Chars.beginsWith, Chars.dropLead, first, second, third]

theorem index_eq_error_iff :
    index v segment = .error error ↔
      Digit.isNumeral segment = true ∧ Digit.read segment = .error error ∧ Counts v segment := by
  have mapped {α : Type} (f : Nat → α) : (Digit.read segment).map f = .error error ↔ Digit.read segment = .error error := by
    cases Digit.read segment <;> simp [Except.map]
  unfold index Counts Value.isSequence
  split
  · rename_i items entries listed
    split <;> simp_all
  · rename_i entries noList mapping
    split
    · simp_all
    · split <;> simp_all
  · simp_all

-- A walk fails at one segment, when all before it lead to a value in which this
-- one is a numeral without value.
theorem walk_eq_error_iff :
    walk v parts = .error error ↔ ∃ before segment after w, parts = before ++ segment :: after ∧
      walk v before = .ok (.value w) ∧ index w segment = .error error := by
  induction parts generalizing v with
  | nil => simp [walk]
  | cons first rest ih =>
    rw [walk]
    constructor
    · intro failed
      split at failed
      · cases failed
      · rename_i free
        split at failed
        · rename_i stopped
          cases failed
          exact ⟨[], first, rest, v, rfl, rfl, stopped⟩
        · cases failed
        · cases failed
        · rename_i w known found
          obtain ⟨before, segment, after, last, rfl, reached, stopped⟩ := ih.mp failed
          refine ⟨first :: before, segment, after, last, rfl, ?_, stopped⟩
          simp only [walk, free, found]
          exact reached
    · rintro ⟨before, segment, after, last, listed, reached, stopped⟩
      cases before with
      | nil =>
        obtain ⟨rfl, rfl⟩ := List.cons.inj listed
        cases reached
        rw [isBlocked_of_isNumeral (index_eq_error_iff.mp stopped).1, stopped]
        rfl
      | cons other before =>
        obtain ⟨rfl, rfl⟩ := List.cons.inj listed
        rw [walk] at reached
        split at reached
        · cases reached
        · rename_i free
          split at reached
          · cases reached
          · cases reached
          · cases reached
          · rename_i w known found
            rw [if_neg free]
            exact ih.mpr ⟨before, segment, after, last, rfl, reached, stopped⟩

theorem parents_of_no_dots (none : ¬['.', '.'] <+: path) : parents path = (0, path) := by
  unfold parents
  split
  · exact absurd ⟨_, rfl⟩ none
  · exact absurd ⟨_, rfl⟩ none
  · rfl

def segments (path : List Char) : List (List Char) := Chars.splitOn '.' (splitParents path).2

theorem segments_empty {path part : List Char} (nowhere : (splitParents path).2 = [] ∨ path = ['.'])
    (member : part ∈ segments path) : part = [] := by
  rcases nowhere with nothing | rfl
  · simpa [segments, nothing, Chars.splitOn] using member
  · simpa [segments, splitParents, parents, Chars.splitOn] using member

-- A lookup that breaks off: it has come to a value, and the next segment is a
-- numeral that has to be read there and cannot be.
structure Stuck (scope : Scope) (path segment : List Char) (error : Digit.NumeralError) : Prop where
  reached : ∃ start before after v, scope.level? (splitParents path).1 = some start ∧
    segments path = before ++ segment :: after ∧ walk start before = .ok (.value v) ∧ Counts v segment
  numeral : Digit.isNumeral segment = true
  unreadable : Digit.read segment = .error error

theorem lookup_eq_error_iff : lookup scope path = .error error ↔ ∃ segment, Stuck scope path segment error := by
  have empty (none : (splitParents path).2 = [] ∨ path = ['.']) : ¬∃ segment, Stuck scope path segment error := by
    rintro ⟨segment, ⟨_, before, after, _, _, parts, _⟩, numeral, _⟩
    have member : segment ∈ segments path := by simp [parts]
    rw [segments_empty none member] at numeral
    cases numeral
  unfold lookup
  split
  · rename_i dot
    exact ⟨nofun, fun stuck => absurd stuck (empty (.inr dot))⟩
  dsimp only
  split
  · rename_i none
    refine ⟨nofun, ?_⟩
    rintro ⟨segment, ⟨start, _, _, _, some, _⟩, _⟩
    cases none.symm.trans some
  · rename_i start found
    split
    · rename_i nothing
      exact ⟨nofun, fun stuck => absurd stuck (empty (.inl (by simpa using nothing)))⟩
    · rw [walk_eq_error_iff]
      constructor
      · rintro ⟨before, segment, after, v, parts, reached, stopped⟩
        obtain ⟨numeral, unreadable, counts⟩ := index_eq_error_iff.mp stopped
        exact ⟨segment, ⟨start, before, after, v, found, parts, reached, counts⟩, numeral, unreadable⟩
      · rintro ⟨segment, ⟨other, before, after, v, level, parts, reached, counts⟩, numeral, unreadable⟩
        cases found.symm.trans level
        exact ⟨before, segment, after, v, parts, reached, index_eq_error_iff.mpr ⟨numeral, unreadable, counts⟩⟩

def answered (ask : Fallback) (path : String) (scope : Scope) : Except Failure Value :=
  match ask path scope with
  | .error reason => .error (.problem (.fallbackFailed path reason))
  | .ok .null => .ok .missing
  | .ok v => .ok v

theorem resolve_eq (fallback : Option Fallback) (scope : Scope) (path : String) :
    resolve fallback scope path =
      match lookup scope path.toList with
      | .error error => ⟨[], .error (.numeral error)⟩
      | .ok (.value v) => ⟨[], .ok v⟩
      | .ok (.blocked segment) => ⟨[.report (.blockedProperty (String.ofList segment) path)], .ok .missing⟩
      | .ok .nothing =>
        match fallback with
        | none => ⟨[], .ok .missing⟩
        | some ask => ⟨[.asked path scope], answered ask path scope⟩ := by
  unfold resolve answered
  cases lookup scope path.toList with
  | error error => rfl
  | ok found =>
    cases found with
    | value v => rfl
    | blocked segment => rfl
    | nothing =>
      cases fallback with
      | none => rfl
      | some ask =>
        cases answer : ask path scope with
        | error reason =>
          dsimp only
          rw [answer]
          rfl
        | ok v =>
          dsimp only
          rw [answer]
          cases v <;> rfl

end Path
end HtmlTemplate
