namespace HtmlTemplate

-- Every rule is a function on `List Char`; `onChars` carries it to strings.

def onChars (f : List Char → List Char) (s : String) : String := String.ofList (f s.toList)

@[simp] theorem toList_onChars (f : List Char → List Char) (s : String) :
    (onChars f s).toList = f s.toList := by simp [onChars]

namespace Chars

def dropLead : List Char → List Char → Option (List Char)
  | [], s => some s
  | _ :: _, [] => none
  | x :: lead, y :: s => if x = y then dropLead lead s else none

theorem dropLead_eq_some_iff {lead s rest : List Char} :
    dropLead lead s = some rest ↔ s = lead ++ rest := by
  induction lead generalizing s with
  | nil => simp [dropLead]
  | cons x lead ih =>
    cases s with
    | nil => simp [dropLead]
    | cons y s =>
      by_cases same : x = y
      · simp [dropLead, same, ih]
      · simp [dropLead, same, Ne.symm same]

def beginsWith (lead s : List Char) : Bool := (dropLead lead s).isSome

theorem beginsWith_iff {lead s : List Char} : beginsWith lead s = true ↔ lead <+: s := by
  rw [beginsWith, Option.isSome_iff_exists]
  constructor
  · rintro ⟨rest, found⟩; exact ⟨rest, (dropLead_eq_some_iff.mp found).symm⟩
  · rintro ⟨rest, rfl⟩; exact ⟨rest, dropLead_eq_some_iff.mpr rfl⟩

def contains (part : List Char) : List Char → Bool
  | [] => beginsWith part []
  | c :: s => beginsWith part (c :: s) || contains part s

theorem contains_iff {part s : List Char} : contains part s = true ↔ part <:+: s := by
  induction s with
  | nil => simp [contains, beginsWith_iff]
  | cons c s ih => rw [contains, Bool.or_eq_true, beginsWith_iff, ih, List.infix_cons_iff]

theorem pair_infix_cons {a b c : Char} {s : List Char} :
    [a, b] <:+: c :: s ↔ c = a ∧ s.head? = some b ∨ [a, b] <:+: s := by
  rw [List.infix_cons_iff, List.cons_prefix_cons]
  cases s with
  | nil => simp
  | cons d s => simp [List.cons_prefix_cons, eq_comm]

def splitOn (separator : Char) : List Char → List (List Char)
  | [] => [[]]
  | c :: s =>
    if c = separator then [] :: splitOn separator s
    else match splitOn separator s with
      | [] => [[c]]
      | piece :: pieces => (c :: piece) :: pieces

def joinWith (separator : List Char) : List (List Char) → List Char
  | [] => []
  | [piece] => piece
  | piece :: pieces => piece ++ separator ++ joinWith separator pieces

def decimal (n : Nat) : List Char := (Nat.repr n).toList

def signed (n : Int) : List Char :=
  if n < 0 then '-' :: decimal n.natAbs else decimal n.natAbs

def hexDigit (n : Nat) : Char :=
  Char.ofNat (if n < 10 then 48 + n else 87 + n)

def hex : (width : Nat) → Nat → List Char
  | 0, _ => []
  | width + 1, n => hex width (n / 16) ++ [hexDigit (n % 16)]

def inRanges (ranges : List (Nat × Nat)) (c : Char) : Bool :=
  ranges.any fun range => range.1 ≤ c.toNat && c.toNat ≤ range.2

end Chars
end HtmlTemplate
