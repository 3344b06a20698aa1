import HtmlTemplate.Proofs.Refusal
namespace HtmlTemplate

namespace Chars

theorem splitOn_ne_nil (separator : Char) (s : List Char) : splitOn separator s ≠ [] := by
  cases s with
  | nil => simp [splitOn]
  | cons c s =>
    unfold splitOn
    split
    · simp
    · split <;> simp

theorem splitOn_append (separator : Char) (s t : List Char) :
    splitOn separator (s ++ separator :: t) = splitOn separator s ++ splitOn separator t := by
  induction s with
  | nil => simp [splitOn]
  | cons c s ih =>
    rw [List.cons_append, splitOn, splitOn, ih]
    by_cases same : c = separator
    · simp [same]
    · cases parts : splitOn separator s with
      | nil => exact absurd parts (splitOn_ne_nil separator s)
      | cons piece pieces => simp [same]

end Chars

namespace Path

variable {scope : Scope} {path rest : List Char}

-- A path that goes down from where it starts: no parent level stands in front, and
-- nothing that could be taken for a part of one.
def Descends (path : List Char) : Prop := ∃ c rest, path = c :: rest ∧ c ≠ '.' ∧ c ≠ '/'

theorem Descends.append (descends : Descends path) (rest : List Char) : Descends (path ++ rest) := by
  obtain ⟨c, more, rfl, dot, slash⟩ := descends
  exact ⟨c, more ++ rest, rfl, dot, slash⟩

theorem Descends.ne (descends : Descends path) : path ≠ [] ∧ path ≠ ['.'] := by
  obtain ⟨c, rest, rfl, dot, slash⟩ := descends
  simp [dot]

theorem Descends.parents_eq (descends : Descends path) :
    parents path = (0, path) ∧ parents ('.' :: path) = (0, '.' :: path) := by
  obtain ⟨c, rest, rfl, dot, slash⟩ := descends
  constructor <;> apply parents_of_no_dots <;> simp [Ne.symm dot]

theorem Descends.head? (descends : Descends path) : path.head? ≠ some '/' := by
  obtain ⟨c, rest, rfl, dot, slash⟩ := descends
  simp [slash]

def level (slash : Bool) : List Char := if slash then ['.', '.', '/'] else ['.', '.']

def climb (slashes : List Bool) (separated : Bool) : List Char :=
  slashes.flatMap level ++ if separated then ['.'] else []

theorem parents_level (slash : Bool) (other : rest.head? ≠ some '/') :
    parents (level slash ++ rest) = ((parents rest).1 + 1, (parents rest).2) := by
  cases slash with
  | true => rfl
  | false =>
    cases rest with
    | nil => rfl
    | cons c rest =>
      change parents ('.' :: '.' :: c :: rest) = _
      rw [parents]
      rintro more ⟨⟩
      exact other rfl

theorem head?_levels (slashes : List Bool) (other : rest.head? ≠ some '/') :
    (slashes.flatMap level ++ rest).head? ≠ some '/' := by
  cases slashes with
  | nil => exact other
  | cons slash slashes => cases slash <;> simp [level]

theorem parents_levels (slashes : List Bool) (other : rest.head? ≠ some '/') (still : parents rest = (0, rest)) :
    parents (slashes.flatMap level ++ rest) = (slashes.length, rest) := by
  induction slashes with
  | nil => exact still
  | cons slash slashes ih =>
    rw [List.flatMap_cons, List.append_assoc, parents_level slash (head?_levels slashes other), ih]
    rfl

theorem splitParents_of_descends (descends : Descends path) : splitParents path = (0, path) := by
  unfold splitParents
  rw [descends.parents_eq.1]

theorem splitParents_climb {slashes : List Bool} (upwards : slashes ≠ []) (separated : Bool)
    (descends : Descends path) : splitParents (climb slashes separated ++ path) = (slashes.length, path) := by
  obtain ⟨above, counted⟩ := Nat.exists_eq_succ_of_ne_zero (mt List.length_eq_zero_iff.mp upwards)
  obtain ⟨still, separate⟩ := descends.parents_eq
  rw [climb, List.append_assoc]
  unfold splitParents
  cases separated with
  | true =>
    have split := parents_levels slashes (show ('.' :: path).head? ≠ some '/' by simp) separate
    rw [if_pos rfl, List.singleton_append, split, counted]
    rfl
  | false =>
    have split := parents_levels slashes descends.head? still
    obtain ⟨c, rest, rfl, dot, _⟩ := descends
    rw [if_neg (by decide), List.nil_append, split, counted]
    simp [dot]

section Lookup

theorem lookup_of_splitParents {levels : Nat} (split : splitParents path = (levels, rest)) (down : rest ≠ [])
    (whole : path ≠ ['.']) :
    lookup scope path =
      match scope.level? levels with
      | none => .ok .nothing
      | some start => walk start (Chars.splitOn '.' rest) := by
  unfold lookup
  rw [if_neg whole, split]
  dsimp only
  cases scope.level? levels with
  | none => rfl
  | some start => simp [down]

theorem lookup_of_descends (descends : Descends path) :
    lookup scope path = walk scope.data (Chars.splitOn '.' path) :=
  lookup_of_splitParents (splitParents_of_descends descends) descends.ne.1 descends.ne.2

theorem lookup_climb {slashes : List Bool} (upwards : slashes ≠ []) (separated : Bool) (descends : Descends path) :
    lookup scope (climb slashes separated ++ path) =
      match scope.level? slashes.length with
      | none => .ok .nothing
      | some start => walk start (Chars.splitOn '.' path) := by
  refine lookup_of_splitParents (splitParents_climb upwards separated descends) descends.ne.1 ?_
  cases slashes with
  | nil => exact absurd rfl upwards
  | cons slash slashes => cases slash <;> simp [climb, level]

theorem walk_missing {parts : List (List Char)} (some : parts ≠ []) :
    walk .missing parts = .ok .nothing ∨ ∃ segment, walk .missing parts = .ok (.blocked segment) := by
  cases parts with
  | nil => exact absurd rfl some
  | cons segment rest =>
    unfold walk
    split
    · exact .inr ⟨segment, rfl⟩
    · exact .inl rfl

def Found.orMissing : Found → Value
  | .value v => v
  | .nothing | .blocked _ => .missing

def concluded (found : Except Digit.NumeralError Found) : Except Failure Value :=
  match found with
  | .ok found => .ok found.orMissing
  | .error error => .error (.numeral error)

theorem outcome_resolve (scope : Scope) (path : String) :
    (resolve none scope path).outcome = concluded (lookup scope path.toList) := by
  rw [resolve_eq]
  split <;> rename_i found <;> rw [found] <;> rfl

end Lookup

section Laws

variable {p q : String}

theorem resolve_missing (descends : Descends q.toList) (others : List Value) :
    (resolve none ⟨.missing, others⟩ q).outcome = .ok .missing := by
  rw [outcome_resolve, lookup_of_descends descends]
  obtain found | ⟨segment, found⟩ := walk_missing (Chars.splitOn_ne_nil '.' q.toList) <;> rw [found] <;> rfl

theorem resolve_append (first : Descends p.toList) (second : Descends q.toList) (scope : Scope) (others : List Value) :
    (resolve none scope (p ++ "." ++ q)).outcome =
      (resolve none scope p).outcome.bind fun v => (resolve none ⟨v, others⟩ q).outcome := by
  have written : (p ++ "." ++ q).toList = p.toList ++ '.' :: q.toList := by simp
  have whole : Descends (p ++ "." ++ q).toList := written ▸ first.append _
  rw [outcome_resolve, outcome_resolve, lookup_of_descends whole, lookup_of_descends first, written,
    Chars.splitOn_append, walk_append]
  cases walk scope.data (Chars.splitOn '.' p.toList) with
  | error error => rfl
  | ok found =>
    cases found with
    | value v =>
      change _ = (resolve none ⟨v, others⟩ q).outcome
      rw [outcome_resolve, lookup_of_descends second]
    | nothing => exact (resolve_missing second others).symm
    | blocked segment => exact (resolve_missing second others).symm

theorem resolve_climb (descends : Descends p.toList) {slashes : List Bool} (upwards : slashes ≠ [])
    (separated : Bool) (scope : Scope) (others : List Value) :
    (resolve none scope (String.ofList (climb slashes separated) ++ p)).outcome =
      match scope.ancestors[slashes.length - 1]? with
      | some v => (resolve none ⟨v, others⟩ p).outcome
      | none => .ok .missing := by
  have written : (String.ofList (climb slashes separated) ++ p).toList = climb slashes separated ++ p.toList := by simp
  have level : scope.level? slashes.length = scope.ancestors[slashes.length - 1]? := by
    cases slashes with
    | nil => exact absurd rfl upwards
    | cons slash slashes => rfl
  rw [outcome_resolve, written, lookup_climb upwards separated descends, level]
  cases scope.ancestors[slashes.length - 1]? with
  | none => rfl
  | some v =>
    dsimp only
    rw [outcome_resolve, lookup_of_descends descends]

-- Without a fallback a path is the sum of its parts. What `p.q` comes to is what `q`
-- comes to in the value of `p`, be it missing, and where `p` breaks off so does `p.q`.
-- And in front of a path `n` parent levels, with slashes or without, lead to the n-th
-- context around the data and on from there, or to nothing where there are fewer.
theorem resolve_composed (first : Descends p.toList) (second : Descends q.toList) (scope : Scope)
    (others : List Value) :
    (resolve none scope (p ++ "." ++ q)).outcome =
      (resolve none scope p).outcome.bind (fun v => (resolve none ⟨v, others⟩ q).outcome) ∧
    ∀ slashes separated, slashes ≠ [] →
      (resolve none scope (String.ofList (climb slashes separated) ++ p)).outcome =
        match scope.ancestors[slashes.length - 1]? with
        | some v => (resolve none ⟨v, others⟩ p).outcome
        | none => .ok .missing :=
  ⟨resolve_append first second scope others,
    fun _ separated upwards => resolve_climb first upwards separated scope others⟩

def shelf (label : String) : Value :=
  .mapping 1 [(.text "items", .sequence .list 2 [.mapping 3 [(.int 7, .text label)]])]

def shelves : Scope := ⟨shelf "near", [.null, shelf "far"]⟩

theorem shelves_composed :
    Descends "items.0".toList ∧ Descends "7".toList ∧
    (resolve none shelves "items.0.7").outcome =
      (resolve none shelves "items.0").outcome.bind (fun v => (resolve none ⟨v, []⟩ "7").outcome) ∧
    (resolve none shelves "items.0.7").outcome = .ok (.text "near") ∧
    String.ofList (climb [true, false] true) = "../..." ∧
    (resolve none shelves "../...items.0").outcome = (resolve none ⟨shelf "far", []⟩ "items.0").outcome ∧
    String.ofList (climb [false, false, true] false) = "....../" ∧
    (resolve none shelves "....../items.0").outcome = .ok .missing := by
  have first : Descends "items.0".toList := ⟨'i', _, rfl, by decide, by decide⟩
  have second : Descends "7".toList := ⟨'7', _, rfl, by decide, by decide⟩
  obtain ⟨along, above⟩ := resolve_composed first second shelves []
  exact ⟨first, second, along, rfl, rfl, above [true, false] true (by decide), rfl,
    above [false, false, true] false (by decide)⟩

end Laws

end Path
end HtmlTemplate
