import HtmlTemplate.Proofs.Parallel
import Mathlib.Algebra.Order.Field.Rat
import Mathlib.Algebra.Order.Field.Basic
import Mathlib.Order.WithBot
namespace HtmlTemplate

namespace Number

variable {x y : Number} {p q : Place}

-- The line on which numbers have their places: the rationals with two ends.
abbrev Line := WithBot (WithTop ℚ)

def Place.point : Place → Line
  | .below => ⊥
  | .at num den => (((num : ℚ) / den : ℚ) : WithTop ℚ)
  | .above => (⊤ : WithTop ℚ)

-- NaN has no point, and any other number exactly one.
def point? (x : Number) : Option Line := x.place?.map Place.point

def Place.Sound : Place → Prop
  | .at _ den => 0 < den
  | .below | .above => True

theorem quotient_pos (negative : Bool) (significand : Nat) (exponent : Int) :
    0 < (Binary64.quotient negative significand exponent).2 := by
  unfold Binary64.quotient
  split
  · exact Nat.one_pos
  · exact Nat.pow_pos (by decide)

theorem sound_of_place? (placed : x.place? = some p) : p.Sound := by
  cases x with
  | int n =>
    cases placed
    exact Nat.one_pos
  | float x =>
    cases x with
    | nan => cases placed
    | infinite negative =>
      cases placed
      cases negative <;> trivial
    | finite negative significand exponent =>
      cases placed
      exact quotient_pos negative significand exponent

theorem point?_eq_none_iff : x.point? = none ↔ x = .float .nan := by
  cases x with
  | int n => simp [point?, place?]
  | float x => cases x <;> simp [point?, place?]

theorem point?_int (n : Int) : point? (.int n) = some (((n : ℚ) : WithTop ℚ) : Line) := by
  simp [point?, place?, Place.point]

theorem Place.eq_iff (left : p.Sound) (right : q.Sound) : p.eq q = true ↔ p.point = q.point := by
  cases p with
  | below => cases q <;> simp [Place.eq, Place.point]
  | above => cases q <;> simp [Place.eq, Place.point]
  | «at» a b =>
    cases q with
    | below => simp [Place.eq, Place.point]
    | above => simp [Place.eq, Place.point]
    | «at» c d =>
      have first : (b : ℚ) ≠ 0 := Nat.cast_ne_zero.mpr (Nat.pos_iff_ne_zero.mp left)
      have second : (d : ℚ) ≠ 0 := Nat.cast_ne_zero.mpr (Nat.pos_iff_ne_zero.mp right)
      simp only [Place.eq, Place.point, beq_iff_eq, WithBot.coe_inj, WithTop.coe_inj, div_eq_div_iff first second]
      norm_cast

theorem Place.lt_iff (left : p.Sound) (right : q.Sound) : p.lt q = true ↔ p.point < q.point := by
  cases p with
  | below => cases q <;> simp [Place.lt, Place.point]
  | above => cases q <;> simp [Place.lt, Place.point]
  | «at» a b =>
    cases q with
    | below => simp [Place.lt, Place.point]
    | above => exact iff_of_true rfl (WithBot.coe_lt_coe.mpr (WithTop.coe_lt_top _))
    | «at» c d =>
      have first : (0 : ℚ) < b := Nat.cast_pos.mpr left
      have second : (0 : ℚ) < d := Nat.cast_pos.mpr right
      simp only [Place.lt, Place.point, decide_eq_true_eq, WithBot.coe_lt_coe, WithTop.coe_lt_coe,
        div_lt_div_iff₀ first second]
      norm_cast

theorem compareWith_iff {holds : Place → Place → Bool} {relation : Line → Line → Prop}
    (exact : ∀ {p q : Place}, p.Sound → q.Sound → (holds p q = true ↔ relation p.point q.point)) :
    compareWith holds x y = true ↔ ∃ s t, x.point? = some s ∧ y.point? = some t ∧ relation s t := by
  unfold compareWith point?
  cases left : x.place? with
  | none => simp
  | some p =>
    cases right : y.place? with
    | none => simp
    | some q => simpa using exact (sound_of_place? left) (sound_of_place? right)

theorem eq_iff : x.eq y = true ↔ ∃ s t, x.point? = some s ∧ y.point? = some t ∧ s = t := compareWith_iff Place.eq_iff

theorem lt_iff : x.lt y = true ↔ ∃ s t, x.point? = some s ∧ y.point? = some t ∧ s < t := compareWith_iff Place.lt_iff

theorem le_iff : x.le y = true ↔ ∃ s t, x.point? = some s ∧ y.point? = some t ∧ s ≤ t := by
  apply compareWith_iff
  intro p q left right
  rw [Bool.or_eq_true_iff, Place.lt_iff left right, Place.eq_iff left right, le_iff_lt_or_eq]

end Number

namespace Condition

variable {a b c v : Value} {descriptor other : Descriptor}

-- What conditions make of a value: a number counts as its point, NaN as nothing, and
-- every other value as itself.
def standing? (v : Value) : Option (Number.Line ⊕ Value) :=
  match v.number? with
  | some x => x.point?.map .inl
  | none => some (.inr v)

theorem standing?_eq_none_iff : standing? v = none ↔ v = .float .nan := by
  cases v with
  | int n => simp [standing?, Value.number?, Number.point?_eq_none_iff]
  | float x => simp [standing?, Value.number?, Number.point?_eq_none_iff]
  | _ => simp [standing?, Value.number?]

theorem strictEquals_iff : strictEquals a b = true ↔ ∃ standing, standing? a = some standing ∧ standing? b = some standing := by
  unfold strictEquals standing?
  cases left : a.number? with
  | none => cases right : b.number? <;> simp [eq_comm]
  | some x =>
    cases right : b.number? with
    | none => simp
    | some y => simp [Number.eq_iff]

theorem standing?_eq (same : strictEquals a b = true) : standing? a = standing? b := by
  obtain ⟨standing, left, right⟩ := strictEquals_iff.mp same
  rw [left, right]

theorem strictEquals_cases (same : strictEquals a b = true) :
    a = b ∨ ∃ x y, a.number? = some x ∧ b.number? = some y ∧ x.point? = y.point? := by
  have standing := standing?_eq same
  unfold strictEquals at same
  unfold standing? at standing
  cases left : a.number? with
  | none =>
    cases right : b.number? with
    | none => exact .inl (by simpa [left, right] using same)
    | some y => simp [left, right] at same
  | some x =>
    cases right : b.number? with
    | none => simp [left, right] at same
    | some y =>
      refine .inr ⟨x, y, rfl, rfl, ?_⟩
      simp only [left, right] at standing
      exact Option.map_injective Sum.inl_injective standing

theorem truthy_number {x : Number} (number : v.number? = some x) :
    truthy v = true ↔ ∃ point, x.point? = some point ∧ point ≠ (((0 : ℤ) : ℚ) : WithTop ℚ) := by
  cases v with
  | int n =>
    cases number
    simp [truthy, Number.point?_int]
  | float f =>
    cases number
    cases placed : Number.point? (.float f) with
    | none =>
      cases Number.point?_eq_none_iff.mp placed
      simp [truthy]
    | some point =>
      have known : f ≠ .nan := by
        intro nan
        rw [nan] at placed
        cases placed
      have plain : truthy (.float f) = !Number.eq (.float f) (.int 0) := by simp [truthy, known]
      rw [plain, Bool.not_eq_true', ← Bool.not_eq_true, Number.eq_iff, placed, Number.point?_int]
      simp [eq_comm (b := point)]
  | _ => cases number

theorem truthy_congr (same : strictEquals a b = true) : truthy a = truthy b := by
  obtain rfl | ⟨x, y, left, right, point⟩ := strictEquals_cases same
  · rfl
  · rw [Bool.eq_iff_iff, truthy_number left, truthy_number right, point]

theorem strictEquals_congr (same : strictEquals a b = true) (v : Value) :
    strictEquals a v = strictEquals b v ∧ strictEquals v a = strictEquals v b := by
  have standing := standing?_eq same
  constructor <;> rw [Bool.eq_iff_iff, strictEquals_iff, strictEquals_iff, standing]

theorem numeric_congr {compare : Number → Number → Bool} {relation : Number.Line → Number.Line → Prop}
    (exact : ∀ {x y : Number}, compare x y = true ↔ ∃ s t, x.point? = some s ∧ y.point? = some t ∧ relation s t)
    (same : strictEquals a b = true) (v : Value) :
    Operator.numeric compare a v = Operator.numeric compare b v ∧
      Operator.numeric compare v a = Operator.numeric compare v b := by
  obtain rfl | ⟨x, y, left, right, point⟩ := strictEquals_cases same
  · exact ⟨rfl, rfl⟩
  · unfold Operator.numeric
    rw [left, right]
    cases v.number? with
    | none => exact ⟨rfl, rfl⟩
    | some z => constructor <;> rw [Bool.eq_iff_iff, exact, exact, point]

theorem numeric_swap (compare : Number → Number → Bool) (value operand : Value) :
    Operator.numeric (fun x y => compare y x) value operand = Operator.numeric compare operand value := by
  unfold Operator.numeric
  cases value.number? <;> cases operand.number? <;> rfl

theorem items?_congr (same : strictEquals a b = true) : a.items? = b.items? := by
  obtain rfl | ⟨x, y, left, right, _⟩ := strictEquals_cases same
  · rfl
  · have none {v : Value} {x : Number} (number : v.number? = some x) : v.items? = none := by
      cases v <;> simp [Value.number?] at number <;> rfl
    rw [none left, none right]

theorem holds_congr (same : strictEquals a b = true) (op : Operator) (v : Value) :
    op.holds a v = op.holds b v ∧ op.holds v a = op.holds v b := by
  cases op with
  | less => exact numeric_congr Number.lt_iff same v
  | greater => simpa only [Operator.holds, numeric_swap] using (numeric_congr Number.lt_iff same v).symm
  | atMost => exact numeric_congr Number.le_iff same v
  | atLeast => simpa only [Operator.holds, numeric_swap] using (numeric_congr Number.le_iff same v).symm
  | equals => exact strictEquals_congr same v
  | isIn =>
    refine ⟨?_, ?_⟩
    · have alike : strictEquals a = strictEquals b := funext fun item => (strictEquals_congr same item).1
      simp only [Operator.holds, alike]
    · simp only [Operator.holds, items?_congr same]

theorem evaluate_alike (same : strictEquals a b = true) (descriptor : Descriptor) :
    evaluate a descriptor = evaluate b descriptor := by
  have found : results a descriptor = results b descriptor := by
    unfold results
    apply List.filterMap_congr
    intro op _
    rw [funext fun operand => (holds_congr same op operand).1]
  simp only [evaluate, found, truthy_congr same]

def OperandsReplaced (descriptor other : Descriptor) : Prop :=
  List.Forall₂ (fun e f => f.1 = e.1 ∧ (f.2 = e.2 ∨ (∃ op : Operator, e.1 = .text op.key) ∧ strictEquals e.2 f.2 = true))
    descriptor other

theorem find?_replaced (replaced : OperandsReplaced descriptor other) (key : String) :
    Value.find? descriptor key = Value.find? other key ∨
    ∃ v w, Value.find? descriptor key = some v ∧ Value.find? other key = some w ∧
      (∃ op : Operator, key = op.key) ∧ strictEquals v w = true := by
  have found := Value.find?_forall₂
    (R := fun key v w => w = v ∨ (∃ op : Operator, key = .text op.key) ∧ strictEquals v w = true) replaced key
  revert found
  generalize Value.find? descriptor key = left
  generalize Value.find? other key = right
  intro found
  cases found with
  | none => exact .inl rfl
  | some related =>
    rcases related with same | ⟨⟨op, operator⟩, same⟩
    · exact .inl (congrArg some same.symm)
    · exact .inr ⟨_, _, rfl, rfl, ⟨op, Value.text.inj operator⟩, same⟩

theorem evaluate_replaced (replaced : OperandsReplaced descriptor other) (v : Value) :
    evaluate v descriptor = evaluate v other := by
  have found : results v descriptor = results v other := by
    unfold results
    apply List.filterMap_congr
    intro op _
    obtain same | ⟨_, _, left, right, _, same⟩ := find?_replaced replaced op.key
    · rw [same]
    · rw [left, right]
      exact congrArg some (holds_congr same op v).2
  have kept {key : String} (apart : ∀ op : Operator, key ≠ op.key) : Value.find? descriptor key = Value.find? other key := by
    obtain same | ⟨_, _, _, _, ⟨op, operator⟩, _⟩ := find?_replaced replaced key
    · exact same
    · exact absurd operator (apart op)
  have join := @kept Vocabulary.joinKey (by intro op; cases op <;> decide)
  have negation := @kept Vocabulary.notKey (by intro op; cases op <;> decide)
  simp only [evaluate, found, join, negation]

-- Equality is symmetric and transitive, and reflexive but for NaN; numbers are equal
-- when they are the same number exactly, whatever their kind. No condition tells equal
-- values apart, neither as the value it is about nor as operands.
theorem strictEquals_indiscernible :
    (∀ a b, strictEquals a b = strictEquals b a) ∧
    (∀ a b c, strictEquals a b = true → strictEquals b c = true → strictEquals a c = true) ∧
    (∀ a, strictEquals a a = true ↔ a ≠ .float .nan) ∧
    (∀ a b x y, a.number? = some x → b.number? = some y →
      (strictEquals a b = true ↔ ∃ point, x.point? = some point ∧ y.point? = some point)) ∧
    (∀ a b, strictEquals a b = true → ∀ descriptor, evaluate a descriptor = evaluate b descriptor) ∧
    ∀ descriptor other, OperandsReplaced descriptor other → ∀ v, evaluate v descriptor = evaluate v other := by
  refine ⟨?_, ?_, ?_, ?_, ?_, ?_⟩
  · intro a b
    rw [Bool.eq_iff_iff, strictEquals_iff, strictEquals_iff]
    simp only [and_comm]
  · intro a b c first second
    rw [(strictEquals_congr first c).1]
    exact second
  · intro a
    rw [strictEquals_iff, ne_eq, ← standing?_eq_none_iff, ← ne_eq, Option.ne_none_iff_exists']
    simp only [and_self]
  · intro a b x y left right
    simp [strictEquals, left, right, Number.eq_iff]
  · intro a b same descriptor
    exact evaluate_alike same descriptor
  · intro descriptor other replaced v
    exact evaluate_replaced replaced v

def oneFloat : Value := .float (.finite false 4503599627370496 (-52))

def oneOf (operand : Value) : Descriptor :=
  [(.text "$<=", operand), (.text "$in", .sequence .list 1 [.bool true, .text "1", oneFloat]), (.text "$not", .bool true)]

theorem one_indiscernible :
    strictEquals (.int 1) oneFloat = true ∧ strictEquals oneFloat (.int 1) = true ∧
    (∃ point, (Number.int 1).point? = some point ∧
      (Number.float (.finite false 4503599627370496 (-52))).point? = some point) ∧
    evaluate (.int 1) (oneOf (.int 2)) = evaluate oneFloat (oneOf (.int 2)) ∧
    evaluate oneFloat (oneOf (.int 2)) = false ∧
    OperandsReplaced (oneOf (.int 1)) (oneOf oneFloat) ∧
    evaluate (.bool true) (oneOf (.int 1)) = evaluate (.bool true) (oneOf oneFloat) ∧
    evaluate (.bool true) (oneOf oneFloat) = true := by
  obtain ⟨symmetric, _, _, exact, alike, replaced⟩ := strictEquals_indiscernible
  have same : strictEquals (.int 1) oneFloat = true := rfl
  have operand : OperandsReplaced (oneOf (.int 1)) (oneOf oneFloat) :=
    .cons ⟨rfl, .inr ⟨⟨.atMost, rfl⟩, same⟩⟩ (.cons ⟨rfl, .inl rfl⟩ (.cons ⟨rfl, .inl rfl⟩ .nil))
  exact ⟨same, (symmetric _ _).trans same, (exact _ _ _ _ rfl rfl).mp same, alike _ _ same _, rfl, operand,
    replaced _ _ operand _, rfl⟩

end Condition
end HtmlTemplate
