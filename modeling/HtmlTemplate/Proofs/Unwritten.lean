import HtmlTemplate.Value.Display
import HtmlTemplate.Value.Stringify
import Mathlib.Data.List.Forall2
namespace HtmlTemplate

section Outcome

variable {ε α β : Type} {f : α → Except ε β} {as : List α} {bs : List β}

theorem map_eq_ok {result : Except ε α} {f : α → β} {b : β} :
    result.map f = .ok b ↔ ∃ a, result = .ok a ∧ f a = b := by
  cases result <;> simp [Except.map]

theorem bind_eq_ok {result : Except ε α} {b : β} :
    (result >>= f) = .ok b ↔ ∃ a, result = .ok a ∧ f a = .ok b := by
  cases result <;> simp [Bind.bind, Except.bind]

theorem mapM_congr {g : α → Except ε β} (same : ∀ a ∈ as, f a = g a) : as.mapM f = as.mapM g := by
  induction as with
  | nil => rfl
  | cons a as ih =>
    have others := ih fun b member => same b (List.mem_cons_of_mem _ member)
    rw [List.mapM_cons, List.mapM_cons, same a List.mem_cons_self, others]

theorem mapM_of_ok {g : α → β} (each : ∀ a ∈ as, f a = .ok (g a)) : as.mapM f = .ok (as.map g) := by
  rw [mapM_congr each]
  exact List.mapM_pure

theorem mapM_eq_ok_iff : as.mapM f = .ok bs ↔ List.Forall₂ (fun a b => f a = .ok b) as bs := by
  induction as generalizing bs with
  | nil => simp [Pure.pure, Except.pure, eq_comm]
  | cons a as ih =>
    simp only [List.mapM_cons, bind_eq_ok, ih, List.forall₂_cons_left_iff, Pure.pure, Except.pure, Except.ok.injEq]
    grind

theorem forall₂_of_mapM {R : α → β → Prop} (ended : as.mapM f = .ok bs)
    (each : ∀ a ∈ as, ∀ b, f a = .ok b → R a b) : List.Forall₂ R as bs := by
  have both := (List.forall₂_and_left _ _).mpr ⟨each, mapM_eq_ok_iff.mp ended⟩
  exact both.imp fun a b known => known.1 b known.2

theorem exists_of_forall₂ {R : α → β → Prop} {a : α} (each : List.Forall₂ R as bs) (member : a ∈ as) :
    ∃ b ∈ bs, R a b := by
  induction each with
  | nil => cases member
  | @cons first b as bs head _ ih =>
    rcases List.mem_cons.mp member with rfl | later
    · exact ⟨b, List.mem_cons_self, head⟩
    · obtain ⟨other, inside, related⟩ := ih later
      exact ⟨other, List.mem_cons_of_mem _ inside, related⟩

end Outcome

theorem Digit.write_eq_ok_iff {n : Int} {s : List Char} :
    write n = .ok s ↔ isShort n = true ∧ s = Chars.signed n := by
  unfold write
  split
  · rename_i short
    simp [short, eq_comm]
  · rename_i long
    simp [long]

namespace Json

theorem write_eq_ok_iff {json : Json} {s : String} :
    json.write = .ok s ↔ json.isShort = true ∧ s = String.ofList json.chars := by
  unfold write
  split
  · rename_i short
    simp [short, eq_comm]
  · rename_i long
    simp [long]

theorem itemsShort_iff {items : List Json} : itemsShort items = true ↔ ∀ item ∈ items, item.isShort = true := by
  induction items with
  | nil => simp [itemsShort]
  | cons item items ih => simp [itemsShort, ih]

theorem membersShort_iff {members : List (String × Json)} :
    membersShort members = true ↔ ∀ m ∈ members, m.2.isShort = true := by
  induction members with
  | nil => simp [membersShort]
  | cons m members ih => simp [membersShort, ih]

end Json

namespace Value

mutual
def isShort : Value → Bool
  | .int n => Digit.isShort n
  | .sequence _ _ items => itemsShort items
  | .mapping _ entries => entriesShort entries
  | .null | .bool _ | .float _ | .text _ | .missing | .foreign _ _ | .enclosing _ => true
termination_by structural v => v
def itemsShort : List Value → Bool
  | [] => true
  | v :: vs => isShort v && itemsShort vs
termination_by structural vs => vs
def entriesShort : List (Value × Value) → Bool
  | [] => true
  | (key, v) :: es => isShort key && isShort v && entriesShort es
termination_by structural es => es
end

theorem itemsShort_iff {vs : List Value} : itemsShort vs = true ↔ ∀ v ∈ vs, v.isShort = true := by
  induction vs with
  | nil => simp [itemsShort]
  | cons v vs ih => simp [itemsShort, ih]

theorem entriesShort_iff {es : List (Value × Value)} :
    entriesShort es = true ↔ ∀ e ∈ es, e.1.isShort = true ∧ e.2.isShort = true := by
  induction es with
  | nil => simp [entriesShort]
  | cons e es ih => simp [entriesShort, ih, and_assoc]

inductive Holds (whole : Value) : Value → Prop where
  | whole : Holds whole whole
  | item : Holds whole v → v.items? = some items → item ∈ items → Holds whole item
  | key : Holds whole v → v.entries? = some entries → e ∈ entries → Holds whole e.1
  | content : Holds whole v → v.entries? = some entries → e ∈ entries → Holds whole e.2

theorem Holds.trans {whole v w : Value} (outer : Holds whole v) (inner : Holds v w) : Holds whole w := by
  induction inner with
  | whole => exact outer
  | item _ found member ih => exact .item ih found member
  | key _ found member ih => exact .key ih found member
  | content _ found member ih => exact .content ih found member

section Parts

mutual
theorem isShort_close {whole : Value} (short : whole.isShort = true) (level : Nat) :
    ∀ {v : Value}, v.isShort = true → (close whole level v).isShort = true
  | .sequence _ _ items, known => by
    simp only [close, isShort] at known ⊢
    exact itemsShort_close short (level + 1) known
  | .mapping _ entries, known => by
    simp only [close, isShort] at known ⊢
    exact entriesShort_close short (level + 1) known
  | .enclosing up, _ => by
    rw [close]
    split
    · exact short
    · rfl
  | .int n, known => known
  | .null, _ | .bool _, _ | .float _, _ | .text _, _ | .missing, _ | .foreign _ _, _ => rfl
theorem itemsShort_close {whole : Value} (short : whole.isShort = true) (level : Nat) :
    ∀ {vs : List Value}, itemsShort vs = true → itemsShort (closeItems whole level vs) = true
  | [], _ => rfl
  | v :: vs, known => by
    simp only [closeItems, itemsShort, Bool.and_eq_true] at known ⊢
    exact ⟨isShort_close short level known.1, itemsShort_close short level known.2⟩
theorem entriesShort_close {whole : Value} (short : whole.isShort = true) (level : Nat) :
    ∀ {es : List (Value × Value)}, entriesShort es = true → entriesShort (closeEntries whole level es) = true
  | [], _ => rfl
  | (key, v) :: es, known => by
    simp only [closeEntries, entriesShort, Bool.and_eq_true] at known ⊢
    exact ⟨⟨known.1.1, isShort_close short level known.1.2⟩, entriesShort_close short level known.2⟩
end

variable {v w : Value}

theorem isShort_items {items : List Value} (short : v.isShort = true) (found : v.items? = some items) :
    ∀ item ∈ items, item.isShort = true := by
  cases v <;> cases found
  exact itemsShort_iff.mp (itemsShort_close short 1 short)

theorem isShort_entries {entries : List (Value × Value)} (short : v.isShort = true)
    (found : v.entries? = some entries) : ∀ e ∈ entries, e.1.isShort = true ∧ e.2.isShort = true := by
  cases v <;> cases found
  exact entriesShort_iff.mp (entriesShort_close short 1 short)

theorem isShort_of_holds (short : v.isShort = true) (held : Holds v w) : w.isShort = true := by
  induction held with
  | whole => exact short
  | item _ found member ih => exact isShort_items ih found _ member
  | key _ found member ih => exact (isShort_entries ih found _ member).1
  | content _ found member ih => exact (isShort_entries ih found _ member).2

end Parts

-- The result, if there is one, has a property; else something goes too deep. So no
-- integer keeps it from being written.
def Within {α : Type} (good : α → Prop) : Except Unwritten α → Prop
  | .ok a => good a
  | .error reason => reason = .tooDeep

section Within

variable {α β : Type} {good : α → Prop} {fine : β → Prop} {result : Except Unwritten α}

theorem Within.bind {next : α → Except Unwritten β} (first : Within good result)
    (second : ∀ a, good a → Within fine (next a)) : Within fine (result >>= next) := by
  cases result with
  | ok a => exact second a first
  | error reason => exact first

theorem Within.map {f : α → β} (known : Within good result) (each : ∀ a, good a → fine (f a)) :
    Within fine (result.map f) := by
  cases result with
  | ok a => exact each a known
  | error reason => exact known

theorem Within.ne (known : Within good result) : result ≠ .error .tooLong := by
  rintro rfl
  cases known

theorem within_write {n : Int} (short : Digit.isShort n = true) : Within (fun _ => True) (Digit.write n) := by
  rw [Digit.write, if_pos short]
  trivial

end Within

section Text

theorem membersShort_put {members : List (String × Json)} {name : String} {item : Json}
    (known : Json.membersShort members = true) (short : item.isShort = true) :
    Json.membersShort (Json.put members name item) = true := by
  induction members with
  | nil => simp [Json.put, Json.membersShort, short]
  | cons m members ih =>
    obtain ⟨other, was⟩ := m
    simp only [Json.membersShort, Bool.and_eq_true] at known
    rw [Json.put]
    split
    · simp [Json.membersShort, short, known.2]
    · simp [Json.membersShort, known.1, ih known.2]

theorem isShort_ofMembers {members : List (String × Json)} (known : Json.membersShort members = true) :
    (Json.ofMembers members).isShort = true := by
  have collected (before : List (String × Json)) (short : Json.membersShort before = true) :
      Json.membersShort (members.foldl (fun ms m => Json.put ms m.1 m.2) before) = true := by
    induction members generalizing before with
    | nil => exact short
    | cons m members ih =>
      simp only [Json.membersShort, Bool.and_eq_true] at known
      exact ih known.2 _ (membersShort_put short known.1)
  exact collected [] rfl

theorem within_spell {v : Value} {copy : Except Unwritten Json} (short : v.isShort = true)
    (known : Within (·.isShort = true) copy) : ∃ text, v.spell copy = .ok text := by
  cases v with
  | int n => exact ⟨_, congrArg (Except.map String.ofList) (if_pos short)⟩
  | sequence | mapping | enclosing =>
    rw [spell]
    cases copy with
    | ok json => exact ⟨_, if_pos known⟩
    | error reason =>
      cases known
      exact ⟨_, rfl⟩
  | _ => exact ⟨_, rfl⟩

mutual
theorem within_toJson : ∀ {v : Value}, v.isShort = true → ∀ (room : Nat) (active : List Nat),
    Within (·.isShort = true) (toJson room active v)
  | .sequence _ identity items, short, room, active => by
    cases room <;> rw [toJson] <;> split
    · rfl
    · rfl
    · rfl
    · exact (within_itemsToJson short _ (identity :: active)).map fun _ => id
  | .mapping identity entries, short, room, active => by
    cases room <;> rw [toJson] <;> split
    · rfl
    · rfl
    · rfl
    · exact (within_entriesToJson short _ (identity :: active)).map fun _ => isShort_ofMembers
  | .int n, short, _, _ => short
  | .null, _, _, _ | .bool _, _, _, _ | .float _, _, _, _ | .text _, _, _, _ | .missing, _, _, _
  | .foreign _ _, _, _, _ | .enclosing _, _, _, _ => rfl
theorem within_itemsToJson : ∀ {vs : List Value}, itemsShort vs = true → ∀ (room : Nat) (active : List Nat),
    Within (Json.itemsShort · = true) (itemsToJson room active vs)
  | [], _, _, _ => rfl
  | v :: vs, short, room, active => by
    simp only [itemsShort, Bool.and_eq_true] at short
    refine (within_toJson short.1 room active).bind fun json written => ?_
    refine (within_itemsToJson short.2 room active).bind fun jsons others => ?_
    simp [Within, Pure.pure, Except.pure, Json.itemsShort, written, others]
theorem within_entriesToJson : ∀ {es : List (Value × Value)}, entriesShort es = true →
    ∀ (room : Nat) (active : List Nat), Within (Json.membersShort · = true) (entriesToJson room active es)
  | [], _, _, _ => rfl
  | (key, v) :: es, short, room, active => by
    simp only [entriesShort, Bool.and_eq_true] at short
    obtain ⟨name, spelled⟩ := within_spell short.1.1 (within_toJson short.1.1 room [])
    rw [entriesToJson, spelled]
    refine (within_toJson short.1.2 room active).bind fun json written => ?_
    refine (within_entriesToJson short.2 room active).bind fun members others => ?_
    simp [Within, Pure.pure, Except.pure, Json.membersShort, written, others]
end

theorem writeCopy_ne (copy : Except Unwritten Json) : writeCopy copy ≠ .error .tooDeep := by
  unfold writeCopy
  split
  · rename_i json
    unfold Json.write
    split <;> nofun
  · nofun
  · nofun

theorem spell_ne (v : Value) (copy : Except Unwritten Json) : v.spell copy ≠ .error .tooDeep := by
  cases v with
  | int n =>
    rw [spell, Digit.write]
    split <;> nofun
  | sequence | mapping | enclosing => exact writeCopy_ne copy
  | _ => nofun

theorem spell_eq_error {v : Value} {room : Nat} {active : List Nat} {reason : Unwritten}
    (failed : v.spell (v.toJson room active) = .error reason) : reason = .tooLong ∧ v.isShort = false := by
  constructor
  · cases reason with
    | tooLong => rfl
    | tooDeep => exact absurd failed (spell_ne v _)
  · rw [← Bool.not_eq_true]
    intro short
    obtain ⟨text, written⟩ := within_spell short (within_toJson short room active)
    cases written.symm.trans failed

theorem stringify_eq_error [Stack] {v : Value} {reason : Unwritten} (failed : v.stringify = .error reason) :
    reason = .tooLong ∧ v.isShort = false := spell_eq_error failed

end Text

section Notation

mutual
theorem within_inspectIn : ∀ {v : Value}, v.isShort = true → ∀ (room : Nat) (active : List (Nat × List Char)),
    Within (fun _ => True) (inspectIn room active v)
  | .sequence shape identity items, short, room, active => by
    cases room <;> rw [inspectIn] <;> split
    · trivial
    · rfl
    · trivial
    · exact (within_inspectItems short _ _).map fun _ => id
  | .mapping identity entries, short, room, active => by
    cases room <;> rw [inspectIn] <;> split
    · trivial
    · rfl
    · trivial
    · exact (within_inspectEntries short _ _).map fun _ => id
  | .int n, short, _, _ => within_write short
  | .null, _, _, _ | .bool _, _, _, _ | .float _, _, _, _ | .text _, _, _, _ | .missing, _, _, _
  | .foreign _ _, _, _, _ | .enclosing _, _, _, _ => trivial
theorem within_inspectItems : ∀ {vs : List Value}, itemsShort vs = true →
    ∀ (room : Nat) (active : List (Nat × List Char)), Within (fun _ => True) (inspectItems room active vs)
  | [], _, _, _ => trivial
  | v :: vs, short, room, active => by
    simp only [itemsShort, Bool.and_eq_true] at short
    refine (within_inspectIn short.1 room active).bind fun _ _ => ?_
    exact (within_inspectItems short.2 room active).bind fun _ _ => trivial
theorem within_inspectEntries : ∀ {es : List (Value × Value)}, entriesShort es = true →
    ∀ (room : Nat) (active : List (Nat × List Char)), Within (fun _ => True) (inspectEntries room active es)
  | [], _, _, _ => trivial
  | (key, v) :: es, short, room, active => by
    simp only [entriesShort, Bool.and_eq_true] at short
    refine (within_inspectIn short.1.1 room active).bind fun _ _ => ?_
    refine (within_inspectIn short.1.2 room active).bind fun _ _ => ?_
    exact (within_inspectEntries short.2 room active).bind fun _ _ => trivial
end

theorem inspect_ne [Stack] {v : Value} (short : v.isShort = true) : v.inspect ≠ .error .tooLong := by
  have known : Within (fun _ => True) v.inspect := (within_inspectIn short _ _).map fun _ => id
  exact known.ne

end Notation
end Value
end HtmlTemplate
