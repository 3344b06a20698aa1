import HtmlTemplate.Proofs.Containers
import Mathlib.Data.Fintype.Card
namespace HtmlTemplate

-- Data as it lies in memory: finitely many containers, each at an address of its own.
-- A container holds plain values and containers; it may be held in several places,
-- and by itself.
namespace Memory

inductive Slot (ι : Type) where
  | plain (v : { v : Value // v.isPlain = true })
  | container (object : ι)

inductive Container (ι : Type) where
  | sequence (shape : Shape) (slots : List (Slot ι))
  | mapping (entries : List (Value × Slot ι))

namespace Container

variable {ι : Type}

def slots : Container ι → List (Slot ι)
  | .sequence _ slots => slots
  | .mapping entries => entries.map (·.2)

def keys : Container ι → List Value
  | .sequence _ _ => []
  | .mapping entries => entries.map (·.1)

end Container
end Memory

open Memory (Slot Container)

structure Memory (ι : Type) where
  container : ι → Container ι
  address : ι → Nat
  apart : Function.Injective address

namespace Memory

variable {ι : Type} (memory : Memory ι)

-- Which values stand for which slots. `around` are the containers around the slot, the
-- innermost first; a value refers to one of them by counting.
mutual
def Stands (around : List ι) : Value → Slot ι → Prop
  | .sequence shape identity vs, .container object =>
    identity = memory.address object ∧
      ∃ slots, memory.container object = .sequence shape slots ∧ StandAll (object :: around) vs slots
  | .mapping identity es, .container object =>
    identity = memory.address object ∧
      ∃ entries, memory.container object = .mapping entries ∧ StandEntries (object :: around) es entries
  | .enclosing up, .container object => ∃ n, up = n + 1 ∧ around[n]? = some object
  | v, .plain w => v = w.1
  | _, .container _ => False
termination_by structural v => v
def StandAll (around : List ι) : List Value → List (Slot ι) → Prop
  | [], [] => True
  | v :: vs, slot :: slots => Stands around v slot ∧ StandAll around vs slots
  | _, _ => False
termination_by structural vs => vs
def StandEntries (around : List ι) : List (Value × Value) → List (Value × Slot ι) → Prop
  | [], [] => True
  | (key, v) :: es, (other, slot) :: entries => key = other ∧ Stands around v slot ∧ StandEntries around es entries
  | _, _ => False
termination_by structural es => es
end

variable {memory : Memory ι} {around others : List ι} {v w : Value} {slot : Slot ι} {object : ι}

theorem standAll_iff {vs : List Value} {slots : List (Slot ι)} :
    StandAll memory around vs slots ↔ List.Forall₂ (Stands memory around) vs slots := by
  induction vs generalizing slots with
  | nil => cases slots <;> simp [StandAll]
  | cons v vs ih => cases slots <;> simp [StandAll, ih]

theorem standEntries_iff {es : List (Value × Value)} {entries : List (Value × Slot ι)} :
    StandEntries memory around es entries ↔
      List.Forall₂ (fun e f => e.1 = f.1 ∧ Stands memory around e.2 f.2) es entries := by
  induction es generalizing entries with
  | nil => cases entries <;> simp [StandEntries]
  | cons e es ih => cases entries <;> simp [StandEntries, ih, and_assoc]

theorem stands_plain {w : { v : Value // v.isPlain = true }} : Stands memory around v (.plain w) ↔ v = w.1 := by
  cases v <;> simp [Stands]

theorem not_stands_of_isPlain (plain : v.isPlain = true) : ¬Stands memory around v (.container object) := by
  cases v <;> first | exact id | cases plain

theorem standAll_map {f : Value → Value} {vs : List Value} {slots : List (Slot ι)}
    (each : ∀ v ∈ vs, ∀ slot, Stands memory around v slot → Stands memory others (f v) slot)
    (all : StandAll memory around vs slots) : StandAll memory others (vs.map f) slots := by
  rw [standAll_iff, List.forall₂_map_left_iff]
  have known := (List.forall₂_and_left _ _).mpr ⟨each, standAll_iff.mp all⟩
  exact known.imp fun v slot pair => pair.1 slot pair.2

theorem standEntries_map {f : Value → Value} {es : List (Value × Value)} {entries : List (Value × Slot ι)}
    (each : ∀ e ∈ es, ∀ slot, Stands memory around e.2 slot → Stands memory others (f e.2) slot)
    (all : StandEntries memory around es entries) :
    StandEntries memory others (es.map fun e => (e.1, f e.2)) entries := by
  rw [standEntries_iff, List.forall₂_map_left_iff]
  have known := (List.forall₂_and_left _ _).mpr ⟨each, standEntries_iff.mp all⟩
  exact known.imp fun e entry pair => ⟨pair.2.1, pair.1 entry.2 pair.2.2⟩

theorem stands_weaken (stands : Stands memory around v slot) (more : List ι) :
    Stands memory (around ++ more) v slot := by
  induction v using Value.by_containers generalizing around slot with
  | sequence shape identity items ih =>
    cases slot with
    | plain w => exact stands_plain.mpr (stands_plain.mp stands)
    | container object =>
      obtain ⟨same, slots, found, all⟩ := stands
      have inner : StandAll memory (object :: (around ++ more)) (items.map id) slots :=
        standAll_map (fun v member slot known => ih v member known) all
      exact ⟨same, slots, found, by rwa [List.map_id] at inner⟩
  | mapping identity entries ih =>
    cases slot with
    | plain w => exact stands_plain.mpr (stands_plain.mp stands)
    | container object =>
      obtain ⟨same, others, found, all⟩ := stands
      have inner : StandEntries memory (object :: (around ++ more)) (entries.map fun e => (e.1, id e.2)) others :=
        standEntries_map (fun e member slot known => ih e member known) all
      exact ⟨same, others, found, by simpa using inner⟩
  | enclosing up =>
    cases slot with
    | plain w => exact stands_plain.mpr (stands_plain.mp stands)
    | container object =>
      obtain ⟨n, same, found⟩ := stands
      obtain ⟨within, _⟩ := List.getElem?_eq_some_iff.mp found
      exact ⟨n, same, by rwa [List.getElem?_append_left within]⟩
  | plain v plain =>
    cases slot with
    | plain w => exact stands_plain.mpr (stands_plain.mp stands)
    | container object => exact absurd stands (not_stands_of_isPlain plain)

theorem stands_close (whole : Stands memory [] v (.container object)) (stands : Stands memory (around ++ [object]) w slot) :
    Stands memory around (Value.close v (around.length + 1) w) slot := by
  induction w using Value.by_containers generalizing around slot with
  | sequence shape identity items ih =>
    cases slot with
    | plain w => exact absurd (stands_plain.mp stands ▸ w.2) nofun
    | container other =>
      obtain ⟨same, slots, found, all⟩ := stands
      refine ⟨same, slots, found, ?_⟩
      rw [Value.closeItems_eq]
      exact standAll_map (fun v member slot known => @ih v member (other :: around) slot known) all
  | mapping identity entries ih =>
    cases slot with
    | plain w => exact absurd (stands_plain.mp stands ▸ w.2) nofun
    | container other =>
      obtain ⟨same, others, found, all⟩ := stands
      refine ⟨same, others, found, ?_⟩
      rw [Value.closeEntries_eq]
      exact standEntries_map (fun e member slot known => @ih e member (other :: around) slot known) all
  | enclosing up =>
    cases slot with
    | plain w => exact absurd (stands_plain.mp stands ▸ w.2) nofun
    | container other =>
      obtain ⟨n, rfl, found⟩ := stands
      rw [Value.close]
      split
      · rename_i here
        obtain rfl : n = around.length := by omega
        simp only [List.getElem?_concat_length, Option.some.injEq] at found
        exact found ▸ stands_weaken whole around
      · rename_i further
        have within : n < around.length := by
          obtain ⟨bound, _⟩ := List.getElem?_eq_some_iff.mp found
          simp only [List.length_append, List.length_singleton] at bound
          omega
        exact ⟨n, rfl, by rwa [List.getElem?_append_left within] at found⟩
  | plain w plain =>
    rw [Value.close_plain plain]
    cases slot with
    | plain w => exact stands_plain.mpr (stands_plain.mp stands)
    | container object => exact absurd stands (not_stands_of_isPlain plain)

inductive Matches (memory : Memory ι) (v : Value) (object : ι) : Prop where
  | sequence {shape : Shape} {slots : List (Slot ι)} {vs : List Value} :
      memory.container object = .sequence shape slots → v.identity? = some (memory.address object) →
      List.Forall₂ (Stands memory []) vs slots →
      (∀ room active, memory.address object ∉ active →
        v.toJson (room + 1) active = (vs.mapM (Value.toJson room (memory.address object :: active))).map .array) →
      Matches memory v object
  | mapping {entries : List (Value × Slot ι)} {es : List (Value × Value)} :
      memory.container object = .mapping entries → v.identity? = some (memory.address object) →
      List.Forall₂ (fun e f => e.1 = f.1 ∧ Stands memory [] e.2 f.2) es entries →
      (∀ room active, memory.address object ∉ active →
        v.toJson (room + 1) active =
          (es.mapM (Value.member room (memory.address object :: active))).map .ofMembers) →
      Matches memory v object

theorem matches_of_stands (stands : Stands memory [] v (.container object)) : Matches memory v object := by
  have whole := stands
  cases v with
  | sequence shape identity items =>
    obtain ⟨rfl, slots, found, all⟩ := stands
    have closed : StandAll memory [] (items.map (Value.close (.sequence shape _ items) 1)) slots :=
      standAll_map (fun w _ slot known => stands_close whole known) all
    refine .sequence found rfl (standAll_iff.mp closed) fun room active fresh => ?_
    rw [Value.toJson_sequence fresh, List.mapM_map]
    exact congrArg _ (mapM_congr fun w _ => (Value.toJson_close rfl List.mem_cons_self room 1 w).symm)
  | mapping identity es =>
    obtain ⟨rfl, entries, found, all⟩ := stands
    have closed : StandEntries memory [] (es.map fun e => (e.1, Value.close (.mapping _ es) 1 e.2)) entries :=
      standEntries_map (fun e _ slot known => stands_close whole known) all
    refine .mapping found rfl (standEntries_iff.mp closed) fun room active fresh => ?_
    rw [Value.toJson_mapping fresh, List.mapM_map]
    exact congrArg _ (mapM_congr fun e _ => (Value.member_close rfl List.mem_cons_self room 1 e).symm)
  | enclosing up =>
    obtain ⟨n, _, found⟩ := stands
    cases found
  | _ => exact stands.elim

def enclosing (memory : Memory ι) (around : List ι) : Finset Nat := (around.map memory.address).toFinset

theorem mem_enclosing : memory.address object ∈ enclosing memory around ↔ object ∈ around := by
  rw [enclosing, List.mem_toFinset, List.mem_map_of_injective memory.apart]

theorem enclosing_cons : enclosing memory (object :: around) =
    insert (memory.address object) (enclosing memory around) := by
  rw [enclosing, List.map_cons, List.toFinset_cons, enclosing]

section Finite

variable [Fintype ι]

-- How many containers are not active. This is what gets less on the way down; the size
-- of a value does not.
def left (memory : Memory ι) (active : Finset Nat) : Nat :=
  (Finset.univ.filter fun object => memory.address object ∉ active).card

theorem left_insert {active : Finset Nat} (fresh : memory.address object ∉ active) :
    left memory (insert (memory.address object) active) + 1 = left memory active := by
  classical
  have without : (Finset.univ.filter fun other => memory.address other ∉ insert (memory.address object) active) =
      (Finset.univ.filter fun other => memory.address other ∉ active).erase object := by
    ext other
    simp [memory.apart.eq_iff]
  rw [left, left, without, Finset.card_erase_add_one (by simp [fresh])]

theorem left_within (memory : Memory ι) (outside : object ∉ around) :
    left memory (enclosing memory (object :: around)) + 1 = left memory (enclosing memory around) := by
  rw [enclosing_cons]
  exact left_insert (mt mem_enclosing.mp outside)

-- Every slot has a value: containers are written out on the way down, up to where one
-- is met again. The induction is on the containers that are not around yet.
theorem exists_stands (memory : Memory ι) (around : List ι) (slot : Slot ι) :
    ∃ v, Stands memory around v slot := by
  induction bound : left memory (enclosing memory around) using Nat.strong_induction_on generalizing around slot with
  | _ n ih =>
    cases slot with
    | plain w => exact ⟨w.1, stands_plain.mpr rfl⟩
    | container object =>
      by_cases inside : object ∈ around
      · obtain ⟨n, found⟩ := List.mem_iff_getElem?.mp inside
        exact ⟨.enclosing (n + 1), n, rfl, found⟩
      · have fewer : left memory (enclosing memory (object :: around)) < n := by
          have := left_within memory inside
          omega
        choose value stands using fun slot => ih _ fewer (object :: around) slot rfl
        cases found : memory.container object with
        | sequence shape slots =>
          refine ⟨.sequence shape (memory.address object) (slots.map value), rfl, slots, found, ?_⟩
          rw [standAll_iff, List.forall₂_map_left_iff]
          exact List.forall₂_same.mpr fun slot _ => stands slot
        | mapping entries =>
          refine ⟨.mapping (memory.address object) (entries.map fun e => (e.1, value e.2)), rfl, entries, found, ?_⟩
          rw [standEntries_iff, List.forall₂_map_left_iff]
          exact List.forall₂_same.mpr fun e _ => ⟨rfl, stands e.2⟩

end Finite
end Memory
end HtmlTemplate
