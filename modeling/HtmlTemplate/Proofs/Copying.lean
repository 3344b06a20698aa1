import HtmlTemplate.Proofs.Memory
import HtmlTemplate.Proofs.Unwritten
namespace HtmlTemplate.Memory

variable {ι α β : Type}

-- Copying as it goes through memory, one part after another. A copy comes with the
-- addresses that are active after it, also when it breaks off.
def copyAll (copied : α → Finset Nat → Except Unwritten β × Finset Nat) :
    List α → Finset Nat → Except Unwritten (List β) × Finset Nat
  | [], active => (.ok [], active)
  | part :: parts, active =>
    match copied part active with
    | (.error reason, after) => (.error reason, after)
    | (.ok first, after) =>
      let others := copyAll copied parts after
      (others.1.map (first :: ·), others.2)

def copyMember (room : Nat) (copied : Slot ι → Finset Nat → Except Unwritten Json × Finset Nat)
    (entry : Value × Slot ι) (active : Finset Nat) : Except Unwritten (String × Json) × Finset Nat :=
  match entry.1.name room with
  | .error reason => (.error reason, active)
  | .ok name =>
    let content := copied entry.2 active
    (content.1.map (Prod.mk name), content.2)

def copyHeld (room : Nat) (copied : Slot ι → Finset Nat → Except Unwritten Json × Finset Nat) :
    Container ι → Finset Nat → Except Unwritten Json × Finset Nat
  | .sequence _ slots, active =>
    let items := copyAll copied slots active
    (items.1.map .array, items.2)
  | .mapping entries, active =>
    let members := copyAll (copyMember room copied) entries active
    (members.1.map .ofMembers, members.2)

def copy (memory : Memory ι) (room : Nat) (slot : Slot ι) (active : Finset Nat) :
    Except Unwritten Json × Finset Nat :=
  match slot with
  | .plain v => (v.1.toJson 0 [], active)
  | .container object =>
    if memory.address object ∈ active then (.ok Value.circular, active)
    else
      match room with
      | 0 => (.error .tooDeep, active)
      | room + 1 =>
        let held := copyHeld room (copy memory room) (memory.container object) (insert (memory.address object) active)
        (held.1, held.2.erase (memory.address object))

variable {memory : Memory ι} {slot : Slot ι} {active : Finset Nat} {known : List Nat} {room : Nat}
  {object root : ι} {around : List ι} {v : Value} {reason : Unwritten} {json : Json}

section Parts

variable {copied : α → Finset Nat → Except Unwritten β × Finset Nat} {parts : List α}

theorem copyAll_restores (each : ∀ part active, (copied part active).2 = active) :
    (copyAll copied parts active).2 = active := by
  induction parts with
  | nil => rfl
  | cons part parts ih =>
    have kept := each part active
    rw [copyAll]
    split
    · rename_i reason after found
      rwa [found] at kept
    · rename_i first after found
      obtain rfl : after = active := by rwa [found] at kept
      exact ih

theorem copyAll_of_values {f : γ → Except Unwritten β} {values : List γ}
    (each : List.Forall₂ (fun value part => copied part active = (f value, active)) values parts) :
    (copyAll copied parts active).1 = values.mapM f := by
  induction each with
  | nil => rfl
  | @cons value part values parts first others ih =>
    rw [copyAll, first, List.mapM_cons]
    cases f value with
    | error reason => rfl
    | ok result =>
      simp only [ih]
      cases values.mapM f <;> rfl

variable (each : ∀ part active, (copied part active).2 = active)
include each

theorem copyAll_ok {results : List β} (ended : (copyAll copied parts active).1 = .ok results) :
    List.Forall₂ (fun part result => copied part active = (.ok result, active)) parts results := by
  induction parts generalizing results with
  | nil =>
    cases ended
    exact .nil
  | cons part parts ih =>
    have kept := each part active
    rw [copyAll] at ended
    split at ended
    · cases ended
    · rename_i first after found
      obtain rfl : after = active := by rwa [found] at kept
      cases rest : (copyAll copied parts after).1 with
      | error reason => simp [rest, Except.map] at ended
      | ok others =>
        simp only [rest, Except.map, Except.ok.injEq] at ended
        exact ended ▸ .cons found (ih rest)

theorem copyAll_error (ended : (copyAll copied parts active).1 = .error reason) :
    ∃ part ∈ parts, (copied part active).1 = .error reason := by
  induction parts with
  | nil => cases ended
  | cons part parts ih =>
    have kept := each part active
    rw [copyAll] at ended
    split at ended
    · rename_i after found
      cases ended
      exact ⟨part, List.mem_cons_self, by rw [found]⟩
    · rename_i first after found
      obtain rfl : after = active := by rwa [found] at kept
      cases rest : (copyAll copied parts after).1 with
      | ok others => simp [rest, Except.map] at ended
      | error other =>
        simp only [rest, Except.map, Except.error.injEq] at ended
        obtain ⟨failed, member, broken⟩ := ih (ended ▸ rest)
        exact ⟨failed, List.mem_cons_of_mem _ member, broken⟩

end Parts

section Held

variable {copied : Slot ι → Finset Nat → Except Unwritten Json × Finset Nat}

theorem copyMember_restores (each : ∀ slot active, (copied slot active).2 = active) (entry : Value × Slot ι)
    (active : Finset Nat) : (copyMember room copied entry active).2 = active := by
  unfold copyMember
  split
  · rfl
  · exact each entry.2 active

theorem copyHeld_restores (each : ∀ slot active, (copied slot active).2 = active) (container : Container ι)
    (active : Finset Nat) : (copyHeld room copied container active).2 = active := by
  cases container with
  | sequence shape slots => exact copyAll_restores each
  | mapping entries => exact copyAll_restores (copyMember_restores each)

theorem copyMember_of_value {e : Value × Value} {entry : Value × Slot ι} (same : e.1 = entry.1)
    (content : copied entry.2 active = (e.2.toJson room known, active)) :
    copyMember room copied entry active = (Value.member room known e, active) := by
  rw [copyMember, Value.member, same, content]
  cases entry.1.name room with
  | error reason => rfl
  | ok name => cases e.2.toJson room known <;> rfl

theorem copyMember_ok {entry : Value × Slot ι} {m : String × Json}
    (ended : copyMember room copied entry active = (.ok m, active)) :
    entry.1.name room = .ok m.1 ∧ copied entry.2 active = (.ok m.2, active) := by
  unfold copyMember at ended
  split at ended
  · cases ended
  · rename_i name named
    cases content : copied entry.2 active with
    | mk result after =>
      cases result with
      | error reason => simp [content, Except.map] at ended
      | ok json =>
        simp only [content, Except.map, Prod.mk.injEq, Except.ok.injEq] at ended
        obtain ⟨rfl, rfl⟩ := ended
        exact ⟨named, rfl⟩

theorem copyMember_error {entry : Value × Slot ι} (ended : (copyMember room copied entry active).1 = .error reason) :
    entry.1.name room = .error reason ∨ (copied entry.2 active).1 = .error reason := by
  unfold copyMember at ended
  split at ended
  · rename_i named
    cases ended
    exact .inl named
  · cases content : (copied entry.2 active).1 with
    | ok json => simp [content, Except.map] at ended
    | error other =>
      simp only [content, Except.map, Except.error.injEq] at ended
      exact .inr (congrArg _ ended)

end Held

theorem copy_plain (w : { v : Value // v.isPlain = true }) :
    copy memory room (.plain w) active = (w.1.toJson 0 [], active) := by
  cases room <;> rfl

theorem copy_active (inside : memory.address object ∈ active) :
    copy memory room (.container object) active = (.ok Value.circular, active) := by
  cases room <;> exact if_pos inside

theorem copy_zero (fresh : memory.address object ∉ active) :
    copy memory 0 (.container object) active = (.error .tooDeep, active) := if_neg fresh

@[elab_as_elim]
theorem by_copies (memory : Memory ι) {motive : Nat → Slot ι → Finset Nat → Prop}
    (plain : ∀ room w active, motive room (.plain w) active)
    (cut : ∀ room object active, memory.address object ∈ active → motive room (.container object) active)
    (spent : ∀ object active, memory.address object ∉ active → motive 0 (.container object) active)
    (full : ∀ room object active, memory.address object ∉ active → (∀ slot active, motive room slot active) →
      motive (room + 1) (.container object) active) :
    ∀ room slot active, motive room slot active
  | room, .plain w, active => plain room w active
  | room, .container object, active => by
    by_cases inside : memory.address object ∈ active
    · exact cut room object active inside
    · cases room with
      | zero => exact spent object active inside
      | succ room => exact full room object active inside (by_copies memory plain cut spent full room)

theorem copy_restores (memory : Memory ι) (room : Nat) (slot : Slot ι) (active : Finset Nat) :
    (copy memory room slot active).2 = active := by
  induction room, slot, active using by_copies memory with
  | plain room w active => rw [copy_plain]
  | cut room object active inside => rw [copy_active inside]
  | spent object active fresh => rw [copy_zero fresh]
  | full room object active fresh ih =>
    rw [copy, if_neg fresh]
    simp only [copyHeld_restores ih, Finset.erase_insert fresh]

theorem copy_succ (fresh : memory.address object ∉ active) :
    copy memory (room + 1) (.container object) active =
      ((copyHeld room (copy memory room) (memory.container object) (insert (memory.address object) active)).1,
        active) := by
  apply Prod.ext
  · rw [copy, if_neg fresh]
  · exact copy_restores ..

theorem copy_of_stands (stands : Stands memory [] v slot) (same : active = known.toFinset) :
    copy memory room slot active = (v.toJson room known, active) := by
  induction room, slot, active using by_copies memory generalizing v known with
  | plain room w active =>
    obtain rfl := stands_plain.mp stands
    rw [copy_plain, Value.toJson_plain w.2 room known]
  | cut room object active inside =>
    have listed : memory.address object ∈ known := by simpa [same] using inside
    rw [copy_active inside]
    cases matches_of_stands stands with
    | sequence _ identity | mapping _ identity => rw [Value.toJson_of_active identity listed]
  | spent object active fresh =>
    have unlisted : memory.address object ∉ known := by simpa [same] using fresh
    rw [copy_zero fresh]
    cases matches_of_stands stands with
    | sequence _ identity | mapping _ identity => rw [Value.toJson_of_spent identity unlisted]
  | full room object active fresh ih =>
    have unlisted : memory.address object ∉ known := by simpa [same] using fresh
    have inner : insert (memory.address object) active = (memory.address object :: known).toFinset := by simp [same]
    rw [copy_succ fresh]
    cases matches_of_stands stands with
    | sequence found _ held json =>
      have each := held.imp fun w slot stands => ih slot _ stands inner
      rw [json room known unlisted, found, copyHeld, ← copyAll_of_values each]
    | mapping found _ held json =>
      have each := held.imp fun e entry pair => copyMember_of_value pair.1 (ih entry.2 _ pair.2 inner)
      rw [json room known unlisted, found, copyHeld, ← copyAll_of_values each]

def HasLongKey (memory : Memory ι) : Prop := ∃ object, ∃ key ∈ (memory.container object).keys, key.isShort = false

section Finite

variable [Fintype ι]

-- With room for every container that is not active a copy can only break off at a key.
theorem copy_error (enough : left memory active ≤ room) (ended : (copy memory room slot active).1 = .error reason) :
    reason = .tooLong ∧ HasLongKey memory := by
  induction room, slot, active using by_copies memory with
  | plain room w active =>
    rw [copy_plain] at ended
    exact absurd ended (Value.toJson_plain_ne w.2)
  | cut room object active inside =>
    rw [copy_active inside] at ended
    cases ended
  | spent object active fresh =>
    have some := left_insert fresh
    omega
  | full room object active fresh ih =>
    have fewer := left_insert fresh
    have inner (slot : Slot ι)
        (broken : (copy memory room slot (insert (memory.address object) active)).1 = .error reason) :
        reason = .tooLong ∧ HasLongKey memory := ih slot _ (by omega) broken
    rw [copy_succ fresh] at ended
    cases found : memory.container object with
    | sequence shape slots =>
      rw [found, copyHeld] at ended
      cases items : (copyAll (copy memory room) slots (insert (memory.address object) active)).1 with
      | ok jsons => simp [items, Except.map] at ended
      | error other =>
        simp only [items, Except.map, Except.error.injEq] at ended
        obtain ⟨slot, _, broken⟩ := copyAll_error (copy_restores memory room) (ended ▸ items)
        exact inner slot broken
    | mapping entries =>
      rw [found, copyHeld] at ended
      cases members : (copyAll (copyMember room (copy memory room)) entries
          (insert (memory.address object) active)).1 with
      | ok jsons => simp [members, Except.map] at ended
      | error other =>
        simp only [members, Except.map, Except.error.injEq] at ended
        obtain ⟨entry, listed, broken⟩ :=
          copyAll_error (copyMember_restores (copy_restores memory room)) (ended ▸ members)
        rcases copyMember_error broken with unnamed | broken
        · obtain ⟨long, key⟩ := Value.spell_eq_error unnamed
          exact ⟨long, object, entry.1, by rw [found]; exact List.mem_map_of_mem listed, key⟩
        · exact inner entry.2 broken

theorem left_enclosing (memory : Memory ι) (distinct : around.Nodup) :
    left memory (enclosing memory around) + around.length = Fintype.card ι := by
  induction around with
  | nil => simp [left, enclosing]
  | cons object around ih =>
    obtain ⟨fresh, distinct⟩ := List.nodup_cons.mp distinct
    have whole := ih distinct
    have fewer := left_within memory fresh
    rw [List.length_cons]
    omega

end Finite

inductive Occurs (memory : Memory ι) (root : ι) : List ι → Slot ι → Prop where
  | root : Occurs memory root [] (.container root)
  | held {around : List ι} {object : ι} {slot : Slot ι} : Occurs memory root around (.container object) →
      object ∉ around → slot ∈ (memory.container object).slots → Occurs memory root (object :: around) slot

theorem Occurs.nodup (occurs : Occurs memory root around slot) : around.Nodup := by
  induction occurs with
  | root => exact List.nodup_nil
  | held _ fresh _ ih => exact List.nodup_cons.mpr ⟨fresh, ih⟩

inductive MadeOf (room : Nat) (copied : Slot ι → Json → Prop) : Container ι → Json → Prop where
  | sequence {shape : Shape} {slots : List (Slot ι)} {jsons : List Json} : List.Forall₂ copied slots jsons →
      MadeOf room copied (.sequence shape slots) (.array jsons)
  | mapping {entries : List (Value × Slot ι)} {members : List (String × Json)} :
      List.Forall₂ (fun entry m => entry.1.name room = .ok m.1 ∧ copied entry.2 m.2) entries members →
      MadeOf room copied (.mapping entries) (.ofMembers members)

theorem MadeOf.ne_circular {copied : Slot ι → Json → Prop} {container : Container ι}
    (made : MadeOf room copied container json) : json ≠ Value.circular := by
  cases made <;> nofun

-- A container is cut off within itself, and only there. Anywhere else its copy is made of
-- copies of all that it holds.
structure CopiedAt (memory : Memory ι) (room : Nat) (around : List ι) (object : ι) (json : Json) : Prop where
  cut : json = Value.circular ↔ object ∈ around
  full : object ∉ around →
    MadeOf (room - 1) (fun slot part => copy memory (room - 1) slot (enclosing memory (object :: around)) =
      (.ok part, enclosing memory (object :: around))) (memory.container object) json

theorem copiedAt (copied : copy memory room (.container object) (enclosing memory around) =
    (.ok json, enclosing memory around)) : CopiedAt memory room around object json := by
  by_cases inside : object ∈ around
  · rw [copy_active (mem_enclosing.mpr inside)] at copied
    cases copied
    exact ⟨iff_of_true rfl inside, absurd inside⟩
  have fresh : memory.address object ∉ enclosing memory around := mt mem_enclosing.mp inside
  cases room with
  | zero =>
    rw [copy_zero fresh] at copied
    cases copied
  | succ room =>
    rw [copy_succ fresh, Prod.mk.injEq, ← enclosing_cons] at copied
    have made : MadeOf room (fun slot part => copy memory room slot (enclosing memory (object :: around)) =
        (.ok part, enclosing memory (object :: around))) (memory.container object) json := by
      cases found : memory.container object with
      | sequence shape slots =>
        rw [found, copyHeld] at copied
        cases items : (copyAll (copy memory room) slots (enclosing memory (object :: around))).1 with
        | error reason => simp [items, Except.map] at copied
        | ok jsons =>
          simp only [items, Except.map, Except.ok.injEq, and_true] at copied
          exact copied ▸ .sequence (copyAll_ok (copy_restores memory room) items)
      | mapping entries =>
        rw [found, copyHeld] at copied
        cases listed : (copyAll (copyMember room (copy memory room)) entries
            (enclosing memory (object :: around))).1 with
        | error reason => simp [listed, Except.map] at copied
        | ok members =>
          simp only [listed, Except.map, Except.ok.injEq, and_true] at copied
          have each := copyAll_ok (copyMember_restores (copy_restores memory room)) listed
          exact copied ▸ .mapping (each.imp fun _ _ => copyMember_ok)
    exact ⟨iff_of_false made.ne_circular inside, fun _ => made⟩

theorem stringify_of_stands [Stack] (stands : Stands memory [] v (.container root)) :
    v.stringify = Value.writeCopy (copy memory Stack.copying (.container root) ∅).1 := by
  have copied : copy memory Stack.copying (.container root) ∅ = (v.toJson Stack.copying [], ∅) :=
    copy_of_stands stands rfl
  rw [copied, Value.stringify]
  cases matches_of_stands stands with
  | sequence _ identity | mapping _ identity => exact Value.spell_container identity _

-- However containers hold one another, there is a value for them, and its text is the
-- copy made in memory. A copy leaves the active containers as they were, whichever way
-- it ends. Where there is room for as many as are not around it, it is finished, unless
-- a key has no name.
theorem stringify_of_memory [Stack] [Fintype ι] (memory : Memory ι) (root : ι) :
    (∃ v, Stands memory [] v (.container root)) ∧
    (∀ v, Stands memory [] v (.container root) →
      v.stringify = Value.writeCopy (copy memory Stack.copying (.container root) ∅).1) ∧
    (∀ room slot active, (copy memory room slot active).2 = active) ∧
    ∀ around slot room, Occurs memory root around slot → Fintype.card ι ≤ around.length + room →
      (∃ json, copy memory room slot (enclosing memory around) = (.ok json, enclosing memory around) ∧
        (∀ v, Stands memory [] v slot → v.toJson room (around.map memory.address) = .ok json) ∧
        ∀ object, slot = .container object → CopiedAt memory room around object json) ∨
      copy memory room slot (enclosing memory around) = (.error .tooLong, enclosing memory around) ∧
        HasLongKey memory := by
  refine ⟨exists_stands memory [] _, fun v stands => stringify_of_stands stands, copy_restores memory, ?_⟩
  intro around slot room occurs enough
  have restored := copy_restores memory room slot (enclosing memory around)
  cases ended : copy memory room slot (enclosing memory around) with
  | mk result after =>
    obtain rfl : after = enclosing memory around := by rwa [ended] at restored
    cases result with
    | ok json =>
      refine .inl ⟨json, rfl, ?_, ?_⟩
      · intro v stands
        have copied : copy memory room slot (enclosing memory around) =
            (v.toJson room (around.map memory.address), enclosing memory around) :=
          copy_of_stands stands rfl
        rw [ended, Prod.mk.injEq] at copied
        exact copied.1.symm
      · rintro object rfl
        exact copiedAt ended
    | error reason =>
      have whole := left_enclosing memory occurs.nodup
      obtain ⟨rfl, long⟩ := copy_error (by omega) (congrArg Prod.fst ended)
      exact .inr ⟨rfl, long⟩

def looped : Memory (Fin 2) where
  container object :=
    if object = 0 then .mapping [(.text "a", .container 1), (.text "b", .container 1), (.text "self", .container 0)]
    else .sequence .list [.plain ⟨.bool true, rfl⟩]
  address := Fin.val
  apart := Fin.val_injective

def loopedValue : Value :=
  .mapping 0 [(.text "a", .sequence .list 1 [.bool true]), (.text "b", .sequence .list 1 [.bool true]),
    (.text "self", .enclosing 1)]

theorem looped_stringify :
    Stands looped [] loopedValue (.container 0) ∧
    loopedValue.stringify = .ok "\x7b\"a\":[true],\"b\":[true],\"self\":\"[Circular]\"\x7d" ∧
    copy looped 1 (.container 0) {0} = (.ok Value.circular, {0}) ∧
    copy looped 1 (.container 1) {0} = (.ok (.array [.bool true]), {0}) := by
  have stands : Stands looped [] loopedValue (.container 0) := by
    simp [Stands, StandEntries, StandAll, loopedValue, looped]
  have short : ¬HasLongKey looped := by
    rintro ⟨object, key, listed, long⟩
    by_cases root : object = 0
    · simp only [looped, root, if_true, Container.keys, List.map_cons, List.map_nil, List.mem_cons,
        List.not_mem_nil, or_false] at listed
      obtain rfl | rfl | rfl := listed <;> cases long
    · simp [looped, root, Container.keys] at listed
  obtain ⟨_, text, _, copied⟩ := stringify_of_memory looped 0
  have around : enclosing looped [0] = {0} := rfl
  have itself : Occurs looped 0 [0] (.container 0) :=
    .held .root List.not_mem_nil (by simp [looped, Container.slots])
  have list : Occurs looped 0 [0] (.container 1) :=
    .held .root List.not_mem_nil (by simp [looped, Container.slots])
  refine ⟨stands, (text loopedValue stands).trans ?_, ?_, ?_⟩
  · rfl
  · obtain ⟨json, result, _, place⟩ | ⟨_, long⟩ := copied [0] (.container 0) 1 itself (by decide)
    · rw [around] at result
      rw [result, (place 0 rfl).cut.mpr List.mem_cons_self]
    · exact absurd long short
  · obtain ⟨json, result, standing, _⟩ | ⟨_, long⟩ := copied [0] (.container 1) 1 list (by decide)
    · have inner : Stands looped [] (.sequence .list 1 [.bool true]) (.container 1) := by
        simp [Stands, StandAll, looped]
      rw [around] at result
      rw [result, ← standing _ inner]
      rfl
    · exact absurd long short

end HtmlTemplate.Memory
