import HtmlTemplate.Proofs.Run
import HtmlTemplate.Style
namespace HtmlTemplate.Style

-- Where a reader of a CSS value stands: inside which quotes, and how many
-- parentheses deep. A semicolon is bare at the very outside.
structure Reading where
  quote : Option Char := none
  depth : Nat := 0
deriving DecidableEq

namespace Reading

def isOutside (reading : Reading) : Bool := reading.quote = none && reading.depth = 0

def next (reading : Reading) (c : Char) : Reading :=
  match reading.quote with
  | some q => { reading with quote := if c = q then none else some q }
  | none =>
    if c = '"' || c = '\'' then { reading with quote := some c }
    else if c = '(' then { reading with depth := reading.depth + 1 }
    else if c = ')' then { reading with depth := reading.depth - 1 }
    else reading

def cut (reading : Reading) (s : List Char) : List Char × Bool := cutAt reading.quote reading.depth s

theorem cut_cons (reading : Reading) (c : Char) (s : List Char) :
    reading.cut (c :: s) =
      if c = ';' ∧ reading.isOutside = true then ([], true)
      else (c :: ((reading.next c).cut s).1, ((reading.next c).cut s).2) := by
  obtain ⟨quote, depth⟩ := reading
  cases quote with
  | some q => simp [cut, cutAt, next, isOutside]
  | none =>
    simp only [cut, cutAt, next, isOutside]
    by_cases quotes : c = '"' ∨ c = '\''
    · rcases quotes with rfl | rfl <;> simp
    · by_cases opening : c = '('
      · simp [opening]
      · by_cases closing : c = ')'
        · simp [closing]
        · simp_all

def Uncut (reading : Reading) (s : List Char) : Prop := reading.cut s = (s, false)

theorem uncut_nil (reading : Reading) : reading.Uncut [] := by
  unfold Uncut cut cutAt
  rfl

theorem uncut_cons {reading : Reading} {c : Char} {s : List Char} :
    reading.Uncut (c :: s) ↔ ¬(c = ';' ∧ reading.isOutside = true) ∧ (reading.next c).Uncut s := by
  unfold Uncut
  rw [cut_cons]
  split
  · simp_all
  · simp_all [Prod.ext_iff]

theorem uncut_head (reading : Reading) (s : List Char) : reading.Uncut (reading.cut s).1 := by
  induction s generalizing reading with
  | nil => exact uncut_nil reading
  | cons c s ih =>
    rw [cut_cons]
    split
    · exact uncut_nil reading
    · rename_i further
      exact uncut_cons.mpr ⟨further, ih _⟩

theorem Uncut.left {reading : Reading} {s t : List Char} (uncut : reading.Uncut (s ++ t)) : reading.Uncut s := by
  induction s generalizing reading with
  | nil => exact uncut_nil reading
  | cons c s ih =>
    obtain ⟨further, rest⟩ := uncut_cons.mp uncut
    exact uncut_cons.mpr ⟨further, ih rest⟩

theorem next_blank (reading : Reading) {c : Char} (outside : reading.quote = none) (blank : Blank.isBlank c = true) :
    reading.next c = reading := by
  have plain (special : Char) (shown : Blank.isBlank special = false) : c ≠ special := by
    rintro rfl
    simp [shown] at blank
  simp [next, outside, plain '"' (by decide), plain '\'' (by decide), plain '(' (by decide), plain ')' (by decide)]

end Reading

open Reading

theorem trimEnd_prefix (s : List Char) : Blank.trimEnd s <+: s := by
  refine ⟨(s.reverse.takeWhile Blank.isBlank).reverse, ?_⟩
  rw [Blank.trimEnd, ← List.reverse_append, List.takeWhile_append_dropWhile, List.reverse_reverse]

theorem uncut_trimStart {s : List Char} (uncut : Uncut {} s) : Uncut {} (Blank.trimStart s) := by
  induction s with
  | nil => exact uncut
  | cons c s ih =>
    unfold Blank.trimStart at ih ⊢
    by_cases blank : Blank.isBlank c = true
    · rw [List.dropWhile_cons_of_pos blank]
      have rest := (uncut_cons.mp uncut).2
      rw [next_blank {} rfl blank] at rest
      exact ih rest
    · rw [List.dropWhile_cons_of_neg blank]
      exact uncut

theorem uncut_trim {s : List Char} (uncut : Uncut {} s) : Uncut {} (Blank.trim s) := by
  obtain ⟨dropped, whole⟩ := trimEnd_prefix (Blank.trimStart s)
  exact Uncut.left (t := dropped) (by rw [Blank.trim, whole]; exact uncut_trimStart uncut)

-- A property as it may be written: its name is one, and its value is not empty,
-- ends nowhere before its semicolon, and has nothing blocked in it.
structure Proper (name value : List Char) : Prop where
  name : isPropertyName name = true
  present : value ≠ []
  uncut : cut value = (value, false)
  allowed : blocked? value = none

def IsDeclaration (line : List Char) : Prop :=
  ∃ name value, line = name ++ ':' :: ' ' :: value ++ [';'] ∧ Proper name value

def Declares (text : String) : Prop :=
  ∃ lines : List (List Char), lines ≠ [] ∧ (∀ line ∈ lines, IsDeclaration line) ∧
    text.toList = Chars.joinWith [' '] lines

theorem finish_ensures {name : String} {value : List Char} (named : isPropertyName name.toList = true) :
    (finish name value).Ensures fun value => value ≠ [] → Proper name.toList value := by
  unfold finish
  dsimp only
  split
  case' isTrue => refine Run.ensures_bind fun _ => ?_
  all_goals
    split
    · exact Run.ensures_pure fun present => absurd rfl present
    · split
      · exact Run.ensures_bind fun _ => Run.ensures_pure fun present => absurd rfl present
      · rename_i allowed
        exact Run.ensures_pure fun present => ⟨named, present, uncut_trim (uncut_head {} value), allowed⟩

structure Property where
  name : String
  value : List Char

def Property.declaration (property : Property) : List Char := property.name.toList ++ ':' :: ' ' :: property.value
def Property.line (property : Property) : List Char := property.declaration ++ [';']

def Property.IsProper (property : Property) : Prop := Proper property.name.toList property.value

theorem Property.value_of_line {name : String} {value other : List Char}
    (same : Property.line ⟨name, value⟩ = Property.line ⟨name, other⟩) : value = other := by
  simpa [Property.line, Property.declaration] using same

variable [Stack]

theorem declaration_ensures (interpolate : String → Run String) (key raw : Value) :
    (declaration interpolate key raw).Ensures fun lines => lines = [] ∨
      ∃ property : Property, key = .text property.name ∧ property.IsProper ∧ lines = [property.line] := by
  unfold declaration
  split
  · exact Run.ensures_bind fun _ => Run.ensures_bind fun _ => Run.ensures_pure (.inl rfl)
  · rename_i name found
    have named : key = .text name ∧ isPropertyName name.toList = true := by
      unfold propertyName? at found
      split at found
      · split at found <;> simp_all
      · cases found
    refine Run.ensures_bind fun value? => ?_
    split
    · exact Run.ensures_bind fun _ => Run.ensures_pure (.inl rfl)
    · refine (finish_ensures named.2).bind fun value proper => Run.ensures_pure ?_
      split
      · exact .inl rfl
      · rename_i present
        refine .inr ⟨⟨name, value⟩, named.1, proper (by simpa using present), ?_⟩
        simp [Property.line, Property.declaration]

-- Which entries of a mapping survive, and as what: they keep their order.
inductive Surviving (interpolate : String → Run String) : List (Value × Value) → List Property → Prop
  | nil : Surviving interpolate [] []
  | kept {name : String} {value : List Char} {raw : Value} {rest : List (Value × Value)} {more : List Property} :
    (declaration interpolate (.text name) raw).outcome = .ok [Property.line ⟨name, value⟩] →
    Surviving interpolate rest more → Surviving interpolate ((.text name, raw) :: rest) (⟨name, value⟩ :: more)
  | dropped {key raw : Value} {rest : List (Value × Value)} {more : List Property} :
    (declaration interpolate key raw).outcome = .ok [] →
    Surviving interpolate rest more → Surviving interpolate ((key, raw) :: rest) more

section Surviving

variable {interpolate : String → Run String} {entries others : List (Value × Value)} {survivors more : List Property}

theorem Surviving.append (first : Surviving interpolate entries survivors) (second : Surviving interpolate others more) :
    Surviving interpolate (entries ++ others) (survivors ++ more) := by
  induction first with
  | nil => exact second
  | kept returned _ ih => exact .kept returned ih
  | dropped returned _ ih => exact .dropped returned ih

theorem Surviving.proper (surviving : Surviving interpolate entries survivors) :
    ∀ property ∈ survivors, property.IsProper := by
  induction surviving with
  | nil => exact List.forall_mem_nil _
  | @kept name value raw _ _ returned _ ih =>
    refine List.forall_mem_cons.mpr ⟨?_, ih⟩
    obtain none | ⟨property, key, proper, same⟩ := declaration_ensures interpolate _ raw _ returned
    · cases none
    · cases key
      rw [Property.value_of_line (List.cons.inj same).1]
      exact proper
  | dropped _ _ ih => exact ih

theorem Surviving.eq (first : Surviving interpolate entries survivors) (second : Surviving interpolate entries more) :
    survivors = more := by
  induction first generalizing more with
  | nil =>
    cases second
    rfl
  | kept returned _ ih =>
    cases second with
    | kept again rest =>
      have same := Except.ok.inj (returned.symm.trans again)
      rw [Property.value_of_line (List.cons.inj same).1, ih rest]
    | dropped again _ => cases returned.symm.trans again
  | dropped returned _ ih =>
    cases second with
    | kept again _ => cases returned.symm.trans again
    | dropped _ rest => exact ih rest

end Surviving

def Lines (interpolate : String → Run String) (entries : List (Value × Value)) (lines : List (List Char)) : Prop :=
  ∃ survivors, Surviving interpolate entries survivors ∧ lines = survivors.map Property.line

theorem collect_lines (interpolate : String → Run String) (entries : List (Value × Value)) :
    (Run.collect (fun e => declaration interpolate e.1 e.2) entries).Ensures (Lines interpolate entries) := by
  refine Run.ensures_collect_along ⟨[], .nil, rfl⟩ ?_ fun e _ lines returned => ?_
  · rintro e rest _ _ ⟨first, surviving, rfl⟩ ⟨more, others, rfl⟩
    exact ⟨first ++ more, surviving.append others, List.map_append.symm⟩
  · obtain ⟨key, raw⟩ := e
    obtain rfl | ⟨property, rfl, _, rfl⟩ := declaration_ensures interpolate key raw lines returned
    · exact ⟨[], .dropped returned .nil, rfl⟩
    · exact ⟨[property], .kept returned .nil, rfl⟩

theorem sanitize_surviving (interpolate : String → Run String) (style : Value) :
    (sanitize interpolate style).Ensures fun text =>
      ∃ entries survivors, style.entries? = some entries ∧ Surviving interpolate entries survivors ∧
        text.toList = Chars.joinWith [' '] (survivors.map Property.line) := by
  unfold sanitize
  split
  · exact Run.ensures_fail
  · rename_i entries found
    refine (collect_lines interpolate entries).bind fun lines written => Run.ensures_pure ?_
    obtain ⟨survivors, surviving, rfl⟩ := written
    exact ⟨entries, survivors, found, surviving, String.toList_ofList⟩

theorem sanitize_ensures (interpolate : String → Run String) (style : Value) :
    (sanitize interpolate style).Ensures fun text => text ≠ "" → Declares text := by
  refine (sanitize_surviving interpolate style).mono ?_
  rintro text ⟨entries, survivors, _, surviving, same⟩ present
  refine ⟨survivors.map Property.line, ?_, List.forall_mem_map.mpr fun property member => ?_, same⟩
  · intro none
    rw [none] at same
    exact present (String.toList_eq_nil_iff.mp same)
  · refine ⟨property.name.toList, property.value, ?_, surviving.proper property member⟩
    simp [Property.line, Property.declaration]

end HtmlTemplate.Style
