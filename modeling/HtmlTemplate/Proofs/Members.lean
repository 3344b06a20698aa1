import HtmlTemplate.Json.Basic
import Mathlib.Algebra.Order.BigOperators.Group.List
import Mathlib.Algebra.Order.Ring.Nat
import Mathlib.Data.List.Induction
import Mathlib.Data.List.Nodup
namespace HtmlTemplate.Json

-- One member for each name, in the first of its places and with the last of its contents.
def gathered (members : List (String × Json)) : List (String × Json) :=
  (members.map (·.1)).eraseDups.filterMap fun name => (members.reverse.lookup name).map (Prod.mk name)

variable {members : List (String × Json)} {name : String} {item : Json} {s : List Char}

theorem put_names : (put members name item).map (·.1) =
    if name ∈ members.map (·.1) then members.map (·.1) else members.map (·.1) ++ [name] := by
  induction members with
  | nil => simp [put]
  | cons m members ih =>
    by_cases same : m.1 = name
    · simp [put, same]
    · simp only [put, same, if_false, List.map_cons, ih, List.mem_cons, Ne.symm same, false_or]
      split <;> rfl

theorem lookup_cons (other : String) :
    ((name, item) :: members).lookup other = if other = name then some item else members.lookup other := by
  by_cases same : other = name
  · rw [if_pos same, same, List.lookup_cons_self]
  · rw [if_neg same, List.lookup_cons, beq_eq_false_iff_ne.mpr same]

theorem put_lookup (other : String) :
    (put members name item).lookup other = if other = name then some item else members.lookup other := by
  induction members with
  | nil => rw [put, lookup_cons]
  | cons m members ih =>
    obtain ⟨first, was⟩ := m
    rw [put, lookup_cons]
    by_cases same : first = name
    · rw [if_pos same, lookup_cons, same]
      split <;> rfl
    · rw [if_neg same, lookup_cons, ih]
      by_cases here : other = first
      · rw [if_pos here, if_neg (here ▸ same), if_pos here]
      · rw [if_neg here, if_neg here]

theorem put_of_fresh (fresh : name ∉ members.map (·.1)) : put members name item = members ++ [(name, item)] := by
  induction members with
  | nil => rfl
  | cons m members ih =>
    rw [List.map_cons, List.mem_cons, not_or] at fresh
    rw [put, if_neg (Ne.symm fresh.1), ih fresh.2, List.cons_append]

def collected (members : List (String × Json)) : List (String × Json) :=
  members.foldl (fun ms m => put ms m.1 m.2) []

theorem collected_concat (members : List (String × Json)) (m : String × Json) :
    collected (members ++ [m]) = put (collected members) m.1 m.2 := by
  rw [collected, List.foldl_append]
  rfl

theorem collected_names (members : List (String × Json)) :
    (collected members).map (·.1) = (members.map (·.1)).eraseDups := by
  induction members using List.reverseRecOn with
  | nil => rfl
  | append_singleton members m ih =>
    rw [collected_concat, put_names, ih, List.map_append, List.eraseDups_append]
    simp only [List.mem_eraseDups]
    split
    · rename_i known
      simp [List.removeAll, known]
    · rename_i fresh
      simp [List.removeAll, fresh, List.eraseDups_cons]

theorem collected_lookup (members : List (String × Json)) (name : String) :
    (collected members).lookup name = members.reverse.lookup name := by
  induction members using List.reverseRecOn with
  | nil => rfl
  | append_singleton members m ih =>
    rw [collected_concat, put_lookup, ih, List.reverse_append]
    exact (lookup_cons name).symm

theorem collected_nodup (members : List (String × Json)) : ((collected members).map (·.1)).Nodup := by
  induction members using List.reverseRecOn with
  | nil => exact List.nodup_nil
  | append_singleton members m ih =>
    rw [collected_concat, put_names]
    split
    · exact ih
    · rename_i fresh
      rw [← List.concat_eq_append]
      exact ih.concat fresh

theorem collected_ne_nil (some : members ≠ []) : collected members ≠ [] := by
  intro none
  have names := collected_names members
  rw [none] at names
  cases members with
  | nil => exact some rfl
  | cons m members => simp [List.eraseDups_cons] at names

theorem eq_filterMap_lookup (distinct : (members.map (·.1)).Nodup) :
    members = (members.map (·.1)).filterMap fun name => (members.lookup name).map (Prod.mk name) := by
  induction members with
  | nil => rfl
  | cons m members ih =>
    obtain ⟨name, item⟩ := m
    obtain ⟨fresh, distinct⟩ := List.nodup_cons.mp distinct
    have others : ((members.map (·.1)).filterMap fun other =>
        (((name, item) :: members).lookup other).map (Prod.mk other)) = members := by
      rw [List.filterMap_congr, ← ih distinct]
      intro other member
      have apart : other ≠ name := by
        rintro rfl
        exact fresh member
      rw [lookup_cons, if_neg apart]
    rw [List.map_cons, List.filterMap_cons, others, List.lookup_cons_self]
    rfl

theorem collected_eq_gathered (members : List (String × Json)) : collected members = gathered members := by
  rw [eq_filterMap_lookup (collected_nodup members), collected_names, gathered]
  simp only [collected_lookup]

theorem itemChars_eq (items : List Json) : itemChars items = items.map chars := by
  induction items with
  | nil => rfl
  | cons item items ih => rw [itemChars, ih, List.map_cons]

theorem memberChars_eq (members : List (String × Json)) :
    memberChars members = members.map fun m => quote m.1.toList ++ ':' :: chars m.2 := by
  induction members with
  | nil => rfl
  | cons m members ih => rw [memberChars, ih, List.map_cons]

theorem length_joinWith (c : Char) {pieces : List (List Char)} (some : pieces ≠ []) :
    (Chars.joinWith [c] pieces).length + 1 = (pieces.map (·.length + 1)).sum := by
  induction pieces with
  | nil => exact absurd rfl some
  | cons piece pieces ih =>
    cases pieces with
    | nil => simp [Chars.joinWith]
    | cons next pieces =>
      have rest := ih (List.cons_ne_nil _ _)
      have split : Chars.joinWith [c] (piece :: next :: pieces) = piece ++ [c] ++ Chars.joinWith [c] (next :: pieces) := rfl
      rw [List.map_cons, List.sum_cons, ← rest, split, List.length_append, List.length_append, List.length_singleton]
      omega

def width (m : String × Json) : Nat := (quote m.1.toList).length + (chars m.2).length + 2

def total (members : List (String × Json)) : Nat := (members.map width).sum

theorem length_array (item : Json) (items : List Json) : (chars (.array (item :: items))).length =
    ((item :: items).map fun item => (chars item).length + 1).sum + 1 := by
  have joined := length_joinWith ',' (List.cons_ne_nil (chars item) (items.map chars))
  rw [← List.map_cons, List.map_map] at joined
  rw [chars, itemChars_eq, List.length_append, List.length_cons, List.length_singleton, joined]
  rfl

theorem length_object (some : members ≠ []) : (chars (.object members)).length = total members + 1 := by
  have joined := length_joinWith ','
    (mt List.map_eq_nil_iff.mp some : (members.map fun m => quote m.1.toList ++ ':' :: chars m.2) ≠ [])
  have widths : (members.map fun m => (quote m.1.toList ++ ':' :: chars m.2).length + 1) = members.map width := by
    refine List.map_congr_left fun m _ => ?_
    rw [width, List.length_append, List.length_cons]
    omega
  rw [List.map_map] at joined
  rw [chars, memberChars_eq, List.length_append, List.length_cons, List.length_singleton, joined, total, ← widths]
  rfl

theorem total_put (m : String × Json) (known : m.1 ∈ members.map (·.1)) :
    total (put members m.1 m.2) < total members + width m := by
  induction members with
  | nil => exact absurd known List.not_mem_nil
  | cons other members ih =>
    obtain ⟨first, was⟩ := other
    rw [put]
    by_cases same : first = m.1
    · rw [if_pos same, same]
      simp only [total, List.map_cons, List.sum_cons, width]
      omega
    · rw [List.map_cons, List.mem_cons] at known
      have fewer := ih (known.resolve_left (Ne.symm same))
      rw [if_neg same]
      simp only [total, List.map_cons, List.sum_cons] at fewer ⊢
      omega

theorem total_concat (members : List (String × Json)) (m : String × Json) :
    total (members ++ [m]) = total members + width m := by
  simp [total]

theorem total_put_le (members : List (String × Json)) (m : String × Json) :
    total (put members m.1 m.2) ≤ total members + width m := by
  by_cases known : m.1 ∈ members.map (·.1)
  · exact (total_put m known).le
  · rw [put_of_fresh known, total_concat]

theorem total_collected_le (members : List (String × Json)) : total (collected members) ≤ total members := by
  induction members using List.reverseRecOn with
  | nil => exact Nat.le_refl 0
  | append_singleton members m ih =>
    rw [collected_concat, total_concat]
    exact (total_put_le _ m).trans (Nat.add_le_add_right ih (width m))

theorem nodup_of_total (whole : total members ≤ total (collected members)) : (members.map (·.1)).Nodup := by
  induction members using List.reverseRecOn with
  | nil => exact List.nodup_nil
  | append_singleton members m ih =>
    rw [collected_concat, total_concat] at whole
    have before := total_collected_le members
    have fresh : m.1 ∉ (collected members).map (·.1) := by
      intro known
      have fewer := total_put m known
      omega
    have after := total_put_le (collected members) m
    rw [collected_names, List.mem_eraseDups] at fresh
    rw [List.map_append, List.map_singleton, ← List.concat_eq_append]
    exact (ih (by omega)).concat fresh

theorem collected_of_nodup (distinct : (members.map (·.1)).Nodup) : collected members = members := by
  induction members using List.reverseRecOn with
  | nil => rfl
  | append_singleton members m ih =>
    rw [List.map_append, List.map_singleton, List.nodup_append] at distinct
    obtain ⟨distinct, _, apart⟩ := distinct
    have fresh : m.1 ∉ members.map (·.1) := fun known => apart _ known _ List.mem_cons_self rfl
    rw [collected_concat, ih distinct, put_of_fresh fresh]

theorem length_quote (some : s ≠ []) : 2 < (quote s).length := by
  cases s with
  | nil => exact absurd rfl some
  | cons c s =>
    have kept : escapeChar c ≠ [] := by
      unfold escapeChar
      repeat' split
      all_goals nofun
    have least := List.length_pos_iff.mpr kept
    simp only [quote, List.flatMap_cons, List.length_append, List.length_cons]
    omega

section Compare

variable {α β : Type} {as : List α}

theorem sum_le_of_forall₂ {R : α → β → Prop} {f : β → Nat} {g : α → Nat} {bs : List β}
    (each : List.Forall₂ R as bs) (le : ∀ a b, R a b → f b ≤ g a) : (bs.map f).sum ≤ (as.map g).sum := by
  apply List.Forall₂.sum_le_sum
  rw [List.forall₂_map_left_iff, List.forall₂_map_right_iff]
  exact (each.imp le).flip

-- Where the parts are no larger, but the whole is, none of them is smaller.
theorem forall₂_of_sum_le {R : α → β → Prop} {f : β → Nat} {g : α → Nat} {bs : List β}
    (each : List.Forall₂ R as bs) (le : ∀ a b, R a b → f b ≤ g a) (whole : (as.map g).sum ≤ (bs.map f).sum) :
    List.Forall₂ (fun a b => R a b ∧ g a ≤ f b) as bs := by
  induction each with
  | nil => exact .nil
  | @cons a b as bs first others ih =>
    have part := le a b first
    have rest := sum_le_of_forall₂ others le
    simp only [List.map_cons, List.sum_cons] at whole
    exact .cons ⟨first, by omega⟩ (ih (by omega))

section Items

variable {R : α → Json → Prop} {f : α → Json} {jsons : List Json} (each : List.Forall₂ R as jsons)
  (le : ∀ a json, R a json → json.chars.length ≤ (f a).chars.length)
include each le

theorem length_array_le : (chars (.array jsons)).length ≤ (chars (.array (as.map f))).length := by
  cases each with
  | nil => exact Nat.le_refl _
  | @cons a json as jsons first others =>
    rw [List.map_cons, length_array, length_array, ← List.map_cons, List.map_map]
    exact Nat.add_le_add_right
      (sum_le_of_forall₂ (.cons first others) fun a json known => Nat.add_le_add_right (le a json known) 1) 1

theorem forall₂_of_length_array (whole : (chars (.array (as.map f))).length ≤ (chars (.array jsons)).length) :
    List.Forall₂ (fun a json => R a json ∧ (f a).chars.length ≤ json.chars.length) as jsons := by
  cases each with
  | nil => exact .nil
  | @cons a json as jsons first others =>
    rw [List.map_cons, length_array, length_array, ← List.map_cons, List.map_map] at whole
    have parts := forall₂_of_sum_le (.cons first others)
      (fun a json known => Nat.add_le_add_right (le a json known) 1) (Nat.le_of_add_le_add_right whole)
    exact parts.imp fun a json known => ⟨known.1, Nat.le_of_add_le_add_right known.2⟩

end Items

section Members

variable {R : α → String × Json → Prop} {f : α → String × Json} (each : List.Forall₂ R as members)
  (le : ∀ a m, R a m → width m ≤ width (f a))
include each le

theorem total_le : total members ≤ total (as.map f) := by
  rw [total, total, List.map_map]
  exact sum_le_of_forall₂ each le

theorem length_object_le :
    (chars (.object (collected members))).length ≤ (chars (.object (as.map f))).length := by
  cases each with
  | nil => exact Nat.le_refl _
  | @cons a m as members first others =>
    have parts := total_le (.cons first others) le
    have kept := total_collected_le (m :: members)
    have some : (a :: as).map f ≠ [] := List.cons_ne_nil _ _
    rw [length_object (collected_ne_nil (List.cons_ne_nil m members)), length_object some]
    exact Nat.add_le_add_right (kept.trans parts) 1

theorem forall₂_of_length_object
    (whole : (chars (.object (as.map f))).length ≤ (chars (.object (collected members))).length) :
    (members.map (·.1)).Nodup ∧ List.Forall₂ (fun a m => R a m ∧ width (f a) ≤ width m) as members := by
  cases each with
  | nil => exact ⟨List.nodup_nil, .nil⟩
  | @cons a m as members first others =>
    have parts := total_le (.cons first others) le
    have kept := total_collected_le (m :: members)
    have some : (a :: as).map f ≠ [] := List.cons_ne_nil _ _
    rw [length_object (collected_ne_nil (List.cons_ne_nil m members)), length_object some] at whole
    refine ⟨nodup_of_total (by omega), forall₂_of_sum_le (.cons first others) le ?_⟩
    have sums : total ((a :: as).map f) ≤ total (m :: members) := by omega
    rwa [total, total, List.map_map] at sums

end Members
end Compare
end HtmlTemplate.Json
