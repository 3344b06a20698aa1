import HtmlTemplate.Value.Basic
namespace HtmlTemplate.Value

-- Being the very same value: one identity and therefore one content.
mutual
def same : Value → Value → Bool
  | .null, .null => true
  | .bool a, .bool b => a == b
  | .int m, .int n => m == n
  | .float x, .float y => x == y
  | .text s, .text t => s == t
  | .missing, .missing => true
  | .foreign i s, .foreign j t => i == j && s == t
  | .sequence a i xs, .sequence b j ys => a == b && i == j && sameItems xs ys
  | .mapping i xs, .mapping j ys => i == j && sameEntries xs ys
  | .enclosing m, .enclosing n => m == n
  | _, _ => false
termination_by structural v => v
def sameItems : List Value → List Value → Bool
  | [], [] => true
  | v :: vs, w :: ws => same v w && sameItems vs ws
  | _, _ => false
termination_by structural vs => vs
def sameEntries : List (Value × Value) → List (Value × Value) → Bool
  | [], [] => true
  | (k, v) :: es, (l, w) :: fs => same k l && same v w && sameEntries es fs
  | _, _ => false
termination_by structural es => es
end

mutual
theorem same_refl : ∀ v : Value, same v v = true
  | .sequence a i xs => by simp [same, sameItems_refl xs]
  | .mapping i xs => by simp [same, sameEntries_refl xs]
  | .null | .bool _ | .int _ | .float _ | .text _ | .missing | .foreign _ _ | .enclosing _ => by simp [same]
theorem sameItems_refl : ∀ vs : List Value, sameItems vs vs = true
  | [] => by simp [sameItems]
  | v :: vs => by simp [sameItems, same_refl v, sameItems_refl vs]
theorem sameEntries_refl : ∀ es : List (Value × Value), sameEntries es es = true
  | [] => by simp [sameEntries]
  | (k, v) :: es => by simp [sameEntries, same_refl k, same_refl v, sameEntries_refl es]
end

mutual
theorem eq_of_same : ∀ {v w : Value}, same v w = true → v = w
  | .sequence a i xs, w, h => by
    cases w with
    | sequence b j ys =>
      simp only [same, Bool.and_eq_true, beq_iff_eq] at h
      rw [h.1.1, h.1.2, eq_of_sameItems h.2]
    | _ => simp [same] at h
  | .mapping i xs, w, h => by
    cases w with
    | mapping j ys =>
      simp only [same, Bool.and_eq_true, beq_iff_eq] at h
      rw [h.1, eq_of_sameEntries h.2]
    | _ => simp [same] at h
  | .null, w, h | .bool _, w, h | .int _, w, h | .float _, w, h | .text _, w, h | .missing, w, h
  | .foreign _ _, w, h | .enclosing _, w, h => by cases w <;> simp_all [same]
theorem eq_of_sameItems : ∀ {vs ws : List Value}, sameItems vs ws = true → vs = ws
  | [], [], _ => rfl
  | [], _ :: _, h | _ :: _, [], h => by simp [sameItems] at h
  | v :: vs, w :: ws, h => by
    simp only [sameItems, Bool.and_eq_true] at h
    rw [eq_of_same h.1, eq_of_sameItems h.2]
theorem eq_of_sameEntries : ∀ {es fs : List (Value × Value)}, sameEntries es fs = true → es = fs
  | [], [], _ => rfl
  | [], _ :: _, h | _ :: _, [], h => by simp [sameEntries] at h
  | (k, v) :: es, (l, w) :: fs, h => by
    simp only [sameEntries, Bool.and_eq_true] at h
    rw [eq_of_same h.1.1, eq_of_same h.1.2, eq_of_sameEntries h.2]
end

theorem same_iff {v w : Value} : same v w = true ↔ v = w :=
  ⟨eq_of_same, fun h => h ▸ same_refl v⟩

instance : DecidableEq Value := fun v w => decidable_of_iff (same v w = true) same_iff

end HtmlTemplate.Value
