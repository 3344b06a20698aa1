import HtmlTemplate.Proofs.Unwritten
namespace HtmlTemplate.Value

def isPlain : Value → Bool
  | .sequence _ _ _ | .mapping _ _ | .enclosing _ => false
  | .null | .bool _ | .int _ | .float _ | .text _ | .missing | .foreign _ _ => true

def identity? : Value → Option Nat
  | .sequence _ identity _ | .mapping identity _ => some identity
  | .null | .bool _ | .int _ | .float _ | .text _ | .missing | .foreign _ _ | .enclosing _ => none

def name (room : Nat) (key : Value) : Except Unwritten String := key.spell (key.toJson room [])

def member (room : Nat) (active : List Nat) (e : Value × Value) : Except Unwritten (String × Json) := do
  let name ← e.1.name room
  let json ← e.2.toJson room active
  pure (name, json)

variable {whole v : Value} {active : List Nat} {identity room : Nat}

@[elab_as_elim]
theorem by_containers {motive : Value → Prop}
    (sequence : ∀ shape identity items, (∀ v ∈ items, motive v) → motive (.sequence shape identity items))
    (mapping : ∀ identity entries, (∀ e ∈ entries, motive e.2) → motive (.mapping identity entries))
    (enclosing : ∀ up, motive (.enclosing up)) (plain : ∀ v, v.isPlain = true → motive v) : ∀ v, motive v
  | .sequence shape identity items => by
    refine sequence shape identity items fun v member => ?_
    have smaller := List.sizeOf_lt_of_mem member
    exact by_containers sequence mapping enclosing plain v
  | .mapping identity entries => by
    refine mapping identity entries fun e member => ?_
    have smaller := List.sizeOf_lt_of_mem member
    exact by_containers sequence mapping enclosing plain e.2
  | .enclosing up => enclosing up
  | .null => plain .null rfl
  | .bool b => plain (.bool b) rfl
  | .int n => plain (.int n) rfl
  | .float x => plain (.float x) rfl
  | .text s => plain (.text s) rfl
  | .missing => plain .missing rfl
  | .foreign identity label => plain (.foreign identity label) rfl
termination_by v => sizeOf v
decreasing_by
  · simp only [Value.sequence.sizeOf_spec]
    omega
  · obtain ⟨key, v⟩ := e
    simp only [Value.mapping.sizeOf_spec, Prod.mk.sizeOf_spec] at smaller ⊢
    omega

theorem closeItems_eq (whole : Value) (level : Nat) (vs : List Value) :
    closeItems whole level vs = vs.map (close whole level) := by
  induction vs with
  | nil => rfl
  | cons v vs ih => rw [closeItems, ih, List.map_cons]

theorem closeEntries_eq (whole : Value) (level : Nat) (es : List (Value × Value)) :
    closeEntries whole level es = es.map fun e => (e.1, close whole level e.2) := by
  induction es with
  | nil => rfl
  | cons e es ih => rw [closeEntries, ih, List.map_cons]

theorem itemsToJson_eq (room : Nat) (active : List Nat) (vs : List Value) :
    itemsToJson room active vs = vs.mapM (toJson room active) := by
  induction vs with
  | nil => rfl
  | cons v vs ih => rw [itemsToJson, ih, List.mapM_cons]

theorem entriesToJson_eq (room : Nat) (active : List Nat) (es : List (Value × Value)) :
    entriesToJson room active es = es.mapM (member room active) := by
  induction es with
  | nil => rfl
  | cons e es ih => simp only [entriesToJson, ih, List.mapM_cons, member, name, bind_assoc, pure_bind]

theorem identity?_plain (plain : v.isPlain = true) : v.identity? = none := by
  cases v <;> first | rfl | cases plain

theorem close_plain (plain : v.isPlain = true) (level : Nat) : close whole level v = v := by
  cases v <;> first | rfl | cases plain

theorem toJson_plain (plain : v.isPlain = true) (room : Nat) (active : List Nat) :
    toJson room active v = toJson 0 [] v := by
  cases v <;> first | rfl | cases plain

theorem member_ok {e : Value × Value} {m : String × Json} (ended : member room active e = .ok m) :
    e.1.name room = .ok m.1 ∧ e.2.toJson room active = .ok m.2 := by
  obtain ⟨name, named, rest⟩ := bind_eq_ok.mp ended
  obtain ⟨json, content, same⟩ := bind_eq_ok.mp rest
  cases same
  exact ⟨named, content⟩

theorem toJson_plain_ne (plain : v.isPlain = true) {reason : Unwritten} : toJson 0 [] v ≠ .error reason := by
  cases v <;> first | cases plain; done | nofun

theorem spell_container (known : v.identity? = some identity) (copy : Except Unwritten Json) :
    spell v copy = writeCopy copy := by
  cases v <;> first | rfl | cases known

theorem toJson_of_active (known : v.identity? = some identity) (listed : identity ∈ active) :
    toJson room active v = .ok circular := by
  cases v <;> cases known
  all_goals cases room <;> simp [toJson, listed]

theorem toJson_of_spent (known : v.identity? = some identity) (fresh : identity ∉ active) :
    toJson 0 active v = .error .tooDeep := by
  cases v <;> cases known
  all_goals simp [toJson, fresh]

theorem toJson_sequence {shape : Shape} {items : List Value} (fresh : identity ∉ active) :
    toJson (room + 1) active (.sequence shape identity items) =
      (items.mapM (toJson room (identity :: active))).map .array := by
  simp [toJson, fresh, itemsToJson_eq]

theorem toJson_mapping {entries : List (Value × Value)} (fresh : identity ∉ active) :
    toJson (room + 1) active (.mapping identity entries) =
      (entries.mapM (member room (identity :: active))).map .ofMembers := by
  simp [toJson, fresh, entriesToJson_eq]

-- Within a container that is being copied it makes no difference whether a value refers
-- to it or repeats it.
theorem toJson_close (known : whole.identity? = some identity) (listed : identity ∈ active) (room level : Nat)
    (v : Value) : toJson room active (close whole level v) = toJson room active v := by
  induction v using by_containers generalizing room active level with
  | sequence shape other items ih =>
    rw [close]
    by_cases here : other ∈ active
    · rw [toJson_of_active rfl here, toJson_of_active rfl here]
    · cases room with
      | zero => rw [toJson_of_spent rfl here, toJson_of_spent rfl here]
      | succ room =>
        rw [toJson_sequence here, toJson_sequence here, closeItems_eq, List.mapM_map]
        exact congrArg _ (mapM_congr fun v member => ih v member (List.mem_cons_of_mem _ listed) room (level + 1))
  | mapping other entries ih =>
    rw [close]
    by_cases here : other ∈ active
    · rw [toJson_of_active rfl here, toJson_of_active rfl here]
    · cases room with
      | zero => rw [toJson_of_spent rfl here, toJson_of_spent rfl here]
      | succ room =>
        rw [toJson_mapping here, toJson_mapping here, closeEntries_eq, List.mapM_map]
        refine congrArg _ (mapM_congr fun e inside => ?_)
        simp only [Function.comp_apply, member, ih e inside (List.mem_cons_of_mem _ listed) room (level + 1)]
  | enclosing up =>
    rw [close]
    split
    · rw [toJson_of_active known listed, toJson]
    · rfl
  | plain v plain => rw [close_plain plain]

theorem member_close (known : whole.identity? = some identity) (listed : identity ∈ active) (room level : Nat)
    (e : Value × Value) : member room active (e.1, close whole level e.2) = member room active e := by
  simp only [member, toJson_close known listed]

end HtmlTemplate.Value
