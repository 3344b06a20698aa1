import HtmlTemplate.Value.Key
namespace HtmlTemplate.Value

-- A mapping names each of its keys once; a value spells it out because its entries are
-- a list.
mutual
def keysOnce : Value → Bool
  | .sequence _ _ items => itemsKeysOnce items
  | .mapping _ entries => !hasDuplicateKey entries && entriesKeysOnce entries
  | .null | .bool _ | .int _ | .float _ | .text _ | .missing | .foreign _ _ | .enclosing _ => true
termination_by structural v => v
def itemsKeysOnce : List Value → Bool
  | [] => true
  | v :: vs => keysOnce v && itemsKeysOnce vs
termination_by structural vs => vs
def entriesKeysOnce : List (Value × Value) → Bool
  | [] => true
  | (_, v) :: es => keysOnce v && entriesKeysOnce es
termination_by structural es => es
end

theorem any_key_closeEntries (whole : Value) (level : Nat) (test : Value → Bool) (es : List (Value × Value)) :
    ((closeEntries whole level es).any fun e => test e.1) = es.any fun e => test e.1 := by
  induction es with
  | nil => rfl
  | cons e es ih => simp [closeEntries, ih]

theorem hasDuplicateKey_closeEntries (whole : Value) (level : Nat) (es : List (Value × Value)) :
    hasDuplicateKey (closeEntries whole level es) = hasDuplicateKey es := by
  induction es with
  | nil => rfl
  | cons e es ih =>
    simp only [closeEntries, hasDuplicateKey, ih]
    rw [any_key_closeEntries whole level (sameKey e.1)]

mutual
theorem keysOnce_close {whole : Value} (once : whole.keysOnce = true) (level : Nat) :
    ∀ {v : Value}, v.keysOnce = true → (close whole level v).keysOnce = true
  | .sequence _ _ items, known => by
    simp only [close, keysOnce] at known ⊢
    exact itemsKeysOnce_close once (level + 1) known
  | .mapping _ entries, known => by
    simp only [close, keysOnce, Bool.and_eq_true, hasDuplicateKey_closeEntries] at known ⊢
    exact ⟨known.1, entriesKeysOnce_close once (level + 1) known.2⟩
  | .enclosing up, _ => by
    simp only [close]
    split
    · exact once
    · rfl
  | .null, _ | .bool _, _ | .int _, _ | .float _, _ | .text _, _ | .missing, _ | .foreign _ _, _ => rfl
theorem itemsKeysOnce_close {whole : Value} (once : whole.keysOnce = true) (level : Nat) :
    ∀ {vs : List Value}, itemsKeysOnce vs = true → itemsKeysOnce (closeItems whole level vs) = true
  | [], _ => rfl
  | v :: vs, known => by
    simp only [closeItems, itemsKeysOnce, Bool.and_eq_true] at known ⊢
    exact ⟨keysOnce_close once level known.1, itemsKeysOnce_close once level known.2⟩
theorem entriesKeysOnce_close {whole : Value} (once : whole.keysOnce = true) (level : Nat) :
    ∀ {es : List (Value × Value)}, entriesKeysOnce es = true →
      entriesKeysOnce (closeEntries whole level es) = true
  | [], _ => rfl
  | (key, v) :: es, known => by
    simp only [closeEntries, entriesKeysOnce, Bool.and_eq_true] at known ⊢
    exact ⟨keysOnce_close once level known.1, entriesKeysOnce_close once level known.2⟩
end

theorem keysOnce_of_mem_items {vs : List Value} (once : itemsKeysOnce vs = true) (member : v ∈ vs) :
    v.keysOnce = true := by
  induction vs with
  | nil => cases member
  | cons w vs ih =>
    simp only [itemsKeysOnce, Bool.and_eq_true] at once
    rcases List.mem_cons.mp member with rfl | later
    · exact once.1
    · exact ih once.2 later

theorem keysOnce_of_mem_entries {es : List (Value × Value)} (once : entriesKeysOnce es = true)
    (member : e ∈ es) : e.2.keysOnce = true := by
  induction es with
  | nil => cases member
  | cons f es ih =>
    simp only [entriesKeysOnce, Bool.and_eq_true] at once
    rcases List.mem_cons.mp member with rfl | later
    · exact once.1
    · exact ih once.2 later

theorem entriesKeysOnce_filter {es : List (Value × Value)} (once : entriesKeysOnce es = true) :
    entriesKeysOnce (es.filter test) = true := by
  induction es with
  | nil => rfl
  | cons e es ih =>
    simp only [entriesKeysOnce, Bool.and_eq_true] at once
    by_cases kept : test e = true
    · simp [List.filter_cons_of_pos kept, entriesKeysOnce, once.1, ih once.2]
    · rw [List.filter_cons_of_neg kept]
      exact ih once.2

theorem keysOnce_listItems {v : Value} (once : v.keysOnce = true) (found : v.listItems? = some items) :
    ∀ item ∈ items, item.keysOnce = true := by
  unfold listItems? at found
  split at found
  · rename_i identity inside
    simp only [items?, Option.some.injEq] at found
    subst found
    intro item member
    exact keysOnce_of_mem_items (itemsKeysOnce_close once 1 (by simpa [keysOnce] using once)) member
  · cases found

theorem keysOnce_entries {v : Value} (once : v.keysOnce = true) (found : v.entries? = some entries) :
    hasDuplicateKey entries = false ∧ entriesKeysOnce entries = true := by
  unfold entries? at found
  split at found
  · rename_i identity inside
    simp only [Option.some.injEq] at found
    have known := once
    simp only [keysOnce, Bool.and_eq_true, Bool.not_eq_true'] at known
    subst found
    exact ⟨by rw [hasDuplicateKey_closeEntries]; exact known.1, entriesKeysOnce_close once 1 known.2⟩
  · cases found

theorem mem_of_find? {entries : List (Value × Value)} (found : find? entries key = some v) :
    ∃ e ∈ entries, e.2 = v := by
  simp only [find?, entry?, Option.map_eq_some_iff] at found
  obtain ⟨e, got, rfl⟩ := found
  exact ⟨e, List.mem_of_find?_eq_some got, rfl⟩

theorem keysOnce_find? {entries : List (Value × Value)} (once : entriesKeysOnce entries = true)
    (found : find? entries key = some v) : v.keysOnce = true := by
  obtain ⟨e, member, rfl⟩ := mem_of_find? found
  exact keysOnce_of_mem_entries once member

end HtmlTemplate.Value
