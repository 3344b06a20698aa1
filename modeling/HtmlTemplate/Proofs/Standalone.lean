import HtmlTemplate.Value.Basic
namespace HtmlTemplate.Value

-- A value that stands alone has references to its own containers only.
mutual
def upTo (level : Nat) : Value → Bool
  | .sequence _ _ items => itemsUpTo (level + 1) items
  | .mapping _ entries => entriesUpTo (level + 1) entries
  | .enclosing up => up ≤ level
  | .null | .bool _ | .int _ | .float _ | .text _ | .missing | .foreign _ _ => true
termination_by structural v => v
def itemsUpTo (level : Nat) : List Value → Bool
  | [] => true
  | v :: vs => upTo level v && itemsUpTo level vs
termination_by structural vs => vs
def entriesUpTo (level : Nat) : List (Value × Value) → Bool
  | [] => true
  | (_, v) :: es => upTo level v && entriesUpTo level es
termination_by structural es => es
end

def standsAlone (v : Value) : Bool := upTo 0 v

variable {whole : Value}

mutual
theorem upTo_mono : ∀ {level far : Nat} {v : Value}, level ≤ far → upTo level v = true → upTo far v = true
  | _, _, .sequence _ _ items, below, known => by
    simp only [upTo] at known ⊢
    exact itemsUpTo_mono (Nat.succ_le_succ below) known
  | _, _, .mapping _ entries, below, known => by
    simp only [upTo] at known ⊢
    exact entriesUpTo_mono (Nat.succ_le_succ below) known
  | _, _, .enclosing up, below, known => by
    simp only [upTo, decide_eq_true_eq] at known ⊢
    exact Nat.le_trans known below
  | _, _, .null, _, _ | _, _, .bool _, _, _ | _, _, .int _, _, _ | _, _, .float _, _, _
  | _, _, .text _, _, _ | _, _, .missing, _, _ | _, _, .foreign _ _, _, _ => rfl
theorem itemsUpTo_mono : ∀ {level far : Nat} {vs : List Value}, level ≤ far →
    itemsUpTo level vs = true → itemsUpTo far vs = true
  | _, _, [], _, _ => rfl
  | _, _, v :: vs, below, known => by
    simp only [itemsUpTo, Bool.and_eq_true] at known ⊢
    exact ⟨upTo_mono below known.1, itemsUpTo_mono below known.2⟩
theorem entriesUpTo_mono : ∀ {level far : Nat} {es : List (Value × Value)}, level ≤ far →
    entriesUpTo level es = true → entriesUpTo far es = true
  | _, _, [], _, _ => rfl
  | _, _, (_, v) :: es, below, known => by
    simp only [entriesUpTo, Bool.and_eq_true] at known ⊢
    exact ⟨upTo_mono below known.1, entriesUpTo_mono below known.2⟩
end

mutual
theorem close_of_upTo : ∀ {level far : Nat} {v : Value}, level < far → upTo level v = true →
    close whole far v = v
  | _, _, .sequence _ _ items, beyond, known => by
    simp only [upTo] at known
    rw [close, closeItems_of_upTo (Nat.succ_lt_succ beyond) known]
  | _, _, .mapping _ entries, beyond, known => by
    simp only [upTo] at known
    rw [close, closeEntries_of_upTo (Nat.succ_lt_succ beyond) known]
  | _, _, .enclosing up, beyond, known => by
    simp only [upTo, decide_eq_true_eq] at known
    rw [close, if_neg (by omega)]
  | _, _, .null, _, _ | _, _, .bool _, _, _ | _, _, .int _, _, _ | _, _, .float _, _, _
  | _, _, .text _, _, _ | _, _, .missing, _, _ | _, _, .foreign _ _, _, _ => rfl
theorem closeItems_of_upTo : ∀ {level far : Nat} {vs : List Value}, level < far →
    itemsUpTo level vs = true → closeItems whole far vs = vs
  | _, _, [], _, _ => rfl
  | _, _, v :: vs, beyond, known => by
    simp only [itemsUpTo, Bool.and_eq_true] at known
    rw [closeItems, close_of_upTo beyond known.1, closeItems_of_upTo beyond known.2]
theorem closeEntries_of_upTo : ∀ {level far : Nat} {es : List (Value × Value)}, level < far →
    entriesUpTo level es = true → closeEntries whole far es = es
  | _, _, [], _, _ => rfl
  | _, _, (_, v) :: es, beyond, known => by
    simp only [entriesUpTo, Bool.and_eq_true] at known
    rw [closeEntries, close_of_upTo beyond known.1, closeEntries_of_upTo beyond known.2]
end

mutual
theorem upTo_close (alone : whole.standsAlone = true) :
    ∀ {level : Nat} {v : Value}, upTo (level + 1) v = true → upTo level (close whole (level + 1) v) = true
  | _, .sequence _ _ items, known => by
    simp only [close, upTo] at known ⊢
    exact itemsUpTo_close alone known
  | _, .mapping _ entries, known => by
    simp only [close, upTo] at known ⊢
    exact entriesUpTo_close alone known
  | level, .enclosing up, known => by
    simp only [upTo, decide_eq_true_eq] at known
    rw [close]
    split
    · exact upTo_mono (Nat.zero_le level) alone
    · simp only [upTo, decide_eq_true_eq]
      omega
  | _, .null, _ | _, .bool _, _ | _, .int _, _ | _, .float _, _ | _, .text _, _ | _, .missing, _
  | _, .foreign _ _, _ => rfl
theorem itemsUpTo_close (alone : whole.standsAlone = true) :
    ∀ {level : Nat} {vs : List Value}, itemsUpTo (level + 1) vs = true →
      itemsUpTo level (closeItems whole (level + 1) vs) = true
  | _, [], _ => rfl
  | _, v :: vs, known => by
    simp only [closeItems, itemsUpTo, Bool.and_eq_true] at known ⊢
    exact ⟨upTo_close alone known.1, itemsUpTo_close alone known.2⟩
theorem entriesUpTo_close (alone : whole.standsAlone = true) :
    ∀ {level : Nat} {es : List (Value × Value)}, entriesUpTo (level + 1) es = true →
      entriesUpTo level (closeEntries whole (level + 1) es) = true
  | _, [], _ => rfl
  | _, (_, v) :: es, known => by
    simp only [closeEntries, entriesUpTo, Bool.and_eq_true] at known ⊢
    exact ⟨upTo_close alone known.1, entriesUpTo_close alone known.2⟩
end

theorem standsAlone_entries {v : Value} {entries : List (Value × Value)} (alone : v.standsAlone = true)
    (found : v.entries? = some entries) : entriesUpTo 0 entries = true := by
  unfold entries? at found
  split at found
  · cases found
    exact entriesUpTo_close alone alone
  · cases found

theorem entriesUpTo_filter {level : Nat} {es : List (Value × Value)} (known : entriesUpTo level es = true)
    (test : Value × Value → Bool) : entriesUpTo level (es.filter test) = true := by
  induction es with
  | nil => rfl
  | cons e es ih =>
    simp only [entriesUpTo, Bool.and_eq_true] at known
    cases kept : test e with
    | true => simp [kept, entriesUpTo, known.1, ih known.2]
    | false => simp [kept, ih known.2]

theorem entries?_mapping {es : List (Value × Value)} (known : entriesUpTo 0 es = true) (identity : Nat) :
    (mapping identity es).entries? = some es := by
  rw [entries?, closeEntries_of_upTo Nat.zero_lt_one known]

end HtmlTemplate.Value
