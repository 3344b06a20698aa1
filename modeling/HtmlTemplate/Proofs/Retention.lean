import HtmlTemplate.Proofs.Containers
import HtmlTemplate.Proofs.Members
import HtmlTemplate.Proofs.Unwritten
import HtmlTemplate.Value.Key
namespace HtmlTemplate.Value

open Json (collected gathered)

def wholeText (v : Value) (json : Json) : String :=
  match v with
  | .null | .missing => ""
  | .text s => s
  | .bool b => if b then "true" else "false"
  | .int n => String.ofList (Chars.signed n)
  | .float x => String.ofList (floatChars x)
  | .foreign _ label => label
  | .sequence _ _ _ | .mapping _ _ | .enclosing _ => String.ofList json.chars

-- The JSON of a value: an element for each item, and of the members for the entries
-- those that are kept. Names are whole.
mutual
def tree (kept : List (String × Json) → List (String × Json)) : Value → Json
  | .sequence _ _ items => .array (itemTrees kept items)
  | .mapping _ entries => .object (kept (entryTrees kept entries))
  | .null => .null
  | .bool b => .bool b
  | .int n => .int n
  | .float x => .float x
  | .text s => .text s
  | .missing => .text ""
  | .foreign _ label => .text label
  | .enclosing _ => circular
termination_by structural v => v
def itemTrees (kept : List (String × Json) → List (String × Json)) : List Value → List Json
  | [] => []
  | v :: vs => tree kept v :: itemTrees kept vs
termination_by structural vs => vs
def entryTrees (kept : List (String × Json) → List (String × Json)) : List (Value × Value) → List (String × Json)
  | [] => []
  | (key, v) :: es => (wholeText key (tree id key), tree kept v) :: entryTrees kept es
termination_by structural es => es
end

def inFull (v : Value) : Json := v.tree id

def fullName (key : Value) : String := key.wholeText key.inFull

inductive Acyclic : List Nat → Value → Prop where
  | plain {around : List Nat} {v : Value} : v.isPlain = true → Acyclic around v
  | sequence {around : List Nat} {shape : Shape} {identity : Nat} {items : List Value} : identity ∉ around →
      (∀ v ∈ items, Acyclic (identity :: around) v) → Acyclic around (.sequence shape identity items)
  | mapping {around : List Nat} {identity : Nat} {entries : List (Value × Value)} : identity ∉ around →
      (∀ e ∈ entries, e.1.canBeKey = true) → (∀ e ∈ entries, Acyclic [] e.1) →
      (∀ e ∈ entries, Acyclic (identity :: around) e.2) → Acyclic around (.mapping identity entries)

-- No more containers in one another than there is room for, those of keys included, and
-- no integer of too many digits.
inductive Fits : Nat → Value → Prop where
  | single {room : Nat} {v : Value} : v.identity? = none → v.isShort = true → Fits room v
  | sequence {room : Nat} {shape : Shape} {identity : Nat} {items : List Value} : (∀ v ∈ items, Fits room v) →
      Fits (room + 1) (.sequence shape identity items)
  | mapping {room identity : Nat} {entries : List (Value × Value)} : (∀ e ∈ entries, Fits room e.1) →
      (∀ e ∈ entries, Fits room e.2) → Fits (room + 1) (.mapping identity entries)

inductive Deep : Nat → Value → Prop where
  | spent {v : Value} {identity : Nat} : v.identity? = some identity → Deep 0 v
  | item {room : Nat} {shape : Shape} {identity : Nat} {items : List Value} {v : Value} : v ∈ items → Deep room v →
      Deep (room + 1) (.sequence shape identity items)
  | content {room identity : Nat} {entries : List (Value × Value)} {e : Value × Value} : e ∈ entries →
      Deep room e.2 → Deep (room + 1) (.mapping identity entries)

inductive NamesApart : Value → Prop where
  | single {v : Value} : v.identity? = none → NamesApart v
  | sequence {shape : Shape} {identity : Nat} {items : List Value} :
      (∀ v ∈ items, NamesApart v) → NamesApart (.sequence shape identity items)
  | mapping {identity : Nat} {entries : List (Value × Value)} : (entries.map fun e => e.1.fullName).Nodup →
      (∀ e ∈ entries, NamesApart e.2) → NamesApart (.mapping identity entries)

variable {v key : Value} {active : List Nat} {room identity : Nat} {json : Json} {name : String}
  {kept : List (String × Json) → List (String × Json)}

section Trees

theorem itemTrees_eq (vs : List Value) : itemTrees kept vs = vs.map (tree kept) := by
  induction vs with
  | nil => rfl
  | cons v vs ih => rw [itemTrees, ih, List.map_cons]

theorem entryTrees_eq (es : List (Value × Value)) :
    entryTrees kept es = es.map fun e => (e.1.fullName, tree kept e.2) := by
  induction es with
  | nil => rfl
  | cons e es ih => rw [entryTrees, ih, List.map_cons, fullName, inFull]

theorem tree_single (single : v.identity? = none) : v.tree kept = v.inFull := by
  cases v <;> first | rfl | cases single

theorem toJson_single (plain : v.isPlain = true) : v.toJson room active = .ok v.inFull := by
  cases v <;> first | rfl | cases plain

theorem isShort_single (single : v.identity? = none) : v.inFull.isShort = v.isShort := by
  cases v <;> first | rfl | cases single

theorem canBeKeys_iff {vs : List Value} : canBeKeys vs = true ↔ ∀ v ∈ vs, v.canBeKey = true := by
  induction vs with
  | nil => simp [canBeKeys]
  | cons v vs ih => simp [canBeKeys, ih]

theorem canBeKey_sequence {shape : Shape} {items : List Value}
    (known : (sequence shape identity items).canBeKey = true) : ∀ v ∈ items, v.canBeKey = true := by
  cases shape with
  | list => cases known
  | tuple => exact canBeKeys_iff.mp known

theorem tree_key (known : key.canBeKey = true) : key.tree kept = key.inFull := by
  induction key using by_containers with
  | sequence shape identity items ih =>
    rw [inFull, tree, tree, itemTrees_eq, itemTrees_eq]
    exact congrArg _ (List.map_congr_left fun v member => ih v member (canBeKey_sequence known v member))
  | mapping identity entries => cases known
  | enclosing up => rfl
  | plain v plain => exact tree_single (identity?_plain plain)

theorem tree_of_namesApart (apart : NamesApart v) : v.tree gathered = v.inFull := by
  induction apart with
  | single single => exact tree_single single
  | sequence _ ih =>
    rw [inFull, tree, tree, itemTrees_eq, itemTrees_eq]
    exact congrArg _ (List.map_congr_left ih)
  | @mapping identity entries distinct _ ih =>
    have members : (entries.map fun e => (e.1.fullName, e.2.tree gathered)) =
        entries.map fun e => (e.1.fullName, e.2.inFull) :=
      List.map_congr_left fun e member => by rw [ih e member]
    rw [inFull, tree, tree, entryTrees_eq, entryTrees_eq, members, ← Json.collected_eq_gathered,
      Json.collected_of_nodup (by rwa [List.map_map])]
    rfl

end Trees

section Fitting

theorem spell_of_fits (fits : Fits room v) (short : json.isShort = true) : v.spell (.ok json) = .ok (v.wholeText json) := by
  cases fits with
  | single single own =>
    cases v with
    | int n => exact congrArg (Except.map String.ofList) (if_pos own)
    | sequence | mapping => cases single
    | enclosing => exact if_pos short
    | _ => rfl
  | sequence | mapping => exact if_pos short

-- What fits is copied and written. Of the entries with one name only the last is kept.
theorem toJson_of_fits (acyclic : Acyclic active v) (fits : Fits room v) :
    v.toJson room active = .ok (v.tree gathered) ∧ (v.tree gathered).isShort = true := by
  induction acyclic generalizing room with
  | @plain active v plain =>
    have single := identity?_plain plain
    rw [tree_single single, isShort_single single]
    refine ⟨toJson_single plain, ?_⟩
    cases fits with
    | single _ short => exact short
    | _ => cases single
  | @sequence active shape identity items fresh _ ih =>
    cases fits with
    | single single => cases single
    | sequence each =>
      rw [toJson_sequence fresh, mapM_of_ok fun v member => (ih v member (each v member)).1, tree, itemTrees_eq]
      refine ⟨rfl, Json.itemsShort_iff.mpr (List.forall_mem_map.mpr fun v member => ?_)⟩
      exact (ih v member (each v member)).2
  | @mapping active identity entries fresh canBeKey _ _ keys contents =>
    cases fits with
    | single single => cases single
    | mapping named each =>
      rename_i room
      have members (e : Value × Value) (inside : e ∈ entries) :
          member room (identity :: active) e = .ok (e.1.fullName, e.2.tree gathered) := by
        obtain ⟨copied, short⟩ := keys e inside (named e inside)
        rw [tree_key (canBeKey e inside)] at copied short
        rw [member, name, copied, spell_of_fits (named e inside) short, (contents e inside (each e inside)).1]
        rfl
      rw [toJson_mapping fresh, mapM_of_ok members, tree, entryTrees_eq, ← Json.collected_eq_gathered]
      refine ⟨rfl, isShort_ofMembers (Json.membersShort_iff.mpr (List.forall_mem_map.mpr fun e inside => ?_))⟩
      exact (contents e inside (each e inside)).2

theorem stringify_of_fits [Stack] (acyclic : Acyclic [] v) (fits : Fits Stack.copying v) :
    v.stringify = .ok (v.wholeText (v.tree gathered)) := by
  obtain ⟨copied, short⟩ := toJson_of_fits acyclic fits
  rw [stringify, copied, spell_of_fits fits short]

end Fitting

section Depth

theorem toJson_ne_of_deep (acyclic : Acyclic active v) (deep : Deep room v) : v.toJson room active ≠ .ok json := by
  induction deep generalizing active json with
  | spent known =>
    cases acyclic with
    | plain plain => cases (identity?_plain plain).symm.trans known
    | sequence fresh | mapping fresh =>
      rw [toJson_of_spent rfl fresh]
      nofun
  | item inside _ ih =>
    cases acyclic with
    | plain plain => cases plain
    | sequence fresh each =>
      rw [toJson_sequence fresh]
      intro ended
      obtain ⟨jsons, copied, _⟩ := map_eq_ok.mp ended
      obtain ⟨part, _, whole⟩ := exists_of_forall₂ (mapM_eq_ok_iff.mp copied) inside
      exact ih (each _ inside) whole
  | content inside _ ih =>
    cases acyclic with
    | plain plain => cases plain
    | mapping fresh _ _ each =>
      rw [toJson_mapping fresh]
      intro ended
      obtain ⟨members, copied, _⟩ := map_eq_ok.mp ended
      obtain ⟨m, _, whole⟩ := exists_of_forall₂ (mapM_eq_ok_iff.mp copied) inside
      exact ih (each _ inside) (member_ok whole).2

theorem stringify_of_deep [Stack] (acyclic : Acyclic [] v) (short : v.isShort = true) (deep : Deep Stack.copying v) :
    v.stringify = .ok "" := by
  have within := within_toJson short Stack.copying []
  cases ended : v.toJson Stack.copying [] with
  | ok json => exact absurd ended (toJson_ne_of_deep acyclic deep)
  | error reason =>
    rw [ended] at within
    obtain rfl : reason = .tooDeep := within
    rw [stringify, ended]
    cases acyclic with
    | plain plain => cases (toJson_single plain).symm.trans ended
    | _ => rfl

end Depth

section Length

theorem key_of_toJson (acyclic : Acyclic active key) (canBeKey : key.canBeKey = true)
    (copied : key.toJson room active = .ok json) : json = key.inFull ∧ (json.isShort = true → Fits room key) := by
  induction acyclic generalizing room json with
  | @plain active v plain =>
    cases (toJson_single plain).symm.trans copied
    have single := identity?_plain plain
    exact ⟨rfl, fun short => .single single (isShort_single single ▸ short)⟩
  | @sequence active shape identity items fresh _ ih =>
    cases room with
    | zero =>
      rw [toJson_of_spent rfl fresh] at copied
      cases copied
    | succ room =>
      rw [toJson_sequence fresh] at copied
      obtain ⟨jsons, parts, rfl⟩ := map_eq_ok.mp copied
      have each (v : Value) (member : v ∈ items) : v.toJson room (identity :: active) = .ok v.inFull := by
        obtain ⟨json, _, part⟩ := exists_of_forall₂ (mapM_eq_ok_iff.mp parts) member
        rw [part, (ih v member (canBeKey_sequence canBeKey v member) part).1]
      rw [mapM_of_ok each] at parts
      cases parts
      refine ⟨by rw [inFull, tree, itemTrees_eq]; rfl, fun short => .sequence fun v member => ?_⟩
      have own := Json.itemsShort_iff.mp short _ (List.mem_map_of_mem member)
      exact (ih v member (canBeKey_sequence canBeKey v member) (each v member)).2 own
  | mapping => cases canBeKey

theorem spell_plain (plain : v.isPlain = true) {copy : Except Unwritten Json} {s : String}
    (spelled : v.spell copy = .ok s) : v.isShort = true ∧ s = v.wholeText v.inFull := by
  cases v with
  | int n =>
    obtain ⟨chars, written, rfl⟩ := map_eq_ok.mp spelled
    obtain ⟨short, rfl⟩ := Digit.write_eq_ok_iff.mp written
    exact ⟨short, rfl⟩
  | sequence | mapping | enclosing => cases plain
  | _ =>
    cases spelled
    exact ⟨rfl, rfl⟩

theorem wholeText_container (known : v.identity? = some identity) (json : Json) :
    v.wholeText json = String.ofList json.chars := by
  cases v <;> first | rfl | cases known

theorem inFull_chars_ne_nil (known : v.identity? = some identity) : v.inFull.chars ≠ [] := by
  cases v <;> cases known <;> nofun

theorem name_or_empty (acyclic : Acyclic [] key) (canBeKey : key.canBeKey = true) (named : key.name room = .ok name) :
    Fits room key ∧ name = key.fullName ∨ name = "" ∧ key.fullName ≠ "" := by
  have whole := acyclic
  cases acyclic with
  | plain plain =>
    have single := identity?_plain plain
    obtain ⟨short, same⟩ := spell_plain plain named
    exact .inl ⟨.single single short, same⟩
  | mapping => cases canBeKey
  | sequence =>
    rw [Value.name, spell_container rfl] at named
    cases copied : toJson room [] _ with
    | ok json =>
      obtain ⟨same, fits⟩ := key_of_toJson whole canBeKey copied
      rw [copied] at named
      obtain ⟨short, rfl⟩ := Json.write_eq_ok_iff.mp named
      exact .inl ⟨fits short, by rw [same]; rfl⟩
    | error reason =>
      rw [copied] at named
      cases reason with
      | tooLong => cases named
      | tooDeep =>
        cases named
        exact .inr ⟨rfl, fun none => inFull_chars_ne_nil rfl (String.ofList_eq_empty_iff.mp none)⟩

theorem width_of_name {e : Value × Value} {m : String × Json}
    (named : Fits room e.1 ∧ m.1 = e.1.fullName ∨ m.1 = "" ∧ e.1.fullName ≠ "")
    (content : m.2.chars.length ≤ e.2.inFull.chars.length) :
    Json.width m ≤ Json.width (e.1.fullName, e.2.inFull) ∧
    (Json.width (e.1.fullName, e.2.inFull) ≤ Json.width m →
      Fits room e.1 ∧ m.1 = e.1.fullName ∧ e.2.inFull.chars.length ≤ m.2.chars.length) := by
  simp only [Json.width]
  rcases named with ⟨fits, same⟩ | ⟨empty, some⟩
  · rw [same]
    exact ⟨by omega, fun whole => ⟨fits, rfl, by omega⟩⟩
  · have wider : 2 < (Json.quote e.1.fullName.toList).length := Json.length_quote (mt String.toList_eq_nil_iff.mp some)
    have least : (Json.quote m.1.toList).length = 2 := by rw [empty]; rfl
    exact ⟨by omega, fun whole => by omega⟩

theorem length_of_toJson (acyclic : Acyclic active v) (copied : v.toJson room active = .ok json) :
    json.chars.length ≤ v.inFull.chars.length ∧
    (v.inFull.chars.length ≤ json.chars.length → json.isShort = true → Fits room v ∧ NamesApart v) := by
  induction acyclic generalizing room json with
  | @plain active v plain =>
    cases (toJson_single plain).symm.trans copied
    have single := identity?_plain plain
    exact ⟨Nat.le_refl _, fun _ short => ⟨.single single (isShort_single single ▸ short), .single single⟩⟩
  | @sequence active shape identity items fresh _ ih =>
    cases room with
    | zero =>
      rw [toJson_of_spent rfl fresh] at copied
      cases copied
    | succ room =>
      rw [toJson_sequence fresh] at copied
      obtain ⟨jsons, parts, rfl⟩ := map_eq_ok.mp copied
      have each := forall₂_of_mapM parts fun v member json part => ih v member part
      rw [inFull, tree, itemTrees_eq]
      refine ⟨Json.length_array_le each fun v json known => known.1, fun whole short => ?_⟩
      have parts := Json.forall₂_of_length_array each (fun v json known => known.1) whole
      have both (v : Value) (member : v ∈ items) : Fits room v ∧ NamesApart v := by
        obtain ⟨json, inside, known, own⟩ := exists_of_forall₂ parts member
        exact known.2 own (Json.itemsShort_iff.mp short json inside)
      exact ⟨.sequence fun v member => (both v member).1, .sequence fun v member => (both v member).2⟩
  | @mapping active identity entries fresh canBeKey keys _ _ ih =>
    cases room with
    | zero =>
      rw [toJson_of_spent rfl fresh] at copied
      cases copied
    | succ room =>
      rw [toJson_mapping fresh] at copied
      obtain ⟨members, parts, rfl⟩ := map_eq_ok.mp copied
      have each := forall₂_of_mapM parts fun e inside m known => by
        obtain ⟨named, content⟩ := member_ok known
        obtain ⟨shorter, own⟩ := ih e inside content
        obtain ⟨narrower, kept⟩ := width_of_name (name_or_empty (keys e inside) (canBeKey e inside) named) shorter
        exact And.intro narrower fun whole => (kept whole).imp id (And.imp id own)
      rw [inFull, tree, entryTrees_eq]
      refine ⟨Json.length_object_le each fun e m known => known.1, fun whole short => ?_⟩
      obtain ⟨distinct, parts⟩ := Json.forall₂_of_length_object each (fun e m known => known.1) whole
      have names : (entries.map fun e => e.1.fullName) = members.map (·.1) := by
        rw [← List.forall₂_eq_eq_eq, List.forall₂_map_left_iff, List.forall₂_map_right_iff]
        exact parts.imp fun e m known => (known.1.2 known.2).2.1.symm
      have shorts : ∀ m ∈ Json.collected members, m.2.isShort = true := Json.membersShort_iff.mp short
      rw [Json.collected_of_nodup distinct] at shorts
      have both (e : Value × Value) (member : e ∈ entries) : Fits room e.1 ∧ Fits room e.2 ∧ NamesApart e.2 := by
        obtain ⟨m, inside, ⟨_, known⟩, own⟩ := exists_of_forall₂ parts member
        obtain ⟨fits, _, content⟩ := known own
        exact ⟨fits, content (shorts m inside)⟩
      exact ⟨.mapping (fun e member => (both e member).1) fun e member => (both e member).2.1,
        .mapping (names ▸ distinct) fun e member => (both e member).2.2⟩

theorem fits_of_whole [Stack] (acyclic : Acyclic [] v) (whole : v.stringify = .ok (v.wholeText v.inFull)) :
    Fits Stack.copying v ∧ NamesApart v := by
  cases known : v.identity? with
  | none =>
    cases acyclic with
    | plain plain =>
      obtain ⟨short, _⟩ := spell_plain plain whole
      exact ⟨.single known short, .single known⟩
    | _ => cases known
  | some identity =>
    rw [stringify, spell_container known, wholeText_container known] at whole
    cases copied : v.toJson Stack.copying [] with
    | ok json =>
      rw [copied] at whole
      obtain ⟨short, text⟩ := Json.write_eq_ok_iff.mp whole
      exact (length_of_toJson acyclic copied).2 (String.ofList_inj.mp text ▸ Nat.le_refl _) short
    | error reason =>
      rw [copied] at whole
      cases reason with
      | tooLong => cases whole
      | tooDeep =>
        have empty : "" = String.ofList v.inFull.chars := Except.ok.inj whole
        exact absurd (String.ofList_eq_empty_iff.mp empty.symm) (inFull_chars_ne_nil known)

end Length

-- The text of a value in which nothing stands within itself: of the entries with one
-- name only the last is kept. So nothing is lost exactly where no names meet, and
-- nothing goes too deep or is too long to be written.
theorem stringify_of_acyclic [Stack] (acyclic : Acyclic [] v) :
    (Fits Stack.copying v → v.stringify = .ok (v.wholeText (v.tree gathered))) ∧
    (v.stringify = .ok (v.wholeText v.inFull) ↔ Fits Stack.copying v ∧ NamesApart v) ∧
    (v.isShort = true → Deep Stack.copying v → v.stringify = .ok "") := by
  refine ⟨stringify_of_fits acyclic, ⟨fits_of_whole acyclic, ?_⟩, stringify_of_deep acyclic⟩
  rintro ⟨fits, apart⟩
  rw [stringify_of_fits acyclic fits, tree_of_namesApart apart]

def keyed : Value := .mapping 1 [
  (.sequence .tuple 2 [.int 1, .int 2], .sequence .list 3 [.mapping 4 [(.int 1, .null)], .text "x"]),
  (.bool true, .int 0)]

theorem keyed_kept :
    Acyclic [] keyed ∧ Fits Stack.copying keyed ∧ NamesApart keyed ∧ keyed.stringify = .ok (keyed.wholeText keyed.inFull) ∧
    keyed.wholeText keyed.inFull = "\x7b\"[1,2]\":[\x7b\"1\":null\x7d,\"x\"],\"true\":0\x7d" := by
  have acyclic : Acyclic [] keyed := by
    have key : Acyclic [] (.sequence .tuple 2 [.int 1, .int 2]) :=
      .sequence nofun (List.forall_mem_cons.mpr ⟨.plain rfl, List.forall_mem_singleton.mpr (.plain rfl)⟩)
    have list : Acyclic [1] (.sequence .list 3 [.mapping 4 [(.int 1, .null)], .text "x"]) := by
      refine .sequence (by decide) (List.forall_mem_cons.mpr ⟨?_, List.forall_mem_singleton.mpr (.plain rfl)⟩)
      exact .mapping (by decide) (by decide) (List.forall_mem_singleton.mpr (.plain rfl))
        (List.forall_mem_singleton.mpr (.plain rfl))
    exact .mapping nofun (by decide)
      (List.forall_mem_cons.mpr ⟨key, List.forall_mem_singleton.mpr (.plain rfl)⟩)
      (List.forall_mem_cons.mpr ⟨list, List.forall_mem_singleton.mpr (.plain rfl)⟩)
  have fits : Fits Stack.copying keyed := by
    have key : Fits 489 (.sequence .tuple 2 [.int 1, .int 2]) :=
      .sequence (List.forall_mem_cons.mpr
        ⟨.single rfl (by decide), List.forall_mem_singleton.mpr (.single rfl (by decide))⟩)
    have list : Fits 489 (.sequence .list 3 [.mapping 4 [(.int 1, .null)], .text "x"]) := by
      refine .sequence (List.forall_mem_cons.mpr ⟨?_, List.forall_mem_singleton.mpr (.single rfl rfl)⟩)
      exact .mapping (List.forall_mem_singleton.mpr (.single rfl (by decide)))
        (List.forall_mem_singleton.mpr (.single rfl rfl))
    exact .mapping (List.forall_mem_cons.mpr ⟨key, List.forall_mem_singleton.mpr (.single rfl rfl)⟩)
      (List.forall_mem_cons.mpr ⟨list, List.forall_mem_singleton.mpr (.single rfl (by decide))⟩)
  have apart : NamesApart keyed := by
    have list : NamesApart (.sequence .list 3 [.mapping 4 [(.int 1, .null)], .text "x"]) := by
      refine .sequence (List.forall_mem_cons.mpr ⟨?_, List.forall_mem_singleton.mpr (.single rfl)⟩)
      exact .mapping (by decide) (List.forall_mem_singleton.mpr (.single rfl))
    exact .mapping (by decide) (List.forall_mem_cons.mpr ⟨list, List.forall_mem_singleton.mpr (.single rfl)⟩)
  exact ⟨acyclic, fits, apart, (stringify_of_acyclic acyclic).2.1.mpr ⟨fits, apart⟩, rfl⟩

def doubled : Value := .mapping 1 [(.int 1, .text "a"), (.text "1", .text "b")]

theorem doubled_loses :
    Acyclic [] doubled ∧ Fits Stack.copying doubled ∧
    doubled.stringify = .ok "\x7b\"1\":\"b\"\x7d" ∧
    doubled.wholeText doubled.inFull = "\x7b\"1\":\"a\",\"1\":\"b\"\x7d" ∧
    doubled.stringify ≠ .ok (doubled.wholeText doubled.inFull) := by
  have acyclic : Acyclic [] doubled :=
    .mapping nofun (by decide) (List.forall_mem_cons.mpr ⟨.plain rfl, List.forall_mem_singleton.mpr (.plain rfl)⟩)
      (List.forall_mem_cons.mpr ⟨.plain rfl, List.forall_mem_singleton.mpr (.plain rfl)⟩)
  have fits : Fits Stack.copying doubled :=
    .mapping (List.forall_mem_cons.mpr ⟨.single rfl (by decide), List.forall_mem_singleton.mpr (.single rfl rfl)⟩)
      (List.forall_mem_cons.mpr ⟨.single rfl rfl, List.forall_mem_singleton.mpr (.single rfl rfl)⟩)
  have text : doubled.stringify = .ok "\x7b\"1\":\"b\"\x7d" := rfl
  have full : doubled.wholeText doubled.inFull = "\x7b\"1\":\"a\",\"1\":\"b\"\x7d" := rfl
  refine ⟨acyclic, fits, text, full, ?_⟩
  rw [text, full, Ne, Except.ok.injEq]
  decide

end HtmlTemplate.Value
