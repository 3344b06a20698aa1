import HtmlTemplate.Proofs.Refusal
namespace HtmlTemplate.Path

-- What a value has for a segment. A mapping has the entry under that text, else the
-- one under the number it spells; a sequence has the item it counts to.
inductive Holds (v : Value) (segment : List Char) (w : Value) : Prop where
  | named {entries : List (Value × Value)} : v.entries? = some entries →
      Value.find? entries (String.ofList segment) = some w → Holds v segment w
  | numbered {entries : List (Value × Value)} {n : Nat} : v.entries? = some entries →
      Value.find? entries (String.ofList segment) = none → Digit.isNumeral segment = true →
      Digit.read segment = .ok n → Value.entry? entries (Value.isIndex n) = some w → Holds v segment w
  | item {items : List Value} {n : Nat} : v.items? = some items → Digit.isNumeral segment = true →
      Digit.read segment = .ok n → items[n]? = some w → Holds v segment w

inductive Absent (v : Value) (segment : List Char) : Prop where
  | unnamed {entries : List (Value × Value)} : v.entries? = some entries →
      Value.find? entries (String.ofList segment) = none →
      (∀ n, Digit.isNumeral segment = true → Digit.read segment = .ok n →
        Value.entry? entries (Value.isIndex n) = none) → Absent v segment
  | outside {items : List Value} : v.items? = some items →
      (∀ n, Digit.isNumeral segment = true → Digit.read segment = .ok n → items.length ≤ n) → Absent v segment
  | plain : v.items? = none → v.entries? = none → Absent v segment
  | stored : Holds v segment .missing → Absent v segment

inductive Leads : Value → List (List Char) → Value → Prop where
  | here {v : Value} : Leads v [] v
  | further {v w last : Value} {segment : List Char} {parts : List (List Char)} :
      Holds v segment w → w ≠ .missing → Leads w parts last → Leads v (segment :: parts) last

def route (path : List Char) : List (List Char) := if (splitParents path).2 = [] then [] else segments path

def Finds (scope : Scope) (path : List Char) (v : Value) : Prop :=
  path = ['.'] ∧ v = scope.data ∨
    path ≠ ['.'] ∧ ∃ start, scope.level? (splitParents path).1 = some start ∧ Leads start (route path) v

def Lacks (scope : Scope) (path : List Char) : Prop :=
  scope.ancestors.length < (splitParents path).1 ∨
    ∃ start before segment after v, scope.level? (splitParents path).1 = some start ∧
      route path = before ++ segment :: after ∧ Leads start before v ∧ Absent v segment

-- Nothing in the way of a walk: no segment is refused, and each numeral can be read.
structure Passable (parts : List (List Char)) : Prop where
  free : ∀ part ∈ parts, isBlocked part = false
  readable : ∀ part ∈ parts, Digit.isNumeral part = true → ∃ n, Digit.read part = .ok n

variable {scope : Scope} {v w : Value} {segment path : List Char} {parts before after : List (List Char)}

theorem Passable.left (passable : Passable (before ++ after)) : Passable before where
  free part member := passable.free part (List.mem_append_left _ member)
  readable part member := passable.readable part (List.mem_append_left _ member)

theorem Passable.right (passable : Passable (before ++ after)) : Passable after where
  free part member := passable.free part (List.mem_append_right _ member)
  readable part member := passable.readable part (List.mem_append_right _ member)

theorem level?_eq_none_iff {n : Nat} : scope.level? n = none ↔ scope.ancestors.length < n := by
  cases n with
  | zero => simp [Scope.level?]
  | succ n => rw [Scope.level?, List.getElem?_eq_none_iff, Nat.lt_succ_iff]

theorem items?_of_mapping {entries : List (Value × Value)} (mapping : v.entries? = some entries) : v.items? = none := by
  cases v with
  | mapping identity es => rfl
  | _ => cases mapping

theorem index_of_holds (holds : Holds v segment w) : index v segment = .ok (some w) := by
  cases holds with
  | named mapping found => simp [index, items?_of_mapping mapping, mapping, found]
  | numbered mapping unnamed numeral read found =>
    simp [index, items?_of_mapping mapping, mapping, unnamed, numeral, read, found, Except.map]
  | item sequence numeral read found => simp [index, sequence, numeral, read, found, Except.map]

theorem index_of_absent (readable : Digit.isNumeral segment = true → ∃ n, Digit.read segment = .ok n)
    (absent : Absent v segment) : index v segment = .ok none ∨ index v segment = .ok (some .missing) := by
  cases absent with
  | unnamed mapping unnamed unnumbered =>
    left
    by_cases numeral : Digit.isNumeral segment = true
    · obtain ⟨n, read⟩ := readable numeral
      simp [index, items?_of_mapping mapping, mapping, unnamed, numeral, read, unnumbered n numeral read, Except.map]
    · simp [index, items?_of_mapping mapping, mapping, unnamed, numeral]
  | outside sequence beyond =>
    left
    by_cases numeral : Digit.isNumeral segment = true
    · obtain ⟨n, read⟩ := readable numeral
      simp [index, sequence, numeral, read, beyond n numeral read, Except.map]
    · simp [index, sequence, numeral]
  | plain noSequence noMapping =>
    left
    simp [index, noSequence, noMapping]
  | stored holds => exact .inr (index_of_holds holds)

theorem holds_or_absent (v : Value) (segment : List Char) :
    Absent v segment ∨ ∃ w, Holds v segment w ∧ w ≠ .missing := by
  have given {w : Value} (holds : Holds v segment w) : Absent v segment ∨ ∃ w, Holds v segment w ∧ w ≠ .missing := by
    by_cases missing : w = .missing
    · subst missing
      exact .inl (.stored holds)
    · exact .inr ⟨w, holds, missing⟩
  cases sequence : v.items? with
  | some items =>
    by_cases item : ∃ n w, Digit.isNumeral segment = true ∧ Digit.read segment = .ok n ∧ items[n]? = some w
    · obtain ⟨n, w, numeral, read, found⟩ := item
      exact given (.item sequence numeral read found)
    · refine .inl (.outside sequence ?_)
      intro n numeral read
      by_contra inside
      exact item ⟨n, items[n], numeral, read, List.getElem?_eq_getElem (by omega)⟩
  | none =>
    cases mapping : v.entries? with
    | none => exact .inl (.plain sequence mapping)
    | some entries =>
      cases named : Value.find? entries (String.ofList segment) with
      | some w => exact given (.named mapping named)
      | none =>
        by_cases numbered : ∃ n w, Digit.isNumeral segment = true ∧ Digit.read segment = .ok n ∧
            Value.entry? entries (Value.isIndex n) = some w
        · obtain ⟨n, w, numeral, read, found⟩ := numbered
          exact given (.numbered mapping named numeral read found)
        · refine .inl (.unnamed mapping named ?_)
          intro n numeral read
          by_contra found
          obtain ⟨w, found⟩ := Option.ne_none_iff_exists'.mp found
          exact numbered ⟨n, w, numeral, read, found⟩

theorem walk_of_leads (free : ∀ part ∈ parts, isBlocked part = false) (leads : Leads v parts w) :
    walk v parts = .ok (.value w) := by
  induction leads with
  | here => rfl
  | @further v w last segment parts holds present _ ih =>
    have rest := ih fun part member => free part (List.mem_cons_of_mem _ member)
    rw [walk, free segment List.mem_cons_self, index_of_holds holds]
    cases w with
    | missing => exact absurd rfl present
    | _ => exact rest

theorem walk_of_absent (passable : Passable (before ++ segment :: after)) (leads : Leads v before w)
    (absent : Absent w segment) : walk v (before ++ segment :: after) = .ok .nothing := by
  have here := passable.right
  have unblocked := here.free segment List.mem_cons_self
  rw [walk_append, walk_of_leads passable.left.free leads]
  dsimp only
  rw [walk, unblocked]
  obtain none | missing := index_of_absent (here.readable segment List.mem_cons_self) absent
  · rw [none]
    rfl
  · rw [missing]
    rfl

theorem leads_or_stops (v : Value) (parts : List (List Char)) :
    (∃ w, Leads v parts w) ∨
      ∃ before segment after w, parts = before ++ segment :: after ∧ Leads v before w ∧ Absent w segment := by
  induction parts generalizing v with
  | nil => exact .inl ⟨v, .here⟩
  | cons segment parts ih =>
    rcases holds_or_absent v segment with absent | ⟨w, holds, present⟩
    · exact .inr ⟨[], segment, parts, v, rfl, .here, absent⟩
    · rcases ih w with ⟨last, leads⟩ | ⟨before, other, after, last, listed, leads, absent⟩
      · exact .inl ⟨last, .further holds present leads⟩
      · exact .inr ⟨segment :: before, other, after, last, by rw [listed]; rfl, .further holds present leads, absent⟩

theorem lookup_route {start : Value} (plain : path ≠ ['.']) (found : scope.level? (splitParents path).1 = some start) :
    lookup scope path = walk start (route path) := by
  unfold lookup route
  rw [if_neg plain]
  simp only [found, List.isEmpty_iff]
  split
  · rfl
  · rfl

theorem lookup_of_finds (passable : Passable (route path)) (finds : Finds scope path v) :
    lookup scope path = .ok (.value v) := by
  rcases finds with ⟨dot, rfl⟩ | ⟨plain, start, found, leads⟩
  · rw [lookup, if_pos dot]
  · rw [lookup_route plain found]
    exact walk_of_leads passable.free leads

theorem lookup_of_lacks (passable : Passable (route path)) (plain : path ≠ ['.']) (lacks : Lacks scope path) :
    lookup scope path = .ok .nothing := by
  rcases lacks with beyond | ⟨start, before, segment, after, v, found, parts, leads, absent⟩
  · have none := level?_eq_none_iff.mpr beyond
    simp [lookup, plain, none]
  · rw [lookup_route plain found, parts]
    rw [parts] at passable
    exact walk_of_absent passable leads absent

theorem finds_or_lacks (scope : Scope) (path : List Char) :
    (∃ v, Finds scope path v) ∨ path ≠ ['.'] ∧ Lacks scope path := by
  by_cases dot : path = ['.']
  · exact .inl ⟨scope.data, .inl ⟨dot, rfl⟩⟩
  · cases found : scope.level? (splitParents path).1 with
    | none => exact .inr ⟨dot, .inl (level?_eq_none_iff.mp found)⟩
    | some start =>
      rcases leads_or_stops start (route path) with ⟨v, leads⟩ | ⟨before, segment, after, v, parts, leads, absent⟩
      · exact .inl ⟨v, .inr ⟨dot, start, found, leads⟩⟩
      · exact .inr ⟨dot, .inr ⟨start, before, segment, after, v, found, parts, leads, absent⟩⟩

-- The fallback is asked exactly where a path other than `.` lacks something: once, about
-- the path as it is written and in the whole scope. What a path finds is returned as it
-- is, whatever value that is.
theorem resolve_asks (ask : Fallback) (scope : Scope) {path : String} (passable : Passable (route path.toList)) :
    ((∃ entry ∈ (resolve (some ask) scope path).journal, entry.question?.isSome = true) ↔
      path ≠ "." ∧ Lacks scope path.toList) ∧
    (path ≠ "." → Lacks scope path.toList →
      (resolve (some ask) scope path).journal = [.asked path scope] ∧
      (∀ reason, ask path scope = .error reason →
        (resolve (some ask) scope path).outcome = .error (.problem (.fallbackFailed path reason))) ∧
      (ask path scope = .ok .null → (resolve (some ask) scope path).outcome = .ok .missing) ∧
      (∀ v, ask path scope = .ok v → v ≠ .null → (resolve (some ask) scope path).outcome = .ok v) ∧
      resolve none scope path = ⟨[], .ok .missing⟩) ∧
    (∀ v fallback, Finds scope path.toList v → resolve fallback scope path = ⟨[], .ok v⟩) ∧
    ((path ≠ "." ∧ Lacks scope path.toList) ∨ ∃ v, Finds scope path.toList v) := by
  have dot : path.toList = ['.'] ↔ path = "." := by
    rw [← String.toList_inj]
    rfl
  have lost (plain : path ≠ ".") (lacks : Lacks scope path.toList) (fallback : Option Fallback) :
      resolve fallback scope path = unfound fallback scope path := by
    rw [resolve_eq, lookup_of_lacks passable (mt dot.mp plain) lacks]
    rfl
  have kept (v : Value) (fallback : Option Fallback) (finds : Finds scope path.toList v) :
      resolve fallback scope path = ⟨[], .ok v⟩ := by
    rw [resolve_eq, lookup_of_finds passable finds]
  have either : (path ≠ "." ∧ Lacks scope path.toList) ∨ ∃ v, Finds scope path.toList v := by
    rcases finds_or_lacks scope path.toList with found | ⟨plain, lacks⟩
    · exact .inr found
    · exact .inl ⟨mt dot.mpr plain, lacks⟩
  refine ⟨⟨?_, ?_⟩, ?_, kept, either⟩
  · rintro ⟨entry, written, question⟩
    rcases either with lacks | ⟨v, finds⟩
    · exact lacks
    · rw [kept v _ finds] at written
      cases written
  · rintro ⟨plain, lacks⟩
    rw [lost plain lacks]
    exact ⟨.asked path scope, List.mem_cons_self, rfl⟩
  · intro plain lacks
    rw [lost plain lacks, lost plain lacks]
    refine ⟨rfl, ?_, ?_, ?_, rfl⟩
    · intro reason failed
      simp [unfound, answered, failed]
    · intro null
      simp [unfound, answered, null]
    · intro v given present
      cases v <;> simp_all [unfound, answered]

def flags : Scope := ⟨.mapping 1 [(.text "on", .sequence .list 2 [.bool false])], []⟩

theorem flags_asked :
    Passable (route "on.1".toList) ∧ Lacks flags "on.1".toList ∧
    (resolve (some leaking) flags "on.1").journal = [.asked "on.1" flags] ∧
    (resolve (some leaking) flags "on.1").outcome = .ok (.text "leaked") ∧
    Passable (route "on.0".toList) ∧ Finds flags "on.0".toList (.bool false) ∧
    resolve (some leaking) flags "on.0" = ⟨[], .ok (.bool false)⟩ := by
  have passable {last : List Char} {n : Nat} (free : isBlocked last = false) (read : Digit.read last = .ok n) :
      Passable ["on".toList, last] := by
    constructor
    · intro part member
      rcases List.mem_cons.mp member with rfl | member
      · decide
      · exact List.mem_singleton.mp member ▸ free
    · intro part member numeral
      rcases List.mem_cons.mp member with rfl | member
      · exact absurd numeral (by decide)
      · exact ⟨n, List.mem_singleton.mp member ▸ read⟩
  have named : Holds flags.data "on".toList (.sequence .list 2 [.bool false]) :=
    .named (show _ = some [(.text "on", .sequence .list 2 [.bool false])] from rfl) rfl
  have one : Digit.read ['1'] = .ok 1 := rfl
  have outer : route "on.1".toList = ["on".toList, ['1']] := by decide +kernel
  have past : Passable (route "on.1".toList) := outer ▸ passable (by decide) one
  have absent : Absent (.sequence .list 2 [.bool false]) ['1'] := by
    refine .outside (show _ = some [.bool false] from rfl) ?_
    intro n _ read
    cases one.symm.trans read
    exact Nat.le_refl 1
  have lacks : Lacks flags "on.1".toList :=
    .inr ⟨flags.data, ["on".toList], ['1'], [], _, rfl, outer, .further named nofun .here, absent⟩
  have inner : route "on.0".toList = ["on".toList, ['0']] := by decide +kernel
  have zero : Digit.read ['0'] = .ok 0 := rfl
  have first : Passable (route "on.0".toList) := inner ▸ passable (by decide) zero
  have item : Holds (.sequence .list 2 [.bool false]) ['0'] (.bool false) :=
    .item (show _ = some [.bool false] from rfl) (by decide) zero rfl
  have finds : Finds flags "on.0".toList (.bool false) :=
    .inr ⟨by decide, flags.data, rfl, inner ▸ .further named nofun (.further item nofun .here)⟩
  obtain ⟨journal, _, _, given, _⟩ := (resolve_asks leaking flags past).2.1 (by decide) lacks
  exact ⟨past, lacks, journal, given _ rfl nofun, first, finds,
    (resolve_asks leaking flags first).2.2.1 (.bool false) (some leaking) finds⟩

end HtmlTemplate.Path
