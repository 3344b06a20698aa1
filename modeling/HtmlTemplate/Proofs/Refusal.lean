import HtmlTemplate.Proofs.Lookup
namespace HtmlTemplate.Path

variable {scope : Scope} {path : String} {segment : List Char}

theorem walk_append (v : Value) (before rest : List (List Char)) :
    walk v (before ++ rest) =
      match walk v before with
      | .ok (.value w) => walk w rest
      | ended => ended := by
  induction before generalizing v with
  | nil => rfl
  | cons first before ih =>
    simp only [List.cons_append, walk]
    split
    · rfl
    · cases found : index v first with
      | error error => rfl
      | ok next =>
        cases next with
        | none => rfl
        | some w =>
          cases w with
          | missing => rfl
          | _ => exact ih _

theorem blocked_of_walk {v : Value} {parts : List (List Char)} (stopped : walk v parts = .ok (.blocked segment)) :
    segment ∈ parts ∧ isBlocked segment = true := by
  induction parts generalizing v with
  | nil => cases stopped
  | cons first rest ih =>
    unfold walk at stopped
    split at stopped
    · rename_i blocked
      cases stopped
      exact ⟨List.mem_cons_self, blocked⟩
    · split at stopped
      · cases stopped
      · cases stopped
      · cases stopped
      · obtain ⟨member, blocked⟩ := ih stopped
        exact ⟨List.mem_cons_of_mem _ member, blocked⟩

def ahead (path : List Char) : List (List Char) := (segments path).takeWhile fun part => !isBlocked part

theorem segments_of_blocked {path : List Char} (named : (segments path).find? isBlocked = some segment) :
    isBlocked segment = true ∧ ∃ after, segments path = ahead path ++ segment :: after := by
  refine ⟨List.find?_some named, ?_⟩
  rw [List.find?_eq_head?_dropWhile_not, List.head?_eq_some_iff] at named
  obtain ⟨after, dropped⟩ := named
  refine ⟨after, ?_⟩
  rw [← dropped]
  exact List.takeWhile_append_dropWhile.symm

-- The contexts that the path starts from exist, and all in front of its first
-- blocked segment leads to a value.
def Reaches (scope : Scope) (path : List Char) : Prop :=
  ∃ start v, scope.level? (splitParents path).1 = some start ∧ walk start (ahead path) = .ok (.value v)

-- A blocked segment ends a look-up only where the walk comes to it. Before that the
-- path does what its beginning does.
theorem lookup_of_blocked {path : List Char} (named : (segments path).find? isBlocked = some segment) :
    lookup scope path =
      match scope.level? (splitParents path).1 with
      | none => .ok .nothing
      | some start =>
        match walk start (ahead path) with
        | .ok (.value _) => .ok (.blocked segment)
        | ended => ended := by
  obtain ⟨blocked, after, parts⟩ := segments_of_blocked named
  have somewhere : ¬((splitParents path).2 = [] ∨ path = ['.']) := by
    intro nowhere
    rw [segments_empty nowhere (List.mem_of_find?_eq_some named)] at blocked
    revert blocked
    decide
  rw [not_or] at somewhere
  unfold lookup
  rw [if_neg somewhere.2]
  dsimp only
  cases scope.level? (splitParents path).1 with
  | none => rfl
  | some start =>
    have walked := walk_append start (ahead path) (segment :: after)
    rw [← parts, segments] at walked
    simp only [List.isEmpty_iff, somewhere.1, if_false, walked, walk, blocked, if_true]

theorem lookup_cases {path : List Char} (named : (segments path).find? isBlocked = some segment) :
    Reaches scope path ∧ lookup scope path = .ok (.blocked segment) ∨
    ¬Reaches scope path ∧ (lookup scope path = .ok .nothing ∨ ∃ error, lookup scope path = .error error) := by
  rw [lookup_of_blocked named]
  unfold Reaches
  cases scope.level? (splitParents path).1 with
  | none => simp
  | some start =>
    cases walked : walk start (ahead path) with
    | error error => simp [walked]
    | ok found =>
      cases found with
      | value v => simp [walked]
      | nothing => simp [walked]
      | blocked other =>
        obtain ⟨member, blocked⟩ := blocked_of_walk walked
        have free := List.mem_takeWhile_imp member
        simp [blocked] at free

def unfound (fallback : Option Fallback) (scope : Scope) (path : String) : Run Value :=
  match fallback with
  | none => ⟨[], .ok .missing⟩
  | some ask => ⟨[.asked path scope], answered ask path scope⟩

-- A path with a blocked segment is refused exactly when all in front of that segment
-- is found: it leads to nothing, is reported once and is not asked about. Where it
-- ends before, the block plays no part: the look-up breaks off at a numeral that
-- cannot be read, or the path is treated like any other that finds nothing.
theorem resolve_of_blocked (fallback : Option Fallback) (scope : Scope) {path : String}
    (named : (segments path.toList).find? isBlocked = some segment) :
    (resolve fallback scope path = ⟨[.report (.blockedProperty (String.ofList segment) path)], .ok .missing⟩ ↔
      Reaches scope path.toList) ∧
    (Reaches scope path.toList → (resolve fallback scope path).unreported = ⟨[], .ok .missing⟩) ∧
    (∀ error, resolve fallback scope path = ⟨[], .error (.numeral error)⟩ ↔
      ∃ stuck, Stuck scope path.toList stuck error) ∧
    (¬Reaches scope path.toList → (∀ stuck error, ¬Stuck scope path.toList stuck error) →
      resolve fallback scope path = unfound fallback scope path) := by
  simp only [← lookup_eq_error_iff]
  obtain ⟨reached, found⟩ | ⟨unreached, found | ⟨error, found⟩⟩ := lookup_cases named
  · rw [resolve_eq, found]
    simp [reached, Run.unreported, Entry.problem?]
  · rw [resolve_eq, found]
    cases fallback <;> simp [unreached, unfound]
  · have stuck : ∃ segment, Stuck scope path.toList segment error := lookup_eq_error_iff.mp found
    rw [resolve_eq, found]
    refine ⟨by simp [unreached], fun reached => absurd reached unreached, by simp, ?_⟩
    intro _ none
    obtain ⟨segment, breaks⟩ := stuck
    exact absurd breaks (none segment error)

def leaking : Fallback := fun _ _ => .ok (.text "leaked")

def owned : Scope := ⟨.mapping 1 [(.text "a", .mapping 2 [])], []⟩

theorem owned_refused :
    (segments "a.__class__".toList).find? isBlocked = some "__class__".toList ∧
    Reaches owned "a.__class__".toList ∧
    resolve (some leaking) owned "a.__class__" = ⟨[.report (.blockedProperty "__class__" "a.__class__")], .ok .missing⟩ := by
  have named : (segments "a.__class__".toList).find? isBlocked = some "__class__".toList := by decide +kernel
  have reached : Reaches owned "a.__class__".toList := ⟨owned.data, .mapping 2 [], rfl, rfl⟩
  exact ⟨named, reached, (resolve_of_blocked (some leaking) owned named).1.mpr reached⟩

-- The same path where its first segment finds nothing, and one that leads out of all
-- contexts: what the fallback answers takes the place of the refusal.
theorem leaked_past_block :
    (segments "a.__class__".toList).find? isBlocked = some "__class__".toList ∧
    resolve (some leaking) ⟨.mapping 1 [], []⟩ "a.__class__" =
      ⟨[.asked "a.__class__" ⟨.mapping 1 [], []⟩], .ok (.text "leaked")⟩ ∧
    (segments "..__class__".toList).find? isBlocked = some "__class__".toList ∧
    resolve (some leaking) owned "..__class__" = ⟨[.asked "..__class__" owned], .ok (.text "leaked")⟩ :=
  ⟨by decide +kernel, rfl, by decide +kernel, rfl⟩

end HtmlTemplate.Path
