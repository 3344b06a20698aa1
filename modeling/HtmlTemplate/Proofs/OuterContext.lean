import HtmlTemplate.Proofs.Boundary
namespace HtmlTemplate

def Scope.within (scope : Scope) (outer : List Value) : Scope := ⟨scope.data, scope.ancestors ++ outer⟩

theorem Scope.level?_within {scope : Scope} {levels : Nat} (held : levels ≤ scope.ancestors.length)
    (outer : List Value) : (scope.within outer).level? levels = scope.level? levels := by
  cases levels with
  | zero => rfl
  | succ levels => exact List.getElem?_append_left held

namespace Path

variable {scope : Scope} {path : String}

-- The path asks for more levels than there are contexts around the data.
def Overflows (path : String) (scope : Scope) : Prop := scope.ancestors.length < (splitParents path.toList).1

theorem lookup_within (held : ¬Overflows path scope) (outer : List Value) :
    lookup (scope.within outer) path.toList = lookup scope path.toList := by
  unfold lookup
  dsimp only
  rw [Scope.level?_within (Nat.not_lt.mp held) outer]
  rfl

theorem lookup_of_overflows (beyond : Overflows path scope) : lookup scope path.toList = .ok .nothing := by
  have notDot : path.toList ≠ ['.'] := by
    intro dot
    rw [Overflows, dot] at beyond
    cases beyond
  have missing : scope.level? (splitParents path.toList).1 = none := by
    obtain ⟨levels, more⟩ := Nat.exists_eq_add_of_lt beyond
    rw [more]
    exact List.getElem?_eq_none (by omega)
  unfold lookup
  rw [if_neg notDot]
  dsimp only
  rw [missing]

theorem resolve_of_overflows (ask : Fallback) (beyond : Overflows path scope) :
    resolve (some ask) scope path = ⟨[.asked path scope], answered ask path scope⟩ := by
  rw [resolve_eq, lookup_of_overflows beyond]

end Path

namespace Run

def unasked (journal : List Entry) : List Entry := journal.filter fun entry => entry.question?.isNone

theorem unasked_nil : unasked [] = [] := rfl

theorem unasked_report (problem : Problem) : unasked [.report problem] = [.report problem] := rfl

theorem unasked_append (journal more : List Entry) : unasked (journal ++ more) = unasked journal ++ unasked more :=
  List.filter_append journal more

def Contained (journal : List Entry) : Prop := ∀ path scope, .asked path scope ∈ journal → ¬Path.Overflows path scope

-- A run that asks and one that does not, the second with `outer` around its scopes.
-- They go along until a path of the first one leads out of its own contexts; where
-- nothing is outside, that makes no difference either.
def enclosed (outer : List Value) : Run.Comparison :=
  .upTo (fun entry => outer ≠ [] ∧ ∃ path scope, entry = .asked path scope ∧ Path.Overflows path scope)
    (fun journal other => unasked journal = other) unasked_nil (fun problem _ => unasked_report problem)
    (by rintro _ _ _ _ rfl rfl; exact unasked_append _ _)

theorem enclosed_eq {outer : List Value} {left right : Run α}
    (related : (enclosed outer).Relates Eq left right) (known : outer = [] ∨ Contained left.journal) :
    right = ⟨unasked left.journal, left.outcome⟩ := by
  obtain ⟨_, asked, more, path, scope, rfl, beyond⟩ | ⟨written, meets⟩ := related
  · obtain none | contained := known
    · exact absurd none more
    · exact absurd beyond (contained path scope asked)
  · exact Run.ext written.symm (meets_eq_iff.mp meets).symm

end Run

namespace Render

variable {settings : Settings}

def Settings.listening (settings : Settings) : Settings := { settings with fallback := some fun _ _ => .ok .null }

theorem resolve_enclosed (silent : settings.fallback = none) (outer : List Value) (scope : Scope) (path : String) :
    (Run.enclosed outer).Relates Eq (Path.resolve settings.listening.fallback scope path)
      (Path.resolve settings.fallback (scope.within outer) path) := by
  by_cases leaves : outer ≠ [] ∧ Path.Overflows path scope
  · obtain ⟨more, beyond⟩ := leaves
    refine .inl ⟨.asked path scope, ?_, more, path, scope, rfl, beyond⟩
    rw [Settings.listening, Path.resolve_of_overflows _ beyond]
    exact List.mem_cons_self
  · have found : Path.lookup (scope.within outer) path.toList = Path.lookup scope path.toList := by
      by_cases none : outer = []
      · rw [none, Scope.within, List.append_nil]
      · exact Path.lookup_within (fun beyond => leaves ⟨none, beyond⟩) outer
    rw [Path.resolve_eq, Path.resolve_eq, found, silent]
    cases Path.lookup scope path.toList with
    | error error => exact .inr ⟨rfl, .error⟩
    | ok found =>
      cases found with
      | value v => exact .inr ⟨rfl, .ok rfl⟩
      | blocked segment => exact .inr ⟨rfl, .ok rfl⟩
      | nothing => exact .inr ⟨rfl, .ok rfl⟩

theorem enclosing_tracks (silent : settings.fallback = none) (outer : List Value) :
    (Run.enclosed outer).Tracks settings.listening.fallback settings.fallback
      fun scope other => other = scope.within outer where
  push := by
    rintro scope _ rfl v
    rfl
  resolve := by
    rintro scope _ rfl path
    exact resolve_enclosed silent outer scope path

def enclosing (silent : settings.fallback = none) (outer : List Value) : Parallel (Run.enclosed outer) :=
  .beside settings.listening settings (enclosing_tracks silent outer)

theorem node_enclosed [Stack] (silent : settings.fallback = none) (outer : List Value) (budget : Nat) (spot : Spot)
    (v : Value) :
    (Run.enclosed outer).Relates Eq (node settings.listening budget spot v)
      (node settings budget { spot with scope := spot.scope.within outer } v) := by
  have lost (depth : Int) (problem : Problem) : (Run.enclosed outer).Relates (@Eq (List Event))
      (isolate depth (Run.raise problem)) (isolate depth (Run.raise problem)) := .inr ⟨rfl, .ok rfl⟩
  have bottom (scope near : Scope) (_ : near = scope.within outer) (depth : Int) (inComment : Bool) (v : Value) :
      (Run.enclosed outer).Relates Eq (node settings.listening 0 ⟨scope, depth, inComment⟩ v)
        (node settings 0 ⟨near, depth, inComment⟩ v) := .inr ⟨rfl, .ok rfl⟩
  exact (enclosing silent outer).node_relates lost bottom budget rfl spot.depth spot.inComment v

-- What a node renders to depends on the contexts that its paths lead to, and not on
-- how many there are around these. Listening shows which paths these are, and makes
-- no other difference.
theorem node_within [Stack] (silent : settings.fallback = none) (budget : Nat) (spot : Spot) (template : Value) :
    node settings budget spot template =
      ⟨Run.unasked (node settings.listening budget spot template).journal,
        (node settings.listening budget spot template).outcome⟩ ∧
    (Run.Contained (node settings.listening budget spot template).journal → ∀ outer : List Value,
      node settings budget { spot with scope := spot.scope.within outer } template =
        node settings budget spot template) := by
  have itself : spot.scope.within [] = spot.scope := by rw [Scope.within, List.append_nil]
  have alone := Run.enclosed_eq (node_enclosed silent [] budget spot template) (.inl rfl)
  rw [itself] at alone
  refine ⟨alone, ?_⟩
  intro contained outer
  rw [alone]
  exact Run.enclosed_eq (node_enclosed silent outer budget spot template) (.inr contained)

def profile : Value :=
  .mapping 1 [(.text "p", .mapping 2 [(.text "$bind", .text "user"),
    (.text "$children", .sequence .list 3 [.text "\x7b\x7b..name\x7d\x7d", .text "\x7b\x7b..title\x7d\x7d"])])]

def profileData : Value := .mapping 4 [(.text "name", .text "Ada"), (.text "user", .mapping 5 [])]

def titled : Value := .mapping 6 [(.text "title", .text "Countess")]

theorem profile_within :
    Run.Contained (node (Settings.listening {}) 3 ⟨⟨profileData, []⟩, 0, false⟩ profile).journal ∧
    node {} 3 ⟨⟨profileData, [titled]⟩, 0, false⟩ profile = node {} 3 ⟨⟨profileData, []⟩, 0, false⟩ profile ∧
    node {} 3 ⟨⟨profileData, []⟩, 0, false⟩ profile =
      ⟨[], .ok [.openTag 0 "p" [] false, .text 1 "Ada", .closeTag 0 "p"]⟩ := by
  have asked : (node (Settings.listening {}) 3 ⟨⟨profileData, []⟩, 0, false⟩ profile).journal =
      [.asked "..title" ⟨.mapping 5 [], [profileData]⟩] := rfl
  have contained : Run.Contained (node (Settings.listening {}) 3 ⟨⟨profileData, []⟩, 0, false⟩ profile).journal := by
    rw [asked]
    intro path scope member
    obtain ⟨rfl, rfl⟩ : path = "..title" ∧ scope = ⟨.mapping 5 [], [profileData]⟩ := by simpa using member
    unfold Path.Overflows
    decide
  obtain ⟨_, same⟩ := node_within (rfl : ({} : Settings).fallback = none) 3 ⟨⟨profileData, []⟩, 0, false⟩ profile
  exact ⟨contained, same contained [titled], rfl⟩

end Render
end HtmlTemplate
