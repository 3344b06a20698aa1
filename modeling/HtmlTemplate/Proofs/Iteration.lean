import HtmlTemplate.Proofs.Binding
import HtmlTemplate.Proofs.DepthLimit
import HtmlTemplate.Proofs.OuterContext
namespace HtmlTemplate

namespace Run

variable {α β : Type}

theorem collect_singleton (f : α → Run (List β)) (a : α) : collect f [a] = f a := by
  unfold collect collect
  simp only [pure_bind, List.append_nil]
  exact bind_pure (f a)

-- Runs that end alike, unless the first one writes down something of one kind.
def endingsUnless (excuse : Entry → Prop) : Run.Comparison :=
  .upTo excuse (fun _ _ => True) trivial (fun _ _ => trivial) fun _ _ => trivial

theorem endingsUnless_meets {excuse : Entry → Prop} {P : α → α → Prop} {left right : Run α}
    (related : (endingsUnless excuse).Relates P left right) (known : ∀ entry ∈ left.journal, ¬excuse entry) :
    Meets P left.outcome right.outcome := by
  obtain ⟨entry, written, excused⟩ | ⟨_, meets⟩ := related
  · exact absurd excused (known entry written)
  · exact meets

end Run

namespace Entry

def MeetsLimit (entry : Entry) : Prop := ∃ problem, entry = .report problem ∧ problem.kind = .depth

def LeadsOut (entry : Entry) : Prop := ∃ path scope, entry = .asked path scope ∧ Path.Overflows path scope

end Entry

namespace Render

variable {settings : Settings} {render : Renderer} {template w xs : Value} {items : List Value} {outer : List Value}

section Depth

theorem outward_tracks (settings : Settings) :
    (Run.endingsUnless Entry.MeetsLimit).Tracks settings.fallback settings.fallback Eq :=
  Run.Comparison.tracks_same _ fun _ _ => .inr ⟨trivial, Run.meets_eq_iff.mpr rfl⟩

theorem outward_inward (depth : Int) : depth + 1 - 1 = depth - 1 + 1 := by omega

theorem outward_nil : [] = Event.shift 1 [] := rfl

theorem outward_single (event : Event) : [event] = Event.shift 1 [event.placed fun depth => depth - 1] := by
  cases event <;> simp [Event.shift, Event.deepen, Event.placed]

theorem outward_append {ws xs ys zs : List Event} (first : ws = Event.shift 1 xs) (rest : ys = Event.shift 1 zs) :
    ws ++ ys = Event.shift 1 (xs ++ zs) := by
  rw [first, rest]
  exact List.map_append.symm

def outward (settings : Settings) : Parallel (Run.endingsUnless Entry.MeetsLimit) where
  left := settings
  right := settings
  near := Eq
  alike events outside := events = Event.shift 1 outside
  tracks := outward_tracks settings
  place depth := depth - 1
  inward := outward_inward
  nil := outward_nil
  single := outward_single
  append := outward_append

theorem node_outward [Stack] (settings : Settings) (budget : Nat) (scope : Scope) (depth : Int) (inComment : Bool) (v : Value) :
    (Run.endingsUnless Entry.MeetsLimit).Relates (fun events outside => events = Event.shift 1 outside)
      (node settings budget ⟨scope, depth, inComment⟩ v) (node settings (budget + 1) ⟨scope, depth - 1, inComment⟩ v) := by
  apply (outward settings).node_relates
  · intro depth problem
    exact .inr ⟨trivial, .ok rfl⟩
  · intro scope _ _ depth inComment v
    exact .inl ⟨_, List.mem_cons_self, _, rfl, rfl⟩
  · rfl

end Depth

section Scope

-- Every path that finds nothing is asked about, as by the fallback if there is one.
def Settings.overheard (settings : Settings) : Settings :=
  { settings with fallback := some (settings.fallback.getD fun _ _ => .ok .null) }

def Settings.BlindTo (settings : Settings) (outer : List Value) : Prop :=
  ∀ ask, settings.fallback = some ask → ∀ path scope, ask path (scope.within outer) = ask path scope

theorem resolve_overheard (blind : settings.BlindTo outer) (scope : Scope) (path : String) :
    (Run.endingsUnless Entry.LeadsOut).Relates Eq (Path.resolve settings.overheard.fallback scope path)
      (Path.resolve settings.fallback (scope.within outer) path) := by
  by_cases beyond : Path.Overflows path scope
  · refine .inl ⟨.asked path scope, ?_, path, scope, rfl, beyond⟩
    rw [Settings.overheard, Path.resolve_of_overflows _ beyond]
    exact List.mem_cons_self
  · refine .inr ⟨trivial, Run.meets_eq_iff.mpr ?_⟩
    rw [Path.resolve_eq, Path.resolve_eq, Path.lookup_within beyond]
    cases Path.lookup scope path.toList with
    | error error => rfl
    | ok found =>
      cases found with
      | value v => rfl
      | blocked segment => rfl
      | nothing =>
        cases given : settings.fallback with
        | none => simp [Settings.overheard, given, Path.answered]
        | some ask => simp [Settings.overheard, given, Path.answered, blind ask given]

theorem overheard_tracks (blind : settings.BlindTo outer) :
    (Run.endingsUnless Entry.LeadsOut).Tracks settings.overheard.fallback settings.fallback
      fun scope other => other = scope.within outer where
  push := by
    rintro scope _ rfl v
    rfl
  resolve := by
    rintro scope _ rfl path
    exact resolve_overheard blind scope path

def overhearing (blind : settings.BlindTo outer) : Parallel (Run.endingsUnless Entry.LeadsOut) :=
  .beside settings.overheard settings (overheard_tracks blind)

theorem node_overheard [Stack] (blind : settings.BlindTo outer) (budget : Nat) (scope : Scope) (v : Value) :
    (Run.endingsUnless Entry.LeadsOut).Relates Eq (node settings.overheard budget ⟨scope, 0, false⟩ v)
      (node settings budget ⟨scope.within outer, 0, false⟩ v) := by
  have lost (depth : Int) (problem : Problem) : (Run.endingsUnless Entry.LeadsOut).Relates (@Eq (List Event))
      (isolate depth (Run.raise problem)) (isolate depth (Run.raise problem)) := .inr ⟨trivial, .ok rfl⟩
  have bottom (scope near : Scope) (_ : near = scope.within outer) (depth : Int) (inComment : Bool) (v : Value) :
      (Run.endingsUnless Entry.LeadsOut).Relates Eq (node settings.overheard 0 ⟨scope, depth, inComment⟩ v)
        (node settings 0 ⟨near, depth, inComment⟩ v) := .inr ⟨trivial, .ok rfl⟩
  exact (overhearing blind).node_relates lost bottom budget rfl 0 false v

end Scope

section Root

variable [Stack]

def division (template : Value) : TagNode :=
  ⟨"div", .container, [(.text Vocabulary.bindKey, .text ".")], [template]⟩

theorem tag_division (listed : xs.items? = some items) :
    tag settings render (division template) ⟨⟨xs, []⟩, 0, false⟩ =
      (Run.collect (fun item => render ⟨⟨item, [xs]⟩, 1, false⟩ template) items).bind fun inner =>
        Run.pure (.openTag 0 "div" [] false :: inner ++ [.closeTag 0 "div"]) := by
  have repeated : (fun item => children render (division template) ⟨⟨xs, []⟩, 0, false⟩ (Scope.push ⟨xs, []⟩ item)) =
      fun item => render ⟨⟨item, [xs]⟩, 1, false⟩ template := by
    funext item
    exact Run.collect_singleton _ template
  have plain : tag settings render (division template) ⟨⟨xs, []⟩, 0, false⟩ =
      bound settings render (division template) ⟨⟨xs, []⟩, 0, false⟩ (.text ".") := rfl
  rw [plain, bound, ← repeated]
  change (Run.pure ".").bind _ = _
  rw [Run.pure_bind]
  change (Run.pure xs).bind _ = _
  rw [Run.pure_bind, listed]
  rfl

theorem root_of_binds (binds : bindsCurrent template = true) (settings : Settings) (data : Value) :
    root settings template data = node settings (budget settings) ⟨⟨data, []⟩, 0, false⟩ template := by
  unfold root
  rw [binds]
  cases data.items? <;> simp

theorem root_division (read : Template.tag? w = some (division template)) :
    root settings w xs = node settings (budget settings) ⟨⟨xs, []⟩, 0, false⟩ w := by
  have bound : bindsCurrent w = true := by
    rw [Template.bindsCurrent_of_tag read]
    rfl
  exact root_of_binds bound settings xs

theorem root_of_items (single : template.isMapping = true) (free : bindsCurrent template = false)
    (listed : xs.items? = some items) (settings : Settings) :
    root settings template xs =
      Run.collect (fun item => node settings (budget settings) ⟨⟨item, []⟩, 0, false⟩ template) items := by
  unfold root
  rw [listed]
  simp [single, free]

omit [Stack] in
theorem settled_wrap {inner outside : Except Failure (List Event)}
    (meets : Run.Meets (fun events outside => events = Event.shift 1 outside) inner outside)
    (passed : ∀ problem, inner ≠ .error (.problem problem)) :
    settled (inner.map fun events => .openTag 0 "div" [] false :: events ++ [.closeTag 0 "div"]) =
      outside.map (Event.wrap ("div", [])) := by
  cases meets with
  | ok same =>
    rw [same]
    rfl
  | @error failure =>
    cases failure with
    | problem problem => exact absurd rfl (passed problem)
    | numeral _ | unwritten _ | nestedKey _ => rfl

-- Bound inside a division, a template is rendered for each item one step further in,
-- and with the whole sequence around the item.
theorem outcome_division (listed : xs.items? = some items) (read : Template.tag? w = some (division template))
    (unmet : ∀ entry ∈ (root settings w xs).journal, ¬entry.MeetsLimit) :
    (root settings w xs).outcome =
      (Run.collect (fun item => node settings (budget settings) ⟨⟨item, [xs]⟩, 0, false⟩ template)
        items).outcome.map (Event.wrap ("div", [])) := by
  rw [root_division read] at unmet ⊢
  cases levels : budget settings with
  | zero =>
    rw [levels] at unmet
    exact absurd ⟨_, rfl, rfl⟩ (unmet _ List.mem_cons_self)
  | succ below =>
    rw [levels] at unmet
    have whole : node settings (below + 1) ⟨⟨xs, []⟩, 0, false⟩ w = isolate 0
        ((Run.collect (fun item => node settings below ⟨⟨item, [xs]⟩, 1, false⟩ template) items).bind fun inner =>
          Run.pure (.openTag 0 "div" [] false :: inner ++ [.closeTag 0 "div"])) := by
      rw [node_eq_isolate, attempt, step_of_tag read, tag_division listed]
    rw [whole] at unmet ⊢
    have alike : (Run.endingsUnless Entry.MeetsLimit).Relates (fun events outside => events = Event.shift 1 outside)
        (Run.collect (fun item => node settings below ⟨⟨item, [xs]⟩, 1, false⟩ template) items)
        (Run.collect (fun item => node settings (below + 1) ⟨⟨item, [xs]⟩, 0, false⟩ template) items) := by
      apply Run.Comparison.collect _ (outward settings).nil (outward settings).append
      exact List.forall₂_same.mpr fun item _ => node_outward settings below ⟨item, [xs]⟩ 1 false template
    have meets := Run.endingsUnless_meets alike fun entry member =>
      unmet entry (Run.journal_subset_rescue _ _ (Run.journal_subset_bind _ member))
    rw [outcome_isolate, Run.outcome_bind_pure]
    exact settled_wrap meets fun problem =>
      Run.collect_ne (fun item => node_ne settings below ⟨⟨item, [xs]⟩, 1, false⟩ template problem) items

theorem items_overheard (blind : settings.BlindTo outer)
    (contained : Run.Contained (Run.collect (fun item =>
      node settings.overheard (budget settings) ⟨⟨item, []⟩, 0, false⟩ template) items).journal) :
    (Run.collect (fun item => node settings.overheard (budget settings) ⟨⟨item, []⟩, 0, false⟩ template) items).outcome =
      (Run.collect (fun item => node settings (budget settings) ⟨⟨item, outer⟩, 0, false⟩ template) items).outcome := by
  have alike : (Run.endingsUnless Entry.LeadsOut).Relates Eq
      (Run.collect (fun item => node settings.overheard (budget settings) ⟨⟨item, []⟩, 0, false⟩ template) items)
      (Run.collect (fun item => node settings (budget settings) ⟨⟨item, outer⟩, 0, false⟩ template) items) := by
    apply Run.Comparison.collect _ rfl (congrArg₂ _)
    exact List.forall₂_same.mpr fun item _ => node_overheard blind (budget settings) ⟨item, []⟩ template
  apply Run.meets_eq_iff.mp
  apply Run.endingsUnless_meets alike
  rintro _ written ⟨path, scope, rfl, beyond⟩
  exact contained path scope written beyond

-- A template over a sequence, by itself and bound inside a division, comes to the same
-- for every item, but that only the division puts the sequence around it. The two
-- agree wherever no path leads out of the items.
theorem root_iterates (single : template.isMapping = true) (free : bindsCurrent template = false)
    (listed : xs.items? = some items) (read : Template.tag? w = some (division template))
    (unmet : ∀ entry ∈ (root settings w xs).journal, ¬entry.MeetsLimit) :
    (root settings w xs).outcome =
      (Run.collect (fun item => node settings (budget settings) ⟨⟨item, [xs]⟩, 0, false⟩ template)
        items).outcome.map (Event.wrap ("div", [])) ∧
    (settings.BlindTo [xs] → Run.Contained (root settings.overheard template xs).journal →
      (root settings w xs).outcome = (root settings template xs).outcome.map (Event.wrap ("div", []))) := by
  have nested := outcome_division listed read unmet
  refine ⟨nested, ?_⟩
  intro blind contained
  rw [root_of_items single free listed] at contained
  have itself : settings.BlindTo [] := by
    intro ask _ path scope
    rw [Scope.within, List.append_nil]
  rw [nested, root_of_items single free listed, ← items_overheard blind contained, items_overheard itself contained]

end Root

def divided (template : Value) : Value :=
  .mapping 1 [(.text "div", .mapping 2 [(.text "$bind", .text "."), (.text "$children", .sequence .list 3 [template])])]

def badge : Value := .mapping 4 [(.text "li", .text "\x7b\x7bname\x7d\x7d\x7b\x7btitle\x7d\x7d")]

def people : Value := .sequence .tuple 5 [.mapping 6 [(.text "name", .text "Ada")], .null]

theorem badge_iterates :
    (∀ entry ∈ (root {} (divided badge) people).journal, ¬entry.MeetsLimit) ∧
    Settings.BlindTo {} [people] ∧ Run.Contained (root (Settings.overheard {}) badge people).journal ∧
    (root {} (divided badge) people).outcome = (root {} badge people).outcome.map (Event.wrap ("div", [])) ∧
    (root {} badge people).outcome =
      .ok [.openTag 0 "li" [] false, .text 1 "Ada", .closeTag 0 "li", .openTag 0 "li" [] false, .closeTag 0 "li"] := by
  have unmet : ∀ entry ∈ (root {} (divided badge) people).journal, ¬entry.MeetsLimit := nofun
  have asked : (root (Settings.overheard {}) badge people).journal =
      [.asked "title" ⟨.mapping 6 [(.text "name", .text "Ada")], []⟩, .asked "name" ⟨.null, []⟩,
        .asked "title" ⟨.null, []⟩] := rfl
  have contained : Run.Contained (root (Settings.overheard {}) badge people).journal := by
    rw [asked]
    intro path scope member
    simp only [List.mem_cons, Entry.asked.injEq, List.not_mem_nil, or_false] at member
    rcases member with ⟨rfl, rfl⟩ | ⟨rfl, rfl⟩ | ⟨rfl, rfl⟩
    · exact Nat.not_lt_zero 0
    · exact Nat.not_lt_zero 0
    · exact Nat.not_lt_zero 0
  obtain ⟨_, agree⟩ := root_iterates (rfl : badge.isMapping = true) rfl rfl
    (rfl : Template.tag? (divided badge) = some (division badge)) unmet
  have blind : Settings.BlindTo {} [people] := nofun
  exact ⟨unmet, blind, contained, agree blind contained, rfl⟩

def climber : Value := .mapping 4 [(.text "p", .text "\x7b\x7b..0\x7d\x7d")]

def letters : Value := .sequence .list 5 [.text "a"]

theorem climber_differs :
    climber.isMapping = true ∧ bindsCurrent climber = false ∧ letters.isSequence = true ∧
    Template.tag? (divided climber) = some (division climber) ∧
    (root {} (divided climber) letters).journal = [] ∧ (root {} climber letters).journal = [] ∧
    (root {} (divided climber) letters).outcome =
      .ok (Event.wrap ("div", []) [.openTag 0 "p" [] false, .text 1 "a", .closeTag 0 "p"]) ∧
    (root {} climber letters).outcome = .ok [.openTag 0 "p" [] false, .closeTag 0 "p"] ∧
    (root {} (divided climber) letters).outcome ≠ (root {} climber letters).outcome.map (Event.wrap ("div", [])) := by
  have nested : (root {} (divided climber) letters).outcome =
      .ok (Event.wrap ("div", []) [.openTag 0 "p" [] false, .text 1 "a", .closeTag 0 "p"]) := rfl
  have alone : (root {} climber letters).outcome = .ok [.openTag 0 "p" [] false, .closeTag 0 "p"] := rfl
  refine ⟨rfl, rfl, rfl, rfl, rfl, rfl, nested, alone, ?_⟩
  rw [nested, alone]
  intro same
  cases same

end Render
end HtmlTemplate
