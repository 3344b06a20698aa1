import HtmlTemplate.Attribute
import HtmlTemplate.Condition
import HtmlTemplate.Marker
import HtmlTemplate.Proofs.Lookup
import HtmlTemplate.Proofs.Part
import HtmlTemplate.Proofs.Stops
import HtmlTemplate.Style
namespace HtmlTemplate

-- Which paths are written in a template, by where they are written: in the markers
-- of texts and attributes, under `$bind`, and under `$check` of conditions.

def Path.written : Value → List String
  | .text s => [Blank.strip s]
  | _ => []

def Marker.paths (s : String) : List String :=
  (scan s.toList).2.filterMap fun marked =>
    match marked.1 with
    | .path body => some (String.ofList (Blank.trim body))
    | .literal _ => none

def Condition.paths (descriptor : Descriptor) : List String :=
  (Value.find? descriptor Vocabulary.checkKey).toList.flatMap Path.written

namespace Attribute

def textPaths : Value → List String
  | .text s => Marker.paths s
  | _ => []

def branchPaths (name : String) (value : Value) : List String :=
  if name = Vocabulary.styleAttribute then (value.entries?.getD []).flatMap fun e => textPaths e.2
  else textPaths value

def valuePaths (name : String) (value : Value) : List String :=
  match Condition.conditional? value with
  | some descriptor =>
    Condition.paths descriptor ++ [Vocabulary.thenKey, Vocabulary.elseKey].flatMap fun key =>
      branchPaths name ((Value.find? descriptor key).getD (.text ""))
  | none => branchPaths name value

def paths (tag : String) (key value : Value) : List String :=
  match key with
  | .text name => if isAllowedName name tag then valuePaths name value else []
  | _ => []

end Attribute

def TagNode.paths (node : TagNode) : List String :=
  if node.kind = .conditional then Condition.paths node.attributes
  else
    (node.attribute? Vocabulary.bindKey).toList.flatMap Path.written ++
      ((node.attribute? Vocabulary.filterKey).bind Condition.conditional?).toList.flatMap Condition.paths ++
      node.attributes.flatMap fun e => Attribute.paths node.tag e.1 e.2

namespace Template

def partPaths (v : Value) : List String :=
  match v with
  | .text s => Marker.paths s
  | v => (tag? v).toList.flatMap TagNode.paths

def Writes (template : Value) (path : String) : Prop := ∃ part, Part template part ∧ path ∈ partPaths part

end Template

-- What a render can come upon: the paths it looks along, the values of the template
-- that it shows in its problems, and whether all integers are short enough.
structure Ground where
  path : String → Prop
  value : Value → Prop
  short : Prop
  held : ∀ {v w}, value v → v.Holds w → value w
  isShort : ∀ {v}, value v → short → v.isShort = true

namespace Ground

variable (g : Ground)

def Short (v : Value) : Prop := g.short → v.isShort = true

def Sees (scope : Scope) : Prop := ∀ v, v = scope.data ∨ v ∈ scope.ancestors → g.Short v

def Answers (fallback : Option Path.Fallback) : Prop :=
  ∀ ask, fallback = some ask → ∀ path scope v, ask path scope = .ok v → g.Short v

def Knows (entries : List (Value × Value)) : Prop := ∀ e ∈ entries, g.value e.1 ∧ g.value e.2

variable {g} {v : Value} {scope : Scope} {entries : List (Value × Value)}

theorem Sees.push (sees : g.Sees scope) (short : g.Short v) : g.Sees (scope.push v) := by
  rintro w (rfl | member)
  · exact short
  · rcases List.mem_cons.mp member with rfl | outer
    · exact sees _ (.inl rfl)
    · exact sees w (.inr outer)

theorem knows_entries (known : g.value v) (found : v.entries? = some entries) : g.Knows entries :=
  fun _ member => ⟨g.held known (.key .whole found member), g.held known (.content .whole found member)⟩

theorem Knows.find? {key : String} (knows : g.Knows entries) (found : Value.find? entries key = some v) :
    g.value v := by
  obtain ⟨e, member, rfl⟩ := Value.mem_of_find? found
  exact (knows e member).2

theorem Knows.sublist {part : List (Value × Value)} (knows : g.Knows entries) (within : part.Sublist entries) :
    g.Knows part := fun e member => knows e (within.subset member)

theorem knows_conditional (known : g.value v) {descriptor : Condition.Descriptor}
    (conditional : Condition.conditional? v = some descriptor) : g.Knows descriptor :=
  knows_entries known (Option.eq_some_of_filter_eq_some conditional)

end Ground

section Reach

open Value

theorem Path.isShort_index {v w : Value} {segment : List Char} (short : v.isShort = true)
    (found : index v segment = .ok (some w)) : w.isShort = true := by
  unfold index at found
  split at found
  · rename_i items _ listed
    split at found
    · obtain ⟨n, _, at?⟩ := map_eq_ok.mp found
      exact isShort_items short listed w (List.mem_of_getElem? at?)
    · cases found
  · rename_i entries _ mapping
    split at found
    · rename_i content named
      cases found
      obtain ⟨e, member, rfl⟩ := mem_of_find? named
      exact (isShort_entries short mapping e member).2
    · split at found
      · obtain ⟨n, _, entry⟩ := map_eq_ok.mp found
        obtain ⟨e, got, rfl⟩ := Option.map_eq_some_iff.mp entry
        exact (isShort_entries short mapping e (List.mem_of_find?_eq_some got)).2
      · cases found
  · cases found

theorem Path.isShort_walk {v w : Value} {parts : List (List Char)} (short : v.isShort = true)
    (found : walk v parts = .ok (.value w)) : w.isShort = true := by
  induction parts generalizing v with
  | nil =>
    cases found
    exact short
  | cons segment parts ih =>
    rw [walk] at found
    split at found
    · cases found
    · split at found
      · cases found
      · cases found
      · cases found
      · rename_i next _ step
        exact ih (isShort_index short step) found

theorem Path.isShort_lookup {scope : Scope} {w : Value} {path : List Char}
    (short : ∀ v, v = scope.data ∨ v ∈ scope.ancestors → v.isShort = true)
    (found : lookup scope path = .ok (.value w)) : w.isShort = true := by
  unfold lookup at found
  split at found
  · cases found
    exact short _ (.inl rfl)
  · dsimp only at found
    split at found
    · cases found
    · rename_i start level
      have own : start.isShort = true := by
        cases levels : (splitParents path).1 with
        | zero =>
          rw [levels] at level
          cases level
          exact short _ (.inl rfl)
        | succ n =>
          rw [levels] at level
          exact short _ (.inr (List.mem_of_getElem? level))
      split at found
      · cases found
        exact own
      · exact isShort_walk own found

end Reach

namespace Failure

variable [Stack]

-- What leaves a render: a numeral without value that a look-up along one of the known
-- paths came to, or an integer or a value that cannot be written.
inductive Leaves (g : Ground) : Failure → Prop where
  | numeral {path : String} {scope : Scope} {segment : List Char} {error : Digit.NumeralError} : g.path path →
      Path.Stuck scope path.toList segment error → Leaves g (.numeral error)
  | tooLong : ¬g.short → Leaves g (.unwritten .tooLong)
  | tooDeep {v : Value} : g.value v → v.inspect = .error .tooDeep → Leaves g (.unwritten .tooDeep)

-- Inside a node there are problems as well; its boundary takes them.
def Within (problems : Problem → Prop) (g : Ground) (failure : Failure) : Prop :=
  (∃ problem, failure = .problem problem ∧ problems problem) ∨ failure.Leaves g

-- Only at an attribute there are warnings among them, and they stop there.
def Inside (g : Ground) (failure : Failure) : Prop := failure.Within (fun problem => problem.severity = .fatal) g

variable {g : Ground} {v : Value} {reason : Unwritten} {failure : Failure} {problems : Problem → Prop}

theorem Inside.within (inside : failure.Inside g) : failure.Within (fun _ => True) g := by
  obtain ⟨problem, same, _⟩ | leaves := inside
  · exact .inl ⟨problem, same, trivial⟩
  · exact .inr leaves

theorem leaves_of_stringify (short : g.Short v) (failed : v.stringify = .error reason) :
    Leaves g (.unwritten reason) := by
  obtain ⟨rfl, long⟩ := Value.stringify_eq_error failed
  exact .tooLong fun all => absurd (short all) (by simp [long])

theorem leaves_of_inspect (known : g.value v) (failed : v.inspect = .error reason) : Leaves g (.unwritten reason) := by
  cases reason with
  | tooLong => exact .tooLong fun all => Value.inspect_ne (g.isShort known all) failed
  | tooDeep => exact .tooDeep known failed

theorem leaves_of_display (known : g.value v) (failed : v.display = .error reason) :
    Leaves g (.unwritten reason) := by
  unfold Value.display at failed
  split at failed
  · cases failed
  · cases failed
  · cases failed
  · exact leaves_of_inspect known failed

theorem within_showing {shown : Except Unwritten String} {problem : String → Problem}
    (unshown : ∀ reason, shown = .error reason → Leaves g (.unwritten reason)) (each : ∀ s, problems (problem s)) :
    (Failure.showing shown problem).Within problems g := by
  cases shown with
  | ok s => exact .inl ⟨_, rfl, each s⟩
  | error reason => exact .inr (unshown reason rfl)

end Failure

open Run Failure

variable [Stack] {g : Ground} {failure : Failure} {fallback : Option Path.Fallback} {scope : Scope} {v : Value}

section Severity

theorem Path.inside_of_check {key : String} {path : Value} (known : g.value path)
    (refused : check key path = .error failure) : failure.Inside g := by
  have fatal : (Problem.pathKind key).severity = .fatal := by
    unfold Problem.pathKind
    split <;> rfl
  have shown : (Failure.showing path.inspect (.pathNotText key)).Inside g :=
    within_showing (fun _ => leaves_of_inspect known) fun _ => fatal
  unfold check at refused
  repeat' split at refused
  all_goals cases refused
  all_goals
    first
    | exact shown
    | exact .inl ⟨_, rfl, fatal⟩

omit [Stack] in
theorem TagNode.fatal_of_childrenOf {problem : Problem} (refused : childrenOf v = .error problem) :
    problem.severity = .fatal := by
  unfold childrenOf at refused
  repeat' split at refused
  all_goals
    cases refused
    try rfl

omit [Stack] in
theorem TagNode.fatal_of_ofContent {tag : String} {problem : Problem} (refused : ofContent tag v = .error problem) :
    problem.severity = .fatal := by
  have children {w : Value} {build : List Value → TagNode}
      (failed : (childrenOf w).map build = .error problem) : problem.severity = .fatal := by
    cases listed : childrenOf w with
    | ok children => simp [listed, Except.map] at failed
    | error other =>
      rw [listed] at failed
      cases failed
      exact fatal_of_childrenOf listed
  unfold ofContent at refused
  repeat' split at refused
  all_goals
    first
    | exact children refused
    | cases refused <;> rfl

theorem TagNode.inside_of_ofEntries {entries : List (Value × Value)} (knows : g.Knows entries)
    (refused : ofEntries entries = .error failure) : failure.Inside g := by
  unfold ofEntries at refused
  split at refused
  · rename_i tag content
    cases read : ofContent tag content with
    | ok node => simp [read, Except.mapError] at refused
    | error problem =>
      rw [read] at refused
      cases refused
      exact .inl ⟨problem, rfl, fatal_of_ofContent read⟩
  · rename_i key content _
    cases refused
    have known := (knows _ List.mem_cons_self).1
    exact within_showing (fun _ => leaves_of_inspect known) fun _ => rfl
  · cases refused
    exact .inl ⟨_, rfl, rfl⟩

theorem Attribute.within_of_check {key : Value} {tag : String} (known : g.value key)
    (refused : check key tag = .error failure) : failure.Within (fun _ => True) g := by
  unfold check at refused
  split at refused
  · split at refused
    · cases refused
    · cases refused
      exact .inl ⟨_, rfl, trivial⟩
  · cases refused
    exact within_showing (fun _ => leaves_of_display known) fun _ => trivial

end Severity

omit [Stack] in
theorem Path.resolve_short {path : String} (answers : g.Answers fallback) (sees : g.Sees scope) :
    (resolve fallback scope path).Ensures g.Short := by
  intro v returned all
  rw [resolve_eq] at returned
  split at returned
  · cases returned
  · rename_i w found
    cases returned
    exact isShort_lookup (fun w here => sees w here all) found
  · cases returned
    rfl
  · split at returned
    · cases returned
      rfl
    · rename_i ask
      unfold answered at returned
      split at returned
      · cases returned
      · cases returned
        rfl
      · rename_i answer
        cases returned
        exact answers ask rfl _ _ _ answer all

theorem Run.stops_raise {problem : Problem} (fatal : problem.severity = .fatal) :
    (raise problem : Run α).Stops (Inside g) :=
  stops_fail (.inl ⟨problem, rfl, fatal⟩)

theorem Run.stops_written {shown : Except Unwritten String}
    (unshown : ∀ reason, shown = .error reason → Leaves g (.unwritten reason)) :
    (written shown).Stops (Inside g) := stops_ofExcept fun reason failed => .inr (unshown reason failed)

theorem Path.resolve_stops {path : String} (written : g.path path) :
    (resolve fallback scope path).Stops (Inside g) := by
  have looked : (ofExcept .numeral (lookup scope path.toList)).Stops (Inside g) := by
    refine stops_ofExcept fun error stopped => ?_
    obtain ⟨segment, stuck⟩ := lookup_eq_error_iff.mp stopped
    exact .inr (.numeral written stuck)
  refine looked.bind fun found _ => ?_
  cases found with
  | value v => exact stops_pure
  | blocked segment => exact stops_record.bind fun _ _ => stops_pure
  | nothing =>
    dsimp only
    split
    · exact stops_pure
    · refine stops_record.bind fun _ _ => ?_
      split
      · exact stops_raise rfl
      · exact stops_pure
      · exact stops_pure

theorem Path.checked_stops {key : String} {path : Value} (known : g.value path) :
    (checked key path).Stops (Inside g) := stops_ofExcept fun _ refused => inside_of_check known refused

theorem Path.written_of_checked {key s : String} {path : Value} (passed : (checked key path).outcome = .ok s) :
    Blank.strip s ∈ written path := by
  have same : check key path = .ok s := ensures_ofExcept _ _ s passed
  unfold check at same
  split at same
  · rename_i t
    repeat' split at same
    all_goals cases same
    all_goals exact List.mem_singleton_self _
  · cases same

section Text

variable (answers : g.Answers fallback) (sees : g.Sees scope)
include answers sees

theorem Marker.value_stops {marker : Marker}
    (written : ∀ body, marker = .path body → g.path (String.ofList (Blank.trim body))) :
    (marker.value fallback scope).Stops (Inside g) := by
  cases marker with
  | path body =>
    refine (Path.resolve_stops (written body rfl)).bind fun v found => ?_
    exact stops_written fun _ => leaves_of_stringify (Path.resolve_short answers sees v found)
  | literal body => exact stops_pure

theorem Interpolation.fill_stops {mode : Interpolation} {marked : List (Marker × List Char)}
    (written : ∀ m ∈ marked, ∀ body, m.1 = .path body → g.path (String.ofList (Blank.trim body))) :
    (mode.fill fallback scope marked).Stops (Inside g) := by
  induction marked with
  | nil => exact stops_pure
  | cons first rest ih =>
    refine (Marker.value_stops answers sees (written first List.mem_cons_self)).bind fun _ _ => ?_
    exact (ih fun m member => written m (List.mem_cons_of_mem _ member)).bind fun _ _ => stops_pure

theorem Interpolation.apply_stops {mode : Interpolation} {s : String} (written : ∀ path ∈ Marker.paths s, g.path path) :
    (mode.apply fallback scope s).Stops (Inside g) := by
  refine (fill_stops answers sees fun m member body marker => ?_).bind fun _ _ => stops_pure
  exact written _ (List.mem_filterMap.mpr ⟨m, member, by rw [marker]⟩)

end Text

section Condition

variable {descriptor : Condition.Descriptor}

theorem Condition.check_stops (knows : g.Knows descriptor) (written : ∀ path ∈ Condition.paths descriptor, g.path path) :
    (Condition.check fallback scope descriptor).Stops (Inside g) := by
  unfold Condition.check
  split
  · exact stops_raise rfl
  · rename_i path found
    refine (Path.checked_stops (knows.find? found)).bind fun s passed => ?_
    refine (Path.resolve_stops (written _ ?_)).bind fun _ _ => stops_pure
    simpa [Condition.paths, found] using Path.written_of_checked passed

theorem Condition.choose_stops (knows : g.Knows descriptor) (written : ∀ path ∈ Condition.paths descriptor, g.path path) :
    (Condition.choose fallback scope descriptor).Stops (Inside g) :=
  (check_stops knows written).bind fun _ _ => stops_pure

theorem Condition.choose_ensures :
    (Condition.choose fallback scope descriptor).Ensures fun value =>
      ∃ key ∈ [Vocabulary.thenKey, Vocabulary.elseKey],
        value = (Value.find? descriptor key).getD (.text "") := by
  refine ensures_bind fun holds => ensures_pure ⟨_, ?_, rfl⟩
  cases holds <;> simp

end Condition

section Style

variable {interpolate : String → Run String}

theorem Style.finish_stops {name : String} {value : List Char} : (Style.finish name value).Stops (Inside g) := by
  unfold Style.finish
  dsimp only
  split
  case' isTrue => refine stops_record.bind fun _ _ => ?_
  all_goals
    split
    · exact stops_pure
    · split
      · exact stops_record.bind fun _ _ => stops_pure
      · exact stops_pure

theorem Style.given?_stops {raw : Value} (known : g.value raw)
    (inner : ∀ s, raw = .text s → (interpolate s).Stops (Inside g)) :
    (Style.given? interpolate raw).Stops (Inside g) := by
  unfold Style.given?
  split
  · rename_i s
    exact (inner s rfl).bind fun _ _ => stops_pure
  · split
    · exact (stops_written fun _ => leaves_of_stringify (g.isShort known)).bind fun _ _ => stops_pure
    · exact stops_pure

theorem Style.declaration_stops {key raw : Value} (named : g.value key) (known : g.value raw)
    (inner : ∀ s, raw = .text s → (interpolate s).Stops (Inside g)) :
    (Style.declaration interpolate key raw).Stops (Inside g) := by
  unfold Style.declaration
  split
  · refine (stops_written fun _ => leaves_of_display named).bind fun _ _ => ?_
    exact stops_record.bind fun _ _ => stops_pure
  · refine (given?_stops known inner).bind fun value? _ => ?_
    split
    · exact stops_record.bind fun _ _ => stops_pure
    · exact finish_stops.bind fun _ _ => stops_pure

theorem Style.sanitize_stops {style : Value} (knows : ∀ entries, style.entries? = some entries → g.Knows entries)
    (inner : ∀ e ∈ style.entries?.getD [], ∀ s, e.2 = .text s → (interpolate s).Stops (Inside g)) :
    (Style.sanitize interpolate style).Stops (Inside g) := by
  unfold Style.sanitize
  split
  · exact stops_raise rfl
  · rename_i entries found
    refine (stops_collect fun e member => ?_).bind fun _ _ => stops_pure
    obtain ⟨key, raw⟩ := knows entries found e member
    exact declaration_stops key raw (inner e (by simpa [found] using member))

end Style
end HtmlTemplate
