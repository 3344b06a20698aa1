import HtmlTemplate.Event
namespace HtmlTemplate

-- What a stream of events spells: at every depth a sequence of texts, void
-- elements, elements and comments, the last two around a forest of their own.
inductive Forest where
  | nil
  | text (html : String) (rest : Forest)
  | void (tag : String) (pairs : List (String × String)) (rest : Forest)
  | element (tag : String) (pairs : List (String × String)) (inner rest : Forest)
  | comment (inner rest : Forest)
deriving DecidableEq, Repr

structure Contents where
  text : (html : String) → Prop
  tag : (tag : String) → (pairs : List (String × String)) → (void : Bool) → Prop

def Contents.Allows (contents : Contents) : Event → Prop
  | .openTag _ tag pairs void => contents.tag tag pairs void
  | .text _ html => contents.text html
  | .closeTag _ _ | .openComment _ | .closeComment _ => True

namespace Forest

def events (depth : Int) : Forest → List Event
  | .nil => []
  | .text html rest => .text depth html :: rest.events depth
  | .void tag pairs rest => .openTag depth tag pairs true :: rest.events depth
  | .element tag pairs inner rest =>
    .openTag depth tag pairs false :: inner.events (depth + 1) ++ .closeTag depth tag :: rest.events depth
  | .comment inner rest =>
    .openComment depth :: inner.events (depth + 1) ++ .closeComment depth :: rest.events depth

def append : Forest → Forest → Forest
  | .nil, other => other
  | .text html rest, other => .text html (rest.append other)
  | .void tag pairs rest, other => .void tag pairs (rest.append other)
  | .element tag pairs inner rest, other => .element tag pairs inner (rest.append other)
  | .comment inner rest, other => .comment inner (rest.append other)

theorem events_append (forest other : Forest) (depth : Int) :
    (forest.append other).events depth = forest.events depth ++ other.events depth := by
  induction forest with
  | nil => rfl
  | text html rest ih => simp [append, events, ih]
  | void tag pairs rest ih => simp [append, events, ih]
  | element tag pairs inner rest _ ih => simp [append, events, ih]
  | comment inner rest _ ih => simp [append, events, ih]

theorem shift_events (forest : Forest) (amount depth : Int) :
    Event.shift amount (forest.events depth) = forest.events (depth + amount) := by
  have deeper : depth + 1 + amount = depth + amount + 1 := by omega
  induction forest generalizing depth with
  | nil => rfl
  | text html rest ih => simp_all [Event.shift, Event.deepen, events]
  | void tag pairs rest ih => simp_all [Event.shift, Event.deepen, events]
  | element tag pairs inner rest innerIh ih =>
    have inside := innerIh (depth + 1) (by omega)
    simp_all [Event.shift, Event.deepen, events]
  | comment inner rest innerIh ih =>
    have inside := innerIh (depth + 1) (by omega)
    simp_all [Event.shift, Event.deepen, events]

theorem depth_le {forest : Forest} {depth : Int} {event : Event} (emitted : event ∈ forest.events depth) :
    depth ≤ event.depth := by
  induction forest generalizing depth with
  | nil => cases emitted
  | text html rest ih | void tag pairs rest ih =>
    rcases List.mem_cons.mp emitted with rfl | later
    · exact Int.le_refl _
    · exact ih later
  | element tag pairs inner rest innerIh ih | comment inner rest innerIh ih =>
    simp only [events, List.cons_append, List.mem_cons, List.mem_append] at emitted
    rcases emitted with rfl | inside | rfl | later
    · exact Int.le_refl _
    · have := innerIh inside
      omega
    · exact Int.le_refl _
    · exact ih later

def Fits (contents : Contents) (inComment : Bool) : Forest → Prop
  | .nil => True
  | .text html rest => contents.text html ∧ rest.Fits contents inComment
  | .void tag pairs rest => contents.tag tag pairs true ∧ rest.Fits contents inComment
  | .element tag pairs inner rest =>
    contents.tag tag pairs false ∧ inner.Fits contents inComment ∧ rest.Fits contents inComment
  | .comment inner rest =>
    inComment = false ∧ inner.Fits contents true ∧ rest.Fits contents inComment

theorem Fits.append {contents : Contents} {inComment : Bool} {forest other : Forest}
    (first : forest.Fits contents inComment) (second : other.Fits contents inComment) :
    (forest.append other).Fits contents inComment := by
  induction forest with
  | nil => exact second
  | text html rest ih | void tag pairs rest ih => exact ⟨first.1, ih first.2⟩
  | element tag pairs inner rest _ ih | comment inner rest _ ih =>
    exact ⟨first.1, first.2.1, ih first.2.2⟩

theorem Fits.event {contents : Contents} {inComment : Bool} {forest : Forest} {depth : Int} {event : Event}
    (fits : forest.Fits contents inComment) (emitted : event ∈ forest.events depth) :
    contents.Allows event := by
  induction forest generalizing depth inComment with
  | nil => cases emitted
  | text html rest ih | void tag pairs rest ih =>
    rcases List.mem_cons.mp emitted with rfl | later
    · exact fits.1
    · exact ih fits.2 later
  | element tag pairs inner rest innerIh ih | comment inner rest innerIh ih =>
    simp only [events, List.cons_append, List.mem_cons, List.mem_append] at emitted
    rcases emitted with rfl | inside | rfl | later
    · first | exact fits.1 | trivial
    · exact innerIh fits.2.1 inside
    · trivial
    · exact ih fits.2.2 later

end Forest

-- A stream that spells a forest, whatever depths are written on its events and
-- wherever its comments stand.
inductive Spells : List Event → Forest → Prop where
  | nil : Spells [] .nil
  | text (depth : Int) (html : String) {more : List Event} {rest : Forest} :
      Spells more rest → Spells (.text depth html :: more) (.text html rest)
  | void (depth : Int) (tag : String) (pairs : List (String × String)) {more : List Event} {rest : Forest} :
      Spells more rest → Spells (.openTag depth tag pairs true :: more) (.void tag pairs rest)
  | element (depth last : Int) (tag : String) (pairs : List (String × String)) {events more : List Event}
      {inner rest : Forest} : Spells events inner → Spells more rest →
      Spells (.openTag depth tag pairs false :: events ++ .closeTag last tag :: more) (.element tag pairs inner rest)
  | comment (depth last : Int) {events more : List Event} {inner rest : Forest} :
      Spells events inner → Spells more rest →
      Spells (.openComment depth :: events ++ .closeComment last :: more) (.comment inner rest)

namespace Spells

variable {events xs ys : List Event} {forest other : Forest}

theorem ofForest (forest : Forest) (depth : Int) : Spells (forest.events depth) forest := by
  induction forest generalizing depth with
  | nil => exact .nil
  | text html rest ih => exact .text depth html (ih depth)
  | void tag pairs rest ih => exact .void depth tag pairs (ih depth)
  | element tag pairs inner rest innerIh ih => exact .element depth depth tag pairs (innerIh (depth + 1)) (ih depth)
  | comment inner rest innerIh ih => exact .comment depth depth (innerIh (depth + 1)) (ih depth)

theorem append (first : Spells xs forest) (second : Spells ys other) : Spells (xs ++ ys) (forest.append other) := by
  induction first with
  | nil => exact second
  | text depth html _ ih => exact .text depth html ih
  | void depth tag pairs _ ih => exact .void depth tag pairs ih
  | element depth last tag pairs inner _ _ ih =>
    rw [List.append_assoc]
    exact .element depth last tag pairs inner ih
  | comment depth last inner _ _ ih =>
    rw [List.append_assoc]
    exact .comment depth last inner ih

theorem shift (spells : Spells events forest) (amount : Int) : Spells (Event.shift amount events) forest := by
  induction spells with
  | nil => exact .nil
  | text depth html _ ih => exact .text (depth + amount) html ih
  | void depth tag pairs _ ih => exact .void (depth + amount) tag pairs ih
  | element depth last tag pairs _ _ innerIh ih =>
    rw [Event.shift, List.map_append]
    exact .element (depth + amount) (last + amount) tag pairs innerIh ih
  | comment depth last _ _ innerIh ih =>
    rw [Event.shift, List.map_append]
    exact .comment (depth + amount) (last + amount) innerIh ih

theorem wrap (spells : Spells events forest) (tag : String) (pairs : List (String × String)) :
    Spells (Event.wrap (tag, pairs) events) (.element tag pairs forest .nil) :=
  .element 0 0 tag pairs (spells.shift 1) .nil

end Spells

namespace Contents

variable {contents : Contents} {inComment : Bool} {depth : Int} {events more : List Event}
  {tag html : String} {pairs : List (String × String)}

def Stream (contents : Contents) (inComment : Bool) (depth : Int) (events : List Event) : Prop :=
  ∃ forest : Forest, events = forest.events depth ∧ forest.Fits contents inComment

theorem Stream.nil : contents.Stream inComment depth [] := ⟨.nil, rfl, trivial⟩

theorem Stream.append (first : contents.Stream inComment depth events)
    (second : contents.Stream inComment depth more) : contents.Stream inComment depth (events ++ more) := by
  obtain ⟨forest, rfl, fits⟩ := first
  obtain ⟨other, rfl, otherFits⟩ := second
  exact ⟨forest.append other, (Forest.events_append ..).symm, fits.append otherFits⟩

theorem Stream.text (allowed : contents.text html) : contents.Stream inComment depth [.text depth html] :=
  ⟨.text html .nil, rfl, allowed, trivial⟩

theorem Stream.void (allowed : contents.tag tag pairs true) :
    contents.Stream inComment depth [.openTag depth tag pairs true] :=
  ⟨.void tag pairs .nil, rfl, allowed, trivial⟩

theorem Stream.element (allowed : contents.tag tag pairs false)
    (inner : contents.Stream inComment (depth + 1) events) :
    contents.Stream inComment depth (.openTag depth tag pairs false :: events ++ [.closeTag depth tag]) := by
  obtain ⟨forest, rfl, fits⟩ := inner
  exact ⟨.element tag pairs forest .nil, by simp [Forest.events], allowed, fits, trivial⟩

theorem Stream.comment (inner : contents.Stream true (depth + 1) events) :
    contents.Stream false depth (.openComment depth :: events ++ [.closeComment depth]) := by
  obtain ⟨forest, rfl, fits⟩ := inner
  exact ⟨.comment forest .nil, by simp [Forest.events], rfl, fits, trivial⟩

theorem Stream.wrap (allowed : contents.tag tag pairs false) (inner : contents.Stream inComment 0 events) :
    contents.Stream inComment 0 (Event.wrap (tag, pairs) events) := by
  obtain ⟨forest, rfl, fits⟩ := inner
  refine Stream.element allowed ⟨forest, ?_, fits⟩
  simp [Forest.shift_events]

theorem Stream.allows (stream : contents.Stream inComment depth events) (emitted : event ∈ events) :
    contents.Allows event := by
  obtain ⟨forest, rfl, fits⟩ := stream
  exact fits.event emitted

end Contents

-- What holds of the state before every event of a stream that a machine takes in.
def Throughout (step : σ → Event → σ) (ready : σ → Event → Prop) : σ → List Event → Prop
  | _, [] => True
  | state, event :: events => ready state event ∧ Throughout step ready (step state event) events

theorem throughout_append {step : σ → Event → σ} {ready : σ → Event → Prop} {state : σ} {xs ys : List Event}
    (first : Throughout step ready state xs) (second : Throughout step ready (xs.foldl step state) ys) :
    Throughout step ready state (xs ++ ys) := by
  induction xs generalizing state with
  | nil => exact second
  | cons x xs ih => exact ⟨first.1, ih first.2 second⟩

end HtmlTemplate
