namespace HtmlTemplate

-- Attribute values are not escaped yet, texts are.
inductive Event where
  | openTag (depth : Int) (tag : String) (attributes : List (String × String)) (void : Bool)
  | closeTag (depth : Int) (tag : String)
  | text (depth : Int) (html : String)
  | openComment (depth : Int)
  | closeComment (depth : Int)
deriving DecidableEq, Repr

namespace Event

def depth : Event → Int
  | .openTag depth _ _ _ | .closeTag depth _ | .text depth _ | .openComment depth | .closeComment depth => depth

def deepen (amount : Int) : Event → Event
  | .openTag depth tag attributes void => .openTag (depth + amount) tag attributes void
  | .closeTag depth tag => .closeTag (depth + amount) tag
  | .text depth html => .text (depth + amount) html
  | .openComment depth => .openComment (depth + amount)
  | .closeComment depth => .closeComment (depth + amount)

def shift (amount : Int) (events : List Event) : List Event := events.map (deepen amount)

def wrap (element : String × List (String × String)) (events : List Event) : List Event :=
  .openTag 0 element.1 element.2 false :: shift 1 events ++ [.closeTag 0 element.1]

end Event
end HtmlTemplate
