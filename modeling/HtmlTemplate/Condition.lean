import HtmlTemplate.Path
import HtmlTemplate.Value.Identity
namespace HtmlTemplate.Condition

-- Empty containers are true.
def truthy : Value → Bool
  | .null | .missing => false
  | .bool b => b
  | .text s => s ≠ ""
  | .int n => n ≠ 0
  | .float x => x ≠ .nan && !Number.eq (.float x) (.int 0)
  | .foreign _ _ | .sequence _ _ _ | .mapping _ _ | .enclosing _ => true

-- Containers count by identity. Foreign objects count by their own equality: the
-- identity of one stands for the class of all that are equal to it.
def strictEquals (left right : Value) : Bool :=
  match left.number?, right.number? with
  | some x, some y => x.eq y
  | none, none => decide (left = right)
  | _, _ => false

inductive Operator where
  | less
  | greater
  | atMost
  | atLeast
  | equals
  | isIn
deriving DecidableEq, Repr

namespace Operator

def all : List Operator := [.less, .greater, .atMost, .atLeast, .equals, .isIn]

def key : Operator → String
  | .less => "$<"
  | .greater => "$>"
  | .atMost => "$<="
  | .atLeast => "$>="
  | .equals => "$="
  | .isIn => "$in"

def numeric (compare : Number → Number → Bool) (value operand : Value) : Bool :=
  match value.number?, operand.number? with
  | some x, some y => compare x y
  | _, _ => false

-- A value of the wrong kind never fails, the operator just does not hold.
def holds : Operator → (value operand : Value) → Bool
  | .less => numeric Number.lt
  | .greater => numeric fun x y => y.lt x
  | .atMost => numeric Number.le
  | .atLeast => numeric fun x y => y.le x
  | .equals => strictEquals
  | .isIn => fun value operand => (operand.items?.getD []).any (strictEquals value)

end Operator

def keys : List String :=
  [Vocabulary.checkKey, Vocabulary.thenKey, Vocabulary.elseKey, Vocabulary.notKey, Vocabulary.joinKey] ++
    Operator.all.map Operator.key

abbrev Descriptor := List (Value × Value)

def results (value : Value) (descriptor : Descriptor) : List Bool :=
  Operator.all.filterMap fun op => (Value.find? descriptor op.key).map (op.holds value)

def evaluate (value : Value) (descriptor : Descriptor) : Bool :=
  let found := results value descriptor
  let plain :=
    if found.isEmpty then truthy value
    else if (Value.find? descriptor Vocabulary.joinKey).any (Value.isText "OR") then found.any id
    else found.all id
  if (Value.find? descriptor Vocabulary.notKey).any truthy then !plain else plain

def conditional? (v : Value) : Option Descriptor :=
  v.entries?.filter fun entries =>
    match Value.find? entries Vocabulary.checkKey with
    | some (.text _) => true
    | _ => false

def check [Stack] (fallback : Option Path.Fallback) (scope : Scope) (descriptor : Descriptor) : Run Bool := do
  match Value.find? descriptor Vocabulary.checkKey with
  | none => Run.raise .missingCheck
  | some path =>
    let path ← Path.checked Vocabulary.checkKey path
    let value ← Path.resolve fallback scope (Blank.strip path)
    pure (evaluate value descriptor)

def choose [Stack] (fallback : Option Path.Fallback) (scope : Scope) (descriptor : Descriptor) : Run Value := do
  let branch := if ← check fallback scope descriptor then Vocabulary.thenKey else Vocabulary.elseKey
  pure ((Value.find? descriptor branch).getD (.text ""))

end HtmlTemplate.Condition
