import HtmlTemplate.Problem
import HtmlTemplate.Value.Basic
import HtmlTemplate.Writing
namespace HtmlTemplate

-- The nearest context comes first.
structure Scope where
  data : Value
  ancestors : List Value := []

namespace Scope

def push (scope : Scope) (data : Value) : Scope := ⟨data, scope.data :: scope.ancestors⟩

def level? (scope : Scope) : Nat → Option Value
  | 0 => some scope.data
  | n + 1 => scope.ancestors[n]?

end Scope

inductive Entry where
  | report (problem : Problem)
  | note (message : String)
  | dropped (depth : Int) (problem : Problem)
  | asked (path : String) (scope : Scope)

namespace Entry

def problem? : Entry → Option Problem
  | .report problem => some problem
  | _ => none

def question? : Entry → Option (String × Scope)
  | .asked path scope => some (path, scope)
  | _ => none

end Entry

-- Problems are caught at nodes and attributes; numerals without value are not, nor
-- are values that are not written, nor keys in a source that hold containers.
inductive Failure where
  | problem (problem : Problem)
  | numeral (error : Digit.NumeralError)
  | unwritten (reason : Unwritten)
  | nestedKey (kindName : String)

def Failure.showing (shown : Except Unwritten String) (problem : String → Problem) : Failure :=
  match shown with
  | .ok text => .problem (problem text)
  | .error reason => .unwritten reason

def Failure.message : Failure → String
  | .problem p => p.message
  | .numeral error => error.message
  | .unwritten reason => reason.message
  | .nestedKey kindName => "unhashable type: '" ++ kindName ++ "'"

-- A run: its entries, also when it fails, and how it ends.
structure Run (α : Type) where
  journal : List Entry
  outcome : Except Failure α

namespace Run

def pure (a : α) : Run α := ⟨[], .ok a⟩
def fail (failure : Failure) : Run α := ⟨[], .error failure⟩
def raise (problem : Problem) : Run α := fail (.problem problem)
def record (entry : Entry) : Run Unit := ⟨[entry], .ok ()⟩
def report (problem : Problem) : Run Unit := record (.report problem)

def bind (run : Run α) (next : α → Run β) : Run β :=
  match run.outcome with
  | .error failure => ⟨run.journal, .error failure⟩
  | .ok a => ⟨run.journal ++ (next a).journal, (next a).outcome⟩

instance : Monad Run where
  pure := pure
  bind := bind

def rescue (takes : Problem → Bool) (handle : Problem → Run α) (run : Run α) : Run α :=
  match run.outcome with
  | .error (.problem problem) =>
    if takes problem then
      ⟨run.journal ++ (handle problem).journal, (handle problem).outcome⟩
    else run
  | _ => run

def unreported (run : Run α) : Run α :=
  { run with journal := run.journal.filter fun entry => entry.problem?.isNone }

def ofExcept (failure : ε → Failure) : Except ε α → Run α
  | .ok a => pure a
  | .error error => fail (failure error)

def written (text : Except Unwritten α) : Run α := ofExcept .unwritten text

def each (f : α → Run Unit) : List α → Run Unit
  | [] => pure ()
  | a :: as => (f a).bind fun _ => each f as

def collect (f : α → Run (List β)) : List α → Run (List β)
  | [] => pure []
  | a :: as => (f a).bind fun bs => (collect f as).bind fun rest => pure (bs ++ rest)

def keep (f : α → Run Bool) : List α → Run (List α)
  | [] => pure []
  | a :: as => (f a).bind fun kept => (keep f as).bind fun rest => pure (if kept then a :: rest else rest)

end Run
end HtmlTemplate
