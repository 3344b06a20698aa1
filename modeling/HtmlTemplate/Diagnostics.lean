import HtmlTemplate.Journal
namespace HtmlTemplate

inductive Logger where
  | calls (warns logs : Bool)
  | channel (name : String)
deriving DecidableEq, Repr

inductive Level where
  | debug
  | info
  | warning
  | error
deriving DecidableEq, Repr

def Level.name : Level → String
  | .debug => "DEBUG"
  | .info => "INFO"
  | .warning => "WARNING"
  | .error => "ERROR"

structure LogLine where
  channel : Option String
  level : Level
  message : String
deriving DecidableEq, Repr

namespace Logger

def standard : Logger := .channel "treebark"

-- A warning goes to the error call where there is no warn call.
def line? (logger : Logger) : Entry → Option LogLine
  | .report problem =>
    let message := problem.compact
    match logger, problem.severity with
    | .calls _ _, .fatal => some ⟨none, .error, message⟩
    | .calls warns _, .warning => some ⟨none, if warns then .warning else .error, message⟩
    | .channel name, .fatal => some ⟨some name, .error, message⟩
    | .channel name, .warning => some ⟨some name, .warning, message⟩
  | .note message =>
    match logger with
    | .calls _ logs => if logs then some ⟨none, .info, message⟩ else none
    | .channel name => some ⟨some name, .info, message⟩
  | .dropped _ _ | .asked _ _ => none

def lines (logger : Logger) (journal : List Entry) : List LogLine := journal.filterMap logger.line?

def channel? : Logger → Option String
  | .calls _ _ => none
  | .channel name => some name

def takesWarnings : Logger → Bool
  | .calls warns _ => warns
  | .channel _ => true

def call (logger : Logger) (problem : Problem) : LogLine where
  channel := logger.channel?
  level := if problem.severity = .warning && logger.takesWarnings then .warning else .error
  message := problem.compact

end Logger

def detailLine? : Entry → Option LogLine
  | .dropped depth problem =>
    some ⟨some "treebark.renderer", .debug, "Dropped node at depth " ++ String.ofList (Chars.signed depth) ++
      " (" ++ problem.kind.code ++ ")"⟩
  | _ => none

namespace Diagnostics

def problems (journal : List Entry) : List Problem := journal.filterMap Entry.problem?
def errors (journal : List Entry) : List Problem := (problems journal).filter fun p => p.severity = .fatal
def warnings (journal : List Entry) : List Problem := (problems journal).filter fun p => p.severity = .warning
def hasErrors (journal : List Entry) : Bool := !(errors journal).isEmpty

end Diagnostics

structure Collector where
  errors : List Problem := []
  warnings : List Problem := []
  calls : List LogLine := []

namespace Collector

def report (logger : Logger) (collector : Collector) (problem : Problem) : Collector :=
  let calls := collector.calls ++ [logger.call problem]
  match problem.severity with
  | .warning => { collector with warnings := collector.warnings ++ [problem], calls }
  | .fatal => { collector with errors := collector.errors ++ [problem], calls }

def take (logger : Logger) (collector : Collector) : Entry → Collector
  | .report problem => collector.report logger problem
  | entry => { collector with calls := collector.calls ++ (logger.line? entry).toList }

def through (logger : Logger) (collector : Collector) (journal : List Entry) : Collector :=
  journal.foldl (take logger) collector

end Collector
end HtmlTemplate
