import HtmlTemplate.CommandLine.Arguments
import HtmlTemplate.Diagnostics
import HtmlTemplate.Escape.Named
import HtmlTemplate.Source.Load
namespace HtmlTemplate.CommandLine

structure Exit where
  code : Nat
  output : String := ""
  errors : String := ""
deriving DecidableEq, Repr

def programName : String := "treebark"
def programVersion : String := "0.1.0"

def helpText : String := "usage: treebark [-h] [--version] [--data FILE] [--indent N|tab]
                [--block-container] [--shadow-dom] [--dom] [-v]
                template

Render a Treebark YAML/JSON template to HTML

positional arguments:
  template           template file (.yaml, .yml or .json)

options:
  -h, --help         show this help message and exit
  --version          show program's version number and exit
  --data FILE        YAML/JSON data file; merged under the template's own data
  --indent N|tab     indent output with N spaces or a tab
  --block-container  wrap output in a CSS containment <div>
  --shadow-dom       wrap output in a declarative shadow root
  --dom              render through the DOM backend (ignores --indent)
  -v, --verbose      log debug diagnostics
"

def Stop.exit : Stop → Exit
  | .help => ⟨0, helpText, ""⟩
  | .version => ⟨0, programName ++ " " ++ programVersion ++ "\n", ""⟩
  | .usage message => ⟨2, "", programName ++ ": error: " ++ message ++ "\n"⟩

abbrev Files := String → Except String String

def plainPath (path : String) : String :=
  let parts := (Chars.splitOn '/' path.toList).filter fun part => !(part.isEmpty || part == ['.'])
  let joined := Chars.joinWith ['/'] parts
  if Chars.beginsWith ['/'] path.toList then String.ofList ('/' :: joined)
  else if joined.isEmpty then "." else String.ofList joined

def readData (files : Files) (path : Option String) : Except Failure Value :=
  match path with
  | none => .ok .null
  | some path =>
    match files path with
    | .error reason => .error (.problem (.unreadableFile "data" path reason))
    | .ok text => Source.parse 1 text

-- The data file comes first, so of two faults it is the one that shows.
def readInput (files : Files) (arguments : Arguments) : Except Failure Input := do
  let data ← readData files arguments.data
  let path := plainPath (arguments.template.getD "")
  match files path with
  | .error reason => .error (.problem (.unreadableFile "template" path reason))
  | .ok text => Source.load text data

def options (arguments : Arguments) : Options where
  indent :=
    match arguments.indent with
    | none => .null
    | some .tab => .text "\t"
    | some (.spaces n) => .int n
  blockContainer := .bool arguments.blockContainer
  shadowDom := .bool arguments.shadowDom

def rendered [Stack] (arguments : Arguments) (input : Input) : Run String :=
  if arguments.dom then do
    pure (Dom.toHtml (← input.tree .standard (options arguments) none))
  else input.markup (options arguments) none

def lineText (line : LogLine) : String :=
  line.level.name ++ " " ++ line.channel.getD "" ++ ": " ++ line.message ++ "\n"

def shown (verbose : Bool) (entry : Entry) : Option LogLine :=
  if verbose then Logger.standard.line? entry <|> detailLine? entry
  else (Logger.standard.line? entry).filter fun line => line.level = .warning || line.level = .error

def lastWords (problem : Problem) : String :=
  onChars Blank.trimEnd problem.message ++ "\n"

def run [Stack] (files : Files) (argv : List String) : Except Failure Exit :=
  match parse argv with
  | .error stop => .ok stop.exit
  | .ok arguments =>
    match readInput files arguments with
    | .error (.problem problem) => .ok ⟨1, "", lastWords problem⟩
    | .error failure => .error failure
    | .ok input =>
      let run := rendered arguments input
      run.outcome.map fun html =>
        ⟨0, html ++ "\n", String.join ((run.journal.filterMap (shown arguments.verbose)).map lineText)⟩

end HtmlTemplate.CommandLine
