import PageBinding.Page.Basic

/-!
Compiling a list of bindings, one to a line.
-/
namespace PageBinding.Page

structure Report where
  log : List Log.Entry
  outcome : Except String String

def Report.output (r : Report) : String :=
  match r.outcome with
  | .ok source => source
  | .error _ => ""

def Report.errors (r : Report) : String :=
  match r.outcome with
  | .ok _ => ""
  | .error note => note

structure Listing where
  reports : List Report

namespace Listing

def ok (l : Listing) : Bool :=
  l.reports.all fun r => r.outcome.isOk

def output (l : Listing) : String :=
  String.join (l.reports.map Report.output)

def errors (l : Listing) : String :=
  String.join (l.reports.map Report.errors)

def log (l : Listing) : List Log.Entry :=
  l.reports.flatMap Report.log

end Listing

def lineLimit : Nat := 65536

def readableLines (text : String) : List (List Char) :=
  (Text.lines text.toList).takeWhile fun line => Text.byteLength line < lineLimit

def isSkipped (line : List Char) : Bool :=
  line.isEmpty || line.head? = some '#'

def report (context : Int) (number : Nat) (text : String) (p : Page) : Report :=
  match (parse text context).run { p with log := [] } with
  | .ok intent p => ⟨p.log, .ok intent.source⟩
  | .error e p => ⟨p.log, .error (toString number ++ ": " ++ e.message ++ "\n")⟩

def compileLines (context : Int) (p : Page) : (number : Nat) → List (List Char) → List Report
  | _, [] => []
  | number, line :: lines =>
      let text := Text.trimBlank line
      if isSkipped text then compileLines context p (number + 1) lines
      else
        report context number (String.ofList text) p :: compileLines context p (number + 1) lines

/-- Compiles the bindings of a text, one to a line. Blank lines and lines that begin with `#` are
skipped. -/
def compile (context : Int) (text : String) (p : Page) : Listing :=
  ⟨compileLines context p 1 (readableLines text)⟩

end PageBinding.Page
