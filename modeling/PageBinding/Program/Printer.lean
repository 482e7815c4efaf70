import PageBinding.Literal
import PageBinding.Program.Basic

/-!
The source text of programs: the body of a function of an event and an element, one statement to a
line.
-/
namespace PageBinding

namespace Expr

def needsParens : Expr → Bool
  | get _ _ => true
  | unary _ _ => true
  | binary _ _ _ => true
  | cond _ _ _ => true
  | lit _ (.number _) => true
  | _ => false

def wrapped (x : Expr) (text : String) : String :=
  if x.needsParens then "(" ++ text ++ ")" else text

def startsWithSign (s : String) : Bool :=
  Text.startsWith s "-" || Text.startsWith s "+"

def signed (op : UnaryOp) (text : String) : String :=
  if (op = .minus || op = .plus) && startsWithSign text then op.spelling ++ " " ++ text
  else op.spelling ++ text

mutual

def source : Expr → String
  | lit text _ => text
  | event => "event"
  | target => "event.composedPath()[0]"
  | element => "element"
  | var name => name
  | get scope path => "await getProperty(" ++ toString scope.id ++ ", " ++ Literal.quote path ++ ")"
  | attr x name => wrapped x (source x) ++ ".getAttribute(" ++ Literal.quote name ++ ")"
  | member x name => wrapped x (source x) ++ "." ++ name
  | index x i => wrapped x (source x) ++ "[" ++ source i ++ "]"
  | call x method args =>
      wrapped x (source x) ++ "." ++ method ++ "(" ++ Text.joinStrings ", " (sources args) ++ ")"
  | unary op x => signed op (source x)
  | binary op l r => source l ++ " " ++ op.spelling ++ " " ++ source r
  | cond c t e => source c ++ " ? " ++ source t ++ " : " ++ source e
  | paren x => "(" ++ source x ++ ")"
  | placeholder => "__value__"

def sources : List Expr → List String
  | [] => []
  | x :: xs => source x :: sources xs

end

def operand (x : Expr) : String :=
  wrapped x x.source

end Expr

def Stmt.source : Stmt → String
  | lookup name selector whole =>
      "const " ++ name ++ " = " ++ (if whole then "document" else "element") ++
        ".querySelector(" ++ Literal.quoteRaw selector ++ ")"
  | declare name value => "const " ++ name ++ " = " ++ value.source
  | setProperty scope path value =>
      "await setProperty(" ++ toString scope.id ++ ", " ++ Literal.quote path ++ ", " ++
        value.source ++ ")"
  | setAttr x name value =>
      x.operand ++ ".setAttribute(" ++ Literal.quote name ++ ", " ++ value.source ++ ")"
  | setMember x name value => x.operand ++ "." ++ name ++ " = " ++ value.source

namespace Program

/-- The source of a program: its statements, each ended by a semicolon on a line of its own. -/
def source (p : Program) : String :=
  String.join (p.statements.map fun s => s.source ++ ";\n")

end Program

end PageBinding
