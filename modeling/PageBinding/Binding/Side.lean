import PageBinding.Token.Scan

/-!
The two sides of a binding and how each addresses what it reads or writes.
-/
namespace PageBinding

inductive Side
  | data
  | attr
  | prop
  | global
  deriving DecidableEq, Repr, Inhabited

namespace Side

def name : Side → String
  | data => "data"
  | attr => "attr"
  | prop => "prop"
  | global => "global"

/-- The name of the kind of side with a given number; a number without a kind is shown as
itself. -/
def nameOfNumber (n : Int) : String :=
  if n = 0 then name data
  else if n = 1 then name attr
  else if n = 2 then name prop
  else if n = 3 then name global
  else "Kind(" ++ toString n ++ ")"

def isGlobalMarker (s : String) : Bool :=
  s = "$globals" || s = "$global"

def calls (name : String) : List Token → Bool
  | t :: u :: rest =>
      (t.kind = .identifier && t.text = name && u.kind = .leftParen) || calls name (u :: rest)
  | _ => false

/-- The kind of a side: the first of attributes, properties and global data that it mentions. -/
def ofTokens (tokens : List Token) : Side :=
  if calls "attr" tokens then attr
  else if calls "prop" tokens then prop
  else if tokens.any fun t => t.kind = .identifier && isGlobalMarker t.text then global
  else data

def classify (text : String) : Side :=
  ofTokens (Token.scan text)

end Side

end PageBinding
