import PageBinding.Value.Convert

/-!
The two equalities of values.
-/
namespace PageBinding.Value

/-- Strict equality: numbers of any kind by size, other values only within one kind. Containers
equal nothing, while elements and events equal themselves. -/
def strictEq (a b : Value) : Bool :=
  if a.isNumber && b.isNumber then a.toNumber == b.toNumber
  else match a, b with
    | null, null => true
    | undefined, undefined => true
    | bool p, bool q => p == q
    | string s, string t => s == t
    | bytes s, bytes t => s == t
    | element e, element f => e == f
    | event e, event f => e == f
    | _, _ => false

/-- Loose equality: null and undefined equal each other and nothing else; two scalars are compared
as numbers unless both are texts; a scalar and a container are compared as texts. -/
def looseEq (a b : Value) : Bool :=
  if a.isNullish || b.isNullish then a.isNullish && b.isNullish
  else match a, b with
    | string s, string t => s == t
    | bytes s, bytes t => s == t
    | string _, bytes _ => false
    | bytes _, string _ => false
    | a, b =>
        if a.isScalar && b.isScalar then a.toNumber == b.toNumber
        else if a.isScalar || b.isScalar then a.toBytes == b.toBytes
        else strictEq a b

end PageBinding.Value
