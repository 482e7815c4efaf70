import PageBinding.Run.Eval

/-!
Values of expressions, from the values of their parts.
-/
namespace PageBinding.Expr

variable (w : World) (f : Frame) (locals : Locals) {x l r : Expr} {args : List Expr} {u v : Value}
  {vs : List Value} {op : BinaryOp}

/-- Operators other than `&&` and `||` are applied to the values of both operands. -/
theorem eval_operator (l r : Expr) (notAnd : op ≠ .and) (notOr : op ≠ .or) :
    (binary op l r).eval w f locals =
      l.eval w f locals >>= fun a => r.eval w f locals >>= fun b => applied (Value.binary op a b) := by
  refine bind_congr fun a => ?_
  rw [if_neg notAnd, if_neg notOr]

theorem eval_add (left : l.eval w f locals = .ok u) (right : r.eval w f locals = .ok v) :
    (binary .add l r).eval w f locals = .ok (Value.add u v) := by
  rw [eval_operator w f locals l r (by decide) (by decide), left, right]
  rfl

theorem evalAll_one (first : l.eval w f locals = .ok u) : evalAll w f locals [l] = .ok [u] := by
  show (l.eval w f locals >>= fun v => evalAll w f locals [] >>= fun vs => .ok (v :: vs)) = _
  rw [first]
  rfl

theorem evalAll_two (first : l.eval w f locals = .ok u) (second : r.eval w f locals = .ok v) :
    evalAll w f locals [l, r] = .ok [u, v] := by
  show (l.eval w f locals >>= fun v => evalAll w f locals [r] >>= fun vs => .ok (v :: vs)) = _
  rw [first, evalAll_one w f locals second]
  rfl

theorem eval_method (receiver : x.eval w f locals = .ok v) (given : evalAll w f locals args = .ok vs)
    (name : String) : (call x name args).eval w f locals = w.callMethod v name vs := by
  show (x.eval w f locals >>= fun v =>
    evalAll w f locals args >>= fun vs => w.callMethod v name vs) = _
  rw [receiver, given]
  rfl

end PageBinding.Expr
