import PageBinding.Proofs.Number.Positive
import PageBinding.Proofs.Reading.Value
import PageBinding.Proofs.Source.Expression
import PageBinding.Run.Eval

/-!
Expressions with the same pieces have the same value.

The outline of an expression is the form that its source shows: the parentheses that it is written
with, and texts in place of names and constants. It is read back from the pieces by the grammar of
values, which gives each sequence of tokens one meaning, and it determines the value of the
expression.
-/
namespace PageBinding

namespace Expr

/-! ## Outlines -/

/-- What stands for a name or a constant in an outline. -/
def leaf (p : Piece) : Expr :=
  .lit (Literal.quote (String.ofList p.text)) (.string (String.ofList p.text))

/-- An outline as it stands before a dot or a bracket. -/
def parenthesized (x outline : Expr) : Expr :=
  if x.needsParens then .paren outline else outline

mutual

/-- The form of the source of an expression. -/
def outline : Expr → Expr
  | lit text value => leaf (constant text value)
  | event => leaf (.word "event")
  | target => .index (.call (leaf (.word "event")) "composedPath" []) (leaf (.number "0"))
  | element => leaf (.word "element")
  | var name => leaf (.word name)
  | get scope path => leaf (.access false scope.id path)
  | attr x name => .attr (parenthesized x (outline x)) name
  | member x name => .member (parenthesized x (outline x)) name
  | index x i => .index (parenthesized x (outline x)) (outline i)
  | call x method args => .call (parenthesized x (outline x)) method (outlines args)
  | unary op x => .unary op (outline x)
  | binary op l r => .binary op (outline l) (outline r)
  | cond c t e => .cond (outline c) (outline t) (outline e)
  | paren x => .paren (outline x)
  | placeholder => leaf (.word "__value__")

/-- The forms of some expressions. -/
def outlines : List Expr → List Expr
  | [] => []
  | x :: xs => outline x :: outlines xs

end

/-! ## What an outline stands for -/

open Classical in
/-- The piece with a given text. -/
noncomputable def pieceOf (text : String) : Piece :=
  if h : ∃ p : Piece, p.Valid ∧ String.ofList p.text = text then h.choose else .naming

theorem pieceOf_text {p : Piece} (valid : p.Valid) : pieceOf (String.ofList p.text) = p := by
  have found : ∃ q : Piece, q.Valid ∧ String.ofList q.text = String.ofList p.text := ⟨p, valid, rfl⟩
  obtain ⟨valid', same⟩ := found.choose_spec
  rw [pieceOf, dif_pos found]
  have sameText : found.choose.text ++ [] = p.text ++ [] := by
    rw [List.append_nil, List.append_nil]
    exact String.ofList_injective same
  exact (Piece.cancel valid' valid (Piece.fits_nil _) (Piece.fits_nil _) sameText).1

/-- The expression that a piece is. -/
def ofPiece : Piece → Expr
  | .number text =>
    match Number.read text.toList with
    | .ok v => .lit text (.number v)
    | .error _ => .placeholder
  | .string s => .lit (Literal.quote s) (.string s)
  | .word text => ofWord text
  | .access _ id path => .get (.fixed id) path
  | _ => .placeholder

mutual

/-- An expression with a given outline. -/
noncomputable def restore : Expr → Expr
  | lit _ (.string text) => ofPiece (pieceOf text)
  | member x name => .member (restore x) name
  | index x i => .index (restore x) (restore i)
  | call x method args => .call (restore x) method (restoreAll args)
  | unary op x => .unary op (restore x)
  | binary op l r => .binary op (restore l) (restore r)
  | cond c t e => .cond (restore c) (restore t) (restore e)
  | paren x => .paren (restore x)
  | x => x

/-- Expressions with given outlines. -/
noncomputable def restoreAll : List Expr → List Expr
  | [] => []
  | x :: xs => restore x :: restoreAll xs

end

theorem restore_leaf {p : Piece} (valid : p.Valid) : (leaf p).restore = ofPiece p :=
  congrArg ofPiece (pieceOf_text valid)

section
variable {w : World} {f : Frame} {locals : Locals}

theorem eval_parenthesized (x y : Expr) :
    (parenthesized x y).restore.eval w f locals = y.restore.eval w f locals := by
  unfold parenthesized
  split
  · rfl
  · rfl

theorem evalAll_restore {args : List Expr}
    (each : ∀ a ∈ args, a.outline.restore.eval w f locals = a.eval w f locals) :
    evalAll w f locals (restoreAll (outlines args)) = evalAll w f locals args := by
  induction args with
  | nil => rfl
  | cons x xs ih =>
    have first := each x List.mem_cons_self
    have rest := ih fun a mem => each a (List.mem_cons_of_mem x mem)
    simp only [outlines, restoreAll, evalAll, first, rest]

theorem outline_ofWord (text : String) : (ofWord text).outline = leaf (.word text) := by
  unfold ofWord
  repeat' split
  all_goals subst_vars
  all_goals rfl

theorem getIndex_zero (items : List Value) :
    w.getIndex (.array items) (.number 0.0) = .ok (items.head?.getD .undefined) := by
  show Except.ok ((((Value.number 0.0).position? items.length).bind fun n => items[n]?).getD
    .undefined) = _
  cases items with
  | nil => cases (Value.number 0.0).position? ([] : List Value).length <;> rfl
  | cons v items =>
    have notEmpty : 0 < (v :: items).length := Nat.succ_pos _
    rw [Number.position?_zero notEmpty]
    rfl

/-- The first element of the path of an event is where it started. -/
theorem eval_composedPath :
    (index (call event "composedPath" []) (lit "0" (.number 0.0))).eval w f locals =
      evalTarget w f := by
  show (do
    let v ← w.callMethod ((f.event.map Value.event).getD .undefined) "composedPath" []
    w.getIndex v (.number 0.0)) = _
  unfold evalTarget
  cases f.event with
  | none => rfl
  | some ref =>
    show w.getIndex (.array (((w.event? ref).map Event.path).getD [] |>.map Value.element))
      (.number 0.0) = .ok ((((w.event? ref).bind Event.origin).map Value.element).getD .undefined)
    rw [getIndex_zero, List.head?_map]
    cases w.event? ref with
    | none => rfl
    | some e => rfl

/-- An outline determines the value of the expression that it belongs to. -/
theorem Printable.eval_restore {x : Expr} (h : Printable f.bound x) :
    x.outline.restore.eval w f locals = x.eval w f locals := by
  induction h with
  | @number text v valid read =>
    show (leaf (.number text)).restore.eval w f locals = .ok (.number v)
    rw [restore_leaf valid, ofPiece, read]
    rfl
  | string s =>
    have valid : (Piece.string s).Valid := trivial
    show (leaf (.string s)).restore.eval w f locals = .ok (.string s)
    rw [restore_leaf valid]
    rfl
  | @word text valid => rw [outline_ofWord, restore_leaf valid, ofPiece]
  | target =>
    have event : (Piece.word "event").Valid := by decide
    have zero : (Piece.number "0").Valid := by decide
    have read : Number.read "0".toList = .ok 0.0 := by rfl
    show (Expr.index (.call (leaf (.word "event")).restore "composedPath" [])
      (leaf (.number "0")).restore).eval w f locals = evalTarget w f
    rw [restore_leaf event, restore_leaf zero, ofPiece, ofPiece, read]
    exact eval_composedPath
  | @get scope path known =>
    have valid : (Piece.access false scope.id path).Valid := trivial
    show (leaf (.access false scope.id path)).restore.eval w f locals = w.getData f scope path
    rw [restore_leaf valid]
    show w.getData f (.fixed scope.id) path = _
    unfold World.getData
    rw [known]
    rfl
  | member _ _ ih => simp only [outline, restore, eval, eval_parenthesized, ih]
  | index _ _ ihx ihi => simp only [outline, restore, eval, eval_parenthesized, ihx, ihi]
  | call _ _ _ ihx ihargs =>
    simp only [outline, restore, eval, eval_parenthesized, ihx, evalAll_restore ihargs]
  | unary _ _ ih => simp only [outline, restore, eval, ih]
  | binary _ _ _ ihl ihr => simp only [outline, restore, eval, ihl, ihr]
  | cond _ _ _ ihc iht ihe => simp only [outline, restore, eval, ihc, iht, ihe]
  | paren _ ih => exact ih

end

end Expr

end PageBinding
