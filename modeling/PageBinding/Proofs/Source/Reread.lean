import PageBinding.Proofs.Source.Outline

/-!
Outlines are read back from pieces. Each piece is spelled by tokens of the grammar of values, and
for an expression that was read these spell its outline. The grammar gives tokens one meaning, so
expressions with the same pieces have the same outline.
-/
namespace PageBinding

open Binding

/-! ## Tokens of pieces -/

namespace Piece

/-- The kind of token that a mark is. -/
def markKind (text : String) : Token.Kind :=
  if text = "(" then .leftParen
  else if text = ")" then .rightParen
  else if text = "[" then .leftBrack
  else if text = "]" then .rightBrack
  else .comma

/-- The kind of token that a sign between two parts is. -/
def jointKind (text : String) : Token.Kind :=
  if text = "?" then .question else if text = ":" then .colon else .operator

/-- The tokens that spell a piece. Names and constants are spelled as texts. -/
def tokens : Piece → List Token
  | mark text => [⟨markKind text, 0, text⟩]
  | joint text => [⟨jointKind text, 0, text⟩]
  | sign op _ => [⟨.operator, 0, op.spelling⟩]
  | member name => [⟨.dot, 0, "."⟩, ⟨.identifier, 0, name⟩]
  | p => [⟨.string, 0, Literal.quote (String.ofList p.text)⟩]

end Piece

/-- The tokens that spell pieces. -/
def spell (ps : List Piece) : List Token :=
  ps.flatMap Piece.tokens

@[simp]
theorem spell_nil : spell [] = [] := rfl

@[simp]
theorem spell_cons (p : Piece) (ps : List Piece) : spell (p :: ps) = p.tokens ++ spell ps := rfl

@[simp]
theorem spell_append (ps qs : List Piece) : spell (ps ++ qs) = spell ps ++ spell qs :=
  List.flatMap_append

/-- What the tokens of pieces are read with: there are no accessors and no global data in them. -/
def bare : Setting := ⟨"", 0, 0, .data, 0⟩

namespace Expr

/-- An operand that its pieces spell. -/
def SpellsOperand (x : Expr) : Prop :=
  IsOperand OptionalPath bare .all [] (spell x.pieces) x.outline []

/-- An expression that its pieces spell. -/
def Spells (x : Expr) : Prop :=
  IsExpr OptionalPath bare [] (spell x.pieces) x.outline []

variable {x : Expr}

theorem SpellsOperand.spells (h : SpellsOperand x) : Spells x :=
  .plain (.operand (.operand h))

theorem spells_text (text : String) :
    IsOperand OptionalPath bare .all [] [⟨.string, 0, Literal.quote text⟩]
      (.lit (Literal.quote text) (.string text)) [] := by
  show IsOperand OptionalPath bare .all [] _
    (.lit (Literal.quoteRaw (.chars text)) (.ofRaw (.chars text))) []
  exact .string rfl (unquoted_of_unquote (Literal.unquote_quote text))

/-- Constants, names and whole paths are spelled as texts. -/
theorem spellsOperand_lit (text : String) (v : Value) : SpellsOperand (.lit text v) := by
  show IsOperand OptionalPath bare .all [] (spell [constant text v]) (leaf (constant text v)) []
  unfold constant
  split <;> exact spells_text _

theorem spellsOperand_get (scope : Scope) (path : String) : SpellsOperand (.get scope path) :=
  spells_text _

theorem spellsOperand_var (name : String) : SpellsOperand (.var name) :=
  spells_text _

/-- The parentheses that the source adds are those of the outline. -/
theorem SpellsOperand.enclosed (h : SpellsOperand x) :
    IsOperand OptionalPath bare .all [] (spell (enclosed x x.pieces))
      (parenthesized x x.outline) [] := by
  unfold Expr.enclosed parenthesized
  split
  · rw [spell_cons, spell_append]
    exact .paren rfl h.spells rfl
  · exact h

theorem SpellsOperand.member {name : String} (h : SpellsOperand x) (allowed : name ≠ reserved) :
    SpellsOperand (.member x name) := by
  show IsOperand OptionalPath bare .all [] (spell (Expr.enclosed x x.pieces ++ [Piece.member name]))
    (.member (parenthesized x x.outline) name) []
  have isName : IsName ⟨.identifier, 0, name⟩ := ⟨rfl, allowed⟩
  rw [spell_append]
  exact .member h.enclosed rfl isName

theorem SpellsOperand.index {i : Expr} (h : SpellsOperand x) (inside : Spells i) :
    SpellsOperand (.index x i) := by
  show IsOperand OptionalPath bare .all []
    (spell (Expr.enclosed x x.pieces ++ Piece.mark "[" :: (i.pieces ++ [Piece.mark "]"])))
    (.index (parenthesized x x.outline) i.outline) []
  rw [spell_append, spell_cons, spell_append]
  exact .index h.enclosed rfl inside rfl

/-- Arguments that their pieces spell, with the parentheses around them. -/
def SpellsArgs (args : List Expr) : Prop :=
  IsArgs OptionalPath bare [] (spell (.mark "(" :: (piecesAll args ++ [.mark ")"])))
    (outlines args) []

theorem SpellsOperand.call {method : String} {args : List Expr} (h : SpellsOperand x)
    (allowed : method ≠ reserved) (inside : SpellsArgs args) :
    SpellsOperand (.call x method args) := by
  show IsOperand OptionalPath bare .all []
    (spell (Expr.enclosed x x.pieces ++
      Piece.member method :: Piece.mark "(" :: (piecesAll args ++ [Piece.mark ")"])))
    (.call (parenthesized x x.outline) method (outlines args)) []
  have isName : IsName ⟨.identifier, 0, method⟩ := ⟨rfl, allowed⟩
  rw [spell_append, spell_cons]
  exact .call h.enclosed (by decide) rfl isName inside

theorem spellsOperand_event : SpellsOperand .event :=
  spells_text _

/-- The element that an event started at is spelled as the first of the event's path. -/
theorem spellsOperand_target : SpellsOperand .target := by
  have path : SpellsOperand (.call .event "composedPath" []) :=
    spellsOperand_event.call (by decide) (.none rfl rfl)
  exact path.index (spellsOperand_lit "0" (.number 0.0)).spells

theorem spellsOperand_of_named {name : String} (found : namedValue? name = some x) :
    SpellsOperand x := by
  unfold namedValue? at found
  repeat' split at found
  all_goals cases found
  · exact spellsOperand_lit _ _
  · exact spellsOperand_lit _ _
  · exact spellsOperand_lit _ _
  · exact spellsOperand_lit _ _
  · exact spellsOperand_event
  · exact spellsOperand_target
  · exact spells_text _

/-! ## Expressions that were read -/

theorem precedence_of_binaryOp {op : BinaryOp} {t : Token} {level : Nat}
    (found : binaryOp? t = some (op, level)) : op.precedence? = some level := by
  unfold binaryOp? at found
  split at found
  · obtain ⟨q, known, same⟩ := Option.map_eq_some_iff.1 found
    cases same
    exact known
  · cases found

theorem binaryOp?_spelling {op : BinaryOp} {level : Nat} (known : op.precedence? = some level) :
    binaryOp? ⟨Piece.jointKind op.spelling, 0, op.spelling⟩ = some (op, level) := by
  cases op with
  | unknown s => cases known
  | _ => cases known; rfl

theorem sign_of_unaryOp {op : UnaryOp} {t : Token} (found : unaryOp? t = some op) :
    (Piece.sign op false).Valid := by
  unfold unaryOp? at found
  split at found
  · split at found
    · cases found
    · rename_i known
      cases found
      cases shape : UnaryOp.ofSpelling t.text with
      | unknown s => exact absurd shape (known s)
      | _ => decide
  · cases found

theorem unaryOp?_spelling {op : UnaryOp} (known : (Piece.sign op false).Valid) :
    unaryOp? ⟨.operator, 0, op.spelling⟩ = some op := by
  obtain rfl | rfl | rfl := Piece.sign_cases known <;> rfl

end Expr

namespace Binding

variable {marker : MarkerRule} {s : Setting}

open PageBinding.Expr

theorem IsItems.ne_nil {a b : List Stmt} {ts : List Token} {xs : List Expr}
    (h : IsItems marker s a ts xs b) : xs ≠ [] := by
  cases h with
  | last => exact List.cons_ne_nil _ _
  | more => exact List.cons_ne_nil _ _

mutual

theorem IsExpr.spells {a b : List Stmt} {ts : List Token} {x : Expr} :
    IsExpr marker s a ts x b → Spells x
  | .plain h => .plain h.spells
  | .cond c _ t _ e => by
    change IsExpr _ _ _ (spell (_ ++ Piece.joint "?" :: (_ ++ Piece.joint ":" :: _))) (.cond _ _ _) _
    rw [spell_append, spell_cons, spell_append, spell_cons]
    exact .cond c.spells rfl t.spells rfl e.spells

theorem IsBinary.spells {least : Nat} {a b : List Stmt} {ts : List Token} {x : Expr} :
    IsBinary marker s least a ts x b →
      IsBinary OptionalPath bare least [] (spell x.pieces) x.outline []
  | .operand h => .operand h.spells
  | .apply left found le right => by
    change IsBinary _ _ _ _ (spell (_ ++ Piece.joint _ :: _)) (.binary _ _ _) _
    rw [spell_append, spell_cons]
    exact .apply left.spells (binaryOp?_spelling (precedence_of_binaryOp found)) le right.spells

theorem IsUnary.spells {a b : List Stmt} {ts : List Token} {x : Expr} :
    IsUnary marker s a ts x b → IsUnary OptionalPath bare [] (spell x.pieces) x.outline []
  | .operand h => .operand h.spells
  | .apply found h => .apply (unaryOp?_spelling (sign_of_unaryOp found)) h.spells

theorem IsOperand.spells {f : Follow} {a b : List Stmt} {ts : List Token} {x : Expr} :
    IsOperand marker s f a ts x b → SpellsOperand x
  | .number _ _ => spellsOperand_lit _ _
  | .string _ _ => spellsOperand_lit _ _
  | .paren _ h _ => by
    change IsOperand _ _ _ _ (spell (Piece.mark "(" :: (_ ++ [Piece.mark ")"]))) (.paren _) _
    rw [spell_cons, spell_append]
    exact .paren rfl h.spells rfl
  | .named _ found => spellsOperand_of_named found
  | .access _ _ _ _ => by
    unfold accessed
    split <;> exact spellsOperand_var _
  | .global _ _ _ _ => spellsOperand_get _ _
  | .path _ _ => spellsOperand_get _ _
  | .method _ _ _ isName args => (spellsOperand_get _ _).call isName.2 args.spells
  | .member h _ isName => h.spells.member isName.2
  | .call h _ _ isName args => h.spells.call isName.2 args.spells
  | .index h _ i _ => h.spells.index i.spells

theorem IsArgs.spells {a b : List Stmt} {ts : List Token} {xs : List Expr} :
    IsArgs marker s a ts xs b → SpellsArgs xs
  | .none _ _ => .none rfl rfl
  | .some _ h => .some rfl h.spells

theorem IsItems.spells {a b : List Stmt} {ts : List Token} {xs : List Expr} :
    IsItems marker s a ts xs b →
      IsItems OptionalPath bare [] (spell (piecesAll xs ++ [Piece.mark ")"])) (outlines xs) []
  | .last h _ => by
    rw [spell_append]
    exact .last h.spells rfl
  | .more h _ tail => by
    rw [piecesAll_cons tail.ne_nil, List.append_assoc, List.cons_append, spell_append, spell_cons]
    exact .more h.spells rfl tail.spells

end

end Binding

namespace Expr

variable {x y : Expr}

/-- Expressions with the same pieces have the same outline: the grammar gives tokens one meaning. -/
theorem Spells.outline_eq (h : Spells x) (h' : Spells y) (same : x.pieces = y.pieces) :
    x.outline = y.outline := by
  unfold Spells at h
  rw [same] at h
  obtain ⟨_, read⟩ := source_complete h []
  obtain ⟨_, read'⟩ := source_complete h' []
  rw [read, EStateM.Result.ok.injEq] at read'
  exact read'.1

/-- An expression that can stand in a program and that its pieces spell. -/
structure Readable (context : Int) (x : Expr) : Prop where
  printable : Printable context x
  spells : Spells x

/-- Expressions with the same pieces have the same value. -/
theorem Readable.eval_eq {w : World} {f : Frame} {locals : Locals} (h : Readable f.bound x)
    (h' : Readable f.bound y) (same : x.pieces = y.pieces) :
    x.eval w f locals = y.eval w f locals :=
  calc x.eval w f locals = x.outline.restore.eval w f locals := h.printable.eval_restore.symm
    _ = y.outline.restore.eval w f locals := by rw [h.spells.outline_eq h'.spells same]
    _ = y.eval w f locals := h'.printable.eval_restore

end Expr

end PageBinding
