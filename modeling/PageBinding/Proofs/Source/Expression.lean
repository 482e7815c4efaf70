import PageBinding.Number.Reading
import PageBinding.Proofs.Source.Piece

/-!
The pieces of expressions. The source of an expression that can stand in a program is what its
pieces are written as, and these pieces are legible.
-/
namespace PageBinding

namespace Expr

/-! ## Pieces -/

/-- Pieces as they stand before a dot or a bracket. -/
def enclosed (x : Expr) (ps : List Piece) : List Piece :=
  if x.needsParens then .mark "(" :: (ps ++ [.mark ")"]) else ps

/-- Whether a blank keeps an operator apart from its operand. -/
def apart (op : UnaryOp) (text : String) : Bool :=
  (op = .minus || op = .plus) && startsWithSign text

/-- The piece that a constant is. -/
def constant (text : String) : Value → Piece
  | .number _ => .number text
  | .string s => .string s
  | _ => .word text

mutual

/-- The pieces of an expression. -/
def pieces : Expr → List Piece
  | lit text value => [constant text value]
  | event => [.word "event"]
  | target =>
    [.word "event", .member "composedPath", .mark "(", .mark ")", .mark "[", .number "0",
      .mark "]"]
  | element => [.word "element"]
  | var name => [.word name]
  | get scope path => [.access false scope.id path]
  | attr x name =>
    enclosed x (pieces x) ++ [.member "getAttribute", .mark "(", .string name, .mark ")"]
  | member x name => enclosed x (pieces x) ++ [.member name]
  | index x i => enclosed x (pieces x) ++ .mark "[" :: (pieces i ++ [.mark "]"])
  | call x method args =>
    enclosed x (pieces x) ++ .member method :: .mark "(" :: (piecesAll args ++ [.mark ")"])
  | unary op x => .sign op (apart op (source x)) :: pieces x
  | binary op l r => pieces l ++ .joint op.spelling :: pieces r
  | cond c t e => pieces c ++ .joint "?" :: (pieces t ++ .joint ":" :: pieces e)
  | paren x => .mark "(" :: (pieces x ++ [.mark ")"])
  | placeholder => [.word "__value__"]

/-- The pieces of arguments. -/
def piecesAll : List Expr → List Piece
  | [] => []
  | [x] => pieces x
  | x :: xs => pieces x ++ .mark ", " :: piecesAll xs

end

theorem piecesAll_cons {x : Expr} {xs : List Expr} (more : xs ≠ []) :
    piecesAll (x :: xs) = x.pieces ++ .mark ", " :: piecesAll xs := by
  cases xs with
  | nil => exact absurd rfl more
  | cons y ys => rfl

/-- The expression that a word is. -/
def ofWord (text : String) : Expr :=
  if text = "event" then .event
  else if text = "element" then .element
  else if text = "true" then .lit "true" (.bool true)
  else if text = "false" then .lit "false" (.bool false)
  else if text = "null" then .lit "null" .null
  else if text = "undefined" then .lit "undefined" .undefined
  else .var text

theorem ofWord_cases (text : String) :
    (ofWord text).source = text ∧ (ofWord text).pieces = [.word text] ∧
      (ofWord text).needsParens = false := by
  unfold ofWord
  repeat' split
  all_goals subst_vars
  all_goals exact ⟨rfl, rfl, rfl⟩

/-! ## Expressions of programs -/

/-- The expressions that can stand in a program compiled for a context. -/
inductive Printable (context : Int) : Expr → Prop
  | number {text : String} {v : Float} : (Piece.number text).Valid →
      Number.read text.toList = .ok v → Printable context (.lit text (.number v))
  | string (s : String) : Printable context (.lit (Literal.quote s) (.string s))
  | word {text : String} : (Piece.word text).Valid → Printable context (ofWord text)
  | target : Printable context .target
  | get {scope : Scope} (path : String) : scope.resolve context = scope.id →
      Printable context (.get scope path)
  | member {x : Expr} {name : String} : Printable context x → (Piece.member name).Valid →
      Printable context (.member x name)
  | index {x i : Expr} : Printable context x → Printable context i →
      Printable context (.index x i)
  | call {x : Expr} {method : String} {args : List Expr} : Printable context x →
      (Piece.member method).Valid → (∀ a ∈ args, Printable context a) →
      Printable context (.call x method args)
  | unary {op : UnaryOp} {x : Expr} : (Piece.sign op false).Valid → Printable context x →
      Printable context (.unary op x)
  | binary {op : BinaryOp} {l r : Expr} : (Piece.joint op.spelling).Valid → Printable context l →
      Printable context r → Printable context (.binary op l r)
  | cond {c t e : Expr} : Printable context c → Printable context t → Printable context e →
      Printable context (.cond c t e)
  | paren {x : Expr} : Printable context x → Printable context (.paren x)

variable {context : Int} {x : Expr}

theorem toList_wrapped {text : String} {ps : List Piece} (same : text.toList = render ps) :
    (wrapped x text).toList = render (enclosed x ps) := by
  unfold wrapped enclosed
  split
  · simp [same, Piece.text]
  · exact same

theorem toList_signed {op : UnaryOp} {text : String} :
    (signed op text).toList = (Piece.sign op (apart op text)).text ++ text.toList := by
  unfold signed apart
  split
  · rename_i needed
    simp [needed, Piece.text]
  · rename_i needless
    simp [needless, Piece.text]

theorem toList_sources {args : List Expr}
    (each : ∀ a ∈ args, a.source.toList = render a.pieces) :
    (Text.joinStrings ", " (sources args)).toList = render (piecesAll args) := by
  unfold Text.joinStrings
  induction args with
  | nil => rfl
  | cons x xs ih =>
    have first := each x List.mem_cons_self
    have rest := ih fun a mem => each a (List.mem_cons_of_mem x mem)
    cases xs with
    | nil => simpa [sources, piecesAll] using first
    | cons y ys =>
      show (String.intercalate ", " (x.source :: y.source :: sources ys)).toList = _
      rw [piecesAll_cons (List.cons_ne_nil y ys), String.intercalate_cons_cons,
        String.toList_append, String.toList_append, first, render_append, render_cons,
        List.append_assoc]
      exact congrArg (fun cs => render x.pieces ++ (", ".toList ++ cs)) rest

/-- The source of an expression is what its pieces are written as. -/
theorem Printable.toList_source (h : Printable context x) : x.source.toList = render x.pieces := by
  induction h with
  | number valid read => exact (List.append_nil _).symm
  | string s =>
    show (String.ofList (Literal.quoteChars s.toList)).toList = Literal.quoteChars s.toList ++ []
    rw [String.toList_ofList, List.append_nil]
  | @word text valid =>
    obtain ⟨sameSource, samePieces, -⟩ := ofWord_cases text
    rw [sameSource, samePieces]
    exact (List.append_nil _).symm
  | target => decide
  | @get scope path known =>
    show ("await getProperty(" ++ toString scope.id ++ ", " ++ Literal.quote path ++ ")").toList =
      (Piece.access false scope.id path).text ++ []
    simp [Piece.text, Piece.accessStart, Piece.accessEnd, Literal.quote]
  | @member x name _ valid ih =>
    show (wrapped x x.source ++ "." ++ name).toList = render (enclosed x x.pieces ++ [Piece.member name])
    simp [toList_wrapped ih, Piece.text]
  | @index x i _ _ ihx ihi =>
    show (wrapped x x.source ++ "[" ++ i.source ++ "]").toList =
      render (enclosed x x.pieces ++ Piece.mark "[" :: (i.pieces ++ [Piece.mark "]"]))
    simp [toList_wrapped ihx, ihi, Piece.text]
  | @call x method args _ valid _ ihx ihargs =>
    show (wrapped x x.source ++ "." ++ method ++ "(" ++ Text.joinStrings ", " (sources args) ++
        ")").toList =
      render (enclosed x x.pieces ++
        Piece.member method :: Piece.mark "(" :: (piecesAll args ++ [Piece.mark ")"]))
    simp [toList_wrapped ihx, toList_sources ihargs, Piece.text]
  | @unary op x valid _ ih =>
    show (signed op x.source).toList = render (.sign op (apart op x.source) :: x.pieces)
    rw [toList_signed, ih, render_cons]
  | @binary op l r valid _ _ ihl ihr =>
    show (l.source ++ " " ++ op.spelling ++ " " ++ r.source).toList =
      render (l.pieces ++ Piece.joint op.spelling :: r.pieces)
    simp [ihl, ihr, Piece.text]
  | @cond c t e _ _ _ ihc iht ihe =>
    show (c.source ++ " ? " ++ t.source ++ " : " ++ e.source).toList =
      render (c.pieces ++ Piece.joint "?" :: (t.pieces ++ Piece.joint ":" :: e.pieces))
    simp [ihc, iht, ihe, Piece.text]
  | @paren x _ ih =>
    show ("(" ++ x.source ++ ")").toList = render (Piece.mark "(" :: (x.pieces ++ [Piece.mark ")"]))
    simp [ih, Piece.text]

/-! ## Legibility -/

/-- What may stand after an expression. Only one that needs no parentheses can go on. -/
def closers (x : Expr) : String :=
  if x.needsParens then " )]," else " )],.["

/-- A text that goes on with one of some characters, or not at all. -/
def Ends (signs : String) (cs : List Char) : Prop :=
  ∀ c ∈ cs.head?, Text.oneOf signs c = true

theorem ends_cons {signs : String} {c : Char} (rest : List Char)
    (listed : Text.oneOf signs c = true) : Ends signs (c :: rest) := by
  rintro d ⟨⟩
  exact listed

theorem Ends.stops {signs : String} {cs : List Char} {p : Char → Bool} (h : Ends signs cs)
    (outside : signs.toList.all (fun c => !p c) = true) : Token.Stops p cs := by
  intro c mem
  have listed : c ∈ signs.toList := by simpa [Text.oneOf] using h c mem
  simpa using List.all_eq_true.1 outside c listed

/-- What closes or separates may stand after any expression. -/
theorem Ends.after (x : Expr) {cs : List Char} (h : Ends " )]," cs) : Ends x.closers cs := by
  unfold closers
  split
  · exact h
  · intro c mem
    have listed := h c mem
    simp only [Text.oneOf, List.contains_eq_mem, decide_eq_true_eq] at listed ⊢
    exact List.mem_append_left ['.', '['] listed

theorem ends_mark {text : String} (rest : List Piece) (closes : text ∈ [")", "]", ", "]) :
    Ends " )]," (render (.mark text :: rest)) := by
  simp only [List.mem_cons, List.not_mem_nil, or_false] at closes
  obtain rfl | rfl | rfl := closes <;> exact ends_cons _ rfl

theorem ends_joint (text : String) (rest : List Piece) :
    Ends " )]," (render (.joint text :: rest)) :=
  ends_cons _ rfl

theorem legible_mark {text : String} {rest : List Piece}
    (valid : text ∈ ["(", ")", "[", "]", ", "]) (h : Legible rest) : Legible (.mark text :: rest) :=
  ⟨valid, trivial, h⟩

theorem legible_joint {text : String} {rest : List Piece} (valid : (Piece.joint text).Valid)
    (h : Legible rest) : Legible (.joint text :: rest) :=
  ⟨valid, trivial, h⟩

/-- The pieces of an expression are legible before anything that may stand after it. -/
def LegibleBefore (x : Expr) : Prop :=
  ∀ rest : List Piece, Legible rest → Ends x.closers (render rest) → Legible (x.pieces ++ rest)

theorem LegibleBefore.enclosed (h : LegibleBefore x) {rest : List Piece} (legible : Legible rest)
    (ends : Ends " )],.[" (render rest)) : Legible (enclosed x x.pieces ++ rest) := by
  have closed : x.closers = if x.needsParens then " )]," else " )],.[" := rfl
  unfold Expr.enclosed
  split
  · rw [List.cons_append, List.append_assoc]
    exact legible_mark (by decide)
      (h _ (legible_mark (by decide) legible) ((ends_mark _ (by decide)).after x))
  · rename_i needless
    rw [if_neg needless] at closed
    exact h _ legible (closed ▸ ends)

theorem legible_piecesAll {args : List Expr} (each : ∀ a ∈ args, LegibleBefore a)
    {rest : List Piece} (legible : Legible (.mark ")" :: rest)) :
    Legible (piecesAll args ++ Piece.mark ")" :: rest) := by
  induction args with
  | nil => exact legible
  | cons x xs ih =>
    have first := each x List.mem_cons_self
    have rest := ih fun a mem => each a (List.mem_cons_of_mem x mem)
    cases xs with
    | nil => exact first _ legible ((ends_mark _ (by decide)).after x)
    | cons y ys =>
      rw [piecesAll_cons (List.cons_ne_nil y ys), List.append_assoc]
      exact first _ (legible_mark (by decide) rest) ((ends_mark _ (by decide)).after x)

/-- No expression begins with a blank. -/
theorem Printable.leads (h : Printable context x) :
    ∃ p ps, x.pieces = p :: ps ∧ p.kind ≠ .joint := by
  have enclosed {x : Expr} (h : ∃ p ps, x.pieces = p :: ps ∧ p.kind ≠ .joint) (rest : List Piece) :
      ∃ p ps, enclosed x x.pieces ++ rest = p :: ps ∧ p.kind ≠ .joint := by
    unfold Expr.enclosed
    split
    · exact ⟨_, _, rfl, nofun⟩
    · obtain ⟨p, ps, shape, notJoint⟩ := h
      exact ⟨p, ps ++ rest, by rw [shape]; rfl, notJoint⟩
  induction h with
  | number => exact ⟨_, _, rfl, nofun⟩
  | string => exact ⟨_, _, rfl, nofun⟩
  | @word text valid => exact ⟨_, _, (ofWord_cases text).2.1, nofun⟩
  | target => exact ⟨_, _, rfl, nofun⟩
  | get => exact ⟨_, _, rfl, nofun⟩
  | member _ _ ih => exact enclosed ih _
  | index _ _ ih _ => exact enclosed ih _
  | call _ _ _ ih _ => exact enclosed ih _
  | unary => exact ⟨_, _, rfl, nofun⟩
  | binary _ _ _ ih _ =>
    obtain ⟨p, ps, shape, notJoint⟩ := ih
    exact ⟨p, _, congrArg (· ++ _) shape, notJoint⟩
  | cond _ _ _ ih _ _ =>
    obtain ⟨p, ps, shape, notJoint⟩ := ih
    exact ⟨p, _, congrArg (· ++ _) shape, notJoint⟩
  | paren => exact ⟨_, _, rfl, nofun⟩

/-- Pieces that do not begin with a sign between two parts do not begin with a blank. -/
theorem stops_blank {p : Piece} {ps : List Piece} (h : Legible (p :: ps))
    (notJoint : p.kind ≠ .joint) : Token.Stops (fun c => c = ' ') (render (p :: ps)) := by
  intro c mem
  refine decide_eq_false fun isBlank => notJoint ?_
  subst isBlank
  obtain ⟨cs, shape⟩ := List.head?_eq_some_iff.1 mem
  rw [← Piece.kindAt_text h.1 h.2.1, ← render_cons, shape]
  rfl

theorem legible_target {rest : List Piece} (legible : Legible rest) :
    Legible (target.pieces ++ rest) := by
  have event : (Piece.word "event").Valid := by decide
  have method : (Piece.member "composedPath").Valid := by decide
  have first : (Piece.number "0").Valid := by decide
  have afterFirst : Legible (.number "0" :: .mark "]" :: rest) :=
    ⟨first, (ends_mark _ (by decide)).stops (by decide), legible_mark (by decide) legible⟩
  exact ⟨event, Token.stops_cons _ rfl, method, Token.stops_cons _ rfl, legible_mark (by decide)
    (legible_mark (by decide) (legible_mark (by decide) afterFirst))⟩

theorem Printable.legible (h : Printable context x) : x.LegibleBefore := by
  induction h with
  | number valid read =>
    intro rest legible ends
    have closed : Ends " )]," (render rest) := ends
    exact ⟨valid, closed.stops (by decide), legible⟩
  | string s => exact fun rest legible ends => ⟨trivial, trivial, legible⟩
  | @word text valid =>
    obtain ⟨-, samePieces, needless⟩ := ofWord_cases text
    intro rest legible ends
    rw [closers, needless] at ends
    rw [samePieces]
    exact ⟨valid, ends.stops (by decide), legible⟩
  | target => exact fun rest legible ends => legible_target legible
  | get path known => exact fun rest legible ends => ⟨trivial, trivial, legible⟩
  | @member x name _ valid ih =>
    intro rest legible ends
    have goesOn : Ends " )],.[" (render rest) := ends
    show Legible (enclosed x x.pieces ++ [Piece.member name] ++ rest)
    rw [List.append_assoc]
    exact ih.enclosed ⟨valid, goesOn.stops (by decide), legible⟩ (ends_cons _ rfl)
  | @index x i _ _ ihx ihi =>
    intro rest legible ends
    show Legible (enclosed x x.pieces ++ Piece.mark "[" :: (i.pieces ++ [Piece.mark "]"]) ++ rest)
    rw [List.append_assoc, List.cons_append, List.append_assoc]
    refine ihx.enclosed (legible_mark (by decide) ?_) (ends_cons _ rfl)
    exact ihi _ (legible_mark (by decide) legible) ((ends_mark _ (by decide)).after i)
  | @call x method args _ valid _ ihx ihargs =>
    intro rest legible ends
    show Legible (enclosed x x.pieces ++
      Piece.member method :: Piece.mark "(" :: (piecesAll args ++ [Piece.mark ")"]) ++ rest)
    rw [List.append_assoc, List.cons_append, List.cons_append, List.append_assoc]
    refine ihx.enclosed ⟨valid, Token.stops_cons _ rfl, legible_mark (by decide) ?_⟩
      (ends_cons _ rfl)
    exact legible_piecesAll ihargs (legible_mark (by decide) legible)
  | @unary op x valid h ih =>
    intro rest legible ends
    have inside := ih rest legible (Ends.after x ends)
    obtain ⟨p, ps, shape, notJoint⟩ := h.leads
    show Legible (.sign op (apart op x.source) :: (x.pieces ++ rest))
    refine ⟨valid, ?_, inside⟩
    cases apart op x.source with
    | true => trivial
    | false =>
      rw [shape] at inside ⊢
      exact stops_blank inside notJoint
  | @binary op l r valid _ _ ihl ihr =>
    intro rest legible ends
    show Legible (l.pieces ++ Piece.joint op.spelling :: r.pieces ++ rest)
    rw [List.append_assoc]
    exact ihl _ (legible_joint valid (ihr rest legible (Ends.after r ends)))
      ((ends_joint _ _).after l)
  | @cond c t e _ _ _ ihc iht ihe =>
    intro rest legible ends
    show Legible (c.pieces ++ Piece.joint "?" :: (t.pieces ++ Piece.joint ":" :: e.pieces) ++ rest)
    rw [List.append_assoc, List.cons_append, List.append_assoc]
    refine ihc _ (legible_joint (by decide) (iht _ (legible_joint (by decide) ?_) ?_))
      ((ends_joint _ _).after c)
    · exact ihe rest legible (Ends.after e ends)
    · exact (ends_joint _ _).after t
  | @paren x _ ih =>
    intro rest legible ends
    show Legible (Piece.mark "(" :: (x.pieces ++ [Piece.mark ")"]) ++ rest)
    rw [List.cons_append, List.append_assoc]
    exact legible_mark (by decide)
      (ih _ (legible_mark (by decide) legible) ((ends_mark _ (by decide)).after x))

end Expr

end PageBinding
