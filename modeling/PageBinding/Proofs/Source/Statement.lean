import Mathlib.Data.List.Induction
import PageBinding.Proofs.Source.Reread
import PageBinding.Run.Exec

/-!
The pieces of statements: the forms that the statements of compiled programs have, their sources as
pieces, and what the pieces say about them.
-/
namespace PageBinding

/-! ## Names -/

/-- A name that ends in a number is none of the words without digits. -/
theorem numbered_ne {stem word : String} (n : Nat)
    (plain : word.toList.all (fun c => !c.isDigit) = true) : stem ++ toString n ≠ word := by
  rintro rfl
  obtain ⟨c, mem⟩ : ∃ c, c ∈ (toString n).toList := by
    rw [Nat.toString_eq_ofList_toDigits, String.toList_ofList]
    exact List.exists_mem_of_ne_nil _ Nat.toDigits_ne_nil
  have digit := List.all_eq_true.1 (toString_isDigit n) c mem
  have notDigit := List.all_eq_true.1 plain c (by
    rw [String.toList_append]
    exact List.mem_append_right _ mem)
  rw [digit] at notDigit
  cases notDigit

/-- Names that begin with different letters differ. -/
theorem numbered_ne_of_head {stem stem' : String} {c d : Char} {cs ds : List Char} (n m : Nat)
    (begins : stem.toList = c :: cs) (begins' : stem'.toList = d :: ds) (apart : c ≠ d) :
    stem ++ toString n ≠ stem' ++ toString m := by
  intro same
  have heads := congrArg String.toList same
  rw [String.toList_append, String.toList_append, begins, begins'] at heads
  exact apart (List.cons.inj heads).1

/-- The words that the names of setup statements begin with. -/
def stems : List String := ["el", "attr", "prop"]

theorem valid_numbered {stem : String} (n : Nat) (isStem : stem ∈ stems) :
    (Piece.word (stem ++ toString n)).Valid := by
  have letters : stem.toList.all Char.isAlphanum = true ∧
      ∀ rest, Piece.startsWord (stem.toList ++ rest) = true := by
    simp only [stems, List.mem_cons, List.not_mem_nil, or_false] at isStem
    obtain rfl | rfl | rfl := isStem <;> exact ⟨by decide, fun rest => rfl⟩
  refine ⟨?_, ?_, numbered_ne n (by decide), numbered_ne n (by decide)⟩
  · rw [String.toList_append, List.all_append, letters.1, Bool.true_and, List.all_eq_true]
    intro c mem
    rw [Char.isAlphanum, List.all_eq_true.1 (toString_isDigit n) c mem, Bool.or_true]
  · rw [String.toList_append]
    exact letters.2 _

namespace Expr

theorem ofWord_numbered (stem : String) (n : Nat) :
    ofWord (stem ++ toString n) = .var (stem ++ toString n) := by
  unfold ofWord
  rw [if_neg (numbered_ne n (by decide)), if_neg (numbered_ne n (by decide)),
    if_neg (numbered_ne n (by decide)), if_neg (numbered_ne n (by decide)),
    if_neg (numbered_ne n (by decide)), if_neg (numbered_ne n (by decide))]

/-! ## Members of members -/

/-- A member of what a word is, a member of that, and so on. -/
def chain (owner : String) (keys : List String) : Expr :=
  keys.foldl Expr.member (ofWord owner)

variable {context : Int} {owner : String} {keys : List String}

theorem chain_concat (owner : String) (keys : List String) (key : String) :
    chain owner (keys ++ [key]) = .member (chain owner keys) key := by
  unfold chain
  rw [List.foldl_append]
  rfl

theorem needsParens_chain (owner : String) (keys : List String) :
    (chain owner keys).needsParens = false := by
  cases keys using List.reverseRecOn with
  | nil => exact (ofWord_cases owner).2.2
  | append_singleton keys key =>
    rw [chain_concat]
    rfl

theorem pieces_chain (owner : String) (keys : List String) :
    (chain owner keys).pieces = .word owner :: keys.map .member := by
  induction keys using List.reverseRecOn with
  | nil => exact (ofWord_cases owner).2.1
  | append_singleton keys key ih =>
    rw [chain_concat, List.map_append]
    show enclosed (chain owner keys) (chain owner keys).pieces ++ [Piece.member key] = _
    rw [enclosed, needsParens_chain, ih]
    rfl

theorem printable_chain (valid : (Piece.word owner).Valid)
    (names : ∀ key ∈ keys, (Piece.member key).Valid) : Printable context (chain owner keys) := by
  induction keys using List.reverseRecOn with
  | nil => exact .word valid
  | append_singleton keys key ih =>
    rw [chain_concat]
    exact .member (ih fun k mem => names k (by simp [mem])) (names key (by simp))

end Expr

/-! ## Pieces -/

namespace Stmt

/-- The pieces of a statement. -/
def pieces : Stmt → List Piece
  | lookup name selector whole =>
    [.naming, .word name, .joint "=", .word (if whole then "document" else "element"),
      .member "querySelector", .mark "(", .string selector.toText, .mark ")"]
  | declare name value => .naming :: .word name :: .joint "=" :: value.pieces
  | setProperty scope path value => .access true scope.id path :: (value.pieces ++ [.mark ")"])
  | setAttr x name value =>
    x.enclosed x.pieces ++ .member "setAttribute" :: .mark "(" :: .string name :: .mark ", " ::
      (value.pieces ++ [.mark ")"])
  | setMember x name value => x.enclosed x.pieces ++ .member name :: .joint "=" :: value.pieces

/-- The statements that compiled programs begin with. -/
inductive IsSetup : Stmt → Prop
  | lookup (n : Nat) (selector : String) (whole : Bool) :
      IsSetup (.lookup ("el" ++ toString n) selector whole)
  | attr {owner : String} (n : Nat) (name : String) : (Piece.word owner).Valid →
      IsSetup (.declare ("attr" ++ toString n) (.attr (Expr.ofWord owner) name))
  | prop {owner : String} {keys : List String} (n : Nat) : (Piece.word owner).Valid →
      (∀ key ∈ keys, (Piece.member key).Valid) →
      IsSetup (.declare ("prop" ++ toString n) (Expr.chain owner keys))

/-- The statements that programs compiled for a context end with. -/
inductive IsAssignment (context : Int) : Stmt → Prop
  | property {scope : Scope} {value : Expr} (path : String) : scope.resolve context = scope.id →
      value.Readable context → IsAssignment context (.setProperty scope path value)
  | attr {owner : String} {value : Expr} (name : String) : (Piece.word owner).Valid →
      value.Readable context → IsAssignment context (.setAttr (Expr.ofWord owner) name value)
  | member {owner name : String} {keys : List String} {value : Expr} : (Piece.word owner).Valid →
      (∀ key ∈ keys ++ [name], (Piece.member key).Valid) → value.Readable context →
      IsAssignment context (.setMember (Expr.chain owner keys) name value)

/-- A statement whose source is what its pieces are written as, and whose pieces are legible. -/
structure Written (st : Stmt) : Prop where
  source : st.source.toList = render st.pieces
  legible : Legible st.pieces

section
variable {context : Int} {owner : String}

/-- The beginning of a setup statement is legible before what is legible. -/
theorem legible_named {name : String} {rest : List Piece} (valid : (Piece.word name).Valid)
    (legible : Legible rest) : Legible (.naming :: .word name :: .joint "=" :: rest) :=
  ⟨trivial, trivial, valid, Token.stops_cons _ rfl, Expr.legible_joint (by decide) legible⟩

/-- A call with a text as its first argument is legible before what is legible. -/
theorem legible_method {method : String} {rest : List Piece} (valid : (Piece.word owner).Valid)
    (valid' : (Piece.member method).Valid) (text : String) (legible : Legible rest) :
    Legible (.word owner :: .member method :: .mark "(" :: .string text :: rest) :=
  ⟨valid, Token.stops_cons _ rfl, valid', Token.stops_cons _ rfl,
    Expr.legible_mark (by decide) ⟨trivial, trivial, legible⟩⟩

theorem legible_closed : Legible [.mark ")"] :=
  Expr.legible_mark (by decide) trivial

/-- A value is legible before the parenthesis that closes a call. -/
theorem legible_argument {value : Expr} (h : value.Readable context) :
    Legible (value.pieces ++ [Piece.mark ")"]) :=
  h.printable.legible _ legible_closed ((Expr.ends_mark _ (by decide)).after value)

/-- A value at the end of a statement is legible. -/
theorem legible_last {value : Expr} (h : Expr.Printable context value) : Legible value.pieces := by
  have whole := h.legible [] trivial nofun
  rwa [List.append_nil] at whole

theorem pieces_setAttr (owner name : String) (value : Expr) :
    (setAttr (Expr.ofWord owner) name value).pieces =
      .word owner :: .member "setAttribute" :: .mark "(" :: .string name :: .mark ", " ::
        (value.pieces ++ [Piece.mark ")"]) := by
  obtain ⟨-, samePieces, needless⟩ := Expr.ofWord_cases owner
  rw [pieces, Expr.enclosed, needless, samePieces]
  rfl

theorem pieces_setMember (owner name : String) (keys : List String) (value : Expr) :
    (setMember (Expr.chain owner keys) name value).pieces =
      Piece.word owner :: ((keys ++ [name]).map Piece.member ++ Piece.joint "=" :: value.pieces) := by
  rw [pieces, Expr.enclosed, Expr.needsParens_chain, Expr.pieces_chain, List.map_append,
    List.append_assoc]
  rfl

theorem pieces_attr (owner name : String) :
    (Expr.attr (Expr.ofWord owner) name).pieces =
      [.word owner, .member "getAttribute", .mark "(", .string name, .mark ")"] := by
  obtain ⟨-, samePieces, needless⟩ := Expr.ofWord_cases owner
  rw [Expr.pieces, Expr.enclosed, needless, samePieces]
  rfl

theorem toList_attr {x : Expr} (h : Expr.Printable context x) (name : String) :
    (Expr.attr x name).source.toList = render (Expr.attr x name).pieces := by
  show (Expr.wrapped x x.source ++ ".getAttribute(" ++ Literal.quote name ++ ")").toList =
    render (x.enclosed x.pieces ++
      [Piece.member "getAttribute", Piece.mark "(", Piece.string name, Piece.mark ")"])
  simp [Piece.text, Literal.quote, Expr.toList_wrapped h.toList_source]

theorem toList_declare {value : Expr} (name : String)
    (same : value.source.toList = render value.pieces) :
    (declare name value).source.toList = render (declare name value).pieces := by
  show ("const " ++ name ++ " = " ++ value.source).toList =
    render (.naming :: .word name :: .joint "=" :: value.pieces)
  simp [Piece.text, same]

theorem IsSetup.written {st : Stmt} (h : IsSetup st) : st.Written := by
  cases h with
  | lookup n selector whole =>
    constructor
    · show ("const " ++ ("el" ++ toString n) ++ " = " ++ (if whole then "document" else "element")
        ++ ".querySelector(" ++ Literal.quote selector ++ ")").toList = _
      simp [pieces, Piece.text, Literal.quote, RawText.toText]
    · have owner : (Piece.word (if whole then "document" else "element")).Valid := by
        cases whole <;> decide
      exact legible_named (valid_numbered n (by decide))
        (legible_method owner (by decide) selector legible_closed)
  | @attr owner n name valid =>
    have owned : Expr.Printable 0 (Expr.ofWord owner) := .word valid
    constructor
    · exact toList_declare _ (toList_attr owned name)
    · show Legible (.naming :: .word _ :: .joint "=" :: (Expr.attr (Expr.ofWord owner) name).pieces)
      rw [pieces_attr]
      exact legible_named (valid_numbered n (by decide))
        (legible_method valid (by decide) name legible_closed)
  | @prop owner keys n valid names =>
    have printable : Expr.Printable 0 (Expr.chain owner keys) := Expr.printable_chain valid names
    constructor
    · exact toList_declare _ printable.toList_source
    · exact legible_named (valid_numbered n (by decide)) (legible_last printable)

theorem IsAssignment.written {st : Stmt} (h : IsAssignment context st) : st.Written := by
  cases h with
  | @property scope value path known readable =>
    constructor
    · show ("await setProperty(" ++ toString scope.id ++ ", " ++ Literal.quote path ++ ", " ++
        value.source ++ ")").toList =
        render (Piece.access true scope.id path :: (value.pieces ++ [Piece.mark ")"]))
      simp [Piece.text, Piece.accessStart, Piece.accessEnd, Literal.quote,
        readable.printable.toList_source]
    · exact ⟨trivial, trivial, legible_argument readable⟩
  | @attr owner value name valid readable =>
    have owned : Expr.Printable context (Expr.ofWord owner) := .word valid
    constructor
    · show (Expr.wrapped (Expr.ofWord owner) (Expr.ofWord owner).source ++ ".setAttribute(" ++
        Literal.quote name ++ ", " ++ value.source ++ ")").toList =
        render ((Expr.ofWord owner).enclosed (Expr.ofWord owner).pieces ++
          Piece.member "setAttribute" :: Piece.mark "(" :: Piece.string name :: Piece.mark ", " ::
            (value.pieces ++ [Piece.mark ")"]))
      simp [Piece.text, Literal.quote, Expr.toList_wrapped owned.toList_source,
        readable.printable.toList_source]
    · rw [pieces_setAttr]
      exact legible_method valid (by decide) name
        (Expr.legible_mark (by decide) (legible_argument readable))
  | @member owner name keys value valid names readable =>
    have owned : Expr.Printable context (Expr.chain owner keys) :=
      Expr.printable_chain valid fun key mem => names key (List.mem_append_left _ mem)
    have named : (Piece.member name).Valid := names name (by simp)
    constructor
    · show (Expr.wrapped (Expr.chain owner keys) (Expr.chain owner keys).source ++ "." ++ name ++
        " = " ++ value.source).toList =
        render ((Expr.chain owner keys).enclosed (Expr.chain owner keys).pieces ++
          Piece.member name :: Piece.joint "=" :: value.pieces)
      simp [Piece.text, Expr.toList_wrapped owned.toList_source,
        readable.printable.toList_source]
    · have after : Legible (.joint "=" :: value.pieces) :=
        Expr.legible_joint (by decide) (legible_last readable.printable)
      exact owned.legible.enclosed ⟨named, Token.stops_cons _ rfl, after⟩ (Expr.ends_cons _ rfl)

end

/-! ## Statements from pieces -/

theorem named_cancel {name name' text text' : String} {rest rest' : List Piece}
    (same : .naming :: .word name :: .joint text :: rest =
      .naming :: .word name' :: .joint text' :: rest') : name = name' ∧ rest = rest' := by
  simp only [List.cons.injEq, Piece.word.injEq, true_and] at same
  exact ⟨same.1, same.2.2⟩

theorem members_cancel {keys keys' : List String} {rest rest' : List Piece} {text text' : String}
    (same : keys.map Piece.member ++ Piece.joint text :: rest =
      keys'.map Piece.member ++ Piece.joint text' :: rest') :
    keys = keys' ∧ rest = rest' := by
  induction keys generalizing keys' with
  | nil =>
    cases keys' with
    | nil => exact ⟨rfl, (List.cons.inj same).2⟩
    | cons key' keys' => cases (List.cons.inj same).1
  | cons key keys ih =>
    cases keys' with
    | nil => cases (List.cons.inj same).1
    | cons key' keys' =>
      obtain ⟨sameKey, same⟩ := List.cons.inj same
      obtain ⟨rfl, after⟩ := ih same
      cases sameKey
      exact ⟨rfl, after⟩

/-- Members before a sign are no call. -/
theorem members_ne_call {keys : List String} {rest rest' : List Piece} {text method mark : String} :
    Piece.member method :: Piece.mark mark :: rest' ≠ keys.map Piece.member ++ Piece.joint text :: rest := by
  intro same
  cases keys with
  | nil => cases (List.cons.inj same).1
  | cons key keys =>
    have after := (List.cons.inj same).2
    cases keys with
    | nil => cases (List.cons.inj after).1
    | cons key' keys => cases (List.cons.inj after).1

/-- Setup statements can be told from their pieces. -/
theorem IsSetup.eq_of_pieces {st st' : Stmt} (h : IsSetup st) (h' : IsSetup st')
    (same : st.pieces = st'.pieces) : st = st' := by
  have elAttr (n m : Nat) : "el" ++ toString n ≠ "attr" ++ toString m :=
    numbered_ne_of_head n m rfl rfl (by decide)
  have elProp (n m : Nat) : "el" ++ toString n ≠ "prop" ++ toString m :=
    numbered_ne_of_head n m rfl rfl (by decide)
  have attrProp (n m : Nat) : "attr" ++ toString n ≠ "prop" ++ toString m :=
    numbered_ne_of_head n m rfl rfl (by decide)
  cases h with
  | lookup n selector whole =>
    cases h' with
    | lookup m selector' whole' =>
      obtain ⟨sameName, same⟩ := named_cancel same
      simp only [List.cons.injEq, Piece.word.injEq, Piece.string.injEq, RawText.toText, true_and,
        and_true] at same
      obtain ⟨sameOwner, rfl⟩ := same
      have sameWhole : whole = whole' := by
        revert sameOwner
        cases whole <;> cases whole' <;> decide
      rw [sameName, sameWhole]
    | attr m name valid => exact absurd (named_cancel same).1 (elAttr n m)
    | prop m valid names => exact absurd (named_cancel same).1 (elProp n m)
  | @attr owner n name valid =>
    cases h' with
    | lookup m selector whole => exact absurd (named_cancel same).1.symm (elAttr m n)
    | @attr owner' m name' valid' =>
      obtain ⟨sameName, same⟩ := named_cancel same
      simp only [pieces_attr, List.cons.injEq, Piece.word.injEq, Piece.string.injEq, true_and,
        and_true] at same
      obtain ⟨rfl, rfl⟩ := same
      rw [sameName]
    | prop m valid names => exact absurd (named_cancel same).1 (attrProp n m)
  | @prop owner keys n valid names =>
    cases h' with
    | lookup m selector whole => exact absurd (named_cancel same).1.symm (elProp m n)
    | attr m name valid => exact absurd (named_cancel same).1.symm (attrProp m n)
    | @prop owner' keys' m valid' names' =>
      obtain ⟨sameName, same⟩ := named_cancel same
      simp only [Expr.pieces_chain, List.cons.injEq, Piece.word.injEq] at same
      obtain ⟨rfl, sameKeys⟩ := same
      have keysEq := (List.map_inj_right fun _ _ same => Piece.member.inj same).1 sameKeys
      rw [sameName, keysEq]

section
variable {f : Frame} {st st' : Stmt}

theorem eval_of_pieces {x y : Expr} (h : x.Readable f.bound) (h' : y.Readable f.bound)
    (same : x.pieces = y.pieces) : Run.eval f x = Run.eval f y := by
  funext s
  unfold Run.eval
  rw [h.eval_eq h' same]

theorem setData_of_id {scope scope' : Scope} (h : scope.resolve f.bound = scope.id)
    (h' : scope'.resolve f.bound = scope'.id) (same : scope.id = scope'.id) :
    Run.setData f scope = Run.setData f scope' := by
  funext path v s
  unfold Run.setData
  rw [h, h', same]

/-- What an assignment does can be told from its pieces. -/
theorem IsAssignment.exec_of_pieces (h : IsAssignment f.bound st) (h' : IsAssignment f.bound st')
    (same : st.pieces = st'.pieces) : st.exec f = st'.exec f := by
  cases h with
  | @property scope value path known readable =>
    cases h' with
    | @property scope' value' path' known' readable' =>
      simp only [pieces, List.cons.injEq, Piece.access.injEq, true_and] at same
      -- one scope may be fixed and the other bound, but both mean the context that is written
      obtain ⟨⟨sameId, rfl⟩, sameValue⟩ := same
      rw [exec, exec, eval_of_pieces readable readable' (List.append_cancel_right sameValue),
        setData_of_id known known' sameId]
    | attr =>
      rw [pieces_setAttr] at same
      cases same
    | member =>
      rw [pieces_setMember] at same
      cases same
  | @attr owner value name valid readable =>
    rw [pieces_setAttr] at same
    cases h' with
    | property => cases same
    | @attr owner' value' name' valid' readable' =>
      rw [pieces_setAttr] at same
      simp only [List.cons.injEq, Piece.word.injEq, Piece.string.injEq, true_and] at same
      obtain ⟨rfl, rfl, sameValue⟩ := same
      rw [exec, exec, eval_of_pieces readable readable' (List.append_cancel_right sameValue)]
    | member =>
      rw [pieces_setMember] at same
      exact absurd (List.cons.inj same).2 members_ne_call
  | @member owner name keys value valid names readable =>
    rw [pieces_setMember] at same
    cases h' with
    | property => cases same
    | attr =>
      rw [pieces_setAttr] at same
      exact absurd (List.cons.inj same).2.symm members_ne_call
    | @member owner' name' keys' value' valid' names' readable' =>
      rw [pieces_setMember] at same
      simp only [List.cons.injEq, Piece.word.injEq] at same
      obtain ⟨rfl, same⟩ := same
      obtain ⟨samePath, sameValue⟩ := members_cancel same
      obtain ⟨rfl, sameLast⟩ := List.append_inj' samePath rfl
      cases sameLast
      rw [exec, exec, eval_of_pieces readable readable' sameValue]

end

end Stmt

end PageBinding
