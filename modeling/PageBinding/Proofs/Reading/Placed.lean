import PageBinding.Proofs.Reading.Compiles

/-!
A side of a binding is read the same wherever it stands in a text. Only accessors look at the text
itself, through the places of their tokens: moving tokens keeps what they derive as long as the text
between any two of them stays the same.
-/
namespace PageBinding

namespace Token

/-- A token at another place. -/
def placed (place : Nat → Nat) (t : Token) : Token :=
  { t with offset := place t.offset }

variable (place : Nat → Nat)

@[simp]
theorem placed_text (t : Token) : (t.placed place).text = t.text := rfl

end Token

namespace Side

variable (place : Nat → Nat)

theorem calls_placed (name : String) (ts : List Token) :
    calls name (ts.map (Token.placed place)) = calls name ts := by
  fun_induction calls name ts with
  | case1 t u rest ih =>
    rw [List.map_cons, List.map_cons, calls, ← List.map_cons, ih]
    rfl
  | case2 ts other =>
    match ts, other with
    | [], _ => rfl
    | [_], _ => rfl
    | t :: u :: rest, other => exact (other t u rest rfl).elim

theorem ofTokens_placed (ts : List Token) : ofTokens (ts.map (Token.placed place)) = ofTokens ts := by
  unfold ofTokens
  rw [calls_placed, calls_placed, List.any_map]
  rfl

end Side

namespace Binding

variable {text text' : RawText} {fn : String} {place : Nat → Nat} {ts us : List Token}

/-! ## Accessors -/

/-- Moving the tokens `ts` from one text to another keeps what they stand for, and the text between
any two of them. -/
structure Carries (text text' : RawText) (place : Nat → Nat) (ts : List Token) : Prop where
  tokens : ∀ t ∈ ts, (t.placed place).rawIn text' = t.rawIn text
  between : ∀ t ∈ ts, ∀ u ∈ ts,
    text'.slice (place t.offset) (place u.offset + (u.rawIn text).size) =
      text.slice t.offset (u.offset + (u.rawIn text).size)

theorem Carries.mono (h : Carries text text' place ts) (sub : ∀ t ∈ us, t ∈ ts) :
    Carries text text' place us :=
  ⟨fun t mem => h.tokens t (sub t mem), fun t mem u mem' => h.between t (sub t mem) u (sub u mem')⟩

theorem Carries.left (h : Carries text text' place (ts ++ us)) : Carries text text' place ts :=
  h.mono fun _ => List.mem_append_left us

theorem Carries.right (h : Carries text text' place (ts ++ us)) : Carries text text' place us :=
  h.mono fun _ => List.mem_append_right ts

theorem Carries.tail {t : Token} (h : Carries text text' place (t :: ts)) :
    Carries text text' place ts :=
  h.mono fun _ => List.mem_cons_of_mem t

theorem spanned_placed (h : Carries text text' place ts) :
    spanned text' (ts.map (Token.placed place)) = spanned text ts := by
  unfold spanned
  rw [List.head?_map, List.getLast?_map]
  cases first : ts.head? with
  | none => rfl
  | some t =>
    cases last : ts.getLast? with
    | none => rfl
    | some u =>
      have mem := List.mem_of_getLast? last
      show text'.slice (place t.offset) (place u.offset + ((u.placed place).rawIn text').size) = _
      rw [h.tokens u mem]
      exact h.between t (List.mem_of_mem_head? first) u mem

theorem unquoted_placed {t : Token} {s : RawText}
    (same : (t.placed place).rawIn text' = t.rawIn text) (h : unquoted text t = .ok s) :
    unquoted text' (t.placed place) = .ok s := by
  unfold unquoted at h ⊢
  rw [same]
  split at h
  · cases h
    rfl
  · cases h

theorem arguments_placed {start : Token} {depth : Nat} {current toks rest : List Token}
    {args : List (List Token)} (h : arguments fn start depth current toks = .ok (args, rest)) :
    arguments fn (start.placed place) depth (current.map (Token.placed place))
        (toks.map (Token.placed place)) =
      .ok (args.map (List.map (Token.placed place)), rest.map (Token.placed place)) := by
  fun_induction arguments fn start depth current toks generalizing args rest with
  | case1 => cases h
  | case2 depth current t more opens ih =>
    rw [List.map_cons, arguments]
    exact (if_pos opens).trans (ih h)
  | case3 depth current t more opens closes inside ih =>
    rw [List.map_cons, arguments]
    exact (if_neg opens).trans <| (if_pos closes).trans <| (if_pos inside).trans (ih h)
  | case4 => cases h
  | case5 depth current t more opens closes outside bracket =>
    cases h
    rw [List.map_cons, arguments, ← List.map_reverse]
    exact (if_neg opens).trans <| (if_pos closes).trans <| (if_neg outside).trans (if_neg bracket)
  | case6 => cases h
  | case7 depth current t more opens closes comma args' rest' read ih =>
    cases h
    have later := ih read
    rw [List.map_nil] at later
    rw [List.map_cons, arguments, later, ← List.map_reverse]
    exact (if_neg opens).trans <| (if_neg closes).trans (if_pos comma)
  | case8 depth current t more opens closes other ih =>
    rw [List.map_cons, arguments]
    exact (if_neg opens).trans <| (if_neg closes).trans <| (if_neg other).trans (ih h)

/-- Arguments are made of the tokens that are read. -/
theorem arguments_mem {start : Token} {depth : Nat} {current toks rest : List Token}
    {args : List (List Token)} (h : arguments fn start depth current toks = .ok (args, rest)) :
    ∀ arg ∈ args, ∀ t ∈ arg, t ∈ current ∨ t ∈ toks := by
  fun_induction arguments fn start depth current toks generalizing args rest with
  | case1 => cases h
  | case2 depth current t more opens ih =>
    intro arg mem u inside
    have found := ih h arg mem u inside
    grind
  | case3 depth current t more opens closes deep ih =>
    intro arg mem u inside
    have found := ih h arg mem u inside
    grind
  | case4 => cases h
  | case5 depth current t more opens closes outside bracket =>
    cases h
    simp +contextual
  | case6 => cases h
  | case7 depth current t more opens closes comma args' rest' read ih =>
    cases h
    intro arg mem u inside
    rcases List.mem_cons.1 mem with rfl | mem
    · exact .inl (List.mem_reverse.1 inside)
    · have found := ih read arg mem u inside
      grind
  | case8 depth current t more opens closes other ih =>
    intro arg mem u inside
    have found := ih h arg mem u inside
    grind

theorem firstEmpty_placed (number : Nat) (args : List (List Token)) :
    firstEmpty number (args.map (List.map (Token.placed place))) = firstEmpty number args := by
  induction args generalizing number with
  | nil => rfl
  | cons arg args ih => simp [firstEmpty, ih]

theorem locator_placed {arg : List Token} {whole : Bool} {found : Locator}
    (carries : Carries text text' place arg) (h : locator text fn arg whole = .ok found) :
    locator text' fn (arg.map (Token.placed place)) whole = .ok found := by
  unfold locator at h
  split at h
  · rename_i t
    rw [List.map_singleton, locator]
    split at h
    · rename_i isString
      split at h
      · cases h
      · rename_i selector read
        refine (if_pos isString).trans ?_
        rw [unquoted_placed (carries.tokens t List.mem_cons_self) read]
        split at h
        · cases h
        · rename_i some
          exact (if_neg some).trans h
    · rename_i notString
      split at h
      · rename_i isSelf
        exact (if_neg notString).trans <| (if_pos isSelf).trans h
      · cases h
  · cases h

/-- What an argument says: the contents of a string, or else the text of the tokens. -/
def argumentText (text : RawText) (arg : List Token) : Except Fault RawText :=
  match arg with
  | [t] => if t.kind = .string then unquoted text t else .ok (spanned text arg)
  | arg => .ok (spanned text arg)

theorem argumentText_placed {arg : List Token} {name : RawText}
    (carries : Carries text text' place arg) (h : argumentText text arg = .ok name) :
    argumentText text' (arg.map (Token.placed place)) = .ok name := by
  have same := spanned_placed carries
  unfold argumentText at h
  split at h
  · rename_i t
    split at h
    · rename_i isString
      exact (if_pos isString).trans
        (unquoted_placed (carries.tokens t List.mem_cons_self) h)
    · rename_i notString
      refine (if_neg notString).trans ?_
      rw [← h, ← same]
  · rename_i others
    rw [← h, ← same]
    unfold argumentText
    split
    · rename_i u shape
      obtain ⟨t, rfl, -⟩ := List.map_eq_singleton_iff.1 shape
      exact (others t rfl).elim
    · rfl

theorem accessorName_eq (text : RawText) (fn : String) (arg : List Token) :
    accessorName text fn arg = match argumentText text arg with
      | .error e => .error e
      | .ok said =>
        if !(if fn = "prop" then isPropName said.toText else isAttrName said.toText) then
          .error ((arg.headD (.eofAt 0)).fault (.badName fn said))
        else if (Text.splitOn '.' said.toText.toList).contains reserved.toList then
          .error ((arg.headD (.eofAt 0)).fault .reservedName)
        else .ok said.toText := rfl

theorem accessorName_ok {arg : List Token} {name : String} :
    accessorName text fn arg = .ok name ↔
      (∃ said, argumentText text arg = .ok said ∧ said.toText = name) ∧
        (if fn = "prop" then isPropName name else isAttrName name) = true ∧
        (Text.splitOn '.' name.toList).contains reserved.toList = false := by
  rw [accessorName_eq]
  cases argumentText text arg with
  | error e => simp
  | ok said => grind

theorem accessorName_placed {arg : List Token} {name : String}
    (carries : Carries text text' place arg) (h : accessorName text fn arg = .ok name) :
    accessorName text' fn (arg.map (Token.placed place)) = .ok name := by
  obtain ⟨⟨said, isSaid, same⟩, valid, free⟩ := accessorName_ok.1 h
  exact accessorName_ok.2 ⟨⟨said, argumentText_placed carries isSaid, same⟩, valid, free⟩

/-- Whether an accessor with the given arguments searches the whole document. -/
def searchesWhole (text : RawText) (args : List (List Token)) : Bool :=
  match args[2]? with
  | some arg => asksForDocument text arg
  | none => false

theorem accessorOf_eq (text : RawText) (fn : String) (start : Token) (args : List (List Token)) :
    accessorOf text fn start args =
      if args.length < 2 then .error (start.fault (.tooFewArguments fn))
      else if 3 < args.length then .error (start.fault (.tooManyArguments fn))
      else match firstEmpty 1 args with
        | some number => .error (start.fault (.emptyArgument number fn))
        | none => match locator text fn (args[0]?.getD []) (searchesWhole text args) with
          | .error e => .error e
          | .ok element => match accessorName text fn (args[1]?.getD []) with
            | .error e => .error e
            | .ok name => .ok ⟨element, name⟩ := rfl

theorem accessorOf_ok {start : Token} {args : List (List Token)} {a : Accessor} :
    accessorOf text fn start args = .ok a ↔
      2 ≤ args.length ∧ args.length ≤ 3 ∧ firstEmpty 1 args = none ∧
        locator text fn (args[0]?.getD []) (searchesWhole text args) = .ok a.element ∧
        accessorName text fn (args[1]?.getD []) = .ok a.name := by
  obtain ⟨element, name⟩ := a
  rw [accessorOf_eq]
  cases firstEmpty 1 args with
  | some number => grind
  | none =>
    cases locator text fn (args[0]?.getD []) (searchesWhole text args) with
    | error e => grind
    | ok found =>
      cases accessorName text fn (args[1]?.getD []) with
      | error e => grind
      | ok found' => grind

theorem accessorOf_placed {start : Token} {args : List (List Token)} {a : Accessor}
    (carries : ∀ arg ∈ args, Carries text text' place arg)
    (h : accessorOf text fn start args = .ok a) :
    accessorOf text' fn (start.placed place) (args.map (List.map (Token.placed place))) = .ok a := by
  obtain ⟨few, many, none, element, name⟩ := accessorOf_ok.1 h
  have arg (i : Nat) : (args.map (List.map (Token.placed place)))[i]?.getD [] =
      (args[i]?.getD []).map (Token.placed place) := by
    rw [List.getElem?_map]
    cases args[i]? <;> rfl
  have carries' (i : Nat) : Carries text text' place (args[i]?.getD []) := by
    cases found : args[i]? with
    | none => exact ⟨nofun, nofun⟩
    | some arg => exact carries arg (List.mem_of_getElem? found)
  have whole : searchesWhole text' (args.map (List.map (Token.placed place))) =
      searchesWhole text args := by
    unfold searchesWhole
    rw [List.getElem?_map]
    cases found : args[2]? with
    | none => rfl
    | some arg =>
      have same := spanned_placed (carries arg (List.mem_of_getElem? found))
      simp only [Option.map_some, asksForDocument, same]
  refine accessorOf_ok.2 ⟨by simpa using few, by simpa using many, ?_, ?_, ?_⟩
  · rw [firstEmpty_placed, none]
  · rw [arg, whole]
    exact locator_placed (carries' 0) element
  · rw [arg]
    exact accessorName_placed (carries' 1) name

theorem accessor_ok {stop : Nat} {toks rest : List Token} {a : Accessor} :
    accessor text fn stop toks = .ok (a, rest) ↔ ∃ start paren more args,
      toks = start :: paren :: more ∧ start.kind = .identifier ∧ start.text = fn ∧
        paren.kind = .leftParen ∧ arguments fn start 0 [] more = .ok (args, rest) ∧
        accessorOf text fn start args = .ok a := by
  constructor
  · intro h
    cases toks with
    | nil => cases h
    | cons start more =>
      have opens := accessor_opens h
      obtain ⟨paren, more, rfl, isParen⟩ := rest_of_nextToken opens (by decide)
      simp only [accessor] at h
      split at h
      · rename_i isFn
        rw [Bool.and_eq_true, decide_eq_true_eq, decide_eq_true_eq] at isFn
        rw [List.drop_succ_cons, List.drop_zero] at h
        split at h
        · cases h
        · rename_i args rest' read
          split at h
          · cases h
          · rename_i found
            cases h
            exact ⟨start, paren, more, args, rfl, isFn.1, isFn.2, isParen, read, found⟩
      · cases h
  · rintro ⟨start, paren, more, args, rfl, isName, isFn, isParen, read, found⟩
    simp [accessor, isName, isFn, isParen, read, found]

theorem accessor_placed {stop stop' : Nat} {toks rest : List Token} {a : Accessor}
    (carries : Carries text text' place toks) (h : accessor text fn stop toks = .ok (a, rest)) :
    accessor text' fn stop' (toks.map (Token.placed place)) =
      .ok (a, rest.map (Token.placed place)) := by
  obtain ⟨start, paren, more, args, rfl, isName, isFn, isParen, read, found⟩ := accessor_ok.1 h
  have carries' (arg : List Token) (mem : arg ∈ args) : Carries text text' place arg :=
    carries.tail.tail.mono fun t inside => (arguments_mem read arg mem t inside).resolve_left nofun
  exact accessor_ok.2 ⟨_, _, _, _, rfl, isName, isFn, isParen, arguments_placed read,
    accessorOf_placed carries' found⟩

/-! ## Derivations -/

theorem IsName.placed {t : Token} (h : IsName t) : IsName (t.placed place) := h

theorem IsPath.placed {names : List String} (h : IsPath ts names) :
    IsPath (ts.map (Token.placed place)) names := by
  induction h with
  | last name => exact .last name.placed
  | more name isDot path ih => exact .more name.placed isDot ih

theorem OptionalPath.placed {path : String} {f : Follow} (h : OptionalPath ts path f) :
    OptionalPath (ts.map (Token.placed place)) path f := by
  cases h with
  | missing isDot => exact .missing isDot
  | dotted h =>
    cases h with
    | none => exact .dotted .none
    | path isDot path => exact .dotted (.path isDot path.placed)

/-- A side in another text, with another end. -/
def Setting.elsewhere (s : Setting) (text : RawText) (stop : Nat) : Setting :=
  { s with text, stop }

section
variable {s : Setting} {stop' : Nat}

mutual

theorem IsExpr.placed {a b : List Stmt} {ts : List Token} {x : Expr}
    (carries : Carries s.text text' place ts) :
    IsExpr OptionalPath s a ts x b →
      IsExpr OptionalPath (s.elsewhere text' stop') a (ts.map (Token.placed place)) x b
  | .plain h => .plain (h.placed carries)
  | .cond condition isQuestion yes isColon no => by
    rw [List.map_append, List.map_cons, List.map_append, List.map_cons]
    exact .cond (condition.placed carries.left) isQuestion
      (yes.placed carries.right.tail.left) isColon (no.placed carries.right.tail.right.tail)

theorem IsBinary.placed {least : Nat} {a b : List Stmt} {ts : List Token} {x : Expr}
    (carries : Carries s.text text' place ts) :
    IsBinary OptionalPath s least a ts x b →
      IsBinary OptionalPath (s.elsewhere text' stop') least a (ts.map (Token.placed place)) x b
  | .operand h => .operand (h.placed carries)
  | .apply left isOp level right => by
    rw [List.map_append, List.map_cons]
    exact .apply (left.placed carries.left) isOp level (right.placed carries.right.tail)

theorem IsUnary.placed {a b : List Stmt} {ts : List Token} {x : Expr}
    (carries : Carries s.text text' place ts) :
    IsUnary OptionalPath s a ts x b →
      IsUnary OptionalPath (s.elsewhere text' stop') a (ts.map (Token.placed place)) x b
  | .operand h => .operand (h.placed carries)
  | .apply isOp h => .apply isOp (h.placed carries.tail)

theorem IsOperand.placed {f : Follow} {a b : List Stmt} {ts : List Token} {x : Expr}
    (carries : Carries s.text text' place ts) :
    IsOperand OptionalPath s f a ts x b →
      IsOperand OptionalPath (s.elsewhere text' stop') f a (ts.map (Token.placed place)) x b
  | .number kind read => .number (t := Token.placed place _) kind read
  | .string kind read => .string kind (unquoted_placed (carries.tokens _ List.mem_cons_self) read)
  | .paren isLeft h isRight => by
    rw [List.map_cons, List.map_append]
    exact .paren isLeft (h.placed carries.tail.left) isRight
  | .named kind found => .named kind found
  | .access kind isFn side read => by
    have alone := read []
    rw [List.append_nil] at alone
    have moved : accessor text' _ stop' _ = _ := accessor_placed carries alone
    obtain ⟨us, shape, again⟩ := accessor_sound moved
    rw [List.map_nil, List.append_nil] at shape
    subst shape
    exact .access (s := s.elsewhere text' stop') kind isFn side again
  | .global kind isMarker side h => .global (s := s.elsewhere text' stop') kind isMarker side h.placed
  | .path h begins => .path (s := s.elsewhere text' stop') (t := Token.placed place _) h.placed begins
  | .method h begins isDot isName arguments => by
    rw [List.map_cons, List.map_append, List.map_cons, List.map_cons]
    exact .method (s := s.elsewhere text' stop') (t := Token.placed place _) h.placed begins isDot
      isName.placed (arguments.placed carries.tail.right.tail.tail)
  | .member h isDot isName => by
    rw [List.map_append]
    exact .member (h.placed carries.left) isDot isName.placed
  | .call h notIndex isDot isName arguments => by
    rw [List.map_append, List.map_cons, List.map_cons]
    exact .call (h.placed carries.left) notIndex isDot isName.placed
      (arguments.placed carries.right.tail.tail)
  | .index h isLeft i isRight => by
    rw [List.map_append, List.map_cons, List.map_append]
    exact .index (h.placed carries.left) isLeft (i.placed carries.right.tail.left) isRight

theorem IsArgs.placed {a b : List Stmt} {ts : List Token} {xs : List Expr}
    (carries : Carries s.text text' place ts) :
    IsArgs OptionalPath s a ts xs b →
      IsArgs OptionalPath (s.elsewhere text' stop') a (ts.map (Token.placed place)) xs b
  | .none isLeft isRight => .none isLeft isRight
  | .some isLeft h => .some isLeft (h.placed carries.tail)

theorem IsItems.placed {a b : List Stmt} {ts : List Token} {xs : List Expr}
    (carries : Carries s.text text' place ts) :
    IsItems OptionalPath s a ts xs b →
      IsItems OptionalPath (s.elsewhere text' stop') a (ts.map (Token.placed place)) xs b
  | .last h isRight => by
    rw [List.map_append]
    exact .last (h.placed carries.left) isRight
  | .more h isComma tail => by
    rw [List.map_append, List.map_cons]
    exact .more (h.placed carries.left) isComma (tail.placed carries.right.tail)

end

theorem IsTarget.placed {a b : List Stmt} {template : Stmt}
    (carries : Carries s.text text' place ts)
    (h : IsTarget s a ts template b) :
    IsTarget (s.elsewhere text' stop') a (ts.map (Token.placed place)) template b := by
  cases h with
  | @attr _ rest found side read =>
    have moved : accessor text' "attr" stop' (ts.map (Token.placed place) ++ []) =
        .ok (found, []) := by
      rw [List.append_nil]
      exact accessor_placed carries (accessor_alone read)
    exact .attr (s := s.elsewhere text' stop') side moved
  | @prop _ rest found side read =>
    have moved : accessor text' "prop" stop' (ts.map (Token.placed place) ++ []) =
        .ok (found, []) := by
      rw [List.append_nil]
      exact accessor_placed carries (accessor_alone read)
    exact .prop (s := s.elsewhere text' stop') side moved
  | global side kind isMarker h =>
    exact .global (s := s.elsewhere text' stop') side kind isMarker h.placed
  | data side isPath plain notKeyword =>
    exact .data (s := s.elsewhere text' stop') (t := Token.placed place _) side isPath.placed plain
      notKeyword

end

end Binding

end PageBinding
