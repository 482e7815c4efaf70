import PageBinding.Proofs.Reading.Sides

/-!
String literals survive the way from the printer through the scanner to the compiler: a quoted text is
one token, the token stands for the text, and a binding that assigns it assigns the text.
-/
namespace PageBinding

open Text

theorem lexeme_enclosed {q : Char} {cs rest : List Char} (isQuote : Token.isQuote q = true)
    (closed : Token.closeQuote q (cs ++ q :: rest) = some (cs ++ [q], rest)) :
    Token.lexeme q (cs ++ q :: rest) = .ok ⟨.string, q :: (cs ++ [q]), rest⟩ := by
  rw [Token.lexeme, if_pos isQuote, closed]

theorem lexeme_quote (cs rest : List Char) :
    Token.lexeme '"' (Literal.encode cs ++ '"' :: rest) =
      .ok ⟨.string, Literal.quoteChars cs, rest⟩ :=
  lexeme_enclosed rfl (Literal.closeQuote_encode cs rest)

theorem scan_enclosed {q : Char} {cs : List Char} (isQuote : Token.isQuote q = true)
    (closed : Token.closeQuote q (cs ++ [q]) = some (cs ++ [q], [])) :
    Token.scan (String.ofList (q :: (cs ++ [q]))) =
      [⟨.string, 0, String.ofList (q :: (cs ++ [q]))⟩,
        .eofAt (String.ofList (q :: (cs ++ [q]))).utf8ByteSize] := by
  have solid : Token.isSpace q = false := by
    simp only [Token.isQuote, Bool.or_eq_true, beq_iff_eq] at isQuote
    obtain (rfl | rfl) | rfl := isQuote <;> rfl
  have nothing : ([] : List Char).all Token.isSpace = true := rfl
  have first := Token.scanFrom_of_ok (o := 0) nothing solid (lexeme_enclosed isQuote closed)
  have ended (n : Nat) : Token.scanFrom n [] = [.eofAt n] := Token.scanFrom_blank rfl
  rw [ended, List.nil_append] at first
  rw [Token.scan, String.toList_ofList, utf8ByteSize_ofList]
  refine first.trans ?_
  simp [byteLength]

/-- A quoted text is a single token. -/
theorem scan_quote (s : String) :
    Token.scan (Literal.quote s) =
      [⟨.string, 0, Literal.quote s⟩, .eofAt (Literal.quote s).utf8ByteSize] :=
  scan_enclosed rfl (Literal.closeQuote_encode s.toList [])

namespace Binding

theorem isSide_quote (s : String) : IsSide (Literal.quote s) [⟨.string, 0, Literal.quote s⟩] := by
  refine ⟨⟨fun d begins => ?_, fun d ends => ?_⟩, ⟨_, scan_quote s⟩, List.cons_ne_nil _ _⟩
  · rw [Literal.quote, String.toList_ofList] at begins
    cases begins
    decide
  · rw [Literal.quote, String.toList_ofList, Literal.quoteChars, ← List.cons_append,
      List.getLast?_concat] at ends
    cases ends
    decide

theorem unquoted_quote (text s : String) (place : Nat) :
    unquoted text ⟨.string, place, Literal.quote s⟩ = .ok (.chars s) :=
  unquoted_of_unquote (Literal.unquote_quote s)

/-- A text that is printed as a literal is one string token, which stands for the text. So assigning
the literal is compiled to the assignment of the text, printed as the same literal. -/
theorem literal_round_trip (s : String) :
    Token.scan (Literal.quote s) =
      [⟨.string, 0, Literal.quote s⟩, .eofAt (Literal.quote s).utf8ByteSize] ∧
    (∀ text : String, unquoted text ⟨.string, 0, Literal.quote s⟩ = .ok (.chars s)) ∧
    ∀ global context : Int,
      (build global context ("x = " ++ Literal.quote s : String)).result = .ok
        ⟨[], some (.setProperty (.bound context) "x" (.lit (Literal.quote s) (.string s)))⟩ ∧
      (Expr.lit (Literal.quote s) (.string s)).source = Literal.quote s := by
  refine ⟨scan_quote s, fun text => unquoted_quote text s 0, fun global context => ⟨?_, rfl⟩⟩
  have name : Token.scan "x" = [⟨.identifier, 0, "x"⟩] ++ [Token.eofAt 1] := by decide +kernel
  have scanned := scan_joined (List.cons_ne_nil _ _) name (isSide_quote s) (scan_quote s)
  let a : Assignment :=
    ⟨[⟨.identifier, 0, "x"⟩], 2, [⟨.string, 4, Literal.quote s⟩], 4 + (Literal.quote s).utf8ByteSize⟩
  have cut : Assignment.ofText ("x" ++ " = " ++ Literal.quote s : String) = .ok a :=
    Assignment.ofText_ok.2 ⟨⟨_, scanned, rfl, rfl⟩, by simp [a], List.cons_ne_nil _ _,
      List.cons_ne_nil _ _⟩
  have path : IsPath a.target ["x"] := .last ⟨rfl, by decide⟩
  have value : IsOperand OptionalPath
      (sourceSetting ("x" ++ " = " ++ Literal.quote s : String) global context a) .all [] a.source
      (.lit (Literal.quoteRaw (.chars s)) (.ofRaw (.chars s))) [] :=
    .string rfl (unquoted_quote _ s 4)
  exact build_iff.2 ⟨a, _, [], _, cut, .data rfl path (by decide) (by decide),
    .plain (.operand (.operand value)), rfl, rfl⟩

end Binding

end PageBinding
