import PageBinding.Token.Basic

/-!
Reading the tokens of a binding text.

`lexeme` reads the one token at the head of a text without leading space; `scan` repeats it to the
end of the text, or to the first place where no token can be read.
-/
namespace PageBinding.Token

open Text

/-! ## Character classes -/

def isSpace (c : Char) : Bool :=
  c == ' ' || c == '\t' || c == '\n' || c == '\r'

def isOperatorStart (c : Char) : Bool :=
  oneOf "!<>&|+-*/%" c

def isWordChar (c : Char) : Bool :=
  c == '_' || isLetter c || isDigit c

def isQuote (c : Char) : Bool :=
  c == '\'' || c == '"' || c == '\x60'

/-! ## One token -/

inductive ScanError
  | unrecognizedCharacter (c : Char)
  | unrecognizedOperator (c : Char)
  | loneDollar
  | badNumber (text : List Char)
  | unterminatedString
  deriving DecidableEq, Repr

def ScanError.message : ScanError → String
  | unrecognizedCharacter c => "unrecognized character: " ++ shownCodePoint c
  | unrecognizedOperator c => "unrecognized operator at " ++ Text.shown (String.ofList [c])
  | loneDollar => "bad identifier " ++ Text.shown "$"
  | badNumber text => "bad number syntax: " ++ String.ofList text
  | unterminatedString => "unterminated quoted string"

structure Lexeme where
  kind : Kind
  text : List Char
  rest : List Char
  deriving DecidableEq, Repr

def operators : List String :=
  ["===", "!==", "==", "!=", "<=", ">=", "&&", "||", "<", ">", "+", "-", "*", "/", "%", "!"]

def operatorAt? (cs : List Char) : Option (List Char) :=
  (operators.map String.toList).find? fun op => op.isPrefixOf cs

/-- The rest of a string after its opening quote, up to and including the closing one, and what
follows. A backslash takes the character after it along. -/
def closeQuote (quote : Char) : List Char → Option (List Char × List Char)
  | [] => none
  | c :: cs =>
      if c = '\\' then
        match cs with
        | [] => none
        | d :: ds => (closeQuote quote ds).map fun (body, rest) => (c :: d :: body, rest)
      else if c = quote then some ([c], cs)
      else (closeQuote quote cs).map fun (body, rest) => (c :: body, rest)

def run (p : Char → Bool) (cs : List Char) : List Char × List Char :=
  (cs.takeWhile p, cs.dropWhile p)

def digits (cs : List Char) : List Char × List Char :=
  run isAsciiDigit cs

def fraction : List Char → List Char × List Char
  | '.' :: cs => ('.' :: (digits cs).1, (digits cs).2)
  | cs => ([], cs)

def sign : List Char → List Char × List Char
  | '+' :: cs => (['+'], cs)
  | '-' :: cs => (['-'], cs)
  | cs => ([], cs)

def exponent : List Char → List Char × List Char
  | c :: cs =>
      if c = 'e' || c = 'E' then
        let signed := sign cs
        (c :: signed.1 ++ (digits signed.2).1, (digits signed.2).2)
      else ([], c :: cs)
  | [] => ([], [])

def numeral (cs : List Char) : List Char × List Char :=
  let whole := digits cs
  let frac := fraction whole.2
  let exp := exponent frac.2
  (whole.1 ++ frac.1 ++ exp.1, exp.2)

/-- The number at the head of a text; a name character or a point right after it is an error. -/
def number (cs : List Char) : Except ScanError Lexeme :=
  match (numeral cs).2 with
  | c :: rest =>
      if isWordChar c || c = '.' then .error (.badNumber ((numeral cs).1 ++ [c]))
      else .ok ⟨.number, (numeral cs).1, c :: rest⟩
  | [] => .ok ⟨.number, (numeral cs).1, []⟩

def identifier (cs : List Char) : Except ScanError Lexeme :=
  match cs with
  | '$' :: cs =>
      if (run isWordChar cs).1.isEmpty then .error .loneDollar
      else .ok ⟨.identifier, '$' :: (run isWordChar cs).1, (run isWordChar cs).2⟩
  | cs => .ok ⟨.identifier, (run isWordChar cs).1, (run isWordChar cs).2⟩

def operator (c : Char) (cs : List Char) : Except ScanError Lexeme :=
  match operatorAt? (c :: cs) with
  | some op => .ok ⟨.operator, op, (c :: cs).drop op.length⟩
  | none => .error (.unrecognizedOperator c)

def punctuation? : Char → Option Kind
  | ',' => some .comma
  | '?' => some .question
  | ':' => some .colon
  | '[' => some .leftBrack
  | ']' => some .rightBrack
  | '(' => some .leftParen
  | ')' => some .rightParen
  | _ => none

def startsWithDigit : List Char → Bool
  | c :: _ => isAsciiDigit c
  | [] => false

def lexeme (c : Char) (cs : List Char) : Except ScanError Lexeme :=
  if isQuote c then
    match closeQuote c cs with
    | some (body, rest) => .ok ⟨.string, c :: body, rest⟩
    | none => .error .unterminatedString
  else if isAsciiDigit c then number (c :: cs)
  else if c = '.' then
    if startsWithDigit cs then number (c :: cs) else .ok ⟨.dot, [c], cs⟩
  else if c = '=' then
    if cs.head? = some '=' then operator c cs else .ok ⟨.assign, [c], cs⟩
  else if isOperatorStart c then operator c cs
  else if c = '$' || isWordChar c then identifier (c :: cs)
  else match punctuation? c with
    | some kind => .ok ⟨kind, [c], cs⟩
    | none =>
        if c.toNat < 0x80 && isGraphic c then .ok ⟨.char, [c], cs⟩
        else .error (.unrecognizedCharacter c)

/-! ## A token is the head of its text -/

theorem closeQuote_append {quote : Char} {cs body rest : List Char}
    (h : closeQuote quote cs = some (body, rest)) : body ++ rest = cs := by
  fun_induction closeQuote quote cs generalizing body rest with
  | case1 => simp at h
  | case2 => simp at h
  | case3 d ds ih =>
      obtain ⟨⟨b, r⟩, found, same⟩ := Option.map_eq_some_iff.1 h
      simp only [Prod.mk.injEq] at same
      simp [← same.1, ← same.2, ih found]
  | case4 =>
      simp only [Option.some.injEq, Prod.mk.injEq] at h
      simp [← h.1, ← h.2]
  | case5 c cs _ _ ih =>
      obtain ⟨⟨b, r⟩, found, same⟩ := Option.map_eq_some_iff.1 h
      simp only [Prod.mk.injEq] at same
      simp [← same.1, ← same.2, ih found]

theorem run_append (p : Char → Bool) (cs : List Char) : (run p cs).1 ++ (run p cs).2 = cs :=
  List.takeWhile_append_dropWhile

theorem fraction_append (cs : List Char) : (fraction cs).1 ++ (fraction cs).2 = cs := by
  unfold fraction
  split
  · simp [digits, run_append]
  · rfl

theorem sign_append (cs : List Char) : (sign cs).1 ++ (sign cs).2 = cs := by
  unfold sign
  split <;> rfl

theorem exponent_append (cs : List Char) : (exponent cs).1 ++ (exponent cs).2 = cs := by
  unfold exponent
  split
  · split
    · rename_i c cs _
      have s := sign_append cs
      have d := run_append isAsciiDigit (sign cs).2
      simp only [digits, List.cons_append, List.append_assoc]
      rw [d, s]
    · rfl
  · rfl

theorem numeral_append (cs : List Char) : (numeral cs).1 ++ (numeral cs).2 = cs := by
  have d := run_append isAsciiDigit cs
  have f := fraction_append (run isAsciiDigit cs).2
  have e := exponent_append (fraction (run isAsciiDigit cs).2).2
  simp only [numeral, digits, List.append_assoc]
  rw [e, f, d]

theorem number_append {cs : List Char} {l : Lexeme} (h : number cs = .ok l) :
    l.text ++ l.rest = cs := by
  have whole := numeral_append cs
  unfold number at h
  split at h
  · rename_i following
    split at h
    · cases h
    · cases h; rw [following] at whole; exact whole
  · rename_i following
    cases h; rw [following] at whole; exact whole

theorem identifier_append {cs : List Char} {l : Lexeme} (h : identifier cs = .ok l) :
    l.text ++ l.rest = cs := by
  unfold identifier at h
  split at h
  · rename_i cs
    have name := run_append isWordChar cs
    split at h
    · cases h
    · cases h; simp only [List.cons_append, name]
  · cases h; exact run_append isWordChar _

theorem operatorAt?_append {cs op : List Char} (h : operatorAt? cs = some op) :
    op ++ cs.drop op.length = cs := by
  have found := List.find?_some h
  obtain ⟨rest, rfl⟩ := List.isPrefixOf_iff_prefix.1 found
  simp

theorem operatorAt?_ne_nil {cs op : List Char} (h : operatorAt? cs = some op) : op ≠ [] := by
  have listed := List.mem_of_find?_eq_some h
  intro empty
  subst empty
  revert listed
  decide

theorem operator_append {c : Char} {cs : List Char} {l : Lexeme} (h : operator c cs = .ok l) :
    l.text ++ l.rest = c :: cs := by
  unfold operator at h
  split at h
  · rename_i op found
    cases h
    exact operatorAt?_append found
  · cases h

theorem lexeme_append {c : Char} {cs : List Char} {l : Lexeme} (h : lexeme c cs = .ok l) :
    l.text ++ l.rest = c :: cs := by
  unfold lexeme at h
  split at h
  · split at h
    · rename_i found
      cases h
      simp [closeQuote_append found]
    · cases h
  · split at h
    · exact number_append h
    · split at h
      · split at h
        · exact number_append h
        · cases h; rfl
      · split at h
        · split at h
          · exact operator_append h
          · cases h; rfl
        · split at h
          · exact operator_append h
          · split at h
            · exact identifier_append h
            · split at h
              · cases h; rfl
              · split at h
                · cases h; rfl
                · cases h

theorem numeral_ne_nil {c : Char} {cs : List Char} (h : isAsciiDigit c ∨ c = '.') :
    (numeral (c :: cs)).1 ≠ [] := by
  rcases h with digit | rfl
  · simp [numeral, digits, run, digit]
  · have point : isAsciiDigit '.' = false := by decide
    simp [numeral, digits, run, fraction, point]

theorem number_ne_nil {c : Char} {cs : List Char} {l : Lexeme} (h : number (c :: cs) = .ok l)
    (start : isAsciiDigit c ∨ c = '.') : l.text ≠ [] := by
  have text : (numeral (c :: cs)).1 ≠ [] := numeral_ne_nil start
  unfold number at h
  split at h
  · split at h
    · cases h
    · cases h; exact text
  · cases h; exact text

theorem identifier_ne_nil {c : Char} {cs : List Char} {l : Lexeme}
    (h : identifier (c :: cs) = .ok l) (start : c = '$' ∨ isWordChar c) : l.text ≠ [] := by
  unfold identifier at h
  split at h
  · split at h
    · cases h
    · cases h; simp
  · rename_i other
    rcases start with rfl | word
    · exact absurd rfl (other cs)
    · cases h; simp [run, word]

theorem operator_ne_nil {c : Char} {cs : List Char} {l : Lexeme} (h : operator c cs = .ok l) :
    l.text ≠ [] := by
  unfold operator at h
  split at h
  · rename_i found
    cases h
    exact operatorAt?_ne_nil found
  · cases h

theorem lexeme_ne_nil {c : Char} {cs : List Char} {l : Lexeme} (h : lexeme c cs = .ok l) :
    l.text ≠ [] := by
  unfold lexeme at h
  split at h
  · split at h
    · cases h; simp
    · cases h
  · split at h
    · rename_i digit
      exact number_ne_nil h (.inl digit)
    · split at h
      · rename_i point
        split at h
        · exact number_ne_nil h (.inr point)
        · cases h; simp
      · split at h
        · split at h
          · exact operator_ne_nil h
          · cases h; simp
        · split at h
          · exact operator_ne_nil h
          · split at h
            · rename_i start
              simp only [Bool.or_eq_true, decide_eq_true_eq] at start
              exact identifier_ne_nil h start
            · split at h
              · cases h; simp
              · split at h
                · cases h; simp
                · cases h

theorem lexeme_rest_length {c : Char} {cs : List Char} {l : Lexeme} (h : lexeme c cs = .ok l) :
    l.rest.length < (c :: cs).length := by
  have whole := congrArg List.length (lexeme_append h)
  have text := List.length_pos_iff.2 (lexeme_ne_nil h)
  simp only [List.length_append] at whole
  omega

/-! ## All tokens -/

theorem length_dropWhile_le (p : Char → Bool) (cs : List Char) :
    (cs.dropWhile p).length ≤ cs.length := by
  have parts := congrArg List.length (run_append p cs)
  simp only [run, List.length_append] at parts
  omega

/-- The tokens of a text that starts at byte `offset`. The end is where the last token ended, not
where the text ends. -/
def scanFrom (offset : Nat) (cs : List Char) : List Token :=
  match _split : cs.dropWhile isSpace with
  | [] => [eofAt offset]
  | c :: rest =>
      let start := offset + byteLength (cs.takeWhile isSpace)
      match _read : lexeme c rest with
      | .error e => [⟨.error, start, e.message⟩]
      | .ok l =>
          ⟨l.kind, start, String.ofList l.text⟩ :: scanFrom (start + byteLength l.text) l.rest
termination_by cs.length
decreasing_by
  have shorter := lexeme_rest_length _read
  have skipped := length_dropWhile_le isSpace cs
  rw [_split] at skipped
  omega

def scan (text : String) : List Token :=
  scanFrom 0 text.toList

/-- Where a place of a text stands in the text that it shows, which has a mark of three bytes for each
byte that belongs to no character. -/
def rawOffset : List (Char ⊕ UInt8) → (offset : Nat) → Nat
  | [], _ => 0
  | p :: ps, offset =>
      if offset = 0 then 0
      else (pieceBytes p).length + rawOffset ps (offset - (pieceChar p).utf8Size)

/-- The tokens of a text that may have bytes which belong to no character. They are told apart by what
is shown of them, and stand where they are in the text itself. -/
def scanRaw : RawText → List Token
  | .chars s => scan s
  | .bytes bs _ =>
      (scan (Text.ofBytes bs)).map fun t => { t with offset := rawOffset (pieces bs) t.offset }

end PageBinding.Token
