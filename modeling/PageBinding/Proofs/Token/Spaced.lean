import PageBinding.Proofs.Token.Composition

/-!
Scanning does not depend on how tokens are spaced. Every token ends at a space, so the texts of the
tokens of a text, with some space between neighbours, have the same tokens again.
-/
namespace PageBinding.Token

open Text

/-- Texts written one after another, with space between neighbours. -/
inductive Spaced : List String → List Char → Prop
  | nil : Spaced [] []
  | last (s : String) : Spaced [s] s.toList
  | more (s : String) {t : String} {ts : List String} {gap cs : List Char} :
      gap ≠ [] → gap.all isSpace = true → Spaced (t :: ts) cs →
      Spaced (s :: t :: ts) (s.toList ++ (gap ++ cs))

theorem spaced_intercalate (ts : List String) : Spaced ts (" ".intercalate ts).toList := by
  induction ts with
  | nil => exact .nil
  | cons s ts ih =>
      cases ts with
      | nil =>
          rw [String.intercalate_singleton]
          exact .last s
      | cons t ts =>
          have blank : [' '].all isSpace = true := rfl
          rw [String.intercalate_cons_cons, String.toList_append, String.toList_append,
            List.append_assoc]
          exact .more s (List.cons_ne_nil _ _) blank ih

/-! ## Tokens by themselves -/

/-- The token is all that is read from its own text. -/
def Alone (t : Token) : Prop :=
  ∃ c cs, t.text.toList = c :: cs ∧ isSpace c = false ∧
    lexeme c (cs ++ []) = .ok ⟨t.kind, c :: cs, []⟩

theorem alone_of_scan {o n : Nat} {cs : List Char} {ts : List Token}
    (h : scanFrom o cs = ts ++ [eofAt n]) : ∀ t ∈ ts, t.Alone := by
  intro t mem
  have proper := (scanFrom_proper h).1 t mem
  obtain ⟨before, after, rfl⟩ := List.append_of_mem mem
  rw [List.append_assoc, List.cons_append] at h
  obtain ⟨u, x, v, -, ⟨-, text, c, rest, rfl, solid, read⟩, -⟩ := scanFrom_at proper h
  have soft : Softer v [] := nofun
  exact ⟨c, rest, by rw [text, String.toList_ofList], solid, lexeme_softer read soft⟩

theorem Alone.scanFrom {t : Token} (h : t.Alone) {r : List Char} (soft : Softer [] r) (o : Nat) :
    scanFrom o (t.text.toList ++ r) =
      ⟨t.kind, o, t.text⟩ :: Token.scanFrom (o + byteLength t.text.toList) r := by
  obtain ⟨c, cs, text, solid, read⟩ := h
  have nothing : ([] : List Char).all isSpace = true := rfl
  have whole : String.ofList (c :: cs) = t.text := by rw [← text, String.ofList_toList]
  have first := scanFrom_of_ok (o := o) nothing solid (lexeme_softer read soft)
  rw [whole] at first
  rw [text]
  exact first

theorem Spaced.begins {t : Token} {ts : List String} {cs : List Char} (h : Spaced (t.text :: ts) cs)
    (alone : t.Alone) : ∃ c rest, cs = c :: rest ∧ isSpace c = false := by
  obtain ⟨c, rest, text, solid, -⟩ := alone
  cases h with
  | last => exact ⟨c, rest, text, solid⟩
  | more => exact ⟨c, _, by rw [text, List.cons_append], solid⟩

/-- Each gap ends the token before it, and is skipped. -/
theorem scanFrom_spaced {ts : List Token} (alone : ∀ t ∈ ts, t.Alone) {cs : List Char}
    (spaced : Spaced (ts.map text) cs) (o : Nat) :
    (scanFrom o cs).map spelling = ts.map spelling ++ [(.eof, "EOF")] := by
  induction ts generalizing cs o with
  | nil =>
      cases spaced
      rw [scanFrom_blank rfl]
      rfl
  | cons t ts ih =>
      have first := alone t List.mem_cons_self
      have others := fun u mem => alone u (List.mem_cons_of_mem t mem)
      cases ts with
      | nil =>
          cases spaced
          have ended (n : Nat) : scanFrom n [] = [eofAt n] := scanFrom_blank rfl
          have read := first.scanFrom (r := []) nofun o
          rw [List.append_nil, ended] at read
          rw [read]
          rfl
      | cons u ts =>
          cases spaced with | more _ isSome blank later
          obtain ⟨d, gap, rfl⟩ := List.exists_cons_of_ne_nil isSome
          have space : isSpace d = true := (Bool.and_eq_true _ _ ▸ blank).1
          obtain ⟨c, rest, rfl, solid⟩ := later.begins (others u List.mem_cons_self)
          have soft : Softer [] (d :: gap ++ c :: rest) := by
            rintro e ⟨⟩
            exact .inr space
          rw [first.scanFrom soft, scanFrom_skip blank solid, List.map_cons, ih others later]
          rfl

/-- The tokens of a text do not depend on the space between them: if the text has no error, then their
texts with any space between neighbours, a blank for instance, have tokens of the same kinds with the
same texts. -/
theorem scan_respaced {text : String} {ts : List Token} {n : Nat} (h : scan text = ts ++ [eofAt n]) :
    (∀ other : String, Spaced (ts.map Token.text) other.toList →
      (scan other).map spelling = (scan text).map spelling) ∧
    (scan (" ".intercalate (ts.map Token.text))).map spelling = (scan text).map spelling := by
  have again (other : String) (spaced : Spaced (ts.map Token.text) other.toList) :
      (scan other).map spelling = (scan text).map spelling := by
    rw [h, List.map_append]
    exact scanFrom_spaced (alone_of_scan h) spaced 0
  exact ⟨again, again _ (spaced_intercalate _)⟩

/-- Tokens that end where a longer one could begin. -/
def crowdedTokens : List Token :=
  [⟨.identifier, 0, "$x"⟩, ⟨.assign, 2, "="⟩, ⟨.operator, 3, "!"⟩, ⟨.number, 4, ".5"⟩,
    ⟨.operator, 6, "!="⟩, ⟨.number, 8, "1.e"⟩, ⟨.operator, 11, "==="⟩, ⟨.operator, 14, "-"⟩,
    ⟨.string, 15, "'= '"⟩, ⟨.dot, 19, "."⟩, ⟨.identifier, 20, "y"⟩]

theorem crowdedTokens_respaced :
    scan "$x=!.5!=1.e===-'= '.y" = crowdedTokens ++ [eofAt 21] ∧
      (scan "$x = ! .5 != 1.e === - '= ' . y").map spelling =
        (scan "$x=!.5!=1.e===-'= '.y").map spelling := by
  have scanned : scan "$x=!.5!=1.e===-'= '.y" = crowdedTokens ++ [eofAt 21] := by decide +kernel
  exact ⟨scanned, (scan_respaced scanned).2⟩

end PageBinding.Token
