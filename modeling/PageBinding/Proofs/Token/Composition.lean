import PageBinding.Proofs.Token.Lookahead
import PageBinding.Text.Blank

/-!
Scanning is compositional: the tokens of a text are those of its parts before and after any token.

* `scanFrom_at`: a text can be cut at each of its tokens, and what stands after the token can be
  replaced by anything that does not go on with it.
* `scanFrom_moved`: the tokens of a text further on are the same tokens further on.
* `scanFrom_append`: a text with tokens can be followed by space and another text.
-/
namespace PageBinding.Token

open Text

/-! ## Places -/

/-- A token further on by a number of bytes. -/
def moved (distance : Nat) (t : Token) : Token :=
  { t with offset := distance + t.offset }

@[simp]
theorem moved_text (d : Nat) (t : Token) : (t.moved d).text = t.text := rfl

@[simp]
theorem moved_offset (d : Nat) (t : Token) : (t.moved d).offset = d + t.offset := rfl

@[simp]
theorem moved_eofAt (d n : Nat) : (eofAt n).moved d = eofAt (d + n) := rfl

/-- What a token is, without where it is. -/
def spelling (t : Token) : Kind × String :=
  (t.kind, t.text)

/-! ## Steps of the scanner -/

variable {o n : Nat} {cs sp : List Char} {c : Char}

theorem scanFrom_blank (blank : sp.all isSpace = true) : scanFrom o sp = [eofAt o] := by
  have nothing : Stops isSpace [] := nofun
  have parts := run_of_stops blank nothing
  rw [List.append_nil, run, Prod.mk.injEq] at parts
  rw [scanFrom]
  split
  · rfl
  · rename_i shape
    rw [parts.2] at shape
    cases shape

section
variable (blank : sp.all isSpace = true) (solid : isSpace c = false)
include blank solid

theorem skipped (cs : List Char) :
    (sp ++ c :: cs).takeWhile isSpace = sp ∧ (sp ++ c :: cs).dropWhile isSpace = c :: cs := by
  have parts := run_of_stops blank (stops_cons (p := isSpace) cs solid)
  rwa [run, Prod.mk.injEq] at parts

theorem scanFrom_of_ok {l : Lexeme} (read : lexeme c cs = .ok l) :
    scanFrom o (sp ++ c :: cs) = ⟨l.kind, o + byteLength sp, String.ofList l.text⟩ ::
      scanFrom (o + byteLength sp + byteLength l.text) l.rest := by
  obtain ⟨before, after⟩ := skipped blank solid cs
  rw [scanFrom]
  split
  · rename_i shape
    rw [after] at shape
    cases shape
  · rename_i shape
    rw [after] at shape
    cases shape
    simp only [before]
    split
    · rename_i failed
      rw [read] at failed
      cases failed
    · rename_i found
      rw [read] at found
      cases found
      rfl

theorem scanFrom_of_error {e : ScanError} (failed : lexeme c cs = .error e) :
    scanFrom o (sp ++ c :: cs) = [⟨.error, o + byteLength sp, e.message⟩] := by
  obtain ⟨before, after⟩ := skipped blank solid cs
  rw [scanFrom]
  split
  · rename_i shape
    rw [after] at shape
    cases shape
  · rename_i shape
    rw [after] at shape
    cases shape
    simp only [before]
    split
    · rename_i found
      rw [failed] at found
      cases found
      rfl
    · rename_i read
      rw [failed] at read
      cases read

/-- Space before a token moves it. -/
theorem scanFrom_skip (cs : List Char) :
    scanFrom o (sp ++ c :: cs) = scanFrom (o + byteLength sp) (c :: cs) := by
  have nothing : ([] : List Char).all isSpace = true := rfl
  cases read : lexeme c cs with
  | error e =>
    have here := scanFrom_of_error (o := o + byteLength sp) nothing solid read
    rw [scanFrom_of_error blank solid read]
    exact here.symm
  | ok l =>
    have here := scanFrom_of_ok (o := o + byteLength sp) nothing solid read
    rw [scanFrom_of_ok blank solid read]
    exact here.symm

end

/-- What scanning a text comes to: nothing but space, an error, or a token and the text after it. -/
theorem scanFrom_cases (o : Nat) (cs : List Char) :
    (cs.all isSpace = true ∧ scanFrom o cs = [eofAt o]) ∨
      ∃ sp c rest, cs = sp ++ c :: rest ∧ sp.all isSpace = true ∧ isSpace c = false ∧
        ((∃ e : ScanError, scanFrom o cs = [⟨.error, o + byteLength sp, e.message⟩]) ∨
          ∃ l, lexeme c rest = .ok l ∧
            scanFrom o cs = ⟨l.kind, o + byteLength sp, String.ofList l.text⟩ ::
              scanFrom (o + byteLength sp + byteLength l.text) l.rest) := by
  have blank : (cs.takeWhile isSpace).all isSpace = true := List.all_takeWhile
  have whole : cs.takeWhile isSpace ++ cs.dropWhile isSpace = cs := List.takeWhile_append_dropWhile
  cases shape : cs.dropWhile isSpace with
  | nil =>
    rw [shape, List.append_nil] at whole
    rw [whole] at blank
    exact .inl ⟨blank, scanFrom_blank blank⟩
  | cons c rest =>
    have solid : isSpace c = false := run_stops isSpace cs c (by simp [run, shape])
    rw [shape] at whole
    refine .inr ⟨_, c, rest, whole.symm, blank, solid, ?_⟩
    rw [← whole]
    simp only [skipped blank solid rest]
    cases read : lexeme c rest with
    | error e => exact .inl ⟨e, scanFrom_of_error blank solid read⟩
    | ok l => exact .inr ⟨l, rfl, scanFrom_of_ok blank solid read⟩

theorem scanFrom_moved (d o : Nat) (cs : List Char) :
    scanFrom (d + o) cs = (scanFrom o cs).map (moved d) := by
  rcases scanFrom_cases o cs with ⟨blank, scanned⟩ | ⟨sp, c, rest, rfl, blank, solid, -⟩
  · rw [scanned, scanFrom_blank blank]
    rfl
  · cases read : lexeme c rest with
    | error e =>
      rw [scanFrom_of_error blank solid read, scanFrom_of_error blank solid read, Nat.add_assoc]
      rfl
    | ok l =>
      have shorter := lexeme_rest_length read
      rw [scanFrom_of_ok blank solid read, scanFrom_of_ok blank solid read, Nat.add_assoc d,
        Nat.add_assoc d, scanFrom_moved d _ l.rest]
      rfl
termination_by cs.length
decreasing_by
  subst_vars
  simp only [List.length_append, List.length_cons] at shorter ⊢
  omega

/-! ## Kinds of tokens -/

/-- A token that is neither the end of a text nor an error. -/
def Proper (t : Token) : Prop :=
  t.kind ≠ .eof ∧ t.kind ≠ .error

theorem punctuation_kind {kind : Kind} (h : punctuation? c = some kind) :
    kind ≠ .eof ∧ kind ≠ .error ∧ kind ≠ .assign := by
  unfold punctuation? at h
  split at h <;> cases h <;> exact ⟨nofun, nofun, nofun⟩

theorem number_kind {l : Lexeme} (h : number cs = .ok l) : l.kind = .number :=
  (number_ok.1 h).1

theorem identifier_kind {l : Lexeme} (h : identifier cs = .ok l) : l.kind = .identifier := by
  unfold identifier at h
  split at h
  · split at h
    · cases h
    · cases h
      rfl
  · cases h
    rfl

theorem operator_kind {l : Lexeme} (h : operator c cs = .ok l) : l.kind = .operator := by
  unfold operator at h
  split at h
  · cases h
    rfl
  · cases h

/-- What is read is no end and no error, and only the equals sign is an assignment. -/
theorem lexeme_kind {l : Lexeme} (h : lexeme c cs = .ok l) :
    l.kind ≠ .eof ∧ l.kind ≠ .error ∧ (l.kind = .assign → l.text = ['=']) := by
  have ofKind {kind : Kind} (same : l.kind = kind)
      (other : kind ≠ .eof ∧ kind ≠ .error ∧ kind ≠ .assign) :
      l.kind ≠ .eof ∧ l.kind ≠ .error ∧ (l.kind = .assign → l.text = ['=']) := by
    rw [same]
    exact ⟨other.1, other.2.1, fun isAssign => absurd isAssign other.2.2⟩
  unfold lexeme at h
  split at h
  · split at h
    · cases h
      exact ⟨nofun, nofun, nofun⟩
    · cases h
  · split at h
    · exact ofKind (number_kind h) (by decide)
    · split at h
      · split at h
        · exact ofKind (number_kind h) (by decide)
        · cases h
          exact ⟨nofun, nofun, nofun⟩
      · split at h
        · rename_i equals
          split at h
          · exact ofKind (operator_kind h) (by decide)
          · cases h
            exact ⟨nofun, nofun, fun _ => by rw [equals]⟩
        · split at h
          · exact ofKind (operator_kind h) (by decide)
          · split at h
            · exact ofKind (identifier_kind h) (by decide)
            · split at h
              · rename_i found
                cases h
                exact ofKind rfl (punctuation_kind found)
              · split at h
                · cases h
                  exact ⟨nofun, nofun, nofun⟩
                · cases h

/-- The last token of a text, and no other, is an end or an error. -/
theorem scanFrom_ends (o : Nat) (cs : List Char) :
    ∃ (before : List Token) (last : Token), scanFrom o cs = before ++ [last] ∧
      (∀ t ∈ before, t.Proper) ∧ (last.kind = .error ∨ ∃ n, last = eofAt n) := by
  rcases scanFrom_cases o cs with
    ⟨-, scanned⟩ | ⟨sp, c, rest, shape, blank, solid, ⟨e, scanned⟩ | ⟨l, read, scanned⟩⟩
  · exact ⟨[], _, scanned, nofun, .inr ⟨o, rfl⟩⟩
  · exact ⟨[], _, scanned, nofun, .inl rfl⟩
  · have shorter := lexeme_rest_length read
    have kind := lexeme_kind read
    obtain ⟨before, last, scanned', proper, ends⟩ :=
      scanFrom_ends (o + byteLength sp + byteLength l.text) l.rest
    refine ⟨_ :: before, last, by rw [scanned, scanned']; rfl, ?_, ends⟩
    exact List.forall_mem_cons.2 ⟨⟨kind.1, kind.2.1⟩, proper⟩
termination_by cs.length
decreasing_by
  subst_vars
  simp only [List.length_append, List.length_cons] at shorter ⊢
  omega

theorem scanFrom_proper {before : List Token} {last : Token} (h : scanFrom o cs = before ++ [last]) :
    (∀ t ∈ before, t.Proper) ∧ (last.kind = .error ∨ ∃ n, last = eofAt n) := by
  obtain ⟨before', last', scanned, proper, ends⟩ := scanFrom_ends o cs
  obtain ⟨rfl, same⟩ := List.append_inj' (h.symm.trans scanned) rfl
  cases same
  exact ⟨proper, ends⟩

theorem scanRaw_ends (text : RawText) :
    ∃ (before : List Token) (last : Token), scanRaw text = before ++ [last] ∧
      (∀ t ∈ before, t.Proper) ∧ (last.kind = .error ∨ ∃ n, last = eofAt n) := by
  cases text with
  | chars s => exact scanFrom_ends 0 s.toList
  | bytes bs stray =>
    obtain ⟨before, last, scanned, proper, ends⟩ := scanFrom_ends 0 (Text.ofBytes bs).toList
    have scanned : scan (Text.ofBytes bs) = before ++ [last] := scanned
    refine ⟨_, _, by rw [scanRaw, scanned, List.map_append, List.map_singleton], ?_, ?_⟩
    · exact List.forall_mem_map.2 proper
    · refine ends.imp_right fun ⟨n, isEnd⟩ => ?_
      subst isEnd
      exact ⟨_, rfl⟩

theorem scanRaw_proper {text : RawText} {before : List Token} {last : Token}
    (h : scanRaw text = before ++ [last]) :
    (∀ t ∈ before, t.Proper) ∧ (last.kind = .error ∨ ∃ n, last = eofAt n) := by
  obtain ⟨before', last', scanned, proper, ends⟩ := scanRaw_ends text
  obtain ⟨rfl, same⟩ := List.append_inj' (h.symm.trans scanned) rfl
  cases same
  exact ⟨proper, ends⟩

/-! ## Cutting a text at a token -/

/-- The token `tok` stands in a text that starts at byte `o`, with `u` before it and `v` after it. -/
structure Stands (o : Nat) (u : List Char) (tok : Token) (x v : List Char) : Prop where
  offset : tok.offset = o + byteLength u
  text : tok.text = String.ofList x
  read : ∃ c t, x = c :: t ∧ isSpace c = false ∧ lexeme c (t ++ v) = .ok ⟨tok.kind, x, v⟩

/-- A text can be cut at any of its tokens. What stands before it has the tokens before it, what
stands after it has the tokens after it, and may be replaced. -/
theorem scanFrom_at {before after : List Token} {tok : Token} (proper : tok.Proper)
    (h : scanFrom o cs = before ++ tok :: after) :
    ∃ u x v, cs = u ++ (x ++ v) ∧ Stands o u tok x v ∧
      scanFrom (tok.offset + byteLength x) v = after ∧
      (∃ n, scanFrom o u = before ++ [eofAt n]) ∧
      ∀ v', Softer v v' → scanFrom o (u ++ (x ++ v')) =
        before ++ tok :: scanFrom (tok.offset + byteLength x) v' := by
  induction before generalizing o cs with
  | nil =>
    rcases scanFrom_cases o cs with
      ⟨-, scanned⟩ | ⟨sp, c, rest, rfl, blank, solid, ⟨e, scanned⟩ | ⟨l, read, scanned⟩⟩
    · rw [scanned] at h
      cases h
      exact absurd rfl proper.1
    · rw [scanned] at h
      cases h
      exact absurd rfl proper.2
    · rw [scanned] at h
      cases h
      obtain ⟨t, text, rfl⟩ := lexeme_shape read
      obtain ⟨kind, text', rest⟩ := l
      dsimp only at text read ⊢
      subst text
      refine ⟨sp, c :: t, rest, rfl, ⟨rfl, rfl, c, t, rfl, solid, read⟩, rfl,
        ⟨o, scanFrom_blank blank⟩, fun v' soft => ?_⟩
      exact scanFrom_of_ok blank solid (lexeme_softer read soft)
  | cons first before ih =>
    rcases scanFrom_cases o cs with
      ⟨-, scanned⟩ | ⟨sp, c, rest, rfl, blank, solid, ⟨e, scanned⟩ | ⟨l, read, scanned⟩⟩
    · rw [scanned] at h
      simp at h
    · rw [scanned] at h
      simp at h
    · rw [scanned, List.cons_append, List.cons.injEq] at h
      obtain ⟨rfl, later⟩ := h
      obtain ⟨t, text, rfl⟩ := lexeme_shape read
      obtain ⟨kind, text', rest⟩ := l
      dsimp only at text read later ⊢
      subst text
      obtain ⟨u, x, v, rfl, stands, scanned', ⟨n, left⟩, replaced⟩ := ih later
      have size : byteLength (sp ++ c :: (t ++ u)) =
          byteLength sp + byteLength (c :: t) + byteLength u := by
        rw [← List.cons_append, byteLength_append, byteLength_append, Nat.add_assoc]
      refine ⟨sp ++ c :: (t ++ u), x, v, by simp, ⟨?_, stands.text, stands.read⟩, scanned',
        ⟨n, ?_⟩, fun v' soft => ?_⟩
      · rw [stands.offset, size, Nat.add_assoc, Nat.add_assoc, Nat.add_assoc]
      · have same := lexeme_softer read (softer_of_append u (x ++ v))
        rw [scanFrom_of_ok blank solid same, left]
        rfl
      · have softer : Softer (u ++ (x ++ v)) (u ++ (x ++ v')) :=
          (soft.append_left x).append_left u
        have same := lexeme_softer read softer
        rw [List.append_assoc, List.cons_append, List.append_assoc,
          scanFrom_of_ok blank solid same, replaced v' soft]
        rfl

theorem blank_of_scan {w : List Char} (h : scanFrom o w = [eofAt n]) :
    w.all isSpace = true ∧ n = o := by
  rcases scanFrom_cases o w with
    ⟨blank, scanned⟩ | ⟨sp, c, rest, rfl, -, -, ⟨e, scanned⟩ | ⟨l, read, scanned⟩⟩
  · rw [scanned] at h
    cases h
    exact ⟨blank, rfl⟩
  · rw [scanned] at h
    cases h
  · rw [scanned, List.cons.injEq] at h
    have isEnd := congrArg Token.kind h.1
    exact absurd isEnd (lexeme_kind read).1

/-- After its last token a text has only space, and may go on with anything else that does not go on
with the token. -/
theorem scanFrom_last {u : List Char} {before : List Token} {tok : Token}
    (h : scanFrom o u = before ++ [tok, eofAt n]) :
    ∃ t x w, u = t ++ (x ++ w) ∧ w.all isSpace = true ∧ n = o + byteLength (t ++ x) ∧
      Stands o t tok x w ∧
      ∀ v, Softer w v → scanFrom o (t ++ (x ++ v)) = before ++ tok :: scanFrom n v := by
  have proper : tok.Proper := by
    have ends : scanFrom o u = (before ++ [tok]) ++ [eofAt n] := by simp [h]
    exact (scanFrom_proper ends).1 tok (by simp)
  obtain ⟨t, x, w, rfl, stands, left, -, replaced⟩ := scanFrom_at proper h
  obtain ⟨blank, rfl⟩ := blank_of_scan left
  refine ⟨t, x, w, rfl, blank, ?_, stands, replaced⟩
  rw [stands.offset, byteLength_append, Nat.add_assoc]

/-- A text may be followed by another one that begins with a space and a token. -/
theorem scanFrom_append {u v : List Char} {before : List Token} (some : before ≠ [])
    (h : scanFrom o u = before ++ [eofAt n]) (blank : sp.all isSpace = true) (isSome : sp ≠ [])
    (solid : isSpace c = false) :
    scanFrom o (u ++ (sp ++ c :: v)) =
      before ++ scanFrom (o + byteLength u + byteLength sp) (c :: v) := by
  obtain ⟨init, tok, shape⟩ := (List.eq_nil_or_concat before).resolve_left some
  rw [List.concat_eq_append] at shape
  subst shape
  rw [List.append_assoc, List.singleton_append] at h
  obtain ⟨t, x, w, rfl, blank', rfl, -, replaced⟩ := scanFrom_last h
  have soft : Softer w (w ++ (sp ++ c :: v)) := by
    refine softer_append (fun d begins => .inr ?_) w
    obtain ⟨e, sp, rfl⟩ := List.exists_cons_of_ne_nil isSome
    cases begins
    rw [List.all_cons, Bool.and_eq_true] at blank
    exact blank.1
  have both : (w ++ sp).all isSpace = true := by rw [List.all_append, blank', blank]; rfl
  have skip := scanFrom_skip (o := o + byteLength (t ++ x)) both solid v
  have sizes : o + byteLength (t ++ x) + byteLength (w ++ sp) =
      o + byteLength (t ++ (x ++ w)) + byteLength sp := by
    simp only [byteLength_append]
    omega
  rw [List.append_assoc, sizes] at skip
  have again := replaced _ soft
  rw [skip] at again
  simpa only [List.append_assoc, List.singleton_append] using again

end PageBinding.Token
