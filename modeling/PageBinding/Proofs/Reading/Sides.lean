import PageBinding.Proofs.Reading.Forward
import PageBinding.Proofs.Reading.Placed
import PageBinding.Proofs.Token.Blank

/-!
The texts of the two sides of a binding say as much as the binding: scanned and classified on their
own they give what compiling works with, and joined by an equals sign they compile to the same
program. This rests on three facts: the scanner can be started anew at an equals sign, trimming takes
away only what the scanner skips, and accessors read the same text wherever they stand.
-/
namespace PageBinding

open Text

namespace Token

theorem map_moved_zero (ts : List Token) : ts.map (moved 0) = ts := by
  have same : moved 0 = id := by
    funext t
    unfold moved
    rw [Nat.zero_add]
    rfl
  rw [same, List.map_id]

end Token

namespace Side

theorem calls_append_eof (name : String) (ts : List Token) (stop : Nat) :
    calls name (ts ++ [Token.eofAt stop]) = calls name ts := by
  fun_induction calls name ts with
  | case1 t u rest ih =>
      rw [List.cons_append, List.cons_append, calls, ← List.cons_append, ih]
  | case2 ts other =>
      cases ts with
      | nil => rfl
      | cons t rest =>
          cases rest with
          | nil => simp [calls, Token.eofAt]
          | cons u rest => exact (other t u rest rfl).elim

theorem ofTokens_append_eof (ts : List Token) (stop : Nat) :
    ofTokens (ts ++ [Token.eofAt stop]) = ofTokens ts := by
  unfold ofTokens
  rw [calls_append_eof, calls_append_eof, List.any_append]
  simp [Token.eofAt]

end Side

/-! ## Parts of a text -/

/-- The tokens `ts` of `text` are those of the text `part`, which stands at byte `place` of it and has
the tokens `base` by itself. -/
structure StandsIn (text : String) (ts : List Token) (part : String) (base : List Token)
    (place : Nat) : Prop where
  lies : ∃ left right, text.toList = left ++ (part.toList ++ right) ∧ byteLength left = place
  scanned : ∃ stop, Token.scan part = base ++ [.eofAt stop]
  tokens : ts = base.map (Token.moved place)

/-- Both ends of a token are between two characters of its text. -/
theorem Token.scan_bounds {text : String} {ts : List Token} {stop : Nat}
    (h : scan text = ts ++ [eofAt stop]) {t : Token} (mem : t ∈ ts) :
    (∃ u v, text.toList = u ++ v ∧ byteLength u = t.offset) ∧
      ∃ u v, text.toList = u ++ v ∧ byteLength u = t.offset + t.text.utf8ByteSize := by
  obtain ⟨before, after, rfl⟩ := List.append_of_mem mem
  have proper := (scanFrom_proper h).1 t mem
  rw [List.append_assoc, List.cons_append] at h
  obtain ⟨u, x, v, shape, stands, -⟩ := scanFrom_at proper h
  have place : t.offset = byteLength u := by rw [stands.offset, Nat.zero_add]
  refine ⟨⟨u, x ++ v, shape, place.symm⟩, u ++ x, v, by rw [shape, List.append_assoc], ?_⟩
  rw [byteLength_append, place, stands.text, utf8ByteSize_ofList]

/-- A slice of a part of a text is a slice of the text. -/
theorem sliceBytes_part {left part right u v u' v' : List Char} (first : part = u ++ v)
    (last : part = u' ++ v') :
    sliceBytes (byteLength left + byteLength u) (byteLength left + byteLength u')
        (left ++ (part ++ right)) = sliceBytes (byteLength u) (byteLength u') part := by
  have dropped : dropBytes (byteLength left + byteLength u) (left ++ (part ++ right)) = v ++ right := by
    have shape : left ++ (part ++ right) = (left ++ u) ++ (v ++ right) := by simp [first]
    rw [shape, ← byteLength_append, dropBytes_append]
  have dropped' : dropBytes (byteLength u) part = v := by rw [first, dropBytes_append]
  have size : byteLength left + byteLength u' - (byteLength left + byteLength u) =
      byteLength u' - byteLength u := by omega
  rw [sliceBytes, sliceBytes, dropped, dropped', size]
  rcases List.append_eq_append_iff.1 (first.symm.trans last) with ⟨k, rfl, rfl⟩ | ⟨k, rfl, rfl⟩
  · rw [byteLength_append, Nat.add_sub_cancel_left, takeBytes_append, List.append_assoc,
      takeBytes_append]
  · rw [byteLength_append, Nat.sub_eq_zero_of_le (Nat.le_add_right _ _), takeBytes, takeBytes]

namespace StandsIn

variable {text text' part : String} {ts ts' base : List Token} {place place' : Nat}

theorem placed (h : StandsIn text ts part base place) (h' : StandsIn text' ts' part base place') :
    ts.map (Token.placed fun n => place' + (n - place)) = ts' := by
  rw [h.tokens, h'.tokens, List.map_map]
  refine List.map_congr_left fun t _ => ?_
  simp [Token.placed, Token.moved]

/-- The tokens of a part have the same text between them in both texts. -/
theorem carries (h : StandsIn text ts part base place) (h' : StandsIn text' ts' part base place') :
    Binding.Carries text text' (fun n => place' + (n - place)) ts := by
  obtain ⟨left, right, shape, rfl⟩ := h.lies
  obtain ⟨left', right', shape', rfl⟩ := h'.lies
  obtain ⟨stop, scanned⟩ := h.scanned
  rw [h.tokens]
  refine ⟨fun t mem => rfl, fun t mem u mem' => ?_⟩
  obtain ⟨t, inBase, rfl⟩ := List.mem_map.1 mem
  obtain ⟨u, inBase', rfl⟩ := List.mem_map.1 mem'
  obtain ⟨⟨a, b, first, start⟩, -⟩ := Token.scan_bounds scanned inBase
  obtain ⟨-, a', b', last, ended⟩ := Token.scan_bounds scanned inBase'
  simp only [RawText.slice, Token.rawIn, RawText.size, Token.moved_offset, Token.moved_text,
    Nat.add_sub_cancel_left, Nat.add_assoc, ← start, ← ended, shape, shape']
  rw [sliceBytes_part first last, sliceBytes_part first last]

theorem side (h : StandsIn text ts part base place) : Side.classify part = Side.ofTokens ts := by
  obtain ⟨stop, scanned⟩ := h.scanned
  unfold Side.classify
  rw [scanned, Side.ofTokens_append_eof, h.tokens]
  exact (Side.ofTokens_placed (place + ·) base).symm

theorem spelling (h : StandsIn text ts part base place) :
    (Token.scan part).map Token.spelling = ts.map Token.spelling ++ [(.eof, "EOF")] := by
  obtain ⟨stop, scanned⟩ := h.scanned
  rw [scanned, h.tokens, List.map_append, List.map_map]
  rfl

end StandsIn

/-- The tokens of a part with white space around it are those of the part without it. -/
theorem standsIn_trimmed {text : String} {ts : List Token} {left u right : List Char} {n : Nat}
    (lies : text.toList = left ++ (u ++ right)) (some : ts ≠ [])
    (scanned : Token.scanFrom (byteLength left) u = ts ++ [Token.eofAt n]) :
    Token.Solid (trimBlank u) ∧
      ∃ base place, StandsIn text ts (String.ofList (trimBlank u)) base place := by
  obtain ⟨sp, w, shape, solid, trimmed⟩ := Token.scanFrom_trimmed some scanned
  have moved := Token.scanFrom_moved (byteLength left + byteLength sp) 0 (trimBlank u)
  rw [Nat.add_zero, trimmed, eq_comm, List.map_eq_append_iff] at moved
  obtain ⟨base, last, whole, tokens, ended⟩ := moved
  obtain ⟨e, rfl, isEnd⟩ := List.map_eq_singleton_iff.1 ended
  refine ⟨solid, base, byteLength left + byteLength sp, ⟨left ++ sp, w ++ right, ?_, ?_⟩, ⟨e.offset, ?_⟩,
    tokens.symm⟩
  · rw [lies, String.toList_ofList]
    conv => lhs; rw [shape]
    simp
  · rw [byteLength_append]
  · have same : e = .eofAt e.offset := by
      obtain ⟨kind, offset, text⟩ := e
      simp only [Token.moved, Token.eofAt, Token.mk.injEq] at isEnd ⊢
      exact ⟨isEnd.1, trivial, isEnd.2.2⟩
    rw [Token.scan, String.toList_ofList, ← same]
    exact whole

namespace Binding

variable {global context : Int} {text text' : String}

section
variable {s : Setting} {a b : List Stmt} {ts ts' base : List Token} {part : String} {d d' : Nat}

theorem IsTarget.carried {template : Stmt} (isTarget : IsTarget s a ts template b)
    (isText : s.text = .chars text) (h : StandsIn text ts part base d)
    (h' : StandsIn text' ts' part base d') (stop : Nat) :
    IsTarget (s.elsewhere text' stop) a ts' template b := by
  rw [← h.placed h']
  refine isTarget.placed ?_
  rw [isText]
  exact h.carries h'

theorem IsExpr.carried {x : Expr} (isValue : IsExpr OptionalPath s a ts x b)
    (isText : s.text = .chars text) (h : StandsIn text ts part base d)
    (h' : StandsIn text' ts' part base d') (stop : Nat) :
    IsExpr OptionalPath (s.elsewhere text' stop) a ts' x b := by
  rw [← h.placed h']
  refine isValue.placed ?_
  rw [isText]
  exact h.carries h'

end

/-- A binding compiles to what it would in a text that has the same two sides. -/
theorem build_of_sides {a a' : Assignment} {target source : String} {base base' : List Token}
    {d d' e e' : Nat} (cut : Assignment.ofText text = .ok a) (cut' : Assignment.ofText text' = .ok a')
    (first : StandsIn text a.target target base d) (first' : StandsIn text' a'.target target base d')
    (last : StandsIn text a.source source base' e) (last' : StandsIn text' a'.source source base' e')
    {p : Program} (h : (build global context text).result = .ok p) :
    (build global context text').result = .ok p := by
  obtain ⟨b, template, setup, value, cut₂, isTarget, isValue, filled, isSome⟩ := build_iff.1 h
  rw [cut] at cut₂
  cases cut₂
  have movedTarget := isTarget.carried rfl first first' a'.sign
  have movedValue := isValue.carried rfl last last' a'.stop
  have sameTarget : (targetSetting text global context a).elsewhere text' a'.sign =
      targetSetting text' global context a' := by
    rw [targetSetting, Setting.elsewhere, ← first.side, first'.side]
    rfl
  have sameSource : (sourceSetting text global context a).elsewhere text' a'.stop =
      sourceSetting text' global context a' := by
    rw [sourceSetting, Setting.elsewhere, ← last.side, last'.side]
    rfl
  rw [sameTarget] at movedTarget
  rw [sameSource] at movedValue
  exact build_iff.2 ⟨a', template, setup, value, cut', movedTarget, movedValue, filled, isSome⟩

/-! ## Splitting -/

theorem split_error {e : BindingError} :
    split text = .error e ↔ Assignment.ofText text = .error e := by
  unfold split
  cases Assignment.ofText text with
  | error e' => simp
  | ok a => simp

theorem split_eq {a : Assignment} {u v : List Char} (cut : Assignment.ofText text = .ok a)
    (shape : text.toList = u ++ '=' :: v) (start : a.sign = byteLength u) :
    split text = .ok (String.ofList (trimBlank u), String.ofList (trimBlank v)) := by
  have shape' : text.toList = (u ++ ['=']) ++ v := by simp [shape]
  have size : a.sign + 1 = byteLength (u ++ ['=']) := by
    rw [byteLength_append, start]
    rfl
  unfold split
  rw [cut]
  dsimp only
  rw [size, shape', dropBytes_append, ← shape', start, shape, takeBytes_append]

/-- A text that can be cut is a target, an equals sign and a value. -/
theorem split_parts {a : Assignment} (cut : Assignment.ofText text = .ok a) :
    ∃ u v n, text.toList = u ++ '=' :: v ∧ a.sign = byteLength u ∧
      Token.scanFrom 0 u = a.target ++ [Token.eofAt n] ∧
      Token.scanFrom (byteLength (u ++ ['='])) v = a.source ++ [Token.eofAt a.stop] := by
  obtain ⟨sign, scanned, isSign, place⟩ := (Assignment.ofText_ok.1 cut).scanned
  have proper : sign.Proper := by simp [Token.Proper, isSign]
  obtain ⟨u, x, v, shape, ⟨offset, -, c, t, rfl, -, read⟩, after, ⟨n, before⟩, -⟩ :=
    Token.scanFrom_at proper scanned
  obtain ⟨rfl, rfl⟩ := List.cons.inj ((Token.lexeme_kind read).2.2 isSign)
  rw [Nat.zero_add] at offset
  refine ⟨u, v, n, shape, by rw [← place, offset], before, ?_⟩
  rw [← after, offset, byteLength_append]

/-- A part of a binding as it is cut off: a text with tokens and no white space around it. -/
structure IsSide (text : String) (ts : List Token) : Prop where
  solid : Token.Solid text.toList
  scanned : ∃ stop, Token.scan text = ts ++ [.eofAt stop]
  some : ts ≠ []

theorem IsSide.begins {side : String} {ts : List Token} (h : IsSide side ts) :
    ∃ c cs, side.toList = c :: cs ∧ Token.isSpace c = false := by
  cases shape : side.toList with
  | nil =>
      obtain ⟨stop, scanned⟩ := h.scanned
      have nothing : Token.scanFrom 0 [] = [.eofAt 0] := Token.scanFrom_blank rfl
      rw [Token.scan, shape, nothing] at scanned
      have count := congrArg List.length scanned
      have some := List.length_pos_iff.2 h.some
      rw [List.length_append, List.length_singleton, List.length_singleton] at count
      omega
  | cons c cs =>
      refine ⟨c, cs, rfl, ?_⟩
      have solid := h.solid.1 c (by rw [shape]; rfl)
      cases space : Token.isSpace c with
      | false => rfl
      | true =>
          rw [Token.isBlank_of_isSpace space] at solid
          cases solid

theorem IsSide.trimmed {side : String} {ts : List Token} (h : IsSide side ts) {sp w : List Char}
    (blank : sp.all isBlank = true) (blank' : w.all isBlank = true) :
    String.ofList (trimBlank (sp ++ (side.toList ++ w))) = side := by
  obtain ⟨c, cs, shape, -⟩ := h.begins
  rw [Token.trimBlank_solid blank blank' (by simp [shape]) h.solid, String.ofList_toList]

/-- The tokens of two sides with an equals sign between them. -/
theorem scan_joined {target source : String} {ts us : List Token} {n m : Nat} (some : ts ≠ [])
    (scanned : Token.scan target = ts ++ [Token.eofAt n]) (last : IsSide source us)
    (scanned' : Token.scan source = us ++ [Token.eofAt m]) :
    Token.scan (target ++ " = " ++ source) = ts ++ ⟨.assign, byteLength target.toList + 1, "="⟩ ::
      (us.map (Token.moved (byteLength target.toList + 3)) ++
        [Token.eofAt (byteLength target.toList + 3 + m)]) := by
  obtain ⟨c, cs, shape, solid⟩ := last.begins
  have lies : (target ++ " = " ++ source).toList =
      target.toList ++ ([' '] ++ '=' :: ([' '] ++ c :: cs)) := by simp [shape]
  have blank : [' '].all Token.isSpace = true := rfl
  have nothing : ([] : List Char).all Token.isSpace = true := rfl
  have sign : Token.lexeme '=' ([' '] ++ c :: cs) = .ok ⟨.assign, ['='], [' '] ++ c :: cs⟩ := rfl
  have moved := Token.scanFrom_moved (byteLength target.toList + 3) 0 source.toList
  rw [← Token.scan, scanned', List.map_append, List.map_singleton, Token.moved_eofAt] at moved
  rw [Token.scan, lies, Token.scanFrom_append some scanned blank (by simp) (by decide), ← moved, shape]
  have after := Token.scanFrom_of_ok (o := byteLength target.toList + 1) nothing (by decide) sign
  have skip := Token.scanFrom_skip (o := byteLength target.toList + 2) blank solid cs
  rw [Nat.zero_add]
  exact congrArg (ts ++ ·) (after.trans (congrArg (_ :: ·) skip))

/-- Two sides with an equals sign between them are the sides of the text. -/
theorem joined_sides {target source : String} {ts us : List Token} (first : IsSide target ts)
    (last : IsSide source us) (others : ∀ t ∈ ts, t.kind ≠ .assign) :
    split (target ++ " = " ++ source) = .ok (target, source) ∧ ∃ a place,
      Assignment.ofText (target ++ " = " ++ source : String) = .ok a ∧
      StandsIn (target ++ " = " ++ source) a.target target ts 0 ∧
      StandsIn (target ++ " = " ++ source) a.source source us place := by
  obtain ⟨n, scanned⟩ := first.scanned
  obtain ⟨m, scanned'⟩ := last.scanned
  let place := byteLength target.toList + 3
  let a : Assignment :=
    ⟨ts, byteLength target.toList + 1, us.map (Token.moved place), place + m⟩
  have cut : Assignment.ofText (target ++ " = " ++ source : String) = .ok a :=
    Assignment.ofText_ok.2 ⟨⟨_, scan_joined first.some scanned last scanned', rfl, rfl⟩, others,
      first.some, by simpa [a] using last.some⟩
  have lies : (target ++ " = " ++ source).toList =
      (target.toList ++ [' ']) ++ '=' :: ([' '] ++ source.toList) := by simp
  refine ⟨?_, a, place, cut, ⟨⟨[], ' ' :: '=' :: ' ' :: source.toList, by simp, rfl⟩, ⟨n, scanned⟩, ?_⟩,
    ⟨target.toList ++ [' ', '=', ' '], [], by simp, ?_⟩, ⟨m, scanned'⟩, rfl⟩
  · have left : String.ofList (trimBlank ([] ++ (target.toList ++ [' ']))) = target :=
      first.trimmed rfl rfl
    have right : String.ofList (trimBlank ([' '] ++ (source.toList ++ []))) = source :=
      last.trimmed rfl rfl
    rw [List.nil_append] at left
    rw [List.append_nil] at right
    rw [split_eq cut lies (by rw [byteLength_append]; rfl), left, right]
  · rw [Token.map_moved_zero]
  · rw [byteLength_append]
    rfl

/-- What a side is read with when it is a text of its own. -/
def sideSetting (text : String) (global context : Int) : Setting :=
  ⟨text, context, global, Side.classify text, text.utf8ByteSize⟩

theorem IsSide.standsIn {side : String} {ts : List Token} (h : IsSide side ts) :
    StandsIn side ts side ts 0 :=
  ⟨⟨[], [], by simp, rfl⟩, h.scanned, (Token.map_moved_zero ts).symm⟩

/-- Two sides that are read on their own make a binding when an equals sign is put between them. -/
theorem build_joined {target source : String} {ts us : List Token} {template assign : Stmt}
    {value : Expr} {b setup : List Stmt} (first : IsSide target ts) (last : IsSide source us)
    (others : ∀ t ∈ ts, t.kind ≠ .assign)
    (isTarget : IsTarget (sideSetting target global context) [] ts template b)
    (isValue : IsExpr OptionalPath (sideSetting source global context) b us value setup)
    (filled : template.fill? value = some assign) :
    (build global context (target ++ " = " ++ source : String)).result = .ok ⟨setup, some assign⟩ := by
  obtain ⟨-, a, place, cut, first', last'⟩ := joined_sides first last others
  have movedTarget := isTarget.carried rfl first.standsIn first' a.sign
  have movedValue := isValue.carried rfl last.standsIn last' a.stop
  rw [sideSetting, Setting.elsewhere, first'.side] at movedTarget
  rw [sideSetting, Setting.elsewhere, last'.side] at movedValue
  exact build_iff.2 ⟨a, template, b, value, cut, movedTarget, movedValue, filled.symm, rfl⟩

/-- What splitting a text gives: the texts of the two sides that compiling reads. -/
theorem split_ok {target source : String} (h : split text = .ok (target, source)) :
    ∃ a ts us d e, Assignment.ofText text = .ok a ∧ IsSide target ts ∧ IsSide source us ∧
      StandsIn text a.target target ts d ∧ StandsIn text a.source source us e := by
  cases cut : Assignment.ofText text with
  | error e =>
      rw [split_error.2 cut] at h
      cases h
  | ok a =>
      have cuts := Assignment.ofText_ok.1 cut
      obtain ⟨u, v, n, shape, start, before, after⟩ := split_parts cut
      rw [split_eq cut shape start] at h
      cases h
      have lies : text.toList = [] ++ (u ++ '=' :: v) := shape
      have lies' : text.toList = (u ++ ['=']) ++ (v ++ []) := by simp [shape]
      obtain ⟨solid, ts, d, first⟩ := standsIn_trimmed lies cuts.target before
      obtain ⟨solid', us, e, last⟩ := standsIn_trimmed lies' cuts.source after
      refine ⟨a, ts, us, d, e, rfl, ⟨?_, first.scanned, ?_⟩, ⟨?_, last.scanned, ?_⟩, first, last⟩
      · rwa [String.toList_ofList]
      · rintro rfl
        exact cuts.target first.tokens
      · rwa [String.toList_ofList]
      · rintro rfl
        exact cuts.source last.tokens

/-- Splitting, classifying and compiling agree on every text. Splitting fails exactly where compiling
fails before it reads a side. Otherwise the two texts have the tokens and the kinds that compiling
uses for the two sides, and stand for the binding: joined again they split and compile the same. -/
theorem split_agrees_with_build (global context : Int) (text : String) :
    (∀ e, split text = .error e ↔
      (build global context text).result = .error e ∧ e.fault.cause.isCutting = true) ∧
    ∀ target source, split text = .ok (target, source) →
      (∃ a sign, Assignment.ofText text = .ok a ∧
        Token.scan text = a.target ++ sign :: (a.source ++ [.eofAt a.stop]) ∧
        sign.kind = .assign ∧ (∀ t ∈ a.target, t.kind ≠ .assign) ∧
        (Token.scan target).map Token.spelling = a.target.map Token.spelling ++ [(.eof, "EOF")] ∧
        (Token.scan source).map Token.spelling = a.source.map Token.spelling ++ [(.eof, "EOF")] ∧
        Side.classify target = Side.ofTokens a.target ∧
        Side.classify source = Side.ofTokens a.source) ∧
      split (target ++ " = " ++ source) = .ok (target, source) ∧
      ∀ p, (build global context (target ++ " = " ++ source : String)).result = .ok p ↔
        (build global context text).result = .ok p := by
  refine ⟨fun e => ?_, fun target source h => ?_⟩
  · rw [split_error]
    constructor
    · intro cut
      refine ⟨?_, ofText_fault cut⟩
      unfold build
      rw [cut]
    · rintro ⟨failed, cutting⟩
      exact (build_fault failed).2 cutting
  · obtain ⟨a, ts, us, d, e, cut, isTarget, isSource, first, last⟩ := split_ok h
    have cuts := Assignment.ofText_ok.1 cut
    obtain ⟨sign, scanned, isSign, -⟩ := cuts.scanned
    have others : ∀ t ∈ ts, t.kind ≠ .assign := by
      intro t mem
      refine cuts.first (t.moved d) ?_
      rw [first.tokens]
      exact List.mem_map_of_mem mem
    obtain ⟨again, a', e', cut', first', last'⟩ := joined_sides isTarget isSource others
    refine ⟨⟨a, sign, cut, scanned, isSign, cuts.first, first.spelling, last.spelling, first.side,
      last.side⟩, again, fun p => ⟨?_, ?_⟩⟩
    · exact build_of_sides cut' cut first' first last' last
    · exact build_of_sides cut cut' first first' last last'

/-- A binding with white space of all sorts, and an accessor with a name that is not quoted. -/
def spacedBinding : String :=
  "\tx.y=attr('p', data-id , true)==1 \r"

theorem spacedBinding_agrees :
    let source := "attr('p', data-id , true)==1"
    split spacedBinding = .ok ("x.y", source) ∧ split ("x.y" ++ " = " ++ source) = .ok ("x.y", source) ∧
      ∀ p, (build 0 1 ("x.y" ++ " = " ++ source : String)).result = .ok p ↔
        (build 0 1 spacedBinding).result = .ok p := by
  intro source
  have scanned : Token.scan spacedBinding =
      [⟨.identifier, 1, "x"⟩, ⟨.dot, 2, "."⟩, ⟨.identifier, 3, "y"⟩, ⟨.assign, 4, "="⟩,
        ⟨.identifier, 5, "attr"⟩, ⟨.leftParen, 9, "("⟩, ⟨.string, 10, "'p'"⟩, ⟨.comma, 13, ","⟩,
        ⟨.identifier, 15, "data"⟩, ⟨.operator, 19, "-"⟩, ⟨.identifier, 20, "id"⟩, ⟨.comma, 23, ","⟩,
        ⟨.identifier, 25, "true"⟩, ⟨.rightParen, 29, ")"⟩, ⟨.operator, 30, "=="⟩,
        ⟨.number, 32, "1"⟩, .eofAt 33] := by
    decide +kernel
  have cut : split spacedBinding = .ok ("x.y", source) := by
    unfold split Assignment.ofText
    rw [Token.scanRaw, scanned]
    rfl
  exact ⟨cut, ((split_agrees_with_build 0 1 spacedBinding).2 _ _ cut).2⟩

end Binding

end PageBinding
