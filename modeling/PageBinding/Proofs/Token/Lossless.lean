import PageBinding.Proofs.Token.Composition

/-!
Nothing of a text is lost in scanning it. Each token is the part of the text from its place on, the
parts follow one another without overlap, and all that stands between them is space.

`scanFrom_cases` says what one step of the scanner reads, `scanFrom_resumes` that after any number of
tokens it goes on where the last of them has ended.
-/
namespace PageBinding.Token

open Text

/-- The byte at which a token has ended. -/
def stop (t : Token) : Nat :=
  t.offset + t.text.utf8ByteSize

/-- Where the last of some tokens has ended; where they begin, if there are none. -/
def stopOf (start : Nat) (ts : List Token) : Nat :=
  (ts.getLast?.map stop).getD start

/-- `part` is what `text` has from byte `start` up to byte `stop`. -/
def Spans (text : String) (start stop : Nat) (part : String) : Prop :=
  ∃ before after, text = before ++ part ++ after ∧
    before.utf8ByteSize = start ∧ start + part.utf8ByteSize = stop

theorem stopOf_cons (o : Nat) (t : Token) (ts : List Token) :
    stopOf o (t :: ts) = stopOf t.stop ts := by
  unfold stopOf
  rw [List.getLast?_cons]
  cases ts.getLast? <;> rfl

theorem stop_ofList (kind : Kind) (place : Nat) (cs : List Char) :
    stop ⟨kind, place, String.ofList cs⟩ = place + byteLength cs := by
  rw [stop, utf8ByteSize_ofList]

theorem spans_of_append (u part v : List Char) {start stop : Nat} (begins : byteLength u = start)
    (ends : start + byteLength part = stop) :
    Spans (String.ofList (u ++ (part ++ v))) start stop (String.ofList part) := by
  refine ⟨String.ofList u, String.ofList v, ?_, ?_, ?_⟩
  · rw [← String.ofList_append, ← String.ofList_append, List.append_assoc]
  · rw [utf8ByteSize_ofList, begins]
  · rw [utf8ByteSize_ofList, ends]

variable {o : Nat} {cs : List Char}

/-- The first token of a text: before it stands space only, and it is read where it stands. -/
theorem scanFrom_head {t : Token} {after : List Token} (h : scanFrom o cs = t :: after) :
    (t = eofAt o ∧ cs.all isSpace = true) ∨
      ∃ sp v, cs = sp ++ v ∧ sp.all isSpace = true ∧ t.offset = o + byteLength sp ∧
        (t.kind = .error ∨
          t.Proper ∧ ∃ x w, v = x ++ w ∧ x ≠ [] ∧ t.text = String.ofList x) := by
  rcases scanFrom_cases o cs with
    ⟨blank, scanned⟩ | ⟨sp, c, rest, rfl, blank, solid, ⟨e, scanned⟩ | ⟨l, read, scanned⟩⟩
  · rw [scanned] at h
    cases h
    exact .inl ⟨rfl, blank⟩
  · rw [scanned] at h
    cases h
    exact .inr ⟨sp, c :: rest, rfl, blank, rfl, .inl rfl⟩
  · rw [scanned] at h
    cases h
    have kind := lexeme_kind read
    exact .inr ⟨sp, c :: rest, rfl, blank, rfl, .inr ⟨⟨kind.1, kind.2.1⟩, l.text, l.rest,
      (lexeme_append read).symm, lexeme_ne_nil read, rfl⟩⟩

/-- After some tokens the scanner goes on where the last of them has ended. -/
theorem scanFrom_resumes {before after : List Token} (more : after ≠ [])
    (h : scanFrom o cs = before ++ after) :
    ∃ u v, cs = u ++ v ∧ stopOf o before = o + byteLength u ∧
      scanFrom (o + byteLength u) v = after := by
  induction before generalizing o cs with
  | nil => exact ⟨[], cs, rfl, rfl, h⟩
  | cons first before ih =>
      rcases scanFrom_cases o cs with
        ⟨-, scanned⟩ | ⟨sp, c, rest, rfl, -, -, ⟨e, scanned⟩ | ⟨l, read, scanned⟩⟩
      · simp [scanned, more] at h
      · simp [scanned, more] at h
      · rw [scanned, List.cons_append, List.cons.injEq] at h
        obtain ⟨rfl, later⟩ := h
        obtain ⟨u, v, shape, place, scanned'⟩ := ih later
        have whole : c :: rest = l.text ++ (u ++ v) := by rw [← shape, lexeme_append read]
        have size : o + byteLength (sp ++ (l.text ++ u)) =
            o + byteLength sp + byteLength l.text + byteLength u := by
          simp only [byteLength_append]
          omega
        refine ⟨sp ++ (l.text ++ u), v, by simp [whole], ?_, ?_⟩
        · rw [stopOf_cons, stop_ofList, place, size]
        · rw [size, scanned']

/-- Tokens come in order, and each begins only after those before it have ended. -/
theorem scanFrom_ordered (o : Nat) (cs : List Char) :
    (∀ t ∈ scanFrom o cs, o ≤ t.offset) ∧
      (scanFrom o cs).Pairwise fun t u => t.stop ≤ u.offset := by
  rcases scanFrom_cases o cs with
    ⟨-, scanned⟩ | ⟨sp, c, rest, shape, -, -, ⟨e, scanned⟩ | ⟨l, read, scanned⟩⟩
  · simp [scanned, eofAt]
  · simp [scanned]
  · have shorter := lexeme_rest_length read
    obtain ⟨later, ordered⟩ := scanFrom_ordered (o + byteLength sp + byteLength l.text) l.rest
    rw [scanned, List.forall_mem_cons, List.pairwise_cons, stop_ofList]
    refine ⟨⟨Nat.le_add_right .., fun t mem => ?_⟩, later, ordered⟩
    have place := later t mem
    omega
termination_by cs.length
decreasing_by
  subst_vars
  simp only [List.length_append, List.length_cons] at shorter ⊢
  omega

theorem spans_proper {before after : List Token} {t : Token} (proper : t.Proper)
    (h : scanFrom 0 cs = before ++ t :: after) :
    t.text ≠ "" ∧ Spans (String.ofList cs) t.offset t.stop t.text := by
  obtain ⟨u, v, rfl, -, scanned⟩ := scanFrom_resumes (List.cons_ne_nil t after) h
  rcases scanFrom_head scanned with
    ⟨rfl, -⟩ | ⟨sp, v, rfl, -, place, failed | ⟨-, x, w, rfl, isSome, text⟩⟩
  · exact absurd rfl proper.1
  · exact absurd failed proper.2
  · rw [Nat.zero_add, ← byteLength_append] at place
    constructor
    · rw [text, ne_eq, String.ofList_eq_empty_iff]
      exact isSome
    · rw [stop, text, utf8ByteSize_ofList, ← List.append_assoc]
      exact spans_of_append _ x w place.symm rfl

theorem spans_gap {before after : List Token} {t : Token}
    (h : scanFrom 0 cs = before ++ t :: after) :
    ∃ gap : String, gap.toList.all isSpace = true ∧
      Spans (String.ofList cs) (stopOf 0 before) t.offset gap := by
  obtain ⟨u, v, rfl, ended, scanned⟩ := scanFrom_resumes (List.cons_ne_nil t after) h
  rw [Nat.zero_add] at ended scanned
  rw [ended]
  rcases scanFrom_head scanned with ⟨rfl, -⟩ | ⟨sp, v, rfl, blank, place, -⟩
  · exact ⟨_, rfl, spans_of_append u [] v rfl rfl⟩
  · exact ⟨String.ofList sp, by rwa [String.toList_ofList], spans_of_append u sp v rfl place.symm⟩

theorem spans_rest {before : List Token} {t : Token} (isEnd : t.kind = .eof)
    (h : scanFrom 0 cs = before ++ [t]) :
    t.offset = stopOf 0 before ∧ ∃ rest : String, rest.toList.all isSpace = true ∧
      Spans (String.ofList cs) t.offset (String.ofList cs).utf8ByteSize rest := by
  obtain ⟨u, v, rfl, ended, scanned⟩ := scanFrom_resumes (List.cons_ne_nil t []) h
  rw [Nat.zero_add] at ended scanned
  rcases scanFrom_head scanned with ⟨rfl, blank⟩ | ⟨sp, v, -, -, -, failed | ⟨proper, -⟩⟩
  · refine ⟨ended.symm, String.ofList v, by rwa [String.toList_ofList], ?_⟩
    have spans := spans_of_append u v [] rfl rfl
    rwa [List.append_nil, ← byteLength_append, ← utf8ByteSize_ofList (u ++ v)] at spans
  · exact absurd (isEnd.symm.trans failed) nofun
  · exact absurd isEnd proper.1

/-- Scanning a text ends with the one token that is an end or an error. Every other token is not
empty and is the part of the text at its place. The tokens are in order and do not overlap, with
nothing but space before the first, between two of them and before an error. An end stands where the
last token has ended, and after it there is only space. -/
theorem scan_lossless (text : String) :
    ∃ before last, scan text = before ++ [last] ∧ (last.kind = .eof ∨ last.kind = .error) ∧
      (∀ t ∈ before, t.Proper ∧ t.text ≠ "" ∧ Spans text t.offset t.stop t.text) ∧
      (scan text).Pairwise (fun t u => t.stop ≤ u.offset) ∧
      (∀ left t right, scan text = left ++ t :: right →
        ∃ gap : String, gap.toList.all isSpace = true ∧ Spans text (stopOf 0 left) t.offset gap) ∧
      (last.kind = .eof → last.offset = stopOf 0 before ∧
        ∃ rest : String, rest.toList.all isSpace = true ∧
          Spans text last.offset text.utf8ByteSize rest) := by
  obtain ⟨before, last, scanned, proper, ends⟩ := scanFrom_ends 0 text.toList
  refine ⟨before, last, scanned, ?_, fun t mem => ?_, (scanFrom_ordered 0 _).2,
    fun left t right split => ?_, fun isEnd => ?_⟩
  · rcases ends with failed | ⟨n, rfl⟩
    · exact .inr failed
    · exact .inl rfl
  · obtain ⟨left, right, rfl⟩ := List.append_of_mem mem
    rw [List.append_assoc, List.cons_append] at scanned
    have spans := spans_proper (proper t mem) scanned
    rw [String.ofList_toList] at spans
    exact ⟨proper t mem, spans⟩
  · have spans := spans_gap split
    rwa [String.ofList_toList] at spans
  · have spans := spans_rest isEnd scanned
    rwa [String.ofList_toList] at spans

end PageBinding.Token
