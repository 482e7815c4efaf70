import PageBinding.Proofs.Reading.Sides
import PageBinding.Proofs.Token.Lossless

/-!
Compile errors point into their own text. Each fault is at a token of the text or at its end, and these
lie between two characters. What a reader looks up on the way there is in range: it stands at a place
of its side, and what it cuts out of the text are unbroken runs of tokens.
-/
namespace PageBinding

open Text

/-! ## Places in a text -/

namespace Token

variable {text : String}

/-- Byte `place` of a text is between two of its characters, or at one of its ends. -/
def IsBetween (text : String) (place : Nat) : Prop :=
  ∃ before after, text = before ++ after ∧ before.utf8ByteSize = place

theorem isBetween_of_mem {t : Token} (mem : t ∈ scan text) : IsBetween text t.offset := by
  obtain ⟨left, right, scanned⟩ := List.append_of_mem mem
  obtain ⟨gap, -, before, after, shape, start, size⟩ := spans_gap scanned
  rw [String.ofList_toList] at shape
  refine ⟨before ++ gap, after, shape, ?_⟩
  rw [String.utf8ByteSize_append, start, size]

theorem byteLength_pos (c : Char) (cs : List Char) : 0 < byteLength (c :: cs) := by
  have positive := c.utf8Size_pos
  simp only [byteLength]
  omega

/-- Of two places in a text the earlier one is in the part before the later one. -/
theorem append_of_byteLength_le {u v u' v' : List Char} (same : u ++ v = u' ++ v')
    (le : byteLength u ≤ byteLength u') : ∃ between, u' = u ++ between ∧ v = between ++ v' := by
  rcases List.append_eq_append_iff.1 same with found | ⟨k, rfl, rfl⟩
  · exact found
  · cases k with
    | nil => exact ⟨[], by simp⟩
    | cons c k =>
        have positive := byteLength_pos c k
        rw [byteLength_append] at le
        omega

theorem head_le_last {first last : Token} {more : List Token}
    (ordered : (first :: more).Pairwise fun t u => t.stop ≤ u.offset)
    (mem : last ∈ first :: more) : first.offset ≤ last.stop := by
  rcases List.mem_cons.1 mem with rfl | later
  · exact Nat.le_add_right _ _
  · have apart := (List.pairwise_cons.1 ordered).1 last later
    unfold Token.stop at apart ⊢
    omega

/-- An unbroken run of tokens spans a part of the text. -/
theorem spans_run {ts run : List Token} {n : Nat} (scanned : scan text = ts ++ [eofAt n])
    (inside : run <:+: ts) (some : run ≠ []) :
    ∃ first last part, run.head? = .some first ∧ run.getLast? = .some last ∧
      Binding.spanned text run = .chars part ∧ Spans text first.offset last.stop part := by
  obtain ⟨first, more, rfl⟩ := List.exists_cons_of_ne_nil some
  obtain ⟨last, isLast⟩ := Option.isSome_iff_exists.1 (List.getLast?_isSome.2 some)
  have mem : last ∈ first :: more := List.mem_of_getLast? isLast
  have ordered : (first :: more).Pairwise fun t u => t.stop ≤ u.offset := by
    refine List.Pairwise.sublist ?_ (scanFrom_ordered 0 text.toList).2
    rw [← scan, scanned]
    exact inside.sublist.trans (List.sublist_append_left ts _)
  obtain ⟨⟨u, v, shape, start⟩, -⟩ := scan_bounds scanned (inside.subset List.mem_cons_self)
  obtain ⟨-, u', v', shape', ended⟩ := scan_bounds scanned (inside.subset mem)
  have le : byteLength u ≤ byteLength u' := by
    rw [start, ended]
    exact head_le_last ordered mem
  obtain ⟨part, rfl, rfl⟩ := append_of_byteLength_le (shape.symm.trans shape') le
  have cut : Binding.spanned text (first :: more) = .chars (String.ofList part) := by
    simp only [Binding.spanned, List.head?_cons, isLast, RawText.slice, Token.rawIn, RawText.size,
      sliceBytes]
    rw [← start, ← ended, byteLength_append, Nat.add_sub_cancel_left, shape, dropBytes_append,
      takeBytes_append]
  refine ⟨first, last, _, rfl, isLast, cut, ?_⟩
  rw [← String.ofList_toList (s := text), shape]
  refine spans_of_append u part v' start ?_
  rw [← start, ← byteLength_append, ended, Token.stop]

end Token

/-! ## Looking things up -/

namespace Binding

variable {stop : Nat} {fn text : String}

/-- Each argument of an accessor is an unbroken run of tokens. -/
theorem arguments_infix {start : Token} {depth : Nat} {current toks rest : List Token}
    {args : List (List Token)} (h : arguments fn start depth current toks = .ok (args, rest)) :
    ∀ arg ∈ args, arg <:+: current.reverse ++ toks := by
  fun_induction arguments fn start depth current toks generalizing args rest with
  | case1 => cases h
  | case2 depth current t more opens ih => simpa using ih h
  | case3 depth current t more opens closes deep ih => simpa using ih h
  | case4 => cases h
  | case5 depth current t more opens closes outside bracket =>
      cases h
      exact List.forall_mem_singleton.2 (List.prefix_append _ _).isInfix
  | case6 => cases h
  | case7 depth current t more opens closes comma args' rest' read ih =>
      cases h
      intro arg mem
      rcases List.mem_cons.1 mem with rfl | mem
      · exact (List.prefix_append _ _).isInfix
      · have later := ih read arg mem
        rw [List.reverse_nil, List.nil_append] at later
        exact later.trans ⟨current.reverse ++ [t], [], by simp⟩
  | case8 depth current t more opens closes other ih => simpa using ih h

/-- What readers look up in a side is there. A place of the side is an end of its tokens: what is left
to read. -/
structure InRange (text : String) (s : Setting) (side : List Token) : Prop where
  /-- Readers go from place to place. -/
  readers : ∀ fuel, ReadsOn s side fuel
  /-- The next token is the one at the same position in the side with its end. -/
  next : ∀ {toks}, toks <:+ side →
    (side ++ [Token.eofAt s.stop])[side.length - toks.length]? = some (nextToken s.stop toks)
  /-- A path has a name, and two tokens before its end there is a place unless it has no more. -/
  path : ∀ {toks names rest}, toks <:+ side → path s.stop toks = .ok (names, rest) →
    names ≠ [] ∧ (1 < names.length →
      ∃ dot name, toks.drop (2 * names.length - 3) = dot :: name :: rest)
  /-- Arguments that are as many as they should be, and not empty, can be cut out of the text. -/
  accessor : ∀ {fn start toks args rest}, toks <:+ side →
    arguments fn start 0 [] toks = .ok (args, rest) → 2 ≤ args.length → firstEmpty 1 args = none →
    (∃ selector name flags, args = selector :: name :: flags) ∧
      ∀ arg ∈ args, ∃ first last part, arg.head? = some first ∧ arg.getLast? = some last ∧
        spanned s.text arg = .chars part ∧ Token.Spans text first.offset last.stop part

theorem nextToken_at {side toks : List Token} (inside : toks <:+ side) :
    (side ++ [Token.eofAt stop])[side.length - toks.length]? = some (nextToken stop toks) := by
  obtain ⟨before, rfl⟩ := inside
  rw [List.length_append, Nat.add_sub_cancel, List.append_assoc, List.getElem?_append_right (Nat.le_refl _),
    Nat.sub_self]
  cases toks <;> rfl

theorem path_steps_back {toks rest : List Token} {names : List String}
    (h : path stop toks = .ok (names, rest)) :
    names ≠ [] ∧ (1 < names.length →
      ∃ dot name, toks.drop (2 * names.length - 3) = dot :: name :: rest) := by
  obtain ⟨ts, rfl, isPath, -⟩ := path_sound h
  have size := isPath.length
  refine ⟨List.length_pos_iff.1 size.2, fun long => ?_⟩
  obtain ⟨ts', dot, name, rfl, -⟩ := isPath.split_last (by omega)
  have taken : ts'.length = 2 * names.length - 3 := by
    simp only [List.length_append, List.length_cons, List.length_nil] at size
    omega
  refine ⟨dot, name, ?_⟩
  rw [← taken, List.append_assoc, List.drop_left]
  rfl

theorem inRange {s : Setting} {side ts : List Token} {n : Nat} (isText : s.text = .chars text)
    (scanned : Token.scan text = ts ++ [Token.eofAt n]) (part : side <:+: ts) :
    InRange text s side where
  readers := readsOn s side
  next := nextToken_at
  path := fun _ => path_steps_back
  accessor := by
    intro fn start toks args rest inside read enough noneEmpty
    constructor
    · cases args with
      | nil => simp at enough
      | cons selector args =>
          cases args with
          | nil => simp at enough
          | cons name flags => exact ⟨selector, name, flags, rfl⟩
    · intro arg mem
      have run := arguments_infix read arg mem
      rw [List.reverse_nil, List.nil_append] at run
      rw [isText]
      exact Token.spans_run scanned ((run.trans inside.isInfix).trans part)
        (firstEmpty_none noneEmpty arg mem)

/-! ## Errors -/

/-- Where a fault of a text is: at its end or at one of its tokens. -/
def IsPlace (text : String) (place : Nat) : Prop :=
  place = text.utf8ByteSize ∨ ∃ t ∈ Token.scan text, place = t.offset

theorem isBetween_of_isPlace {place : Nat} (h : IsPlace text place) : Token.IsBetween text place := by
  rcases h with rfl | ⟨t, mem, rfl⟩
  · exact ⟨text, "", by simp, rfl⟩
  · exact Token.isBetween_of_mem mem

theorem ofText_place {e : BindingError} (h : Assignment.ofText text = .error e) :
    e.text = text ∧ IsPlace text e.fault.offset := by
  obtain ⟨before, last, scanned, -⟩ := Token.scanFrom_ends 0 text.toList
  have scanned : Token.scan text = before ++ [last] := scanned
  unfold Assignment.ofText Assignment.ofTokens at h
  simp only [Token.scanRaw, scanned, List.getLast?_concat, Option.getD_some, List.dropLast_concat] at h
  split at h
  · cases h
  rename_i fault failed
  cases h
  refine ⟨rfl, ?_⟩
  dsimp only
  split at failed
  · cases failed
    exact .inr ⟨last, by simp [scanned], rfl⟩
  split at failed
  · cases failed
    exact .inl rfl
  rename_i target sign source divided
  have mem : sign ∈ Token.scan text := by
    rw [scanned, (Assignment.divide_eq_some.1 divided).1]
    simp
  split at failed
  · cases failed
    exact .inr ⟨sign, mem, rfl⟩
  split at failed
  · cases failed
    exact .inr ⟨sign, mem, rfl⟩
  · cases failed

theorem faultOf_place {side : List Token} {fault : Fault} (h : FaultOf stop side fault)
    (sub : side ⊆ Token.scan text) (ended : ∃ t ∈ Token.scan text, t.offset = stop) :
    IsPlace text fault.offset := by
  obtain ⟨-, t, mem | rfl, place⟩ := h
  · exact .inr ⟨t, sub mem, place⟩
  · obtain ⟨t, mem, same⟩ := ended
    exact .inr ⟨t, mem, place.trans same.symm⟩

theorem build_place {global context : Int} {e : BindingError}
    (h : (build global context text).result = .error e) :
    e.text = text ∧ IsPlace text e.fault.offset ∧ e.fault.cause.isInternal = false := by
  unfold build at h
  split at h
  · rename_i failed
    cases h
    have cutting := ofText_fault failed
    refine ⟨(ofText_place failed).1, (ofText_place failed).2, ?_⟩
    cases cause : e.fault.cause <;> simp [cause, Cause.isCutting] at cutting <;> rfl
  rename_i a cut
  split at h
  · cases h
  rename_i fault progress failed
  cases h
  obtain ⟨sign, scanned, -, place⟩ := (Assignment.ofText_ok.1 cut).scanned
  have scanned : Token.scan text = _ := scanned
  rcases program_fault failed with found | found
  · exact ⟨rfl, faultOf_place found (by simp [scanned]) ⟨sign, by simp [scanned], place⟩,
      found.not_internal⟩
  · refine ⟨rfl, faultOf_place found (fun t mem => ?_) ⟨.eofAt a.stop, by simp [scanned], rfl⟩,
      found.not_internal⟩
    simp [scanned, mem]

/-- Compiling gives a program or an error about the very text. The error is at a token of the text or at
its end, so between two characters, and it is never that an assignment has no place for its value or
that the text is too deep. On the way there nothing is looked up that is not there. -/
theorem build_error_in_text (global context : Int) (text : String) :
    ((∃ p, (build global context text).result = .ok p) ∨
      ∃ e, (build global context text).result = .error e ∧ e.text = text ∧
        (e.fault.offset = text.utf8ByteSize ∨ ∃ t ∈ Token.scan text, e.fault.offset = t.offset) ∧
        (∃ before after, text = before ++ after ∧ before.utf8ByteSize = e.fault.offset) ∧
        e.fault.cause ≠ .noPlaceholder ∧ e.fault.cause ≠ .tooDeep) ∧
    Token.scan text ≠ [] ∧
    ∀ a, Assignment.ofText text = .ok a →
      InRange text (targetSetting text global context a) a.target ∧
      InRange text (sourceSetting text global context a) a.source := by
  refine ⟨?_, ?_, fun a cut => ?_⟩
  · cases result : (build global context text).result with
    | ok p => exact .inl ⟨p, rfl⟩
    | error e =>
        obtain ⟨same, place, reason⟩ := build_place result
        refine .inr ⟨e, rfl, same, place, isBetween_of_isPlace place, ?_, ?_⟩
        · intro cause
          rw [cause] at reason
          cases reason
        · intro cause
          rw [cause] at reason
          cases reason
  · obtain ⟨before, last, scanned, -⟩ := Token.scanFrom_ends 0 text.toList
    rw [Token.scan, scanned]
    simp
  · obtain ⟨sign, scanned, -⟩ := (Assignment.ofText_ok.1 cut).scanned
    rw [← List.cons_append, ← List.append_assoc] at scanned
    exact ⟨inRange rfl scanned (List.prefix_append _ _).isInfix,
      inRange rfl scanned ⟨a.target ++ [sign], [], by simp⟩⟩

end Binding

end PageBinding
