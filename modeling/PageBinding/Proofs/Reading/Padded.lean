import PageBinding.Proofs.Reading.Sides

/-!
Space around a binding means nothing: with it and without it, the same two sides are cut from the
text, and a text compiles as its sides do.
-/
namespace PageBinding

open Text

namespace Text

theorem trimBlank_append_left {sp : List Char} (blank : sp.all isBlank = true) (cs : List Char) :
    trimBlank (sp ++ cs) = trimBlank cs := by
  have dropped : (sp ++ cs).dropWhile isBlank = cs.dropWhile isBlank :=
    List.dropWhile_append_of_pos (List.all_eq_true.1 blank)
  rw [trimBlank, trimStartBy, dropped]
  rfl

theorem trimBlank_append_right {w : List Char} (blank : w.all isBlank = true) (cs : List Char) :
    trimBlank (cs ++ w) = trimBlank cs := by
  have nothing : w.dropWhile isBlank = [] := by
    have dropped : (w ++ []).dropWhile isBlank = [].dropWhile isBlank :=
      List.dropWhile_append_of_pos (List.all_eq_true.1 blank)
    rwa [List.append_nil] at dropped
  rw [trimBlank, trimBlank, trimStartBy, trimStartBy, List.dropWhile_append]
  split
  · rename_i empty
    rw [nothing, List.isEmpty_iff.1 empty]
  · have dropped (xs : List Char) :
        (w.reverse ++ xs).dropWhile isBlank = xs.dropWhile isBlank := by
      refine List.dropWhile_append_of_pos fun c mem => ?_
      exact List.all_eq_true.1 blank c (List.mem_reverse.1 mem)
    rw [trimEndBy, trimEndBy, List.reverse_append, dropped]

end Text

namespace Token

variable {sp w cs : List Char} {c : Char}

theorem solid_trimBlank (cs : List Char) : Solid (trimBlank cs) := by
  let rest := trimStartBy isBlank cs
  constructor
  · intro d begins
    have isSuffix : rest.reverse.dropWhile isBlank <:+ rest.reverse := List.dropWhile_suffix _
    obtain ⟨w, whole⟩ : trimBlank cs <+: rest := by
      rw [← List.reverse_suffix, trimBlank, trimEndBy, List.reverse_reverse]
      exact isSuffix
    refine run_stops isBlank cs d ?_
    show d ∈ rest.head?
    rw [← whole, List.head?_append, Option.mem_def.1 begins]
    rfl
  · intro d ends
    rw [trimBlank, trimEndBy, List.getLast?_reverse] at ends
    exact run_stops isBlank rest.reverse d ends

/-- Space around a text with tokens moves them, and nothing else. -/
theorem scanFrom_padded {before : List Token} {n : Nat} (blank : sp.all isSpace = true)
    (blank' : w.all isSpace = true) (solid : isSpace c = false) (some : before ≠ [])
    (h : scanFrom 0 (c :: cs) = before ++ [eofAt n]) :
    scanFrom 0 (sp ++ (c :: cs ++ w)) =
      before.map (moved (byteLength sp)) ++ [eofAt (byteLength sp + n)] := by
  -- space after the last token cannot make it longer
  have followed : scanFrom 0 (c :: cs ++ w) = before ++ [eofAt n] := by
    obtain ⟨init, tok, shape⟩ := (List.eq_nil_or_concat before).resolve_left some
    rw [List.concat_eq_append] at shape
    subst shape
    rw [List.append_assoc, List.singleton_append] at h
    obtain ⟨t, x, v, whole, blank₀, -, -, replaced⟩ := scanFrom_last h
    have soft : Softer v (v ++ w) := by
      refine softer_append (fun d begins => .inr ?_) v
      exact List.all_eq_true.1 blank' d (List.mem_of_mem_head? begins)
    have both : (v ++ w).all isSpace = true := by rw [List.all_append, blank₀, blank']; rfl
    have longer := replaced (v ++ w) soft
    rw [scanFrom_blank both] at longer
    rw [whole, List.append_assoc, List.append_assoc, longer, List.append_assoc, List.singleton_append]
  have skip := scanFrom_skip (o := 0) blank solid (cs ++ w)
  have moved := scanFrom_moved (byteLength sp) 0 (c :: cs ++ w)
  rw [followed, List.map_append, List.map_singleton, moved_eofAt] at moved
  rw [Nat.add_comm] at skip
  exact skip.trans moved

end Token

namespace Binding

variable {global context : Int} {text part : String} {sp w : List Char}

/-- Texts with the same two sides compile to the same programs. -/
theorem build_of_split {sides : String × String} (cut : split text = .ok sides)
    (cut' : split part = .ok sides) {p : Program} (h : (build global context text).result = .ok p) :
    (build global context part).result = .ok p := by
  obtain ⟨target, source⟩ := sides
  obtain ⟨a, ts, us, d, e, isCut, -, -, first, last⟩ := split_ok cut
  obtain ⟨a', ts', us', d', e', isCut', -, -, first', last'⟩ := split_ok cut'
  have same {side : String} {xs ys : List Token} (scanned : ∃ n, Token.scan side = xs ++ [Token.eofAt n])
      (scanned' : ∃ n, Token.scan side = ys ++ [Token.eofAt n]) : xs = ys := by
    obtain ⟨n, scanned⟩ := scanned
    obtain ⟨m, scanned'⟩ := scanned'
    exact (List.append_inj' (scanned.symm.trans scanned') rfl).1
  rw [same first'.scanned first.scanned] at first'
  rw [same last'.scanned last.scanned] at last'
  exact build_of_sides isCut isCut' first first' last last' h

/-- `text` is `part` with space around it. -/
structure Padded (text part : String) (sp w : List Char) : Prop where
  shape : text.toList = sp ++ (part.toList ++ w)
  before : sp.all Token.isSpace = true
  after : w.all Token.isSpace = true
  solid : Token.Solid part.toList
  some : part.toList ≠ []

/-- A text whose white space is all space is what is left when it is trimmed, with space around it. -/
theorem padded_trim
    (spaces : trimEndBy Token.isSpace (trimStartBy Token.isSpace text.toList) = trimBlank text.toList)
    (some : trimBlank text.toList ≠ []) : ∃ sp w, Padded text (trim text) sp w := by
  let rest := trimStartBy Token.isSpace text.toList
  have inner : (trim text).toList = trimBlank text.toList := String.toList_ofList
  have front : text.toList = text.toList.takeWhile Token.isSpace ++ rest :=
    List.takeWhile_append_dropWhile.symm
  have back : rest = trimBlank text.toList ++ (rest.reverse.takeWhile Token.isSpace).reverse := by
    rw [← spaces, trimEndBy, ← List.reverse_append, List.takeWhile_append_dropWhile, List.reverse_reverse]
  refine ⟨text.toList.takeWhile Token.isSpace, (rest.reverse.takeWhile Token.isSpace).reverse, ?_, ?_, ?_,
    ?_, ?_⟩
  · rw [inner, ← back]
    exact front
  · exact List.all_takeWhile
  · rw [List.all_reverse]
    exact List.all_takeWhile
  · rw [inner]
    exact Token.solid_trimBlank text.toList
  · rwa [inner]

namespace Padded

theorem trimmed (h : Padded text part sp w) : trimBlank text.toList = part.toList := by
  rw [h.shape]
  exact Token.trimBlank_solid (Token.all_isBlank h.before) (Token.all_isBlank h.after) h.some h.solid

theorem split_text (h : Padded text part sp w) {a : Assignment} (cut : Assignment.ofText part = .ok a) :
    split text = split part := by
  obtain ⟨sign, scanned, isSign, place⟩ := (Assignment.ofText_ok.1 cut).scanned
  have cuts := Assignment.ofText_ok.1 cut
  obtain ⟨c, cs, begins⟩ := List.exists_cons_of_ne_nil h.some
  have solid : Token.isSpace c = false := by
    have notBlank := h.solid.1 c (by rw [begins]; rfl)
    cases space : Token.isSpace c with
    | false => rfl
    | true => rw [Token.isBlank_of_isSpace space] at notBlank; cases notBlank
  let far := Token.moved (byteLength sp)
  have whole : Token.scan text =
      a.target.map far ++ far sign :: (a.source.map far ++ [Token.eofAt (byteLength sp + a.stop)]) := by
    have isSome : a.target ++ sign :: a.source ≠ [] := by simp
    rw [Token.scanRaw, Token.scan, begins] at scanned
    have padded := Token.scanFrom_padded h.before h.after solid isSome
      (scanned.trans (by rw [List.append_assoc, List.cons_append]))
    rw [Token.scan, h.shape, begins, padded]
    simp [far]
  have cut' : Assignment.ofText text =
      .ok ⟨a.target.map far, byteLength sp + a.sign, a.source.map far, byteLength sp + a.stop⟩ := by
    refine Assignment.ofText_ok.2 ⟨⟨far sign, whole, isSign, ?_⟩, ?_, ?_, ?_⟩
    · rw [← place]
      rfl
    · intro t mem
      obtain ⟨t, inside, rfl⟩ := List.mem_map.1 mem
      exact cuts.first t inside
    · simpa using cuts.target
    · simpa using cuts.source
  obtain ⟨u, v, n, parts, start, -, -⟩ := split_parts cut
  have parts' : text.toList = (sp ++ u) ++ '=' :: (v ++ w) := by
    rw [h.shape, parts]
    simp
  rw [split_eq cut parts start, split_eq cut' parts' (by rw [byteLength_append, start]),
    trimBlank_append_left (Token.all_isBlank h.before),
    trimBlank_append_right (Token.all_isBlank h.after)]

theorem ofText_part (h : Padded text part sp w) {a : Assignment} (cut : Assignment.ofText text = .ok a) :
    ∃ a', Assignment.ofText part = .ok a' := by
  have cuts := Assignment.ofText_ok.1 cut
  obtain ⟨sign, scanned, isSign, -⟩ := cuts.scanned
  have isSome : a.target ++ sign :: a.source ≠ [] := by simp
  have scanned : Token.scanFrom (byteLength []) text.toList =
      (a.target ++ sign :: a.source) ++ [Token.eofAt a.stop] := by
    rw [List.append_assoc, List.cons_append]
    exact scanned
  have lies : text.toList = [] ++ (text.toList ++ []) := by simp
  obtain ⟨-, base, place, stands⟩ := standsIn_trimmed lies isSome scanned
  rw [h.trimmed, String.ofList_toList] at stands
  obtain ⟨stop, own⟩ := stands.scanned
  obtain ⟨ts, rest, rfl, target, after⟩ := List.map_eq_append_iff.1 stands.tokens.symm
  obtain ⟨sign', us, rfl, rfl, source⟩ := List.map_eq_cons_iff.1 after
  refine ⟨⟨ts, sign'.offset, us, stop⟩, Assignment.ofText_ok.2 ⟨⟨sign', ?_, isSign, rfl⟩, ?_, ?_, ?_⟩⟩
  · rw [Token.scanRaw, own, List.append_assoc, List.cons_append]
  · intro t mem
    exact cuts.first (t.moved place) (target ▸ List.mem_map_of_mem mem)
  · rintro rfl
    exact cuts.target target.symm
  · rintro rfl
    exact cuts.source source.symm

/-- A text with space around it compiles as it does without it. -/
theorem build_iff_part (h : Padded text part sp w) {p : Program} :
    (build global context text).result = .ok p ↔ (build global context part).result = .ok p := by
  have cut_of_build {text : String} (built : (build global context text).result = .ok p) :
      ∃ a, Assignment.ofText text = .ok a := by
    obtain ⟨a, -, -, -, cut, -⟩ := build_iff.1 built
    exact ⟨a, cut⟩
  have split_of_cut {text : String} {a : Assignment} (cut : Assignment.ofText text = .ok a) :
      ∃ sides, split text = .ok sides := by
    obtain ⟨u, v, n, parts, start, -, -⟩ := split_parts cut
    exact ⟨_, split_eq cut parts start⟩
  constructor
  · intro built
    obtain ⟨a, cut⟩ := cut_of_build built
    obtain ⟨a', cut'⟩ := h.ofText_part cut
    obtain ⟨sides, isSplit⟩ := split_of_cut cut'
    exact build_of_split ((h.split_text cut').trans isSplit) isSplit built
  · intro built
    obtain ⟨a, cut⟩ := cut_of_build built
    obtain ⟨sides, isSplit⟩ := split_of_cut cut
    exact build_of_split isSplit ((h.split_text cut).trans isSplit) built

end Padded

end Binding

end PageBinding
