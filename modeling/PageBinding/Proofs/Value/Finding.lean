import PageBinding.Proofs.Number.Whole
import PageBinding.Proofs.Text.Search
import PageBinding.Proofs.Value.Equality
import PageBinding.Proofs.Value.Slicing

/-!
Finding one text in another. Texts are searched byte by byte, and positions count characters. A text
of characters begins where a character begins, so the position at which it is found is the one from
which it can be cut out again.
-/
namespace PageBinding

namespace Text

variable {text : List UInt8} {cs ts : List Char} {i j : Nat}

/-- The characters around a text that is found. -/
theorem pieces_found (found : indexOf (encode ts) text = some i) :
    ∃ rest, pieces text = pieces (text.take i) ++ (ts.map .inl ++ pieces rest) := by
  obtain ⟨-, ⟨rest, around⟩, first⟩ := indexOf_eq_some_iff.1 found
  refine ⟨rest, ?_⟩
  cases ts with
  | nil =>
    have start : i = 0 := by
      by_contra later
      exact first 0 (Nat.pos_of_ne_zero later) List.nil_prefix
    subst start
    have all : rest = text := around
    simp [all]
  | cons c ts =>
    have begins : Begins (encode (c :: ts) ++ rest) := by
      rw [encode_cons, List.append_assoc]
      exact begins_char c _
    rw [← pieces_encode, ← pieces_append begins, around, List.take_append_drop]

theorem toList_found {t : String} (found : indexOf (toBytes t) text = some i) :
    ∃ rest, (ofBytes text).toList =
      (pieces (text.take i)).map pieceChar ++ (t.toList ++ rest) := by
  obtain ⟨rest, around⟩ := pieces_found found
  refine ⟨(pieces rest).map pieceChar, ?_⟩
  simp [around, Function.comp_def, pieceChar]

theorem length_found {t : String} (found : indexOf (toBytes t) text = some i) :
    (pieces (text.take i)).length + t.length ≤ (ofBytes text).length := by
  obtain ⟨rest, all⟩ := toList_found found
  rw [← String.length_toList (s := t), ← String.length_toList (s := ofBytes text), all]
  simp only [List.length_append, List.length_map]
  omega

theorem length_encode_lt (before : j < i) (inside : i ≤ cs.length) :
    (encode (cs.take j)).length < (encode (cs.take i)).length := by
  have parts : cs.take i = cs.take j ++ (cs.take i).drop j := by
    conv_lhs => rw [← List.take_append_drop j (cs.take i), List.take_take, Nat.min_eq_left before.le]
  obtain ⟨c, ds, more⟩ : ∃ c ds, (cs.take i).drop j = c :: ds := by
    apply List.exists_cons_of_length_pos
    simp
    omega
  rw [parts, more, encode_append, encode_cons, List.length_append, List.length_append]
  have some : 0 < (String.utf8EncodeChar c).length := by simp [Char.utf8Size_pos]
  omega

/-- The first position of some characters is that of their bytes. -/
theorem not_before_found (found : indexOf (encode ts) (encode cs) = some i)
    (before : j < (pieces ((encode cs).take i)).length) : (cs.drop j).take ts.length ≠ ts := by
  intro same
  obtain ⟨inside, -, first⟩ := indexOf_eq_some_iff.1 found
  obtain ⟨rest, around⟩ := pieces_found found
  obtain ⟨k, position⟩ : ∃ k, k = (pieces ((encode cs).take i)).length := ⟨_, rfl⟩
  have all : pieces (encode cs) = cs.map .inl := by simpa using pieces_encode cs []
  rw [all] at around
  have within : k ≤ cs.length := by
    have lengths := congrArg List.length around
    simp at lengths
    omega
  have start : (encode cs).take i = encode (cs.take k) := by
    have begun := congrArg (List.take k) around
    rw [List.take_left' position.symm, ← List.map_take] at begun
    rw [← flatMap_pieces ((encode cs).take i), ← begun, List.flatMap_map]
    rfl
  have size : i = (encode (cs.take k)).length := by
    rw [← start, List.length_take, Nat.min_eq_left inside]
  refine first (encode (cs.take j)).length ?_ ?_
  · rw [size]
    exact length_encode_lt (position ▸ before) within
  · have parts : encode cs = encode (cs.take j) ++ encode (cs.drop j) := by
      rw [← encode_append, List.take_append_drop]
    rw [parts, List.drop_left, ← List.take_append_drop ts.length (cs.drop j), same, encode_append]
    exact List.prefix_append _ _

end Text

namespace Value

variable {x y : Float} {i j n : Nat} {fromEnd : Bool}

theorem bound_count (h : Number.IsCount x i) (within : i ≤ n) (default : Nat) :
    bound n fromEnd default (number x) = i := by
  unfold bound
  rw [if_neg (by simp [isUndefined]), toNumber, h.toInt?]
  have notNegative : ¬(i : Int) < 0 := by omega
  simp [notNegative, within]

theorem slice_count (cs : List Char) (h : Number.IsCount x i) (h' : Number.IsCount y (i + j))
    (within : i + j ≤ cs.length) : slice cs (number x) (number y) = (cs.drop i).take j := by
  rw [slice, bound_count h (by omega), bound_count h' within, part, List.drop_take]
  congr 1
  omega

theorem ofNat_ne (n : Nat) : ofNat n ≠ number (-1.0) := by
  intro same
  have least := zero_le_ofNat n
  rw [number.inj same] at least
  exact absurd least (by decide)

end Value

namespace Expr

variable (w : World) (f : Frame) (locals : Locals) {x y z : Expr} {text needle : List UInt8}

theorem eval_includes (isText : x.eval w f locals = .ok (.ofBytes text))
    (isNeedle : y.eval w f locals = .ok (.ofBytes needle)) :
    (call x "includes" [y]).eval w f locals = .ok (.bool (Text.contains needle text)) := by
  apply eval_textMethod w f locals isText (evalAll_one w f locals isNeedle)
  conv_rhs => rw [← Value.toBytes_ofBytes text, ← Value.toBytes_ofBytes needle]
  rfl

theorem eval_indexOf (isText : x.eval w f locals = .ok (.ofBytes text))
    (isNeedle : y.eval w f locals = .ok (.ofBytes needle)) :
    (call x "indexOf" [y]).eval w f locals = .ok (((Text.indexOf needle text).map fun i =>
      Value.ofNat (Text.pieces (text.take i)).length).getD (.number (-1.0))) := by
  apply eval_textMethod w f locals isText (evalAll_one w f locals isNeedle)
  conv_rhs => rw [← Value.toBytes_ofBytes text, ← Value.toBytes_ofBytes needle]
  rfl

theorem eval_length (isText : x.eval w f locals = .ok (.ofBytes text)) :
    (member x "length").eval w f locals = .ok (.ofNat (Text.ofBytes text).length) := by
  show (x.eval w f locals >>= fun v => w.getMember v "length") = _
  rw [isText]
  show w.getMember (.ofBytes text) "length" = _
  simp [World.getMember, World.member?]

/-- As many characters from a position on as another text has. -/
theorem eval_partAt (isText : x.eval w f locals = .ok (.ofBytes text))
    (isNeedle : y.eval w f locals = .ok (.ofBytes needle)) {j : Nat}
    (position : z.eval w f locals = .ok (.ofNat j))
    (within : j + (Text.ofBytes needle).length ≤ (Text.ofBytes text).length)
    (short : (Text.ofBytes text).length ≤ 2 ^ 53) :
    (call x "slice" [z, binary .add z (member y "length")]).eval w f locals =
      .ok (.ofChars (((Text.ofBytes text).toList.drop j).take (Text.ofBytes needle).length)) := by
  have stop := eval_add w f locals position (eval_length w f locals isNeedle)
  rw [eval_slice w f locals isText (evalAll_two w f locals position stop)]
  have start := Number.isCount_ofNat (n := j) (by omega)
  have length := Number.isCount_ofNat (n := (Text.ofBytes needle).length) (by omega)
  have sum := start.add length (by omega)
  rw [← String.length_toList] at within
  exact congrArg (Except.ok ∘ Value.ofChars) (Value.slice_count _ start sum within)

/-- A text is found where it can be cut out. -/
theorem eval_part_found {t : String} (isText : x.eval w f locals = .ok (.ofBytes text))
    (isNeedle : y.eval w f locals = .ok (.ofBytes (Text.toBytes t)))
    (short : (Text.ofBytes text).length ≤ 2 ^ 53) {i : Nat}
    (found : Text.indexOf (Text.toBytes t) text = some i)
    (position : z.eval w f locals = .ok (.ofNat (Text.pieces (text.take i)).length)) :
    (call x "slice" [z, binary .add z (member y "length")]).eval w f locals =
      .ok (.ofBytes (Text.toBytes t)) := by
  have within := Text.length_found found
  rw [← Text.ofBytes_toBytes t] at within
  obtain ⟨rest, all⟩ := Text.toList_found found
  rw [eval_partAt w f locals isText isNeedle position within short, all, List.drop_left' (by simp),
    Text.ofBytes_toBytes, ← String.length_toList, List.take_left, Value.ofChars, String.ofList_toList,
    Value.ofBytes_toBytes]

/-- From no earlier position can it be cut out. -/
theorem eval_part_before {s : String} (isText : x.eval w f locals = .ok (.ofBytes (Text.toBytes s)))
    (isNeedle : y.eval w f locals = .ok (.ofBytes needle)) (short : s.length ≤ 2 ^ 53) {i j : Nat}
    (found : Text.indexOf needle (Text.toBytes s) = some i)
    (before : j < (Text.pieces ((Text.toBytes s).take i)).length)
    (position : z.eval w f locals = .ok (.ofNat j)) :
    (call x "slice" [z, binary .add z (member y "length")]).eval w f locals ≠
      .ok (.ofBytes needle) := by
  intro same
  -- parts consist of characters
  obtain ⟨t, rfl⟩ : ∃ t, Text.toBytes t = needle := by
    have stop := eval_add w f locals position (eval_length w f locals isNeedle)
    rw [eval_slice w f locals isText (evalAll_two w f locals position stop)] at same
    refine ⟨_, (congrArg Value.toBytes (Except.ok.inj same)).trans (Value.toBytes_ofBytes needle)⟩
  have within :
      j + (Text.ofBytes (Text.toBytes t)).length ≤ (Text.ofBytes (Text.toBytes s)).length := by
    have fits := Text.length_found found
    rw [Text.ofBytes_toBytes t]
    omega
  have fits : (Text.ofBytes (Text.toBytes s)).length ≤ 2 ^ 53 := by
    rw [Text.ofBytes_toBytes]
    exact short
  rw [eval_partAt w f locals isText isNeedle position within fits,
    Text.ofBytes_toBytes, Text.ofBytes_toBytes, Value.ofBytes_toBytes] at same
  apply Text.not_before_found found before
  rw [String.length_toList, ← String.toList_ofList (l := (s.toList.drop j).take t.length)]
  exact congrArg String.toList (Value.string.inj (Except.ok.inj same))

/-- Whether and where a text is found. It is found if it stands anywhere, at a position from which it
can be cut out if it consists of characters; and from no earlier position, if the text that is
searched does. -/
theorem found_first (isText : x.eval w f locals = .ok (.ofBytes text))
    (isNeedle : y.eval w f locals = .ok (.ofBytes needle))
    (short : (Text.ofBytes text).length ≤ 2 ^ 53) :
    let position := call x "indexOf" [y]
    let partAt (z : Expr) := call x "slice" [z, binary .add z (member y "length")]
    ∃ found : Bool, (call x "includes" [y]).eval w f locals = .ok (.bool found) ∧
      (found = true ↔ needle <:+: text) ∧
      (found = true ↔ position.eval w f locals ≠ .ok (.number (-1.0))) ∧
      (found = true → ∃ k : Nat, position.eval w f locals = .ok (.ofNat k) ∧
        ((Text.ofBytes? needle).isSome = true →
          (partAt position).eval w f locals = .ok (.ofBytes needle)) ∧
        ((Text.ofBytes? text).isSome = true → ∀ j < k, ∀ z, z.eval w f locals = .ok (.ofNat j) →
          (partAt z).eval w f locals ≠ .ok (.ofBytes needle))) := by
  intro position partAt
  have answer := eval_indexOf w f locals isText isNeedle
  refine ⟨_, eval_includes w f locals isText isNeedle, Text.contains_iff, ?_, fun found => ?_⟩
  · rw [answer, Text.contains]
    cases Text.indexOf needle text with
    | none => simp
    | some i => simp [Value.ofNat_ne]
  · obtain ⟨i, index⟩ := Option.isSome_iff_exists.1 found
    rw [index] at answer
    refine ⟨_, answer, fun characters => ?_, fun characters j before z earlier => ?_⟩
    · obtain ⟨t, same⟩ := Option.isSome_iff_exists.1 characters
      obtain rfl := Text.ofBytes?_eq_some_iff.1 same
      exact eval_part_found w f locals isText isNeedle short index answer
    · obtain ⟨s, same⟩ := Option.isSome_iff_exists.1 characters
      obtain rfl := Text.ofBytes?_eq_some_iff.1 same
      rw [Text.ofBytes_toBytes] at short
      exact eval_part_before w f locals isText isNeedle short index before earlier

/-- A text found after characters of several bytes. -/
theorem found_first_accented :
    let x : Expr := lit "" (.string "é→naïve é→")
    let y : Expr := lit "" (.string "ïv")
    ∀ (w : World) (f : Frame), (call x "includes" [y]).eval w f [] = .ok (.bool true) ∧
      (call x "slice" [call x "indexOf" [y],
        binary .add (call x "indexOf" [y]) (member y "length")]).eval w f [] = y.eval w f [] := by
  intro x y w f
  have isText : x.eval w f [] = .ok (.ofBytes (Text.toBytes "é→naïve é→")) := by
    rw [Value.ofBytes_toBytes]
    rfl
  have isNeedle : y.eval w f [] = .ok (.ofBytes (Text.toBytes "ïv")) := by
    rw [Value.ofBytes_toBytes]
    rfl
  have short : (Text.ofBytes (Text.toBytes "é→naïve é→")).length ≤ 2 ^ 53 := by
    rw [Text.ofBytes_toBytes]
    decide
  obtain ⟨found, includes, anywhere, -, first⟩ := found_first w f [] isText isNeedle short
  have here : found = true := anywhere.2 (by decide)
  obtain ⟨k, -, again, -⟩ := first here
  rw [here] at includes
  refine ⟨includes, (again ?_).trans isNeedle.symm⟩
  rw [Text.ofBytes?_eq_some_iff.2 rfl]
  rfl

/-- A byte that belongs to no character is found, but not cut out again. -/
theorem stray_byte_found :
    let x : Expr := lit "" (.ofBytes [0xff])
    ∀ (w : World) (f : Frame), (call x "includes" [x]).eval w f [] = .ok (.bool true) ∧
      (call x "slice" [call x "indexOf" [x],
        binary .add (call x "indexOf" [x]) (member x "length")]).eval w f [] =
          .ok (.string "\ufffd") ∧
      x.eval w f [] ≠ .ok (.string "\ufffd") := by
  intro x w f
  have isText : x.eval w f [] = .ok (.ofBytes [0xff]) := rfl
  have position : (call x "indexOf" [x]).eval w f [] = .ok (.ofNat 0) :=
    eval_indexOf w f [] isText isText
  refine ⟨eval_includes w f [] isText isText, ?_, ?_⟩
  · exact eval_partAt w f [] isText isText position (by decide) (by decide)
  · rw [isText]
    show Except.ok (Value.bytes [0xff]) ≠ .ok (Value.string "\ufffd")
    simp

end Expr

end PageBinding
