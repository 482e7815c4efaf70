import PageBinding.Text.Bytes

/-!
Bytes taken apart into characters and stray bytes. Nothing is lost (`flatMap_pieces`), the characters
of a text are found again (`pieces_encode`), and bytes may be taken apart in two goes wherever the
second begins with the first byte of a character (`pieces_append`).
-/
namespace PageBinding.Text

open String (utf8EncodeChar)

variable {b : UInt8} {bytes rest : List UInt8} {c : Char}

/-- The byte does not go on with a character that began before it. -/
def Begins (bytes : List UInt8) : Prop :=
  ∀ b ∈ bytes.head?, b.IsUTF8FirstByte

theorem firstChar?_eq_some_iff : firstChar? bytes = some c ↔ utf8EncodeChar c <+: bytes := by
  have size : (utf8EncodeChar c).length ≤ 4 := by
    rw [String.length_utf8EncodeChar]
    exact c.utf8Size_le_four
  constructor
  · intro found
    obtain ⟨last, parts⟩ := ByteArray.exists_of_utf8DecodeChar?_eq_some found
    have parts : bytes.take 4 = utf8EncodeChar c ++ last.data.toList := by
      simpa using congrArg (fun bs => bs.data.toList) parts
    refine ⟨last.data.toList ++ bytes.drop 4, ?_⟩
    rw [← List.append_assoc, ← parts, List.take_append_drop]
  · rintro ⟨rest, rfl⟩
    have parts : ByteArray.mk ((utf8EncodeChar c ++ rest).take 4).toArray =
        (utf8EncodeChar c).toByteArray ++
          (rest.take (4 - (utf8EncodeChar c).length)).toByteArray := by
      rw [List.take_append, List.take_of_length_le size]
      apply ByteArray.ext
      simp
    rw [firstChar?, parts]
    exact ByteArray.utf8DecodeChar?_utf8EncodeChar_append

theorem begins_char (c : Char) (rest : List UInt8) : Begins (utf8EncodeChar c ++ rest) := by
  intro b first
  have positive : 0 < (utf8EncodeChar c).length := List.length_pos_iff.2 String.utf8EncodeChar_ne_nil
  have head : (utf8EncodeChar c)[0] = b := by
    rw [List.head?_append, List.head?_eq_getElem?, List.getElem?_eq_getElem positive] at first
    simpa using first
  rw [← head]
  exact UInt8.isUTF8FirstByte_getElem_zero_utf8EncodeChar

/-! ## Taking apart -/

theorem piecesAt_eq (skip : Nat) (bytes : List UInt8) :
    piecesAt skip bytes = pieces (bytes.drop skip) := by
  induction bytes generalizing skip with
  | nil => simp [pieces, piecesAt]
  | cons b bytes ih =>
    cases skip with
    | zero => rfl
    | succ skip => simpa [piecesAt] using ih skip

@[simp]
theorem pieces_nil : pieces [] = [] := rfl

@[simp]
theorem pieces_char (c : Char) (rest : List UInt8) :
    pieces (utf8EncodeChar c ++ rest) = .inl c :: pieces rest := by
  have found : firstChar? (utf8EncodeChar c ++ rest) = some c :=
    firstChar?_eq_some_iff.2 (List.prefix_append _ _)
  have size := String.length_utf8EncodeChar c
  obtain ⟨b, bytes, shape⟩ := List.exists_cons_of_ne_nil (String.utf8EncodeChar_ne_nil (c := c))
  rw [shape, List.cons_append] at found ⊢
  rw [pieces, piecesAt]
  simp only [found]
  have length : bytes.length = c.utf8Size - 1 := by
    rw [shape, List.length_cons] at size
    omega
  rw [piecesAt_eq, ← length, List.drop_left]

theorem pieces_stray (stray : firstChar? (b :: rest) = none) :
    pieces (b :: rest) = .inr b :: pieces rest := by
  rw [pieces, piecesAt]
  simp only [stray]
  rfl

/-- Bytes begin with a character or with a stray byte. -/
theorem pieces_induction {P : List UInt8 → Prop} (nil : P [])
    (char : ∀ c rest, P rest → P (utf8EncodeChar c ++ rest))
    (stray : ∀ b rest, firstChar? (b :: rest) = none → P rest → P (b :: rest))
    (bytes : List UInt8) : P bytes := by
  induction length : bytes.length using Nat.strongRecOn generalizing bytes with
  | ind n ih =>
    cases bytes with
    | nil => exact nil
    | cons b bytes =>
      cases first : firstChar? (b :: bytes) with
      | none => exact stray b bytes first (ih _ (by simp [← length]) bytes rfl)
      | some c =>
        obtain ⟨rest, parts⟩ := firstChar?_eq_some_iff.1 first
        have size := String.length_utf8EncodeChar c
        have positive := c.utf8Size_pos
        rw [← parts, List.length_append] at length
        rw [← parts]
        exact char c rest (ih _ (by omega) rest rfl)

theorem flatMap_pieces (bytes : List UInt8) : (pieces bytes).flatMap pieceBytes = bytes := by
  induction bytes using pieces_induction with
  | nil => rfl
  | char c rest ih => rw [pieces_char, List.flatMap_cons, ih, pieceBytes]
  | stray b rest none ih =>
    rw [pieces_stray none, List.flatMap_cons, ih]
    rfl

/-- Bytes that belong to no character still belong to none when some of what follows is cut off. -/
theorem pieces_of_front {ps : List (Char ⊕ UInt8)} (front : ps <+: pieces bytes) :
    pieces (ps.flatMap pieceBytes) = ps := by
  induction bytes using pieces_induction generalizing ps with
  | nil =>
    rw [List.prefix_nil.1 front]
    rfl
  | char c rest ih =>
    rw [pieces_char] at front
    rcases List.prefix_cons_iff.1 front with rfl | ⟨qs, rfl, shorter⟩
    · rfl
    · rw [List.flatMap_cons, pieceBytes, pieces_char, ih shorter]
  | stray b rest stray ih =>
    rw [pieces_stray stray] at front
    rcases List.prefix_cons_iff.1 front with rfl | ⟨qs, rfl, shorter⟩
    · rfl
    · have bytes : qs.flatMap pieceBytes <+: rest := by
        obtain ⟨more, whole⟩ := shorter
        refine ⟨more.flatMap pieceBytes, ?_⟩
        rw [← List.flatMap_append, whole, flatMap_pieces]
      have still : firstChar? (b :: qs.flatMap pieceBytes) = none := by
        refine Option.eq_none_iff_forall_ne_some.2 fun c found => ?_
        have longer := (firstChar?_eq_some_iff.1 found).trans ((List.prefix_cons_inj b).2 bytes)
        rw [firstChar?_eq_some_iff.2 longer] at stray
        cases stray
      rw [List.flatMap_cons, pieceBytes, List.singleton_append, pieces_stray still, ih shorter]

theorem pieces_of_back {ps : List (Char ⊕ UInt8)} (back : ps <:+ pieces bytes) :
    pieces (ps.flatMap pieceBytes) = ps := by
  induction bytes using pieces_induction with
  | nil =>
    rw [List.suffix_nil.1 back]
    rfl
  | char c rest ih =>
    rw [pieces_char] at back
    rcases List.suffix_cons_iff.1 back with rfl | back
    · rw [← pieces_char, flatMap_pieces]
    · exact ih back
  | stray b rest stray ih =>
    rw [pieces_stray stray] at back
    rcases List.suffix_cons_iff.1 back with rfl | back
    · rw [← pieces_stray stray, flatMap_pieces]
    · exact ih back

/-- A part of the pieces of a text is the pieces of a part of the text. -/
theorem pieces_of_part {ps : List (Char ⊕ UInt8)} (inside : ps <:+: pieces bytes) :
    pieces (ps.flatMap pieceBytes) = ps := by
  obtain ⟨before, after, whole⟩ := inside
  have back : ps ++ after <:+ pieces bytes := ⟨before, by rw [← whole, List.append_assoc]⟩
  exact pieces_of_front ⟨after, (pieces_of_back back).symm⟩

theorem encode_cons (c : Char) (cs : List Char) : encode (c :: cs) = utf8EncodeChar c ++ encode cs :=
  List.flatMap_cons

@[simp]
theorem encode_append (cs ds : List Char) : encode (cs ++ ds) = encode cs ++ encode ds :=
  List.flatMap_append

theorem pieces_encode (cs : List Char) (rest : List UInt8) :
    pieces (encode cs ++ rest) = cs.map .inl ++ pieces rest := by
  induction cs with
  | nil => rfl
  | cons c cs ih =>
    rw [encode_cons, List.append_assoc, pieces_char, ih]
    rfl

theorem not_begins_inside {before after : List UInt8}
    (parts : utf8EncodeChar c = b :: before ++ after) (some : after ≠ []) (rest : List UInt8) :
    ¬ Begins (after ++ rest) := by
  intro begins
  obtain ⟨d, last, rfl⟩ := List.exists_cons_of_ne_nil some
  have inside : (b :: before).length < (utf8EncodeChar c).length := by simp [parts]
  have byte : (utf8EncodeChar c)[(b :: before).length] = d := by simp [parts]
  have first : d.IsUTF8FirstByte := begins d rfl
  rw [← byte, UInt8.isUTF8FirstByte_getElem_utf8EncodeChar] at first
  cases first

/-- A character does not go on into bytes that begin with the first byte of one. -/
theorem firstChar?_append (begins : Begins rest) (stray : firstChar? (b :: bytes) = none) :
    firstChar? (b :: (bytes ++ rest)) = none := by
  rw [Option.eq_none_iff_forall_ne_some]
  intro c found
  have outside : ¬ utf8EncodeChar c <+: b :: bytes := by
    intro inside
    rw [firstChar?_eq_some_iff.2 inside] at stray
    cases stray
  have whole : utf8EncodeChar c <+: (b :: bytes) ++ rest := firstChar?_eq_some_iff.1 found
  obtain ⟨after, parts⟩ :=
    (List.prefix_or_prefix_of_prefix whole (List.prefix_append _ _)).resolve_left outside
  obtain ⟨last, shape⟩ := whole
  rw [← parts, List.append_assoc, List.append_cancel_left_eq] at shape
  rw [← shape] at begins
  refine not_begins_inside parts.symm ?_ last begins
  rintro rfl
  rw [List.append_nil] at parts
  exact outside ⟨[], by rw [parts, List.append_nil]⟩

theorem pieces_append (begins : Begins rest) :
    pieces (bytes ++ rest) = pieces bytes ++ pieces rest := by
  induction bytes using pieces_induction with
  | nil => rfl
  | char c bytes ih => simp [ih]
  | stray b bytes none ih =>
    rw [List.cons_append, pieces_stray (firstChar?_append begins none), pieces_stray none, ih]
    rfl

/-! ## Texts -/

@[simp]
theorem toList_ofBytes (bytes : List UInt8) : (ofBytes bytes).toList = (pieces bytes).map pieceChar :=
  String.toList_ofList

@[simp]
theorem pieces_toBytes (s : String) : pieces (toBytes s) = s.toList.map .inl := by
  simpa [toBytes] using pieces_encode s.toList []

@[simp]
theorem ofBytes_toBytes (s : String) : ofBytes (toBytes s) = s := by
  have kept : pieceChar ∘ Sum.inl = id := rfl
  apply String.toList_inj.1
  simp [kept]

theorem toArray_toBytes (s : String) : ByteArray.mk (toBytes s).toArray = s.toByteArray := by
  have encoded : (toBytes s).toByteArray = s.toByteArray := String.utf8Encode_toList
  rw [← encoded]
  apply ByteArray.ext
  simp

theorem ofBytes?_eq_some_iff {s : String} : ofBytes? bytes = some s ↔ toBytes s = bytes := by
  unfold ofBytes?
  delta String.fromUTF8?
  constructor
  · intro found
    split at found
    · rename_i valid
      cases found
      have same := toArray_toBytes (String.fromUTF8 _ valid)
      change _ = ByteArray.mk bytes.toArray at same
      simpa using congrArg (fun bs => bs.data.toList) same
    · cases found
  · rintro rfl
    have valid : (ByteArray.mk (toBytes s).toArray).IsValidUTF8 := toArray_toBytes s ▸ s.isValidUTF8
    rw [dif_pos valid]
    exact congrArg some (String.toByteArray_inj.1 (toArray_toBytes s))

end PageBinding.Text
