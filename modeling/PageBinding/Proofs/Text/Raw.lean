import PageBinding.Proofs.Text.Pieces
import PageBinding.Text.Raw

/-!
Texts as they are kept are known by their bytes: two texts with the same bytes are the same, since
bytes that are the bytes of characters are kept as these characters.
-/
namespace PageBinding.RawText

theorem ofBytes_cases (bs : List UInt8) :
    (∃ s, Text.toBytes s = bs ∧ ofBytes bs = chars s) ∨
      ∃ stray : Text.ofBytes? bs = none, ofBytes bs = bytes bs stray := by
  unfold ofBytes
  split
  · rename_i s found
    exact .inl ⟨s, Text.ofBytes?_eq_some_iff.1 found, rfl⟩
  · rename_i stray
    exact .inr ⟨stray, rfl⟩

@[simp]
theorem toBytes_ofBytes (bs : List UInt8) : (ofBytes bs).toBytes = bs := by
  rcases ofBytes_cases bs with ⟨s, same, shape⟩ | ⟨stray, shape⟩
  · rw [shape, toBytes, same]
  · rw [shape, toBytes]

theorem ofBytes_of_chars (s : String) : ofBytes (Text.toBytes s) = chars s := by
  have valid : Text.ofBytes? (Text.toBytes s) = some s := Text.ofBytes?_eq_some_iff.2 rfl
  rcases ofBytes_cases (Text.toBytes s) with ⟨t, same, shape⟩ | ⟨stray, -⟩
  · rw [← same, Text.ofBytes?_eq_some_iff.2 rfl] at valid
    rw [shape, Option.some.inj valid]
  · rw [stray] at valid
    cases valid

@[simp]
theorem ofBytes_toBytes (r : RawText) : ofBytes r.toBytes = r := by
  cases r with
  | chars s => exact ofBytes_of_chars s
  | bytes bs stray =>
    rcases ofBytes_cases bs with ⟨s, same, -⟩ | ⟨_, shape⟩
    · rw [Text.ofBytes?_eq_some_iff.2 same] at stray
      cases stray
    · exact shape

theorem toBytes_injective {r r' : RawText} (same : r.toBytes = r'.toBytes) : r = r' := by
  rw [← ofBytes_toBytes r, same, ofBytes_toBytes]

@[simp]
theorem toBytes_append (r r' : RawText) : (r ++ r').toBytes = r.toBytes ++ r'.toBytes := by
  cases r with
  | chars s =>
    cases r' with
    | chars t =>
      show Text.encode (s ++ t).toList = Text.encode s.toList ++ Text.encode t.toList
      rw [String.toList_append, Text.encode_append]
    | bytes bs stray => exact toBytes_ofBytes _
  | bytes bs stray => exact toBytes_ofBytes _

@[simp]
theorem append_empty (r : RawText) : r ++ chars "" = r :=
  toBytes_injective (by rw [toBytes_append]; exact List.append_nil _)

@[simp]
theorem empty_append (r : RawText) : chars "" ++ r = r :=
  toBytes_injective (toBytes_append _ _)

end PageBinding.RawText
