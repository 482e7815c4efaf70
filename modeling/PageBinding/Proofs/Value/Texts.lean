import PageBinding.Proofs.Text.Raw
import PageBinding.Proofs.Value.Evaluation

/-!
Texts as values, given by their bytes, and the calls of their methods.
-/
namespace PageBinding

namespace Value

variable {text : List UInt8} {s : String}

theorem ofBytes_cases (text : List UInt8) :
    (∃ s, Text.toBytes s = text ∧ ofBytes text = string s) ∨
      Text.ofBytes? text = none ∧ ofBytes text = bytes text := by
  unfold ofBytes
  rcases RawText.ofBytes_cases text with ⟨s, same, shape⟩ | ⟨stray, shape⟩
  · exact .inl ⟨s, same, by rw [shape, ofRaw]⟩
  · exact .inr ⟨stray, by rw [shape, ofRaw]⟩

@[simp]
theorem toText_ofBytes (text : List UInt8) : (ofBytes text).toText = Text.ofBytes text := by
  rcases ofBytes_cases text with ⟨s, rfl, shape⟩ | ⟨-, shape⟩
  · rw [shape, Text.ofBytes_toBytes, toText]
  · rw [shape, toText]

@[simp]
theorem toBytes_ofBytes (text : List UInt8) : (ofBytes text).toBytes = text := by
  rcases ofBytes_cases text with ⟨s, rfl, shape⟩ | ⟨-, shape⟩
  · rw [shape]
    simp [toBytes, toText]
  · rw [shape]
    simp [toBytes]

@[simp]
theorem inCharacters_ofBytes (text : List UInt8) :
    (ofBytes text).inCharacters = string (Text.ofBytes text) := by
  rcases ofBytes_cases text with ⟨s, rfl, shape⟩ | ⟨-, shape⟩
  · rw [shape, Text.ofBytes_toBytes]
    rfl
  · rw [shape]
    rfl

@[simp]
theorem ofBytes_toBytes (s : String) : ofBytes (Text.toBytes s) = string s := by
  rw [ofBytes, RawText.ofBytes_of_chars, ofRaw]

@[simp]
theorem isNullish_ofBytes (text : List UInt8) : (ofBytes text).isNullish = false := by
  rcases ofBytes_cases text with ⟨s, -, shape⟩ | ⟨-, shape⟩ <;> rw [shape] <;> rfl

/-- A text equals its characters if all its bytes belong to characters. -/
theorem string_ofBytes_iff (text : List UInt8) :
    string (Text.ofBytes text) = ofBytes text ↔ (Text.ofBytes? text).isSome = true := by
  rcases ofBytes_cases text with ⟨s, rfl, shape⟩ | ⟨none, shape⟩
  · rw [shape, Text.ofBytes_toBytes, Text.ofBytes?_eq_some_iff.2 rfl]
    simp
  · rw [shape, none]
    simp

theorem add_ofChars (cs ds : List Char) : add (ofChars cs) (ofChars ds) = ofChars (cs ++ ds) := by
  show string (String.ofList cs ++ String.ofList ds) = string (String.ofList (cs ++ ds))
  rw [String.ofList_append]

end Value

/-- A method called on a text. -/
theorem World.callMethod_text (w : World) {text : List UInt8} {name : String} {args : List Value}
    {result : Value} (known : Value.textMethod? name (.ofBytes text) args = some result) :
    w.callMethod (.ofBytes text) name args = .ok result := by
  unfold callMethod
  simp only [Value.inCharacters_ofBytes, known]
  rfl

namespace Expr

variable (w : World) (f : Frame) (locals : Locals) {x : Expr} {args : List Expr} {v : Value}
  {vs : List Value}

theorem eval_textMethod {text : List UInt8} (isText : x.eval w f locals = .ok (.ofBytes text))
    (given : evalAll w f locals args = .ok vs) {name : String}
    (known : Value.textMethod? name (.ofBytes text) vs = some v) :
    (call x name args).eval w f locals = .ok v := by
  rw [eval_method w f locals isText given]
  exact w.callMethod_text known

end Expr

end PageBinding
