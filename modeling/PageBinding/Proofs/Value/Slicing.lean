import PageBinding.Proofs.Value.Texts

/-!
Parts of a text between two positions. Both ends are kept within the text (`bound_le`), so a part has
exactly as many characters as its ends are apart, and the parts before and after one end make up the
text.

Parts are made of characters. What they make up is the text itself if all its bytes belong to
characters; every other byte has become a mark.
-/
namespace PageBinding

namespace Value

/-! ## Ends -/

variable {n : Nat} {fromEnd : Bool} {v : Value}

theorem bound_le {default : Nat} (within : default ≤ n) (v : Value) :
    bound n fromEnd default v ≤ n := by
  unfold bound
  split
  · exact within
  · split
    · split
      · exact Nat.le_refl n
      · exact Nat.zero_le n
    · exact Nat.min_le_right _ _

theorem bound_given (given : v.isUndefined = false) (default other : Nat) :
    bound n fromEnd default v = bound n fromEnd other v := by
  simp [bound, given]

theorem bound_zero (n : Nat) (fromEnd : Bool) (default : Nat) :
    bound n fromEnd default (number 0.0) = 0 := by
  have whole : Number.toInt? 0.0 = some 0 := by decide +kernel
  simp [bound, isUndefined, toNumber, whole]

/-! ## Parts -/

/-- Exactly the characters from position `i` up to position `j`, both of which a text has. -/
structure Between (all : List Char) (i j : Nat) (cs : List Char) : Prop where
  start : i ≤ all.length
  stop : j ≤ all.length
  length : cs.length = j - i
  items : ∀ m < j - i, cs[m]? = all[i + m]?

theorem between_part {cs : List Char} {i j : Nat} (start : i ≤ cs.length) (stop : j ≤ cs.length) :
    Between cs i j (part i j cs) := by
  refine ⟨start, stop, ?_, fun m inside => ?_⟩
  · simp [part, stop]
  · rw [part, List.getElem?_drop, List.getElem?_take_of_lt (by omega)]

theorem between_slice (cs : List Char) (u v : Value) :
    Between cs (bound cs.length true 0 u) (bound cs.length true cs.length v) (slice cs u v) :=
  between_part (bound_le (Nat.zero_le _) u) (bound_le (Nat.le_refl _) v)

theorem between_substring (cs : List Char) (u v : Value) :
    let i := bound cs.length false 0 u
    let j := bound cs.length false cs.length v
    Between cs (min i j) (max i j) (substring cs u v) := by
  intro i j
  have start : i ≤ cs.length := bound_le (Nat.zero_le _) u
  have stop : j ≤ cs.length := bound_le (Nat.le_refl _) v
  apply between_part <;> omega

theorem part_append_part (cs : List Char) (i : Nat) :
    part 0 i cs ++ part i cs.length cs = cs := by
  simp [part]

theorem slice_append (cs : List Char) (given : v.isUndefined = false) :
    slice cs (number 0.0) v ++ slice cs v .undefined = cs := by
  have last : bound cs.length true cs.length .undefined = cs.length := rfl
  rw [slice, slice, bound_zero, last, bound_given given cs.length 0, part_append_part]

theorem substring_append (cs : List Char) (given : v.isUndefined = false) :
    substring cs (number 0.0) v ++ substring cs v .undefined = cs := by
  have last : bound cs.length false cs.length .undefined = cs.length := rfl
  have within : bound cs.length false 0 v ≤ cs.length := bound_le (Nat.zero_le _) v
  simp only [substring, bound_zero, last, bound_given given cs.length 0, Nat.zero_min, Nat.zero_max,
    Nat.min_eq_left within, Nat.max_eq_right within, part_append_part]

theorem substring_comm {u : Value} (cs : List Char) (given : u.isUndefined = false)
    (given' : v.isUndefined = false) : substring cs u v = substring cs v u := by
  simp only [substring, bound_given given cs.length 0, bound_given given' cs.length 0, Nat.min_comm,
    Nat.max_comm]

end Value

/-! ## Calls -/

namespace Expr

variable (w : World) (f : Frame) (locals : Locals) {x a b : Expr} {args : List Expr} {v p q : Value}
  {vs : List Value} {text : List UInt8}

theorem eval_slice (isText : x.eval w f locals = .ok (.ofBytes text))
    (given : evalAll w f locals args = .ok vs) :
    (call x "slice" args).eval w f locals = .ok (.ofChars
      (Value.slice (Text.ofBytes text).toList (Value.argument vs 0) (Value.argument vs 1))) := by
  apply eval_textMethod w f locals isText given
  rw [← Value.toText_ofBytes text]
  rfl

theorem eval_substring (isText : x.eval w f locals = .ok (.ofBytes text))
    (given : evalAll w f locals args = .ok vs) :
    (call x "substring" args).eval w f locals = .ok (.ofChars
      (Value.substring (Text.ofBytes text).toList (Value.argument vs 0) (Value.argument vs 1))) := by
  apply eval_textMethod w f locals isText given
  rw [← Value.toText_ofBytes text]
  rfl

/-- The parts before and after one end, joined. -/
theorem eval_parts (isText : x.eval w f locals = .ok (.ofBytes text)) {k : Expr}
    (cut : k.eval w f locals = .ok v) (given : v.isUndefined = false) {name : String}
    (known : name ∈ ["slice", "substring"]) :
    (binary .add (call x name [lit "0" (.number 0.0), k]) (call x name [k])).eval w f locals =
      .ok (.ofChars (Text.ofBytes text).toList) := by
  have before := evalAll_two w f locals (l := lit "0" (.number 0.0)) rfl cut
  have after := evalAll_one w f locals cut
  simp only [List.mem_cons, List.not_mem_nil, or_false] at known
  rcases known with rfl | rfl
  · rw [eval_add w f locals (eval_slice w f locals isText before) (eval_slice w f locals isText after),
      Value.add_ofChars]
    exact congrArg (Except.ok ∘ Value.ofChars) (Value.slice_append _ given)
  · rw [eval_add w f locals (eval_substring w f locals isText before) (eval_substring w f locals isText after),
      Value.add_ofChars]
    exact congrArg (Except.ok ∘ Value.ofChars) (Value.substring_append _ given)

theorem eval_substring_comm (isText : x.eval w f locals = .ok (.ofBytes text))
    (first : a.eval w f locals = .ok p) (second : b.eval w f locals = .ok q)
    (given : p.isUndefined = false) (given' : q.isUndefined = false) :
    (call x "substring" [a, b]).eval w f locals = (call x "substring" [b, a]).eval w f locals := by
  rw [eval_substring w f locals isText (evalAll_two w f locals first second),
    eval_substring w f locals isText (evalAll_two w f locals second first)]
  exact congrArg (Except.ok ∘ Value.ofChars) (Value.substring_comm _ given given')

/-- The parts of a text. Whatever the arguments are, the ends of a part lie within the text and the
part has every character between them. The parts before and after one end make up the characters of
the text, which are the text itself exactly if all its bytes belong to characters. For `substring`
the two ends may change places. -/
theorem parts_make_text (isText : x.eval w f locals = .ok (.ofBytes text)) :
    let all := (Text.ofBytes text).toList
    (∀ args vs, evalAll w f locals args = .ok vs →
      (∃ cs, (call x "slice" args).eval w f locals = .ok (.ofChars cs) ∧
        Value.Between all (Value.bound all.length true 0 (Value.argument vs 0))
          (Value.bound all.length true all.length (Value.argument vs 1)) cs) ∧
      ∃ cs i j, (call x "substring" args).eval w f locals = .ok (.ofChars cs) ∧
        i = Value.bound all.length false 0 (Value.argument vs 0) ∧
        j = Value.bound all.length false all.length (Value.argument vs 1) ∧
        Value.Between all (min i j) (max i j) cs) ∧
    (∀ k v, k.eval w f locals = .ok v → v.isUndefined = false → ∀ name ∈ ["slice", "substring"],
      (binary .add (call x name [lit "0" (.number 0.0), k]) (call x name [k])).eval w f locals =
        .ok (.ofChars all)) ∧
    (.ofChars all = Value.ofBytes text ↔ (Text.ofBytes? text).isSome = true) ∧
    ∀ a b u v, a.eval w f locals = .ok u → b.eval w f locals = .ok v → u.isUndefined = false →
      v.isUndefined = false →
      (call x "substring" [a, b]).eval w f locals = (call x "substring" [b, a]).eval w f locals := by
  intro all
  refine ⟨fun args vs given => ⟨?_, ?_⟩, ?_, ?_, ?_⟩
  · exact ⟨_, eval_slice w f locals isText given, Value.between_slice _ _ _⟩
  · exact ⟨_, _, _, eval_substring w f locals isText given, rfl, rfl, Value.between_substring _ _ _⟩
  · intro k v cut given name known
    exact eval_parts w f locals isText cut given known
  · rw [← Value.string_ofBytes_iff, Value.ofChars, String.ofList_toList]
  · intro a b u v first second given given'
    exact eval_substring_comm w f locals isText first second given given'

/-- A text cut before its last two characters. -/
theorem parts_make_text_accented :
    let x : Expr := lit "" (.string "naïve")
    let k : Expr := lit "" (.string " -2.9 ")
    ∀ (w : World) (f : Frame), x.eval w f [] = .ok (.ofBytes (Text.toBytes "naïve")) ∧
      (binary .add (call x "slice" [lit "0" (.number 0.0), k]) (call x "slice" [k])).eval w f [] =
        x.eval w f [] := by
  intro x k w f
  have isText : x.eval w f [] = .ok (.ofBytes (Text.toBytes "naïve")) := by
    rw [Value.ofBytes_toBytes]
    rfl
  obtain ⟨-, whole, same, -⟩ := parts_make_text w f [] isText
  have characters : (Text.ofBytes? (Text.toBytes "naïve")).isSome = true := by
    rw [Text.ofBytes?_eq_some_iff.2 rfl]
    rfl
  refine ⟨isText, ?_⟩
  rw [whole k _ rfl rfl "slice" (by simp), isText, same.2 characters]

/-- A byte that belongs to no character is lost in parts. -/
theorem stray_byte_lost :
    let x : Expr := lit "" (.ofBytes [0xff])
    let k : Expr := lit "1" (.number 1.0)
    ∀ (w : World) (f : Frame), ∀ name ∈ ["slice", "substring"],
      (binary .add (call x name [lit "0" (.number 0.0), k]) (call x name [k])).eval w f [] =
          .ok (.string "\ufffd") ∧
        x.eval w f [] ≠ .ok (.string "\ufffd") := by
  intro x k w f name known
  have isText : x.eval w f [] = .ok (.ofBytes [0xff]) := rfl
  have cut : k.eval w f [] = .ok (.number 1.0) := rfl
  refine ⟨eval_parts w f [] isText cut rfl known, ?_⟩
  rw [isText]
  show Except.ok (Value.bytes [0xff]) ≠ .ok (Value.string "\ufffd")
  simp

end Expr

end PageBinding
