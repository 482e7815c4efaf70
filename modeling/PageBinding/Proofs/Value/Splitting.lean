import PageBinding.Proofs.Text.Search
import PageBinding.Proofs.Value.Texts

/-!
Splitting a text, joining an array and replacing in a text. The parts of a text joined by what it was
split at are the text, whatever value that is; joined by another text they are the text with every
occurrence replaced.
-/
namespace PageBinding

namespace Value

variable {separator : Value} {text : List UInt8}

@[simp]
theorem itemBytes_map_ofBytes (parts : List (List UInt8)) :
    itemBytes (parts.map ofBytes) = parts := by
  induction parts with
  | nil => rfl
  | cons part parts ih => simp [itemBytes, ih]

/-- What an array is joined by. -/
def joiner (separator : Value) : List UInt8 :=
  if separator.isUndefined then Text.toBytes "," else separator.toBytes

theorem join_splitText (text : List UInt8) (separator : Value) :
    Text.join (joiner separator) (splitText text separator) = text := by
  unfold joiner splitText Text.cut
  split
  · rfl
  · split
    next empty =>
      rw [List.isEmpty_iff.1 empty, Text.join_nil, ← List.flatMap_def, Text.flatMap_pieces]
    next given =>
      rw [List.isEmpty_iff] at given
      rw [Text.join_cutAt given, Text.replaceAt_self given]

variable (defined : separator.isUndefined = false) (given : separator.toBytes ≠ [])
include defined given

theorem splitText_eq (text : List UInt8) :
    splitText text separator = Text.cutAt separator.toBytes 0 text := by
  simp [splitText, Text.cut, defined, given]

theorem replaceAll_eq_join (new text : List UInt8) :
    Text.replaceAll separator.toBytes new text = Text.join new (splitText text separator) := by
  rw [splitText_eq defined given, Text.join_cutAt given]
  simp [Text.replaceAll, given]

end Value

namespace Expr

variable (w : World) (f : Frame) (locals : Locals) {x y z : Expr} {separator new : Value}
  {text : List UInt8}

theorem eval_split (isText : x.eval w f locals = .ok (.ofBytes text))
    (cut : y.eval w f locals = .ok separator) :
    (call x "split" [y]).eval w f locals =
      .ok (.array ((Value.splitText text separator).map .ofBytes)) := by
  apply eval_textMethod w f locals isText (evalAll_one w f locals cut)
  conv_rhs => rw [← Value.toBytes_ofBytes text]
  rfl

theorem eval_replaceAll (isText : x.eval w f locals = .ok (.ofBytes text))
    (cut : y.eval w f locals = .ok separator) (put : z.eval w f locals = .ok new) :
    (call x "replaceAll" [y, z]).eval w f locals =
      .ok (.ofBytes (Text.replaceAll separator.toBytes new.toBytes text)) := by
  apply eval_textMethod w f locals isText (evalAll_two w f locals cut put)
  conv_rhs => rw [← Value.toBytes_ofBytes text]
  rfl

theorem eval_join {parts : List (List UInt8)}
    (isArray : x.eval w f locals = .ok (.array (parts.map .ofBytes)))
    (cut : y.eval w f locals = .ok separator) :
    (call x "join" [y]).eval w f locals =
      .ok (.ofBytes (Text.join (Value.joiner separator) parts)) := by
  rw [eval_method w f locals isArray (evalAll_one w f locals cut)]
  conv_rhs => rw [← Value.itemBytes_map_ofBytes parts]
  rfl

/-- Splitting and joining by the same value gives the text. If the value is given and its text is not
empty, no part has it inside, and joining the parts by another value replaces it everywhere. -/
theorem join_split (isText : x.eval w f locals = .ok (.ofBytes text))
    (cut : y.eval w f locals = .ok separator) :
    (call (call x "split" [y]) "join" [y]).eval w f locals = .ok (.ofBytes text) ∧
    (separator.isUndefined = false → separator.toBytes ≠ [] →
      (∃ parts : List (List UInt8),
        (call x "split" [y]).eval w f locals = .ok (.array (parts.map .ofBytes)) ∧
        ∀ part ∈ parts, ¬separator.toBytes <:+: part) ∧
      ∀ z new, z.eval w f locals = .ok new → new.isUndefined = false →
        ∃ result, (call x "replaceAll" [y, z]).eval w f locals = .ok (.ofBytes result) ∧
          (call (call x "split" [y]) "join" [z]).eval w f locals = .ok (.ofBytes result)) := by
  have split := eval_split w f locals isText cut
  refine ⟨?_, fun defined given => ⟨⟨_, split, ?_⟩, fun z new put other => ?_⟩⟩
  · rw [eval_join w f locals split cut, Value.join_splitText]
  · rw [Value.splitText_eq defined given]
    exact Text.not_infix_cutAt given text
  · refine ⟨_, eval_replaceAll w f locals isText cut put, ?_⟩
    rw [eval_join w f locals split put, Value.replaceAll_eq_join defined given]
    simp [Value.joiner, other]

/-- A text split at a value that is no text, with two occurrences side by side. -/
theorem join_split_null :
    let x : Expr := lit "" (.string "nullnullnul null")
    let y : Expr := lit "" .null
    let z : Expr := lit "" (.bool true)
    ∀ (w : World) (f : Frame), Value.null.toBytes ≠ [] ∧
      (call (call x "split" [y]) "join" [y]).eval w f [] = x.eval w f [] ∧
      ∃ result, (call x "replaceAll" [y, z]).eval w f [] = .ok (.ofBytes result) ∧
        (call (call x "split" [y]) "join" [z]).eval w f [] = .ok (.ofBytes result) := by
  intro x y z w f
  have isText : x.eval w f [] = .ok (.ofBytes (Text.toBytes "nullnullnul null")) := by
    rw [Value.ofBytes_toBytes]
    rfl
  have given : Value.null.toBytes ≠ [] := by decide
  obtain ⟨same, rest⟩ := join_split w f [] (y := y) isText rfl
  refine ⟨given, same.trans isText.symm, ?_⟩
  exact (rest rfl given).2 z _ rfl rfl

end Expr

end PageBinding
