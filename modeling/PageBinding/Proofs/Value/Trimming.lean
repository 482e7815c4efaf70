import PageBinding.Proofs.Value.Texts

/-!
Trimming texts. Every list has a core that neither begins nor ends with something of a class, and
members of the class around it (`exists_core`), so trimming one end and then the other leaves the
core, in either order.

The classes differ: both ends together lose all white space, a single end only the six characters of
`isTrimmed`. The results agree exactly when the core for the six characters begins and ends with no
white space. A byte that belongs to no character is in neither class, and what stays of a text is read
as before.
-/
namespace PageBinding

namespace Text

/-! ## Cores -/

section
variable {α β : Type} {drop wide : α → Bool} {sp core w cs : List α}

/-- A list that neither begins nor ends with something of a class. -/
def Bare (drop : α → Bool) (cs : List α) : Prop :=
  (∀ d ∈ cs.head?, drop d = false) ∧ ∀ d ∈ cs.getLast?, drop d = false

/-- A core and what is trimmed off around it. -/
structure Around (drop : α → Bool) (sp core w : List α) : Prop where
  before : sp.all drop = true
  after : w.all drop = true
  some : core ≠ []
  bare : Bare drop core

theorem Around.trimStart (h : Around drop sp core w) :
    trimStartBy drop (sp ++ (core ++ w)) = core ++ w := by
  obtain ⟨c, rest, shape⟩ := List.exists_cons_of_ne_nil h.some
  have stays : drop c = false := h.bare.1 c (by rw [shape]; rfl)
  rw [trimStartBy, List.dropWhile_append_of_pos (List.all_eq_true.1 h.before), shape,
    List.cons_append, List.dropWhile_cons_of_neg (by rw [stays]; exact Bool.false_ne_true)]

/-- The end of a list is the start of it read backwards. -/
theorem Around.reverse (h : Around drop sp core w) :
    Around drop w.reverse core.reverse sp.reverse := by
  refine ⟨?_, ?_, ?_, ?_, ?_⟩
  · rw [List.all_reverse, h.after]
  · rw [List.all_reverse, h.before]
  · exact fun empty => h.some (List.reverse_eq_nil_iff.1 empty)
  · rw [List.head?_reverse]
    exact h.bare.2
  · rw [List.getLast?_reverse]
    exact h.bare.1

theorem Around.trimEnd (h : Around drop sp core w) :
    trimEndBy drop (sp ++ (core ++ w)) = sp ++ core := by
  have backwards := h.reverse.trimStart
  rw [← List.reverse_append, ← List.reverse_append, List.append_assoc] at backwards
  rw [trimEndBy]
  exact (congrArg List.reverse backwards).trans (List.reverse_reverse _)

/-- Either order of trimming the two ends leaves the core. -/
theorem Around.each (h : Around drop sp core w) :
    trimEndBy drop (trimStartBy drop (sp ++ (core ++ w))) = core ∧
      trimStartBy drop (trimEndBy drop (sp ++ (core ++ w))) = core := by
  have first : Around drop [] core w := ⟨rfl, h.after, h.some, h.bare⟩
  have second : Around drop sp core [] := ⟨h.before, rfl, h.some, h.bare⟩
  have ends := first.trimEnd
  have starts := second.trimStart
  rw [List.append_nil] at starts
  rw [h.trimStart, h.trimEnd]
  exact ⟨ends, starts⟩

/-- The first that stays is the first of the core. -/
theorem Around.find? (h : Around drop sp core w) :
    (sp ++ (core ++ w)).find? (fun c => !drop c) = core.head? := by
  have nothing : sp.find? (fun c => !drop c) = none := by
    refine List.find?_eq_none.2 fun c mem => ?_
    rw [List.all_eq_true.1 h.before c mem]
    exact Bool.false_ne_true
  obtain ⟨c, rest, shape⟩ := List.exists_cons_of_ne_nil h.some
  have stays : drop c = false := h.bare.1 c (by rw [shape]; rfl)
  rw [List.find?_append, nothing, shape, List.cons_append, List.find?_cons, stays]
  rfl

theorem head?_dropWhile (drop : α → Bool) (cs : List α) :
    ∀ d ∈ (cs.dropWhile drop).head?, drop d = false := by
  intro d begins
  have first := List.head?_dropWhile_not drop cs
  rw [Option.mem_def.1 begins] at first
  exact first

theorem exists_core (drop : α → Bool) (cs : List α) :
    cs.all drop = true ∨ ∃ sp core w, cs = sp ++ (core ++ w) ∧ Around drop sp core w := by
  let rest := cs.dropWhile drop
  let kept := rest.reverse.dropWhile drop
  have whole : cs = cs.takeWhile drop ++ rest := List.takeWhile_append_dropWhile.symm
  have parts : rest = kept.reverse ++ (rest.reverse.takeWhile drop).reverse := by
    rw [← List.reverse_append, List.takeWhile_append_dropWhile, List.reverse_reverse]
  have after : (rest.reverse.takeWhile drop).reverse.all drop = true := by
    rw [List.all_reverse]
    exact List.all_takeWhile
  by_cases empty : kept = []
  · left
    rw [whole, parts, empty, List.all_append, List.all_append, after]
    simp [List.all_takeWhile]
  · right
    have some : kept.reverse ≠ [] := fun nil => empty (List.reverse_eq_nil_iff.1 nil)
    refine ⟨_, _, _, whole.trans (congrArg _ parts), List.all_takeWhile, after, some, ?_, ?_⟩
    · intro d begins
      refine head?_dropWhile drop cs d ?_
      show d ∈ rest.head?
      rw [parts, List.head?_append, Option.mem_def.1 begins]
      rfl
    · intro d ends
      rw [List.getLast?_reverse] at ends
      exact head?_dropWhile drop rest.reverse d ends

theorem trim_of_all (all : cs.all drop = true) :
    trimStartBy drop cs = [] ∧ trimEndBy drop cs = [] := by
  have start {ds : List α} (all : ds.all drop = true) : ds.dropWhile drop = [] := by
    have dropped : (ds ++ []).dropWhile drop = [].dropWhile drop :=
      List.dropWhile_append_of_pos (List.all_eq_true.1 all)
    rwa [List.append_nil] at dropped
  refine ⟨start all, ?_⟩
  rw [trimEndBy, start (by rwa [List.all_reverse])]
  rfl

theorem trimBy_of_all (all : cs.all drop = true) : trimBy drop cs = [] := by
  rw [trimBy, (trim_of_all all).1]
  rfl

theorem all_wider (sub : ∀ c, drop c = true → wide c = true) (all : cs.all drop = true) :
    cs.all wide = true :=
  List.all_eq_true.2 fun c mem => sub c (List.all_eq_true.1 all c mem)

/-- A wider class takes off what is around the core, and then trims the core. -/
theorem Around.trimBy_wider (h : Around drop sp core w) (sub : ∀ c, drop c = true → wide c = true) :
    trimBy wide (sp ++ (core ++ w)) = trimBy wide core := by
  have before := all_wider sub h.before
  have after := all_wider sub h.after
  rcases exists_core wide core with all | ⟨sp', core', w', shape, inner⟩
  · have whole : (sp ++ (core ++ w)).all wide = true := by
      rw [List.all_append, List.all_append, before, all, after]
      rfl
    rw [trimBy_of_all whole, trimBy_of_all all]
  · have outer : Around wide (sp ++ sp') core' (w' ++ w) := by
      refine ⟨?_, ?_, inner.some, inner.bare⟩
      · rw [List.all_append, before, inner.before]
        rfl
      · rw [List.all_append, inner.after, after]
        rfl
    have regrouped : sp ++ (core ++ w) = (sp ++ sp') ++ (core' ++ (w' ++ w)) := by
      simp [shape]
    rw [regrouped, trimBy, outer.each.1, shape, trimBy, inner.each.1]

theorem trimBy_eq_self : trimBy drop cs = cs ↔ Bare drop cs := by
  constructor
  · intro same
    rcases exists_core drop cs with all | ⟨sp, core, w, whole, around⟩
    · rw [← same, trimBy_of_all all]
      exact ⟨nofun, nofun⟩
    · rw [whole, trimBy, around.each.1] at same
      rw [whole, ← same]
      exact around.bare
  · intro bare
    by_cases empty : cs = []
    · rw [empty]
      rfl
    · have around : Around drop [] cs [] := ⟨rfl, rfl, empty, bare⟩
      have core := around.each.1
      rwa [List.append_nil] at core

/-- The first or the last of a list that trimming one end does not remove. -/
def IsOuter (drop : α → Bool) (cs : List α) (c : α) : Prop :=
  cs.find? (fun c => !drop c) = some c ∨ cs.reverse.find? (fun c => !drop c) = some c

theorem not_isOuter_of_all (all : cs.all drop = true) (c : α) : ¬ IsOuter drop cs c := by
  have nothing {ds : List α} (sub : ds ⊆ cs) : ds.find? (fun c => !drop c) ≠ some c := by
    intro found
    have stays := List.find?_some found
    rw [List.all_eq_true.1 all c (sub (List.mem_of_find?_eq_some found))] at stays
    cases stays
  rintro (found | found)
  · exact nothing (List.Subset.refl _) found
  · exact nothing (List.reverse_subset.2 (List.Subset.refl _)) found

theorem each_end (sub : ∀ c, drop c = true → wide c = true) (cs : List α) :
    ∃ each, each <:+: cs ∧ trimEndBy drop (trimStartBy drop cs) = each ∧
      trimStartBy drop (trimEndBy drop cs) = each ∧ trimBy wide cs = trimBy wide each ∧
      (trimBy wide each = each ↔ ∀ c, IsOuter drop cs c → wide c = false) := by
  rcases exists_core drop cs with all | ⟨sp, core, w, whole, around⟩
  · obtain ⟨starts, ends⟩ := trim_of_all all
    refine ⟨[], List.nil_infix, by rw [starts]; rfl, by rw [ends]; rfl, ?_, fun _ c outer => ?_,
      fun _ => rfl⟩
    · rw [trimBy_of_all (all_wider sub all)]
      rfl
    · exact absurd outer (not_isOuter_of_all all c)
  · have backwards := around.reverse.find?
    rw [← List.reverse_append, ← List.reverse_append, List.append_assoc, ← whole,
      List.head?_reverse] at backwards
    have forwards := around.find?
    rw [← whole] at forwards
    refine ⟨core, ⟨sp, w, ?_⟩, ?_, ?_, ?_, ?_⟩
    · rw [whole, List.append_assoc]
    · rw [whole, around.each.1]
    · rw [whole, around.each.2]
    · rw [whole, around.trimBy_wider sub]
    · rw [trimBy_eq_self, Bare, ← forwards, ← backwards]
      exact ⟨fun bare c outer => outer.elim (bare.1 c) (bare.2 c),
        fun none => ⟨fun d begins => none d (.inl begins), fun d ends => none d (.inr ends)⟩⟩

theorem trimStartBy_map (g : β → α) (cs : List β) :
    trimStartBy drop (cs.map g) = (trimStartBy (drop ∘ g) cs).map g :=
  List.dropWhile_map

theorem trimEndBy_map (g : β → α) (cs : List β) :
    trimEndBy drop (cs.map g) = (trimEndBy (drop ∘ g) cs).map g := by
  rw [trimEndBy, trimEndBy, ← List.map_reverse, List.dropWhile_map, List.map_reverse]

theorem trimBy_map (g : β → α) (cs : List β) :
    trimBy drop (cs.map g) = (trimBy (drop ∘ g) cs).map g := by
  rw [trimBy, trimBy, trimStartBy_map, trimEndBy_map]

end

/-! ## Pieces -/

/-- A class of characters as one of pieces: no byte that stands for itself is in it. -/
def onPieces (drop : Char → Bool) : Char ⊕ UInt8 → Bool :=
  Sum.elim drop fun _ => false

end Text

open Text

/-! ## Calls -/

namespace Value

theorem isBlank_of_isTrimmed {c : Char} (h : isTrimmed c = true) : isBlank c = true := by
  have all : " \t\n\r\x0c\x0b".toList.all isBlank = true := by decide
  exact List.all_eq_true.1 all c (List.contains_iff_mem.1 h)

theorem onPieces_wider (p : Char ⊕ UInt8) (h : onPieces isTrimmed p = true) :
    onPieces isBlank p = true := by
  cases p with
  | inl c => exact isBlank_of_isTrimmed h
  | inr b => cases h

theorem trimmed_ofBytes (trim : {α : Type} → (α → Bool) → List α → List α) {drop : Char → Bool}
    (natural : ∀ cs : List Char, trim (onPieces drop) (cs.map .inl) = (trim drop cs).map .inl)
    (text : List UInt8) :
    (ofBytes text).trimmed trim drop =
      ofBytes ((trim (onPieces drop) (pieces text)).flatMap pieceBytes) := by
  rcases ofBytes_cases text with ⟨s, rfl, shape⟩ | ⟨-, shape⟩
  · have encoded : ((trim drop s.toList).map Sum.inl).flatMap pieceBytes =
        Text.toBytes (String.ofList (trim drop s.toList)) := by
      rw [Text.toBytes, String.toList_ofList, encode, List.flatMap_map]
      rfl
    rw [shape, pieces_toBytes, natural, encoded, ofBytes_toBytes]
    rfl
  · rw [shape]
    rfl

end Value

namespace Expr

variable (w : World) (f : Frame) (locals : Locals) {x : Expr}

theorem eval_trims {text : List UInt8} (h : x.eval w f locals = .ok (.ofBytes text)) :
    (call x "trimStart" []).eval w f locals =
        .ok (.ofBytes ((trimStartBy (onPieces Value.isTrimmed) (Text.pieces text)).flatMap pieceBytes)) ∧
      (call x "trimEnd" []).eval w f locals =
        .ok (.ofBytes ((trimEndBy (onPieces Value.isTrimmed) (Text.pieces text)).flatMap pieceBytes)) ∧
      (call x "trim" []).eval w f locals =
        .ok (.ofBytes ((trimBy (onPieces isBlank) (Text.pieces text)).flatMap pieceBytes)) := by
  have none : evalAll w f locals [] = .ok [] := rfl
  refine ⟨?_, ?_, ?_⟩
  · rw [← Value.trimmed_ofBytes trimStartBy (trimStartBy_map _)]
    exact eval_textMethod w f locals h none rfl
  · rw [← Value.trimmed_ofBytes trimEndBy (trimEndBy_map _)]
    exact eval_textMethod w f locals h none rfl
  · rw [← Value.trimmed_ofBytes trimBy (trimBy_map _)]
    exact eval_textMethod w f locals h none rfl

/-- The two ends of a text are trimmed in either order, and trimming both together removes at least as
much. It removes no more exactly when the first and the last character that stay are no white
space. -/
theorem trim_each_end {text : List UInt8} (isText : x.eval w f locals = .ok (.ofBytes text)) :
    ∃ each, (call (call x "trimStart" []) "trimEnd" []).eval w f locals =
        .ok (.ofBytes (each.flatMap pieceBytes)) ∧
      (call (call x "trimEnd" []) "trimStart" []).eval w f locals =
        .ok (.ofBytes (each.flatMap pieceBytes)) ∧
      (call x "trim" []).eval w f locals =
        .ok (.ofBytes ((trimBy (onPieces isBlank) each).flatMap pieceBytes)) ∧
      ((call x "trim" []).eval w f locals = (call (call x "trimStart" []) "trimEnd" []).eval w f locals ↔
        ∀ c, IsOuter (onPieces Value.isTrimmed) (Text.pieces text) (.inl c) → isBlank c = false) := by
  obtain ⟨each, inside, startFirst, endFirst, both, agree⟩ :=
    each_end Value.onPieces_wider (Text.pieces text)
  obtain ⟨start, stop, whole⟩ := eval_trims w f locals isText
  have started := (eval_trims w f locals start).2.1
  have stopped := (eval_trims w f locals stop).1
  have front : trimEndBy (onPieces Value.isTrimmed) (Text.pieces text) <+: Text.pieces text := by
    rw [trimEndBy, ← List.reverse_suffix, List.reverse_reverse]
    exact List.dropWhile_suffix _
  have back : trimStartBy (onPieces Value.isTrimmed) (Text.pieces text) <:+ Text.pieces text :=
    List.dropWhile_suffix _
  rw [pieces_of_part back.isInfix, startFirst] at started
  rw [pieces_of_part front.isInfix, endFirst] at stopped
  rw [both] at whole
  refine ⟨each, started, stopped, whole, ?_⟩
  -- what stays of the text is its pieces, so the two results are the same if these are
  have shorter : trimBy (onPieces isBlank) each <:+: each := by
    have ends : trimBy (onPieces isBlank) each <+: trimStartBy (onPieces isBlank) each := by
      rw [trimBy, trimEndBy, ← List.reverse_suffix, List.reverse_reverse]
      exact List.dropWhile_suffix _
    exact ends.isInfix.trans (List.dropWhile_suffix _).isInfix
  have same : (trimBy (onPieces isBlank) each).flatMap pieceBytes = each.flatMap pieceBytes ↔
      trimBy (onPieces isBlank) each = each := by
    refine ⟨fun bytes => ?_, fun pieces => by rw [pieces]⟩
    rw [← pieces_of_part (shorter.trans inside), bytes, pieces_of_part inside]
  have values (a b : List UInt8) : Value.ofBytes a = .ofBytes b ↔ a = b :=
    ⟨fun h => by rw [← Value.toBytes_ofBytes a, h, Value.toBytes_ofBytes], congrArg _⟩
  rw [whole, started, Except.ok.injEq, values, same, agree]
  exact ⟨fun none c outer => none (.inl c) outer, fun none p outer => by
    cases p with
    | inl c => exact none c outer
    | inr b => rfl⟩

/-- Tabs and line feeds around a text that has other white space and a byte of no character inside. -/
theorem trim_each_end_inner :
    let text : List UInt8 := toBytes "\n\t a\u00a0b" ++ 0xff :: toBytes " \n"
    let x : Expr := lit "" (.ofBytes text)
    (∀ c, IsOuter (onPieces Value.isTrimmed) (Text.pieces text) (.inl c) → isBlank c = false) ∧
      ∀ (w : World) (f : Frame), (call x "trim" []).eval w f [] =
        (call (call x "trimStart" []) "trimEnd" []).eval w f [] := by
  intro text x
  have outer : ∀ c, IsOuter (onPieces Value.isTrimmed) (Text.pieces text) (.inl c) → isBlank c = false := by
    rintro c (first | last)
    · cases first
      rfl
    · cases last
  refine ⟨outer, fun w f => ?_⟩
  have isText : x.eval w f [] = .ok (.ofBytes text) := rfl
  obtain ⟨each, -, -, -, agree⟩ := trim_each_end w f [] isText
  exact agree.2 outer

/-- A space that does not break is white space for both ends together, but for neither end alone. -/
theorem unbroken_space_kept :
    let x : Expr := lit "" (.string "\u00a0a")
    ∀ (w : World) (f : Frame), (call x "trim" []).eval w f [] = .ok (.string "a") ∧
      (call (call x "trimStart" []) "trimEnd" []).eval w f [] = .ok (.string "\u00a0a") ∧
      (call (call x "trimEnd" []) "trimStart" []).eval w f [] = .ok (.string "\u00a0a") := by
  intro x w f
  exact ⟨rfl, rfl, rfl⟩

end Expr

end PageBinding
