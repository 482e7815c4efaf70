import PageBinding.Proofs.Source.Program

/-!
No text of a binding ends a line of the program it compiles to. What a binding says is written into
the source as names and numbers, which have no character that ends a line, or quoted, with each of
these characters escaped. So the lines of the source are its statements.
-/
namespace PageBinding.Binding

open Text

/-- The statements of a compiled program are on one line each, and its source has these lines, one
for each setup statement and one for the assignment, each ending with a semicolon, and no others. -/
theorem build_source_lines {global context : Int} {text : String} {p : Program}
    (built : (build global context text).result = .ok p) :
    ∃ assign lines, p.assign = some assign ∧
      (∀ st ∈ p.setup ++ [assign], ∀ c ∈ st.source.toList,
        c ≠ '\n' ∧ c ≠ '\r' ∧ c ≠ '\u2028' ∧ c ≠ '\u2029') ∧
      lines = (p.setup ++ [assign]).map (fun st => st.source.toList ++ [';']) ∧
      lines.length = p.setup.length + 1 ∧ (∀ line ∈ lines, line.getLast? = some ';') ∧
      p.source.toList.splitOnP isLineEnd = lines ++ [[]] := by
  obtain ⟨setup, assign, isAssign, assigns⟩ := build_written built
  have one : ∀ st ∈ p.setup ++ [assign], OneLine st.source.toList := by
    intro st mem
    rcases List.mem_append.1 mem with first | last
    · exact (setup st first).written.oneLine
    · rw [List.mem_singleton.1 last]
      exact assigns.written.oneLine
  have ends : ∀ line ∈ (p.setup ++ [assign]).map (fun st => st.source.toList ++ [';']),
      line.getLast? = some ';' := by
    intro line mem
    obtain ⟨st, -, rfl⟩ := List.mem_map.1 mem
    exact List.getLast?_concat
  have whole : p.source.toList =
      ((p.setup ++ [assign]).map (·.source.toList)).flatMap (· ++ [';', '\n']) := by
    rw [Program.toList_source, Program.statements, isAssign, Option.toList_some]
  have cut := splitOnP_lines (List.forall_mem_map.2 one)
  rw [← whole, List.map_map] at cut
  refine ⟨assign, _, isAssign, fun st mem c inside => ?_, rfl, by simp, ends, cut⟩
  have plain := one st mem c inside
  simpa [isLineEnd, and_assoc] using plain

/-- A binding with characters that end a line in a selector and in a value. -/
def brokenBinding : String :=
  "attr('a\u2028b', 'id') = 'c\r\nd\u2029'"

def brokenProgram : Program :=
  ⟨[.lookup "el0" "a\u2028b" false],
    some (.setAttr (.var "el0") "id" (.lit "\"c\\r\\nd\\u2029\"" (.string "c\r\nd\u2029")))⟩

theorem build_brokenBinding : (build 0 1 brokenBinding).result = .ok brokenProgram := by
  have scanned : Token.scan brokenBinding =
      [⟨.identifier, 0, "attr"⟩, ⟨.leftParen, 4, "("⟩, ⟨.string, 5, "'a\u2028b'"⟩, ⟨.comma, 12, ","⟩,
        ⟨.string, 14, "'id'"⟩, ⟨.rightParen, 18, ")"⟩, ⟨.assign, 20, "="⟩,
        ⟨.string, 22, "'c\r\nd\u2029'"⟩, .eofAt 31] := by
    decide +kernel
  unfold build Assignment.ofText
  rw [Token.scanRaw, scanned]
  rfl

theorem brokenProgram_two_lines :
    (build 0 1 brokenBinding).result = .ok brokenProgram ∧
      ∃ lines : List (List Char), brokenProgram.source.toList.splitOnP isLineEnd = lines ++ [[]] ∧
        lines.length = 2 ∧ ∀ line ∈ lines, line.getLast? = some ';' := by
  obtain ⟨assign, lines, -, -, -, count, ends, cut⟩ := build_source_lines build_brokenBinding
  exact ⟨build_brokenBinding, lines, cut, count, ends⟩

end PageBinding.Binding
