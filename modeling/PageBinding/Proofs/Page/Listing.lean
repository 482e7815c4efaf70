import Mathlib.Data.List.TakeWhile
import PageBinding.Page.Compile
import PageBinding.Proofs.Page.Parsed
import PageBinding.Proofs.Run.Effect
import PageBinding.Proofs.Text.Split
import PageBinding.Proofs.Token.Blank

/-!
Compiling a text line by line. The lines of a text are its parts between line feeds. Those that hold
a binding are compiled one by one, and each of them gives its source or an entry with its number.
Reading ends before the first line that is too long, and nothing tells: what such a line holds, and
what comes after it, counts as if it were not there.
-/
namespace PageBinding.Page

open Text

/-- A binding and the number of its line. -/
structure Line where
  number : Nat
  text : String
  deriving DecidableEq

namespace Line

variable (global context : Int)

def result (l : Line) : Except BindingError Program :=
  (Binding.build global context l.text).result

/-- The source of a binding that compiles. -/
def source? (l : Line) : Option String :=
  (l.result global context).toOption.map Program.source

/-- What is noted about a binding that does not compile. -/
def entry? (l : Line) : Option String :=
  match l.result global context with
  | .ok _ => none
  | .error e => some (toString l.number ++ ": " ++ e.message ++ "\n")

/-- The binding on a line, unless the line is blank or a comment. -/
def text? (line : List Char) : Option String :=
  if isSkipped (trimBlank line) then none else some (String.ofList (trimBlank line))

end Line

/-- The bindings on lines that are numbered from `first` on. -/
def bindingLines (first : Nat) (lines : List (List Char)) : List Line :=
  (lines.zipIdx first).filterMap fun numbered => (Line.text? numbered.1).map (⟨numbered.2, ·⟩)

/-- The lines before the first that is too long. -/
def withinLimit (lines : List (List Char)) : List (List Char) :=
  lines.takeWhile fun line => byteLength line < lineLimit

variable {context : Int} {p : Page}

/-! ## One line -/

theorem report_outcome (number : Nat) (text : String) :
    (report context number text p).outcome =
      match (⟨number, text⟩ : Line).result p.settings.global context with
      | .ok program => .ok program.source
      | .error e => .error (toString number ++ ": " ++ e.message ++ "\n") := by
  obtain ⟨log, parsed⟩ := parse_eq text context { p with log := [] }
  unfold report Line.result
  rw [EStateM.run, parsed]
  cases (Binding.build p.settings.global context text).result with
  | ok program => rfl
  | error e => rfl

theorem report_output (l : Line) :
    (report context l.number l.text p).output = (l.source? p.settings.global context).getD "" := by
  unfold Report.output Line.source?
  rw [report_outcome]
  cases l.result p.settings.global context <;> rfl

theorem report_errors (l : Line) :
    (report context l.number l.text p).errors = (l.entry? p.settings.global context).getD "" := by
  unfold Report.errors Line.entry?
  rw [report_outcome]
  cases l.result p.settings.global context <;> rfl

theorem report_isOk (l : Line) :
    (report context l.number l.text p).outcome.isOk = true ↔
      ∃ program, l.result p.settings.global context = .ok program := by
  rw [report_outcome]
  cases l.result p.settings.global context with
  | ok program => simp [Except.isOk, Except.toBool]
  | error e => simp [Except.isOk, Except.toBool]

/-! ## All lines -/

theorem bindingLines_cons (number : Nat) (line : List Char) (lines : List (List Char)) :
    bindingLines number (line :: lines) =
      ((Line.text? line).map (⟨number, ·⟩)).toList ++ bindingLines (number + 1) lines := by
  rw [bindingLines, List.zipIdx_cons, List.filterMap_cons]
  cases Line.text? line <;> rfl

theorem map_text_bindingLines (number : Nat) (lines : List (List Char)) :
    (bindingLines number lines).map Line.text = lines.filterMap Line.text? := by
  induction lines generalizing number with
  | nil => rfl
  | cons line lines ih =>
      rw [bindingLines_cons, List.map_append, ih, List.filterMap_cons]
      cases Line.text? line <;> rfl

theorem compileLines_eq (number : Nat) (lines : List (List Char)) :
    compileLines context p number lines =
      (bindingLines number lines).map fun l => report context l.number l.text p := by
  induction lines generalizing number with
  | nil => rfl
  | cons line lines ih =>
      rw [compileLines, bindingLines_cons, Line.text?, ih]
      by_cases skipped : isSkipped (trimBlank line) = true
      · rw [if_pos skipped, if_pos skipped]
        rfl
      · rw [if_neg skipped, if_neg skipped]
        rfl

theorem bindingLines_append (number : Nat) (lines more : List (List Char)) :
    bindingLines number (lines ++ more) =
      bindingLines number lines ++ bindingLines (number + lines.length) more := by
  rw [bindingLines, List.zipIdx_append, List.filterMap_append]
  rfl

theorem bindingLines_read (text : String) :
    bindingLines 1 (readableLines text) = bindingLines 1 (withinLimit (text.toList.splitOn '\n')) := by
  unfold readableLines Text.lines withinLimit
  rw [splitOn_eq]
  -- after a last line feed there is an empty part, which is not among the lines and holds no binding
  by_cases ends : (text.toList.splitOn '\n').getLast? = some []
  · obtain ⟨init, whole⟩ := List.getLast?_eq_some_iff.1 ends
    have nothing (number : Nat) : bindingLines number [[]] = [] := rfl
    simp only [ends, if_true]
    rw [whole, List.dropLast_concat, List.takeWhile_append]
    split
    · rename_i all
      have last : ([[]] : List (List Char)).takeWhile (fun line => byteLength line < lineLimit) = [[]] := rfl
      rw [last, bindingLines_append, nothing, List.append_nil]
      rw [(List.takeWhile_prefix _).eq_of_length all]
    · rfl
  · simp only [ends, if_false]

theorem compile_reports (text : String) :
    (compile context text p).reports =
      (bindingLines 1 (withinLimit (text.toList.splitOn '\n'))).map fun l =>
        report context l.number l.text p := by
  rw [← bindingLines_read]
  exact compileLines_eq 1 (readableLines text)

theorem join_filterMap {α : Type} {f : α → String} {g : α → Option String} (xs : List α)
    (same : ∀ x, f x = (g x).getD "") :
    String.join (xs.map f) = String.join (xs.filterMap g) := by
  induction xs with
  | nil => rfl
  | cons x xs ih =>
      apply String.toList_inj.1
      have rest := congrArg String.toList ih
      simp only [String.toList_join] at rest ⊢
      rw [List.map_cons, List.filterMap_cons, List.flatMap_cons, rest, same]
      cases g x <;> simp

theorem compile_output (context : Int) (text : String) (p : Page) :
    (compile context text p).output =
      String.join ((bindingLines 1 (withinLimit (text.toList.splitOn '\n'))).filterMap
        (Line.source? p.settings.global context)) := by
  rw [Listing.output, compile_reports, List.map_map]
  exact join_filterMap _ report_output

theorem compile_errors (context : Int) (text : String) (p : Page) :
    (compile context text p).errors =
      String.join ((bindingLines 1 (withinLimit (text.toList.splitOn '\n'))).filterMap
        (Line.entry? p.settings.global context)) := by
  rw [Listing.errors, compile_reports, List.map_map]
  exact join_filterMap _ report_errors

theorem compile_ok (context : Int) (text : String) (p : Page) :
    (compile context text p).ok = true ↔
      ∀ l ∈ bindingLines 1 (withinLimit (text.toList.splitOn '\n')),
        ∃ program, l.result p.settings.global context = .ok program := by
  rw [Listing.ok, compile_reports, List.all_map, List.all_eq_true]
  exact forall₂_congr fun l _ => report_isOk l

theorem withinLimit_of_short {lines : List (List Char)}
    (short : ∀ line ∈ lines, byteLength line < lineLimit) : withinLimit lines = lines :=
  List.takeWhile_eq_self_iff.2 fun line mem => decide_eq_true (short line mem)

/-- Compiling accounts for every line up to the first that is too long to be read, and so for every
line if there is none such: the output has the sources of the bindings that compile, the errors have
one entry for each of the others, and the whole compiles if each binding does. -/
theorem compile_accounts_for_lines (context : Int) (text : String) (p : Page) :
    let lines := text.toList.splitOn '\n'
    let read := bindingLines 1 (withinLimit lines)
    (compile context text p).output =
      String.join (read.filterMap (Line.source? p.settings.global context)) ∧
    (compile context text p).errors =
      String.join (read.filterMap (Line.entry? p.settings.global context)) ∧
    ((compile context text p).ok = true ↔
      ∀ l ∈ read, ∃ program, l.result p.settings.global context = .ok program) ∧
    ((∀ line ∈ lines, byteLength line < lineLimit) → read = bindingLines 1 lines) := by
  intro lines read
  refine ⟨compile_output context text p, compile_errors context text p, compile_ok context text p,
    fun short => ?_⟩
  exact congrArg (bindingLines 1) (withinLimit_of_short short)

/-! ## A line that is too long -/

theorem byteLength_comment (n : Nat) : byteLength (List.replicate n '#') = n := by
  induction n with
  | zero => rfl
  | succ n ih =>
      have one : '#'.utf8Size = 1 := rfl
      rw [List.replicate_succ, byteLength, ih, one, Nat.add_comm]

theorem splitOn_comment (n : Nat) (rest : List Char) :
    (List.replicate n '#' ++ '\n' :: rest).splitOn '\n' =
      List.replicate n '#' :: rest.splitOn '\n' := by
  have others : ∀ c ∈ List.replicate n '#', (c == '\n') = false := by
    intro c mem
    rw [List.eq_of_mem_replicate mem]
    rfl
  rw [List.splitOn_eq_splitOnP, List.splitOnP_append_cons_of_forall_mem others '\n' rfl,
    List.splitOn_eq_splitOnP]

theorem text?_comment (n : Nat) : Line.text? (List.replicate (n + 1) '#') = none := by
  have solid : Token.Solid (List.replicate (n + 1) '#') := by
    refine Token.solid_of_all fun d mem => ?_
    rw [List.eq_of_mem_replicate mem]
    rfl
  rw [Line.text?, Token.trimBlank_of_solid (by simp) solid, List.replicate_succ]
  rfl

/-- A binding after a comment that is too long. -/
def hiddenBinding : String :=
  String.ofList (List.replicate lineLimit '#' ++ '\n' :: "x = $element".toList)

theorem splitOn_hiddenBinding :
    hiddenBinding.toList.splitOn '\n' = [List.replicate lineLimit '#', "x = $element".toList] := by
  have last : "x = $element".toList.splitOn '\n' = ["x = $element".toList] := by decide +kernel
  rw [hiddenBinding, String.toList_ofList, splitOn_comment, last]

/-- The binding compiles, but it is not there. -/
theorem hiddenBinding_unaccounted :
    let page := Page.new .empty {} ⟨false, false, false⟩
    String.join ((bindingLines 1 (hiddenBinding.toList.splitOn '\n')).filterMap (Line.source? 0 1)) =
      "await setProperty(1, \"x\", element);\n" ∧
    (compile 1 hiddenBinding page).output = "" ∧ (compile 1 hiddenBinding page).ok = true := by
  intro page
  have nothing : (compile 1 hiddenBinding page).reports = [] := by
    have long : decide (byteLength (List.replicate lineLimit '#') < lineLimit) = false := by
      rw [byteLength_comment]
      exact decide_eq_false (Nat.lt_irrefl _)
    rw [compile_reports, splitOn_hiddenBinding, withinLimit, List.takeWhile_cons, long]
    rfl
  refine ⟨?_, ?_, ?_⟩
  · have comment : Line.text? (List.replicate lineLimit '#') = none := text?_comment 65535
    have binding : Line.text? "x = $element".toList = some "x = $element" := by decide +kernel
    have source : Line.source? 0 1 ⟨2, "x = $element"⟩ = some storesElement.source := by
      rw [Line.source?, Line.result, build_storesElement]
      rfl
    have one : bindingLines 1 (hiddenBinding.toList.splitOn '\n') = [⟨2, "x = $element"⟩] := by
      rw [splitOn_hiddenBinding, bindingLines_cons, bindingLines_cons, comment, binding]
      rfl
    rw [one, List.filterMap_cons, source]
    rfl
  · rw [Listing.output, nothing]
    rfl
  · rw [Listing.ok, nothing]
    rfl

end PageBinding.Page
