import PageBinding.Command.Basic
import PageBinding.Proofs.Page.Bound
import PageBinding.Proofs.Page.Listing
import PageBinding.Proofs.Reading.Padded
import PageBinding.Proofs.Run.Isolation

/-!
The arguments of the command that compiles. They are joined and compiled as the lines of one text. An
argument that is one line with a binding, but for space around it, is compiled as a whole, as it is
when it is bound on a page. Any other may come to nothing, or to several bindings.
-/
namespace PageBinding

open Text

/-! ## The lines of texts -/

namespace Page

theorem splitOn_joined {parts : List String} (some : parts ≠ []) :
    (joinStrings "\n" parts).toList.splitOn '\n' = parts.flatMap (·.toList.splitOn '\n') := by
  have sep : "\n".toList = ['\n'] := rfl
  induction parts with
  | nil => exact absurd rfl some
  | cons part rest ih =>
      cases rest with
      | nil => simp [joinStrings]
      | cons next rest =>
          have later := ih (List.cons_ne_nil _ _)
          rw [joinStrings, String.toList_intercalate, sep] at later ⊢
          rw [List.map_cons, List.map_cons, List.intercalate_cons_cons, ← List.map_cons,
            List.append_assoc, List.singleton_append, ← splitOn_eq, splitOn_append_cons, splitOn_eq,
            splitOn_eq, later]
          rfl

theorem text?_of_blank {line : List Char} (blank : line.all isBlank = true) : Line.text? line = none := by
  have nothing : trimBlank line = [] := by
    have trimmed := trimBlank_append_left blank []
    rwa [List.append_nil] at trimmed
  rw [Line.text?, nothing]
  rfl

/-- Space before a text adds blank lines to it, and space to its first line. -/
theorem filterMap_text?_spaced {sp : List Char} (blank : sp.all Token.isSpace = true)
    (cs : List Char) :
    ((sp ++ cs).splitOn '\n').filterMap Line.text? = (cs.splitOn '\n').filterMap Line.text? := by
  induction sp with
  | nil => rfl
  | cons c sp ih =>
      rw [List.all_cons, Bool.and_eq_true] at blank
      have later := ih blank.2
      obtain ⟨line, lines, shape⟩ := List.exists_cons_of_ne_nil
        (List.splitOnP_ne_nil (· == '\n') (sp ++ cs))
      rw [List.splitOn_eq_splitOnP, shape] at later
      rw [List.cons_append, List.splitOn_eq_splitOnP, List.splitOnP_cons_eq_if_modifyHead, shape]
      by_cases ends : (c == '\n') = true
      · rw [if_pos ends, List.filterMap_cons, text?_of_blank rfl, later]
      · have first : Line.text? (c :: line) = Line.text? line := by
          have one : [c].all isBlank = true := Token.all_isBlank (by simpa using blank.1)
          have trimmed : trimBlank (c :: line) = trimBlank line := trimBlank_append_left one line
          rw [Line.text?, Line.text?, trimmed]
        rw [if_neg ends, List.modifyHead_cons, List.filterMap_cons, first, ← List.filterMap_cons, later]

/-- Space after a line adds to the line, and blank lines after it. -/
theorem filterMap_text?_followed {line w : List Char} (one : '\n' ∉ line)
    (blank : w.all Token.isSpace = true) :
    ((line ++ w).splitOn '\n').filterMap Line.text? = (Line.text? line).toList := by
  have alone {line : List Char} (one : '\n' ∉ line) :
      (line.splitOn '\n').filterMap Line.text? = (Line.text? line).toList := by
    rw [splitOn_of_not_mem one, List.filterMap_cons]
    cases Line.text? line <;> rfl
  induction w generalizing line with
  | nil => rw [List.append_nil, alone one]
  | cons c w ih =>
      rw [List.all_cons, Bool.and_eq_true] at blank
      by_cases ends : c = '\n'
      · subst ends
        have later := filterMap_text?_spaced blank.2 []
        rw [List.append_nil] at later
        rw [← splitOn_eq, splitOn_append_cons, splitOn_eq, splitOn_eq, List.filterMap_append, later,
          alone one]
        exact List.append_nil _
      · -- the space becomes part of the line, which has the same text when it is trimmed
        have longer : '\n' ∉ line ++ [c] := by simp [one, Ne.symm ends]
        have space : [c].all isBlank = true := Token.all_isBlank (by simpa using blank.1)
        have whole := ih longer blank.2
        rw [List.append_assoc, List.singleton_append] at whole
        rw [whole, Line.text?, Line.text?, trimBlank_append_right space]

/-- What compiling a text on a page gives, if it compiles. -/
def accepted? (p : Page) (context : Int) (text : String) : Option Intent :=
  match parse text context p with
  | .ok intent _ => some intent
  | .error _ _ => none

theorem accepted?_eq (p : Page) (context : Int) (text : String) :
    p.accepted? context text =
      (Binding.build p.settings.global context text).result.toOption.map (⟨context, ·⟩) := by
  obtain ⟨log, parsed⟩ := parse_eq text context p
  rw [accepted?, parsed]
  cases (Binding.build p.settings.global context text).result <;> rfl

/-- What compiles is what can be bound, on an element that is there. -/
theorem bind_iff_accepted {p q : Page} (sameSettings : q.settings = p.settings)
    (events : q.services.events = true) {selector event : String} {e : ElementRef}
    (found : q.world.document.query selector = .ok (some e)) (named : event ≠ "") (context : Int)
    (text : String) :
    (∃ q', bind selector event text context q = .ok () q') ↔
      (p.accepted? context text).isSome = true := by
  have bound : attrBound? q.settings.global context e (event ++ providerKey, text) =
      bound? p.settings.global context e event text := by
    rw [attrBound?, boundEvent?_append, if_neg named, sameSettings]
    rfl
  rw [accepted?_eq, Page.bind, bind_of_ok (element_found found)]
  unfold bound? at bound
  obtain ⟨cause, q', failed, nothing, -⟩ | ⟨intent, entry, q', done, made, -⟩ :=
    parseAttr_cases events e (event ++ providerKey) text context
  · rw [bind_of_error failed]
    rw [nothing] at bound
    cases built : (Binding.build p.settings.global context text).result with
    | ok program => rw [built] at bound; cases bound
    | error _ => simp [Except.toOption]
  · rw [bind_of_ok done]
    rw [made] at bound
    cases built : (Binding.build p.settings.global context text).result with
    | ok program => exact ⟨fun _ => rfl, fun _ => ⟨q', rfl⟩⟩
    | error _ => rw [built] at bound; cases bound

end Page

/-! ## Arguments -/

namespace Command

open Page

/-- A text that is one line with a binding, but for space around it: what trimming takes away is only
space, and what it leaves is no comment and has no line feed. -/
structure IsWhole (text : String) : Prop where
  spaces : trimEndBy Token.isSpace (trimStartBy Token.isSpace text.toList) = trimBlank text.toList
  isBinding : isSkipped (trimBlank text.toList) = false
  oneLine : '\n' ∉ trimBlank text.toList
  short : ∀ line ∈ text.toList.splitOn '\n', byteLength line < lineLimit

namespace IsWhole

variable {text : String}

theorem padded (h : IsWhole text) : ∃ sp w, Binding.Padded text (trim text) sp w := by
  refine Binding.padded_trim h.spaces ?_
  intro nothing
  have skipped := h.isBinding
  rw [nothing] at skipped
  cases skipped

theorem texts (h : IsWhole text) :
    (text.toList.splitOn '\n').filterMap Line.text? = [trim text] := by
  obtain ⟨sp, w, padded⟩ := h.padded
  have inner : (trim text).toList = trimBlank text.toList := String.toList_ofList
  have again := Token.trimBlank_of_solid padded.some padded.solid
  rw [inner] at again
  rw [padded.shape, filterMap_text?_spaced padded.before, inner,
    filterMap_text?_followed h.oneLine padded.after, Line.text?, again, h.isBinding]
  rfl

theorem compiled (h : IsWhole text) (global context : Int) :
    (Binding.build global context (trim text)).result.toOption =
      (Binding.build global context text).result.toOption := by
  obtain ⟨sp, w, padded⟩ := h.padded
  have toOption_some {r : Except BindingError Program} {program : Program} :
      r.toOption = some program ↔ r = .ok program := by
    cases r <;> simp [Except.toOption]
  apply Option.ext
  intro program
  rw [toOption_some, toOption_some, padded.build_iff_part]

end IsWhole

variable {arguments : List String}

theorem texts_of_whole (whole : ∀ e ∈ arguments, IsWhole e) :
    (arguments.flatMap (·.toList.splitOn '\n')).filterMap Line.text? = arguments.map trim := by
  induction arguments with
  | nil => rfl
  | cons e rest ih =>
      obtain ⟨first, others⟩ := List.forall_mem_cons.1 whole
      rw [List.flatMap_cons, List.filterMap_append, first.texts, ih others]
      rfl

theorem withinLimit_of_whole (whole : ∀ e ∈ arguments, IsWhole e) :
    withinLimit (arguments.flatMap (·.toList.splitOn '\n')) =
      arguments.flatMap (·.toList.splitOn '\n') := by
  refine withinLimit_of_short fun line mem => ?_
  obtain ⟨e, given, inside⟩ := List.mem_flatMap.1 mem
  exact (whole e given).short line inside

/-- The bindings on the lines of the arguments come to what the arguments do. -/
theorem results_of_whole (whole : ∀ e ∈ arguments, IsWhole e) (global context : Int) :
    (bindingLines 1 (withinLimit (arguments.flatMap (·.toList.splitOn '\n')))).map
        (fun l => (l.result global context).toOption) =
      arguments.map fun e : String => (Binding.build global context e).result.toOption := by
  have byText : (fun l : Line => (l.result global context).toOption) =
      (fun text : String => (Binding.build global context text).result.toOption) ∘ Line.text := rfl
  rw [withinLimit_of_whole whole, byText, ← List.map_map, map_text_bindingLines, texts_of_whole whole,
    List.map_map]
  exact List.map_congr_left fun e mem => (whole e mem).compiled global context

theorem compile_answers (s : Setup) (p : Parsed) (given : p.arguments ≠ []) :
    let context := p.int "context" 1
    let read := bindingLines 1 (withinLimit (p.arguments.flatMap (·.toList.splitOn '\n')))
    ∃ outcome, compile s p = .answer outcome ∧
      outcome.output = String.join (read.filterMap (Line.source? s.settings.global context)) ∧
      (outcome.error = none ↔
        ∀ l ∈ read, ∃ program, l.result s.settings.global context = .ok program) := by
  intro context read
  let page := Page.new .empty s.settings ⟨false, false, false⟩
  have output := compile_output context (joinStrings "\n" p.arguments) page
  have success := compile_ok context (joinStrings "\n" p.arguments) page
  rw [splitOn_joined given] at output success
  have none_iff (b : Bool) : (if b then none else some CommandError.notCompiled) = none ↔ b = true := by
    cases b <;> simp
  unfold compile
  rw [List.isEmpty_eq_false_iff.2 given]
  exact ⟨_, rfl, output, (none_iff _).trans success⟩

/-- The command that compiles treats its arguments as the lines of one text. So it accounts for every
argument that is one line with a binding: it prints the sources of those that compile, it succeeds if
all do, and these are the arguments that can be bound on a page. -/
theorem compile_whole_arguments (s : Setup) (p : Parsed) (given : p.arguments ≠ []) :
    let context := p.int "context" 1
    let page := Page.new .empty s.settings ⟨false, false, false⟩
    let read := bindingLines 1 (withinLimit (p.arguments.flatMap (·.toList.splitOn '\n')))
    ∃ outcome, compile s p = .answer outcome ∧
      outcome.output = String.join (read.filterMap (Line.source? s.settings.global context)) ∧
      (outcome.error = none ↔
        ∀ l ∈ read, ∃ program, l.result s.settings.global context = .ok program) ∧
      ((∀ e ∈ p.arguments, IsWhole e) →
        outcome.output =
          String.join (p.arguments.filterMap fun e => (page.accepted? context e).map Intent.source) ∧
        (outcome.error = none ↔ ∀ e ∈ p.arguments, (page.accepted? context e).isSome = true)) ∧
      ∀ (q : Page) (selector event e : String) (element : ElementRef), q.settings = s.settings →
        q.services.events = true → q.world.document.query selector = .ok (some element) → event ≠ "" →
        ((page.accepted? context e).isSome = true ↔
          ∃ q', bind selector event e context q = .ok () q') := by
  intro context page read
  obtain ⟨outcome, answered, output, success⟩ := compile_answers s p given
  refine ⟨outcome, answered, output, success, fun whole => ⟨?_, ?_⟩,
    fun q selector event e element same events found named =>
      (bind_iff_accepted same events found named context e).symm⟩
  -- both follow from one equation between the results on the lines and on the arguments
  · have source (e : String) : (page.accepted? context e).map Intent.source =
        (Binding.build s.settings.global context e).result.toOption.map Program.source := by
      rw [accepted?_eq, Option.map_map]
      rfl
    have results := congrArg (List.filterMap (Option.map Program.source))
      (results_of_whole whole s.settings.global context)
    rw [List.filterMap_map, List.filterMap_map] at results
    simp only [source]
    rw [output]
    exact congrArg String.join results
  · have compiles (r : Except BindingError Program) :
        (∃ program, r = .ok program) ↔ r.toOption.isSome = true := by
      cases r <;> simp [Except.toOption]
    rw [success]
    calc (∀ l ∈ read, ∃ program, l.result s.settings.global context = .ok program)
        ↔ ∀ r ∈ read.map (fun l => (l.result s.settings.global context).toOption), r.isSome = true := by
          rw [List.forall_mem_map]
          exact forall₂_congr fun l _ => compiles _
      _ ↔ ∀ r ∈ p.arguments.map
            (fun e : String => (Binding.build s.settings.global context e).result.toOption),
            r.isSome = true := by
          rw [results_of_whole whole]
      _ ↔ ∀ e ∈ p.arguments, (page.accepted? context e).isSome = true := by
          rw [List.forall_mem_map]
          refine forall₂_congr fun e _ => ?_
          rw [accepted?_eq, Option.isSome_map]
          rfl

/-! ## Two commands -/

def spacedArguments : Parsed := { arguments := ["x = $element", " x.k = true\n"] }

theorem isWhole_spacedArguments : ∀ e ∈ spacedArguments.arguments, IsWhole e := by
  have short {text : String}
      (all : (text.toList.splitOn '\n').all (fun line => byteLength line < lineLimit) = true) :
      ∀ line ∈ text.toList.splitOn '\n', byteLength line < lineLimit :=
    fun line mem => of_decide_eq_true (List.all_eq_true.1 all line mem)
  intro e mem
  simp only [spacedArguments, List.mem_cons, List.not_mem_nil, or_false] at mem
  rcases mem with rfl | rfl
  · exact ⟨by decide +kernel, by decide +kernel, by decide +kernel, short (by decide +kernel)⟩
  · exact ⟨by decide +kernel, by decide +kernel, by decide +kernel, short (by decide +kernel)⟩

/-- The space around the second argument means nothing. -/
theorem spacedArguments_compiled :
    (∀ e ∈ spacedArguments.arguments, IsWhole e) ∧
    ∃ outcome, compile ⟨{}, default⟩ spacedArguments = .answer outcome ∧ outcome.error = none ∧
      outcome.output = storesElement.source ++ World.writesMember.source := by
  have whole := isWhole_spacedArguments
  obtain ⟨outcome, answered, -, -, accounted, -⟩ :=
    compile_whole_arguments ⟨{}, default⟩ spacedArguments (List.cons_ne_nil _ _)
  obtain ⟨output, success⟩ := accounted whole
  let page := Page.new .empty {} ⟨false, false, false⟩
  have first : page.accepted? 1 "x = $element" = some ⟨1, storesElement⟩ := by
    rw [accepted?_eq]
    exact congrArg (fun r => r.toOption.map (Intent.mk 1)) build_storesElement
  have second : page.accepted? 1 " x.k = true\n" = some ⟨1, World.writesMember⟩ := by
    have trimmed : trim " x.k = true\n" = "x.k = true" := by decide +kernel
    have same := (whole " x.k = true\n" (by simp [spacedArguments])).compiled 0 1
    rw [trimmed, World.build_writesMember] at same
    rw [accepted?_eq]
    exact congrArg (Option.map (Intent.mk 1)) same.symm
  refine ⟨whole, outcome, answered, success.2 ?_, output.trans ?_⟩
  · intro e mem
    simp only [spacedArguments, List.mem_cons, List.not_mem_nil, or_false] at mem
    rcases mem with rfl | rfl
    · exact congrArg Option.isSome first
    · exact congrArg Option.isSome second
  · show String.join (["x = $element", " x.k = true\n"].filterMap fun e =>
      (page.accepted? 1 e).map Intent.source) = _
    simp only [List.filterMap_cons, List.filterMap_nil, first, second, Option.map_some]
    rfl

def brokenArgument : Parsed := { arguments := ["x =\n$element"] }

/-- The argument compiles, but not as the lines it is taken apart to. -/
theorem brokenArgument_taken_apart :
    ((Page.new .empty {} ⟨false, false, false⟩).accepted? 1 "x =\n$element").isSome = true ∧
    ∃ outcome, compile ⟨{}, default⟩ brokenArgument = .answer outcome ∧ outcome.error ≠ none ∧
      outcome.output = "" := by
  have built : (Binding.build 0 1 "x =\n$element").result = .ok storesElement := by
    have scanned : Token.scan "x =\n$element" =
        [⟨.identifier, 0, "x"⟩, ⟨.assign, 2, "="⟩, ⟨.identifier, 4, "$element"⟩, .eofAt 12] := by
      decide +kernel
    unfold Binding.build Assignment.ofText
    rw [Token.scanRaw, scanned]
    rfl
  have first : (Binding.build 0 1 "x =").result = .error ⟨"x =", 2, .valueMissing⟩ := by
    have scanned : Token.scan "x =" = [⟨.identifier, 0, "x"⟩, ⟨.assign, 2, "="⟩, .eofAt 3] := by
      decide +kernel
    unfold Binding.build Assignment.ofText
    rw [Token.scanRaw, scanned]
    rfl
  have second : (Binding.build 0 1 "$element").result = .error ⟨"$element", 8, .assignMissing⟩ := by
    have scanned : Token.scan "$element" = [⟨.identifier, 0, "$element"⟩, .eofAt 8] := by
      decide +kernel
    unfold Binding.build Assignment.ofText
    rw [Token.scanRaw, scanned]
    rfl
  obtain ⟨outcome, answered, output, success⟩ :=
    compile_answers ⟨{}, default⟩ brokenArgument (List.cons_ne_nil _ _)
  have read : bindingLines 1 (withinLimit (brokenArgument.arguments.flatMap (·.toList.splitOn '\n'))) =
      [⟨1, "x ="⟩, ⟨2, "$element"⟩] := by
    decide +kernel
  rw [read] at output success
  refine ⟨?_, outcome, answered, fun succeeds => ?_, output.trans ?_⟩
  · rw [accepted?_eq]
    exact congrArg (fun r => (r.toOption.map (Intent.mk 1)).isSome) built
  · obtain ⟨program, compiles⟩ := success.1 succeeds ⟨1, "x ="⟩ List.mem_cons_self
    cases first.symm.trans compiles
  · have nothing : Line.source? 0 1 ⟨1, "x ="⟩ = none ∧ Line.source? 0 1 ⟨2, "$element"⟩ = none := by
      rw [Line.source?, Line.source?, Line.result, Line.result, first, second]
      exact ⟨rfl, rfl⟩
    show String.join ([⟨1, "x ="⟩, ⟨2, "$element"⟩].filterMap (Line.source? 0 1)) = ""
    rw [List.filterMap_cons, nothing.1, List.filterMap_cons, nothing.2]
    rfl

end Command

end PageBinding
