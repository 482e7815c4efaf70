import PageBinding.Proofs.Run.Effect
import PageBinding.Proofs.Source.Compiled

/-!
The source of a compiled program says what the program does.

A source falls into lines and a line into pieces. The pieces give back the setup statements. They do
not give back the assignment, which may name its context in two ways and say its value in several,
but they give back what it does.
-/
namespace PageBinding

open Binding

namespace Stmt

theorem Written.oneLine {st : Stmt} (h : st.Written) : Text.OneLine st.source.toList := by
  rw [h.source]
  exact h.legible.oneLine

theorem Written.pieces_of_source {st st' : Stmt} (h : st.Written) (h' : st'.Written)
    (same : st.source.toList = st'.source.toList) : st.pieces = st'.pieces := by
  rw [h.source, h'.source] at same
  exact h.legible.eq_of_render h'.legible same

end Stmt

namespace Program

/-- A source is the sources of the statements, each on a line of its own. -/
theorem toList_source (p : Program) :
    p.source.toList = (p.statements.map (·.source.toList)).flatMap (· ++ [';', '\n']) := by
  simp [source, String.toList_join, List.flatMap_map]

/-- Setup statements can be told from their sources. -/
theorem setup_of_sources {xs ys : List Stmt} (setup : ∀ st ∈ xs, st.IsSetup)
    (setup' : ∀ st ∈ ys, st.IsSetup)
    (same : xs.map (·.source.toList) = ys.map (·.source.toList)) : xs = ys := by
  induction xs generalizing ys with
  | nil => exact (List.map_eq_nil_iff.1 same.symm).symm
  | cons x xs ih =>
      obtain ⟨y, ys, rfl, sameFirst, sameRest⟩ := List.map_eq_cons_iff.1 same.symm
      have first := setup x List.mem_cons_self
      have first' := setup' y List.mem_cons_self
      have samePieces := first.written.pieces_of_source first'.written sameFirst.symm
      rw [first.eq_of_pieces first' samePieces,
        ih (fun st mem => setup st (List.mem_cons_of_mem _ mem))
          (fun st mem => setup' st (List.mem_cons_of_mem _ mem)) sameRest.symm]

/-- Programs compiled for the same context with the same source have the same setup, and what their
assignments do there is the same. -/
theorem parts_of_source {f : Frame} {p p' : Program} {assign assign' : Stmt}
    (setup : ∀ st ∈ p.setup, st.IsSetup) (isAssign : p.assign = some assign)
    (assigns : assign.IsAssignment f.bound) (setup' : ∀ st ∈ p'.setup, st.IsSetup)
    (isAssign' : p'.assign = some assign') (assigns' : assign'.IsAssignment f.bound)
    (same : p.source = p'.source) : p.setup = p'.setup ∧ assign.exec f = assign'.exec f := by
  have statements : p.statements = p.setup ++ [assign] := by
    rw [Program.statements, isAssign, Option.toList_some]
  have statements' : p'.statements = p'.setup ++ [assign'] := by
    rw [Program.statements, isAssign', Option.toList_some]
  have oneLine {p : Program} {assign : Stmt} (setup : ∀ st ∈ p.setup, st.IsSetup)
      (assigns : assign.IsAssignment f.bound) :
      ∀ x ∈ (p.setup ++ [assign]).map (·.source.toList), Text.OneLine x := by
    intro x mem
    obtain ⟨st, inside, rfl⟩ := List.mem_map.1 mem
    obtain first | last := List.mem_append.1 inside
    · exact (setup st first).written.oneLine
    · rw [List.mem_singleton.1 last]
      exact assigns.written.oneLine
  have texts := congrArg String.toList same
  rw [toList_source, toList_source, statements, statements'] at texts
  have lines := Text.lines_cancel (oneLine setup assigns) (oneLine setup' assigns') texts
  rw [List.map_append, List.map_append] at lines
  -- the assignments are the last lines, so as many lines stand before them
  obtain ⟨sameSetup, sameLast⟩ := List.append_inj' lines rfl
  have samePieces := assigns.written.pieces_of_source assigns'.written (List.cons.inj sameLast).1
  exact ⟨setup_of_sources setup setup' sameSetup, assigns.exec_of_pieces assigns' samePieces⟩

/-- Two bindings made of characters and compiled for a context, whatever the global contexts were, do
the same when they are bound to that context if their programs have the same source. -/
theorem run_eq_of_source_eq {global global' context : Int} {text text' : String} {p p' : Program}
    (built : (build global context text).result = .ok p)
    (built' : (build global' context text').result = .ok p') (same : p.source = p'.source)
    {f : Frame} (bound : f.bound = context) (w : World) : p.run f w = p'.run f w := by
  subst bound
  obtain ⟨setup, assign, isAssign, assigns⟩ := build_written built
  obtain ⟨setup', assign', isAssign', assigns'⟩ := build_written built'
  obtain ⟨sameSetup, sameAssign⟩ :=
    parts_of_source setup isAssign assigns setup' isAssign' assigns' same
  have sameLast : execAll f [assign] = execAll f [assign'] := by
    simp only [execAll, sameAssign]
  have sameExec : p.exec f = p'.exec f := by
    unfold exec statements
    rw [isAssign, isAssign', sameSetup, execAll_append, execAll_append, Option.toList_some,
      Option.toList_some, sameLast]
  unfold run
  rw [sameExec]

/-- A program that stores where the event started, in a context that is said to be global. -/
def storesOrigin : Program :=
  ⟨[], some (.setProperty (.fixed 1) "x" .target)⟩

/-- A program that stores the first element of the event's path, in the context of the binding. -/
def storesFirst : Program :=
  ⟨[], some (.setProperty (.bound 1) "x"
    (.index (.call .event "composedPath" []) (.lit "0" (.number 0.0))))⟩

/-- A world in which one event passed one element. -/
def clicked : World := ⟨.empty, .empty, #[⟨"click", .undefined, [⟨0, "button"⟩]⟩], fun _ => 0⟩

/-- Two programs with the source `await setProperty(1, "x", event.composedPath()[0]);` -/
theorem storesFirst_run_eq :
    storesOrigin.source = storesFirst.source ∧
      ∃ after, storesOrigin.run ⟨some ⟨0⟩, none, false, true, false, 1⟩ clicked = (.ok (), after) ∧
        storesFirst.run ⟨some ⟨0⟩, none, false, true, false, 1⟩ clicked = (.ok (), after) := by
  have scannedOrigin : Token.scan "$globals.x = $target" =
      [⟨.identifier, 0, "$globals"⟩, ⟨.dot, 8, "."⟩, ⟨.identifier, 9, "x"⟩, ⟨.assign, 11, "="⟩,
        ⟨.identifier, 13, "$target"⟩, .eofAt 20] := by
    decide +kernel
  have builtOrigin : (build 1 1 "$globals.x = $target").result = .ok storesOrigin := by
    unfold build Assignment.ofText
    rw [Token.scanRaw, scannedOrigin]
    rfl
  have scannedFirst : Token.scan "x = $event.composedPath()[0]" =
      [⟨.identifier, 0, "x"⟩, ⟨.assign, 2, "="⟩, ⟨.identifier, 4, "$event"⟩, ⟨.dot, 10, "."⟩,
        ⟨.identifier, 11, "composedPath"⟩, ⟨.leftParen, 23, "("⟩, ⟨.rightParen, 24, ")"⟩,
        ⟨.leftBrack, 25, "["⟩, ⟨.number, 26, "0"⟩, ⟨.rightBrack, 27, "]"⟩, .eofAt 28] := by
    decide +kernel
  have builtFirst : (build 0 1 "x = $event.composedPath()[0]").result = .ok storesFirst := by
    unfold build Assignment.ofText
    rw [Token.scanRaw, scannedFirst]
    rfl
  have same : storesOrigin.source = storesFirst.source := by decide
  have alike : storesOrigin.run ⟨some ⟨0⟩, none, false, true, false, 1⟩ clicked =
      storesFirst.run ⟨some ⟨0⟩, none, false, true, false, 1⟩ clicked :=
    run_eq_of_source_eq builtOrigin builtFirst same rfl clicked
  refine ⟨same, _, rfl, ?_⟩
  rw [← alike]
  rfl

/-- A program that stores a text, in the context of the binding. -/
def storesText (text : RawText) : Program :=
  ⟨[], some (.setProperty (.bound 1) "x" (.lit (Literal.quoteRaw text) (.ofRaw text)))⟩

theorem build_storesText {text said : RawText} (stop : Nat)
    (scanned : Token.scanRaw text =
      [⟨.identifier, 0, "x"⟩, ⟨.assign, 2, "="⟩, ⟨.string, 4, "'\ufffd'"⟩, .eofAt stop])
    (read : unquoted text ⟨.string, 4, "'\ufffd'"⟩ = .ok said) :
    (build 0 1 text).result = .ok (storesText said) := by
  let a : Assignment := ⟨[⟨.identifier, 0, "x"⟩], 2, [⟨.string, 4, "'\ufffd'"⟩], stop⟩
  have cut : Assignment.ofText text = .ok a :=
    Assignment.ofText_ok.2 ⟨⟨_, scanned, rfl, rfl⟩, by simp [a], List.cons_ne_nil _ _,
      List.cons_ne_nil _ _⟩
  have path : IsPath a.target ["x"] := .last ⟨rfl, by decide⟩
  have value : IsOperand OptionalPath (sourceSetting text 0 1 a) .all [] a.source _ [] :=
    .string rfl read
  exact build_iff.2 ⟨a, _, [], _, cut, .data rfl path (by decide) (by decide),
    .plain (.operand (.operand value)), rfl, rfl⟩

/-- A byte that belongs to no character is written as the mark for it, but is not stored as one. -/
theorem stray_byte_runs_apart :
    let text : RawText := .ofBytes (Text.toBytes "x = '" ++ 0xff :: Text.toBytes "'")
    let f : Frame := ⟨none, none, false, true, false, 1⟩
    (build 0 1 text).result = .ok (storesText (.ofBytes [0xff])) ∧
      (build 0 1 "x = '\ufffd'").result = .ok (storesText "\ufffd") ∧
      (storesText (.ofBytes [0xff])).source = (storesText "\ufffd").source ∧
      ((storesText (.ofBytes [0xff])).run f .empty).2.store.read 1 "x" = .bytes [0xff] ∧
      ((storesText "\ufffd").run f .empty).2.store.read 1 "x" = .string "\ufffd" := by
  intro text f
  have byte : (build 0 1 text).result = .ok (storesText (.ofBytes [0xff])) :=
    build_storesText 7 (by decide +kernel) (by decide +kernel)
  have mark : (build 0 1 "x = '\ufffd'").result = .ok (storesText "\ufffd") :=
    build_storesText 9 (by decide +kernel) (by decide +kernel)
  exact ⟨byte, mark, rfl, rfl, rfl⟩

end Program

end PageBinding
