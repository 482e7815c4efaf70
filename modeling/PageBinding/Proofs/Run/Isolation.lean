import PageBinding.Proofs.Run.Origin
import PageBinding.Run.Data

/-!
Contexts of the data store are apart from each other as far as they share no objects.

A run of the host is a sequence of acts, from an empty store on: it makes objects and events, stores
values, loads files and runs compiled bindings. Storing a value copies no object, so an act can put an
object of one context into another one or into the page. An act leaves every context alone that it
is not made in and that does not lead to the object it writes. If no act before it has given an object
of one holder to another, then it leaves every context alone that it is not made in.
-/
namespace PageBinding

variable {w after : World} {f : Frame} {locals : Locals} {p : Program} {write : Write}

/-! ## Writes -/

/-- The holder that a write belongs to: its context, or the page if it has none. -/
def Holder.of : Option Int → Holder
  | some id => .context id
  | none => .page

theorem Holder.of_ne {context? : Option Int} {context : Int} (other : context? ≠ some context) :
    Holder.of context? ≠ .context context := by
  cases context? with
  | none => exact Holder.noConfusion
  | some id =>
      intro same
      cases same
      exact other rfl

namespace Write

def context? : Write → Option Int
  | property context _ _ => some context
  | attr _ _ _ => none
  | member _ _ _ => none

/-- The object that a write changes, if it changes one that is there. -/
def object? (w : World) : Write → Option ObjectRef
  | property context path _ => w.store.owner? context path
  | member (.object ref) _ _ => some ref
  | _ => none

/-- The value that a write passes on. Attributes and the properties that write the markup take only
its text. -/
def given : Write → Value
  | property _ _ value => value
  | attr _ _ _ => .null
  | member (.element _) name value => if name ∈ markupProperties then .null else value
  | member _ _ value => value

end Write

namespace World

theorem gives_store {store : Store} {context : Int} {written : Option ObjectRef} {value : Value}
    (grown : w.store.heap.Grows store.heap written value) (keeps : Store.Keeps w.store store context)
    (owned : ∀ ref, written = some ref → w.Holds (.context context) ref) :
    Gives w { w with store } (.context context) written value := by
  refine ⟨grown, owned, fun id other => keeps.others id fun same => other (same ▸ rfl), ?_⟩
  intro k ref isRoot
  cases isRoot with
  | @context id ref found =>
      by_cases same : id = context
      · subst same
        rcases keeps.own ref found with before | made
        · exact .inl (.context before)
        · exact .inr ⟨rfl, .inr made⟩
      · exact .inl (.context ((keeps.others id same).symm.trans found))
  | property mem inside => exact .inl (.property mem inside)
  | detail mem inside => exact .inl (.detail mem inside)

theorem gives_document {document : Document} {value : Value}
    (properties : ∀ key v, (key, v) ∈ document.properties →
      (key, v) ∈ w.document.properties ∨ v = value) :
    Gives w { w with document } .page none value := by
  refine ⟨.refl _ _ _, nofun, fun _ _ => rfl, ?_⟩
  intro k ref isRoot
  cases isRoot with
  | context found => exact .inl (.context found)
  | property mem inside =>
      rcases properties _ _ mem with before | rfl
      · exact .inl (.property before inside)
      · exact .inr ⟨rfl, .inl inside⟩
  | detail mem inside => exact .inl (.detail mem inside)

theorem gives_event (w : World) (e : Event) : Gives w (w.addEvent e).2 .page none e.detail := by
  refine ⟨.refl _ _ _, nofun, fun _ _ => rfl, ?_⟩
  intro k ref isRoot
  cases isRoot with
  | context found => exact .inl (.context found)
  | property mem inside => exact .inl (.property mem inside)
  | detail mem inside =>
      rcases Array.mem_push.1 mem with before | rfl
      · exact .inl (.detail before inside)
      · exact .inr ⟨rfl, .inl inside⟩

theorem gives_member {owner : ObjectRef} (owned : w.Holds .page owner) (name : String)
    (value : Value) :
    Gives w { w with store.heap := w.store.heap.setMember owner name value } .page (some owner)
      value := by
  refine ⟨(Heap.Grows.refl _ _ value).setMember (fun _ => rfl) fun r mem => .inl mem, ?_,
    fun _ _ => rfl, ?_⟩
  · intro ref same
    cases same
    exact owned
  · intro k ref isRoot
    cases isRoot with
    | context found => exact .inl (.context found)
    | property mem inside => exact .inl (.property mem inside)
    | detail mem inside => exact .inl (.detail mem inside)

theorem holds_owner {context : Int} {path : String} {ref : ObjectRef}
    (found : w.store.owner? context path = some ref) : w.Holds (.context context) ref := by
  obtain ⟨root, isContext, rfl⟩ := Option.map_eq_some_iff.1 found
  exact ⟨root, .context isContext, Store.leads_owner _ _ _⟩

theorem gives_setProperty {e : ElementRef} {name : String} {value : Value}
    (written : w.setProperty e name value = .ok after) :
    Gives w after .page none (Write.given (.member (.element e) name value)) := by
  rw [Write.given]
  by_cases mem : name ∈ markupProperties
  · rw [setProperty_markup mem] at written
    rw [if_pos mem]
    cases printed : w.printed value with
    | error why =>
        rw [printed] at written
        cases written
    | ok text =>
        rw [printed] at written
        cases written
        refine gives_document fun key v inside => .inl ?_
        rwa [Document.properties_setReflected] at inside
  · rw [setProperty_other mem] at written
    cases written
    rw [if_neg mem]
    refine gives_document fun key v inside => ?_
    rcases List.mem_cons.1 inside with same | before
    · cases same
      exact .inr rfl
    · exact .inl before

def stored (w : World) (canceled : Bool) (context : Int) (path : String) (value : Value) : World :=
  match Store.assign canceled context path value w.store with
  | .ok _ store => { w with store }
  | .error _ store => { w with store }

def loaded (w : World) (context : Int) (text : String) : World :=
  match w.load context text with
  | .ok after => after
  | .error _ => w

theorem gives_stored (w : World) (canceled : Bool) (context : Int) (path : String) (value : Value) :
    w.stored canceled context path value = w ∨
      Gives w (w.stored canceled context path value) (.context context)
        (w.store.owner? context path) value := by
  unfold stored
  cases written : Store.assign canceled context path value w.store with
  | error cause store =>
      obtain rfl := Store.assign_error written
      exact .inl rfl
  | ok u store =>
      obtain ⟨grown, keeps⟩ := Store.assign_grows written
      exact .inr (gives_store grown keeps fun ref => holds_owner)

theorem gives_loaded (w : World) (context : Int) (text : String) :
    w.loaded context text = w ∨ Gives w (w.loaded context text) (.context context) none .null := by
  unfold loaded load
  cases Yaml.load .data text with
  | error cause => exact .inl rfl
  | ok fields =>
      obtain ⟨grown, keeps⟩ := Store.replace_grows w.store context fields
      exact .inr (gives_store grown keeps nofun)

end World

namespace Write

/-- A write gives its value to the holder that it belongs to. -/
theorem gives (written : write.result? w = some after)
    (owned : ∀ ref, write.object? w = some ref → w.Holds (.of write.context?) ref) :
    World.Gives w after (.of write.context?) (write.object? w) write.given := by
  cases write with
  | property context path value =>
      rw [result?] at written
      split at written
      · rename_i store stored
        cases written
        obtain ⟨grown, keeps⟩ := Store.assign_grows stored
        exact World.gives_store grown keeps owned
      · cases written
  | attr e name text =>
      cases written
      exact World.gives_document fun key v mem => .inl mem
  | member owner name value =>
      rw [result?] at written
      cases owner with
      | object ref =>
          cases written
          exact World.gives_member (owned ref rfl) name value
      | element e =>
          rw [World.setMember] at written
          split at written
          · cases written
          · cases set : w.setProperty e name value with
            | error why =>
                rw [set] at written
                cases written
            | ok next =>
                rw [set] at written
                cases written
                exact World.gives_setProperty set
      | _ => cases written

end Write

/-! ## Programs -/

/-- The write that an assignment makes if it is not refused. -/
def Stmt.write? (w : World) (f : Frame) (locals : Locals) : Stmt → Option Write
  | setProperty scope path value =>
      match value.eval w f locals with
      | .ok v => some (.property (scope.resolve f.bound) path v)
      | .error _ => none
  | setAttr x name value =>
      match x.eval w f locals, value.eval w f locals with
      | .ok (.element e), .ok v => some (.attr e name v.toRaw)
      | _, _ => none
  | setMember x name value =>
      match x.eval w f locals, value.eval w f locals with
      | .ok owner, .ok v => some (.member owner name v)
      | _, _ => none
  | _ => none

namespace Program

/-- The context that the assignment of a program resolves to, if it writes data. -/
def context? (f : Frame) (p : Program) : Option Int :=
  match p.assign with
  | some (.setProperty scope _ _) => some (scope.resolve f.bound)
  | _ => none

/-- The write that a program makes if it is not refused. -/
def write? (f : Frame) (p : Program) (w : World) : Option Write :=
  match Stmt.namedAll w f [] p.setup, p.assign with
  | .ok locals, some assign => assign.write? w f locals
  | _, _ => none

end Program

theorem Aims.write? {v : Value} {template assign : Stmt} {value : Expr}
    (aims : Aims w f locals v template write) (filled : template.fill? value = some assign)
    (evaluated : value.eval w f locals = .ok v) : assign.write? w f locals = some write := by
  cases aims with
  | property scope path =>
      cases filled
      rw [Stmt.write?, evaluated]
  | attr name owner =>
      cases filled
      rw [Stmt.write?, owner, evaluated]
  | member name owner =>
      cases filled
      rw [Stmt.write?, owner, evaluated]

/-- A compiled program changes nothing, or it makes its write. -/
theorem run_write {global context : Int} {text : RawText}
    (built : (Binding.build global context text).result = .ok p) (f : Frame) (w : World) :
    (p.run f w).2 = w ∨ ∃ locals assign write, Stmt.namedAll w f [] p.setup = .ok locals ∧
      p.assign = some assign ∧ assign.write? w f locals = some write ∧
      write.result? w = some (p.run f w).2 := by
  obtain ⟨template, first, value, read, filled, isSome⟩ := Binding.build_ok built
  obtain ⟨later, -, inOrder, waiting, -⟩ := read.scopes
  have runs := run_cases inOrder.areNames waiting filled isSome f w
  generalize p.run f w = result at runs
  cases runs with
  | failed e => exact .inl rfl
  | never why named evaluated aims endless => exact .inl rfl
  | wrote named evaluated aims written =>
      obtain ⟨assign, isAssign⟩ := Option.isSome_iff_exists.1 isSome
      refine .inr ⟨_, assign, _, named, isAssign, ?_, written⟩
      exact aims.write? (filled.symm.trans isAssign) evaluated

/-- The write of a compiled assignment is made in the context that the assignment resolves to. It
changes an object of its holder, and all objects in its value are held. -/
theorem Stmt.IsAssignment.write_held {context : Int} {assign : Stmt}
    (h : assign.IsAssignment context) (isAssign : p.assign = some assign)
    (names : locals.In (w.Holds .page)) (writes : assign.write? w f locals = some write) :
    write.context? = p.context? f ∧
      (∀ ref, write.object? w = some ref → w.Holds (.of write.context?) ref) ∧
      write.given.In fun ref => ∃ holder, w.Holds holder ref := by
  have value {x : Expr} {v : Value} (readable : x.Readable context)
      (evaluated : x.eval w f locals = .ok v) : v.In fun ref => ∃ holder, w.Holds holder ref :=
    readable.printable.eval_in w.covers_all
      (fun name u found => (names name u found).mono fun ref held => ⟨.page, held⟩)
      (fun _ _ _ => World.getData_in) evaluated
  unfold Program.context?
  rw [isAssign]
  cases h with
  | property path _ readable =>
      rw [Stmt.write?] at writes
      split at writes <;> cases writes
      rename_i evaluated
      exact ⟨rfl, fun ref => World.holds_owner, value readable evaluated⟩
  | attr name _ _ =>
      rw [Stmt.write?] at writes
      split at writes <;> cases writes
      exact ⟨rfl, nofun, .of_refs rfl⟩
  | member _ _ readable =>
      rw [Stmt.write?] at writes
      split at writes <;> cases writes
      rename_i owner v ofChain ofValue
      -- the owner of a property is reached from an element, so the page holds it
      have ofPage := Expr.eval_chain_in w.covers_page names ofChain
      have inside := value readable ofValue
      cases owner with
      | object owner =>
          refine ⟨rfl, fun ref isObject => ?_, inside⟩
          cases isObject
          exact ofPage owner List.mem_cons_self
      | element e =>
          refine ⟨rfl, nofun, ?_⟩
          rw [Write.given]
          split
          · exact .of_refs rfl
          · exact inside
      | _ => exact ⟨rfl, nofun, inside⟩

theorem run_gives {global context : Int} {text : String}
    (built : (Binding.build global context text).result = .ok p) (f : Frame) (w : World) :
    (p.run f w).2 = w ∨ ∃ write, p.write? f w = some write ∧
      World.Gives w (p.run f w).2 (.of (p.context? f)) (write.object? w) write.given ∧
      write.given.In fun ref => ∃ holder, w.Holds holder ref := by
  obtain unchanged | ⟨locals, assign, write, named, isAssign, writes, written⟩ := run_write built f w
  · exact .inl unchanged
  · obtain ⟨setup, assign', isAssign', assigns⟩ := Binding.build_written built
    obtain rfl : assign = assign' := Option.some.inj (isAssign.symm.trans isAssign')
    have names : locals.In (w.Holds .page) := Stmt.namedAll_in setup w.covers_page .nil named
    obtain ⟨inContext, owned, inside⟩ := assigns.write_held isAssign names writes
    refine .inr ⟨write, ?_, ?_, inside⟩
    · rw [Program.write?, named, isAssign]
      exact writes
    · rw [← inContext]
      exact Write.gives written owned

/-! ## Acts -/

/-- A step of a run of the host. -/
inductive Act
  | make (fields : Fields Value)
  | event (e : Event)
  | store (canceled : Bool) (context : Int) (path : String) (value : Value)
  | load (context : Int) (text : String)
  | run (p : Program) (f : Frame)

namespace Act

/-- The world after an act, whether it succeeds or fails. -/
def result (w : World) : Act → World
  | make fields => w.make fields
  | event e => (w.addEvent e).2
  | store canceled context path value => w.stored canceled context path value
  | load context text => w.loaded context text
  | run p f => (p.run f w).2

/-- The context that an act is made in. -/
def context? : Act → Option Int
  | make _ => none
  | event _ => none
  | store _ context _ _ => some context
  | load context _ => some context
  | run p f => p.context? f

def write? (w : World) : Act → Option Write
  | store _ context path value => some (.property context path value)
  | run p f => p.write? f w
  | _ => none

def object? (w : World) (act : Act) : Option ObjectRef :=
  (act.write? w).bind fun write => write.object? w

/-- The value that an act passes on. -/
def given (w : World) : Act → Value
  | event e => e.detail
  | act => ((act.write? w).map Write.given).getD .null

/-- What the host can do: it has only objects that are there, and it runs compiled bindings. -/
def Possible (w : World) : Act → Prop
  | make _ => True
  | event e => ∀ ref, w.store.heap.Reaches e.detail ref → w.store.heap.Has ref
  | store _ _ _ value => ∀ ref, w.store.heap.Reaches value ref → w.store.heap.Has ref
  | load _ _ => True
  | run p _ => ∃ (global context : Int) (text : String),
      (Binding.build global context text).result = .ok p

/-- An act passes on no object that another holder leads to. -/
def Unshared (w : World) (act : Act) : Prop :=
  ∀ ref holder, w.store.heap.Reaches (act.given w) ref → w.Holds holder ref →
    holder = .of act.context?

theorem known_of_in (closed : w.Closed) {v : Value}
    (inside : v.In fun ref => ∃ holder, w.Holds holder ref) (ref : ObjectRef)
    (reached : w.store.heap.Reaches v ref) : w.store.heap.Has ref := by
  obtain ⟨first, mem, path⟩ := reached
  obtain ⟨holder, root, isRoot, before⟩ := inside first mem
  exact closed holder ref ⟨root, isRoot, before.trans path⟩

/-- An act makes an object, or changes nothing, or gives its value to the holder that it belongs to. -/
theorem result_cases {act : Act} (closed : w.Closed) (possible : act.Possible w) :
    (∃ fields, act = .make fields) ∨ act.result w = w ∨
      World.Gives w (act.result w) (.of act.context?) (act.object? w) (act.given w) ∧
        ∀ ref, w.store.heap.Reaches (act.given w) ref → w.store.heap.Has ref := by
  cases act with
  | make fields => exact .inl ⟨fields, rfl⟩
  | event e => exact .inr (.inr ⟨World.gives_event w e, possible⟩)
  | store canceled context path value =>
      refine .inr ((w.gives_stored canceled context path value).imp_right fun gives => ?_)
      exact ⟨gives, possible⟩
  | load context text =>
      refine .inr ((w.gives_loaded context text).imp_right fun gives => ⟨gives, ?_⟩)
      exact known_of_in closed (.of_refs rfl)
  | run p f =>
      obtain ⟨global, context, text, built⟩ := possible
      refine .inr ((run_gives built f w).imp_right ?_)
      rintro ⟨write, writes, gives, inside⟩
      have sameObject : object? w (.run p f) = write.object? w := by
        rw [object?, write?, writes]
        rfl
      have sameValue : given w (.run p f) = write.given := by
        rw [given, write?, writes]
        · rfl
        · exact nofun
      rw [sameObject, sameValue]
      exact ⟨gives, known_of_in closed inside⟩

variable {act : Act}

theorem closed_result (closed : w.Closed) (possible : act.Possible w) : (act.result w).Closed := by
  obtain ⟨fields, rfl⟩ | unchanged | ⟨gives, known⟩ := result_cases closed possible
  · intro k ref held
    exact World.has_make fields (closed k ref (World.holds_make closed held))
  · rw [unchanged]
    exact closed
  · exact gives.closed closed known

theorem separate_result (closed : w.Closed) (separate : w.Separate) (possible : act.Possible w)
    (unshared : act.Unshared w) : (act.result w).Separate := by
  obtain ⟨fields, rfl⟩ | unchanged | ⟨gives, -⟩ := result_cases closed possible
  · intro k k' ref held held'
    exact separate k k' ref (World.holds_make closed held) (World.holds_make closed held')
  · rw [unchanged]
    exact separate
  · exact gives.separate closed separate unshared

theorem untouched_result (closed : w.Closed) (possible : act.Possible w) {context : Int}
    (other : act.context? ≠ some context)
    (apart : ∀ ref, act.object? w = some ref → w.Holds (.of act.context?) ref →
      ¬ w.Holds (.context context) ref) : World.Untouched w (act.result w) context := by
  obtain ⟨fields, rfl⟩ | unchanged | ⟨gives, -⟩ := result_cases closed possible
  · exact World.untouched_of_same rfl fun ref held => World.get?_make closed fields held
  · rw [unchanged]
    exact World.untouched_of_same rfl fun _ _ => rfl
  · refine gives.untouched closed (Holder.of_ne other) fun ref isObject => ?_
    exact apart ref isObject (gives.owned ref isObject)

theorem object?_of_attr {x value : Expr} {name : String}
    (isAttr : p.assign = some (.setAttr x name value)) : object? w (.run p f) = none := by
  rw [object?, write?, Program.write?, isAttr]
  cases Stmt.namedAll w f [] p.setup with
  | error e => rfl
  | ok locals =>
      dsimp only
      rw [Stmt.write?]
      split <;> rfl

end Act

/-! ## Runs -/

namespace World

/-- The worlds that acts of a kind lead to, from an empty store and a page without properties. -/
inductive Reached (admits : World → Act → Prop) : World → Prop
  | start {w : World} : w.store = .empty → w.document.properties = [] → w.events = #[] →
      Reached admits w
  | step {w : World} {act : Act} : Reached admits w → act.Possible w → admits w act →
      Reached admits (act.result w)

theorem not_root_of_start {k : Holder} {ref : ObjectRef} (store : w.store = .empty)
    (properties : w.document.properties = []) (events : w.events = #[]) : ¬ w.Root k ref := by
  intro isRoot
  cases isRoot with
  | context found =>
      rw [store] at found
      cases found
  | property mem _ =>
      rw [properties] at mem
      cases mem
  | detail mem _ =>
      rw [events] at mem
      simp at mem

namespace Reached

variable {admits : World → Act → Prop}

theorem closed (h : Reached admits w) : w.Closed := by
  induction h with
  | start store properties events =>
      rintro k ref ⟨root, isRoot, -⟩
      exact absurd isRoot (not_root_of_start store properties events)
  | step _ possible _ ih => exact Act.closed_result ih possible

theorem separate (h : Reached (fun w act => act.Unshared w) w) : w.Separate := by
  induction h with
  | start store properties events =>
      rintro k k' ref ⟨root, isRoot, -⟩
      exact absurd isRoot (not_root_of_start store properties events)
  | step reached possible unshared ih =>
      exact Act.separate_result reached.closed ih possible unshared

end Reached

/-- An act leaves a context as it was if it is made elsewhere and the object it writes is none of
the context's. An attribute is no object. Where no act has shared an object, being made elsewhere is
enough. -/
theorem untouched_unless_shared {act : Act} (reached : Reached (fun _ _ => True) w)
    (possible : act.Possible w) :
    (∀ context, act.context? ≠ some context →
        (∀ ref, act.object? w = some ref → ¬ w.Holds (.context context) ref) →
        Untouched w (act.result w) context) ∧
      (∀ p f x name value, act = .run p f → p.assign = some (.setAttr x name value) →
        ∀ context, Untouched w (act.result w) context) ∧
      (Reached (fun w act => act.Unshared w) w → ∀ context, act.context? ≠ some context →
        Untouched w (act.result w) context) := by
  refine ⟨fun context other apart => ?_, ?_, fun unshared context other => ?_⟩
  · exact Act.untouched_result reached.closed possible other fun ref isObject _ => apart ref isObject
  · rintro p f x name value rfl isAttr context
    have nowhere : (Act.run p f).context? = none := by
      rw [Act.context?, Program.context?, isAttr]
    refine Act.untouched_result reached.closed possible (by simp [nowhere]) fun ref isObject => ?_
    rw [Act.object?_of_attr isAttr] at isObject
    cases isObject
  · refine Act.untouched_result reached.closed possible other fun ref _ own held => ?_
    exact Holder.of_ne other (unshared.separate _ _ ref own held)

/-! ### Contexts that share an object -/

/-- What the host runs bindings with: the element of a page, and the context 1. -/
def hostFrame : Frame :=
  ⟨none, some ⟨0, "p"⟩, true, true, false, 1⟩

def takesObject : Program :=
  ⟨[], some (.setProperty (.bound 1) "x" (.get (.fixed 0) "o"))⟩

def writesMember : Program :=
  ⟨[], some (.setProperty (.bound 1) "x.k" (.lit "true" (.bool true)))⟩

def keepsObject : Program :=
  ⟨[], some (.setMember .element "d" (.get (.fixed 0) "o"))⟩

def writesKept : Program :=
  ⟨[], some (.setMember (.member .element "d") "k" (.lit "true" (.bool true)))⟩

theorem build_takesObject : (Binding.build 0 1 "x = $globals.o").result = .ok takesObject := by
  have scanned : Token.scan "x = $globals.o" =
      [⟨.identifier, 0, "x"⟩, ⟨.assign, 2, "="⟩, ⟨.identifier, 4, "$globals"⟩, ⟨.dot, 12, "."⟩,
        ⟨.identifier, 13, "o"⟩, .eofAt 14] := by
    decide +kernel
  unfold Binding.build Assignment.ofText
  rw [Token.scanRaw, scanned]
  rfl

theorem build_writesMember : (Binding.build 0 1 "x.k = true").result = .ok writesMember := by
  have scanned : Token.scan "x.k = true" =
      [⟨.identifier, 0, "x"⟩, ⟨.dot, 1, "."⟩, ⟨.identifier, 2, "k"⟩, ⟨.assign, 4, "="⟩,
        ⟨.identifier, 6, "true"⟩, .eofAt 10] := by
    decide +kernel
  unfold Binding.build Assignment.ofText
  rw [Token.scanRaw, scanned]
  rfl

theorem build_keepsObject :
    (Binding.build 0 1 "prop($element, 'd') = $globals.o").result = .ok keepsObject := by
  have scanned : Token.scan "prop($element, 'd') = $globals.o" =
      [⟨.identifier, 0, "prop"⟩, ⟨.leftParen, 4, "("⟩, ⟨.identifier, 5, "$element"⟩,
        ⟨.comma, 13, ","⟩, ⟨.string, 15, "'d'"⟩, ⟨.rightParen, 18, ")"⟩, ⟨.assign, 20, "="⟩,
        ⟨.identifier, 22, "$globals"⟩, ⟨.dot, 30, "."⟩, ⟨.identifier, 31, "o"⟩, .eofAt 32] := by
    decide +kernel
  unfold Binding.build Assignment.ofText
  rw [Token.scanRaw, scanned]
  rfl

theorem build_writesKept :
    (Binding.build 0 1 "prop($element, 'd.k') = true").result = .ok writesKept := by
  have scanned : Token.scan "prop($element, 'd.k') = true" =
      [⟨.identifier, 0, "prop"⟩, ⟨.leftParen, 4, "("⟩, ⟨.identifier, 5, "$element"⟩,
        ⟨.comma, 13, ","⟩, ⟨.string, 15, "'d.k'"⟩, ⟨.rightParen, 20, ")"⟩, ⟨.assign, 22, "="⟩,
        ⟨.identifier, 24, "true"⟩, .eofAt 28] := by
    decide +kernel
  unfold Binding.build Assignment.ofText
  rw [Token.scanRaw, scanned]
  rfl

/-- A value without objects can be stored, and it shares nothing. -/
theorem possible_plain {value : Value} (plain : value.refs = []) (context : Int) (path : String) :
    (Act.store false context path value).Possible w ∧
      (Act.store false context path value).Unshared w := by
  have nothing (ref : ObjectRef) : ¬ w.store.heap.Reaches value ref := by
    rintro ⟨first, mem, -⟩
    rw [plain] at mem
    cases mem
  exact ⟨fun ref reached => absurd reached (nothing ref),
    fun ref holder reached _ => absurd reached (nothing ref)⟩

def oneObject : World :=
  (Act.store false 0 "o.k" (.bool false)).result .empty

theorem reached_oneObject (admits : World → Act → Prop)
    (admitted : admits .empty (.store false 0 "o.k" (.bool false))) : Reached admits oneObject :=
  .step (.start rfl rfl rfl) (possible_plain rfl 0 "o.k").1 admitted

/-- Assigning an object hands over the object itself. Writing to it in another context, or through an
element that keeps it, changes the context that it came from. -/
theorem shared_object_written_elsewhere :
    (∃ (w : World) (act : Act), Reached (fun _ _ => True) w ∧ act.Possible w ∧ act.context? = some 1 ∧
        w.store.read 0 "o.k" = .bool false ∧ (act.result w).store.read 0 "o.k" = .bool true) ∧
      ∃ w p f x name value, Reached (fun _ _ => True) w ∧ (Act.run p f).Possible w ∧
        p.assign = some (.setMember x name value) ∧
        w.store.read 0 "o.k" = .bool false ∧
        ((Act.run p f).result w).store.read 0 "o.k" = .bool true := by
  have start : Reached (fun _ _ => True) oneObject := reached_oneObject _ trivial
  have taken : Reached (fun _ _ => True) ((Act.run takesObject hostFrame).result oneObject) :=
    start.step ⟨0, 1, _, build_takesObject⟩ trivial
  have kept : Reached (fun _ _ => True) ((Act.run keepsObject hostFrame).result oneObject) :=
    start.step ⟨0, 1, _, build_keepsObject⟩ trivial
  constructor
  · exact ⟨_, .run writesMember hostFrame, taken, ⟨0, 1, _, build_writesMember⟩, rfl, rfl, rfl⟩
  · exact ⟨_, writesKept, hostFrame, _, _, _, kept, ⟨0, 1, _, build_writesKept⟩, rfl, rfl, rfl⟩

/-- Two contexts with an object each. Writing to that of context 1 leaves that of context 0. -/
theorem own_object_untouched :
    ∃ (w : World) (act : Act), Reached (fun _ _ => True) w ∧
      Reached (fun w act => act.Unshared w) w ∧ act.Possible w ∧ act.context? = some 1 ∧
      w.store.read 1 "x.k" = .bool false ∧ (act.result w).store.read 1 "x.k" = .bool true ∧
      Untouched w (act.result w) 0 := by
  have reached (admits : World → Act → Prop)
      (admitted : ∀ w context path, admits w (.store false context path (.bool false))) :
      Reached admits ((Act.store false 1 "x.k" (.bool false)).result oneObject) :=
    .step (reached_oneObject admits (admitted _ _ _)) (possible_plain rfl 1 "x.k").1 (admitted _ _ _)
  have unshared := reached (fun w act => act.Unshared w)
    fun w context path => (possible_plain rfl context path).2
  have possible : (Act.run writesMember hostFrame).Possible
      ((Act.store false 1 "x.k" (.bool false)).result oneObject) := ⟨0, 1, _, build_writesMember⟩
  have anyhow := reached (fun _ _ => True) fun _ _ _ => trivial
  have untouched := (untouched_unless_shared anyhow possible).2.2 unshared 0
  exact ⟨_, _, anyhow, unshared, possible, rfl, rfl, rfl, untouched (by decide)⟩

end World

end PageBinding
