import PageBinding.Proofs.Reading.Fault
import PageBinding.Proofs.Reading.Scoping

/-!
Readers go forward: what a reader leaves is an end of the tokens that it was given, and each fault is
at one of these tokens or at the end of the side. A reader that calls another one has taken a token
before, or calls one further down in the grammar, so the fuel for a side is enough for each text,
whether it can be read or not.
-/
namespace PageBinding.Binding

variable {α β : Type} {s : Setting} {stop : Nat} {side : List Token} {p q : Progress} {fault : Fault}

/-- A step that leaves an end of its tokens, or fails at its side. -/
def Proceeds (stop : Nat) (side : List Token) (m : Parse α) (p : Progress) : Prop :=
  p.rest ⊆ side → match m p with
    | .ok _ q => q.rest <:+ p.rest
    | .error fault _ => FaultOf stop side fault

/-! ## Steps -/

namespace Proceeds

theorem ok {m : Parse α} {a : α} (h : Proceeds stop side m p) (inside : p.rest ⊆ side)
    (ran : m p = .ok a q) : q.rest <:+ p.rest := by
  have left := h inside
  rw [ran] at left
  exact left

theorem error {m : Parse α} (h : Proceeds stop side m p) (inside : p.rest ⊆ side)
    (ran : m p = .error fault q) : FaultOf stop side fault := by
  have failed := h inside
  rw [ran] at failed
  exact failed

theorem pure (a : α) : Proceeds stop side (pure a) p :=
  fun _ => List.suffix_refl p.rest

theorem throw (h : FaultOf stop side fault) : Proceeds stop side (throw fault : Parse α) p :=
  fun _ => h

theorem throw_bind {f : α → Parse β} (h : FaultOf stop side fault) :
    Proceeds stop side (MonadExcept.throw fault >>= f) p :=
  fun _ => h

theorem bind {m : Parse α} {f : α → Parse β} (first : Proceeds stop side m p)
    (later : ∀ a q, m p = .ok a q → q.rest <:+ p.rest → Proceeds stop side (f a) q) :
    Proceeds stop side (m >>= f) p := by
  intro inside
  cases ran : m p with
  | ok a q =>
    have left := first.ok inside ran
    have goes := later a q ran left (List.Subset.trans left.subset inside)
    rw [bind_of_ok ran]
    cases result : f a q with
    | ok b r =>
      rw [result] at goes
      exact goes.trans left
    | error fault r =>
      rw [result] at goes
      exact goes
  | error fault q =>
    rw [bind_of_error ran]
    exact first.error inside ran

theorem get {f : Progress → Parse β} (later : Proceeds stop side (f p) p) :
    Proceeds stop side (get >>= f) p :=
  later

theorem peek {f : Token → Parse β} (later : Belongs s.stop side (nextToken s.stop p.rest) →
      Proceeds s.stop side (f (nextToken s.stop p.rest)) p) :
    Proceeds s.stop side (peek s >>= f) p :=
  fun inside => later (belongs_next inside) inside

theorem advance : Proceeds stop side advance p :=
  fun _ => List.drop_suffix 1 p.rest

/-- After a token that is not the end there are fewer tokens left. -/
theorem skip {f : Unit → Parse β} {kind : Token.Kind} (next : (nextToken stop p.rest).kind = kind)
    (notEnd : kind ≠ .eof)
    (later : ∀ q : Progress, q.rest.length < p.rest.length → Proceeds stop side (f ()) q) :
    Proceeds stop side (Binding.advance >>= f) p := by
  refine advance.bind fun _ q ran _ => later q ?_
  obtain ⟨t, rest, shape, -⟩ := rest_of_nextToken next notEnd
  cases ran
  simp [shape]

theorem take {f : Token → Parse β}
    (later : ∀ q : Progress, Belongs s.stop side (nextToken s.stop p.rest) →
      ((nextToken s.stop p.rest).kind ≠ .eof → q.rest.length < p.rest.length) →
        Proceeds s.stop side (f (nextToken s.stop p.rest)) q) :
    Proceeds s.stop side (take s >>= f) p := by
  intro inside
  have goes : Proceeds s.stop side (Binding.take s) p := fun _ => List.drop_suffix 1 p.rest
  refine goes.bind (fun t q ran _ => ?_) inside
  cases ran
  refine later _ (belongs_next inside) fun notEnd => ?_
  obtain ⟨t, rest, shape, -⟩ := rest_of_nextToken rfl notEnd
  simp [shape]

theorem expect {f : Token → Parse β} {kind : Token.Kind} {what : String} (notEnd : kind ≠ .eof)
    (later : ∀ t (q : Progress), Belongs s.stop side t → q.rest.length < p.rest.length →
      Proceeds s.stop side (f t) q) :
    Proceeds s.stop side (expect s kind what >>= f) p := by
  intro inside
  have goes : Proceeds s.stop side (Binding.expect s kind what) p := by
    refine take fun q belongs _ => ?_
    split
    · exact pure _
    · exact throw (belongs.faultOf rfl)
  refine goes.bind (fun t q ran _ => ?_) inside
  obtain ⟨-, rest, shape, rfl⟩ := (expect_ok notEnd).1 ran
  exact later t _ (.inl (inside (by simp [shape]))) (by simp [shape])

theorem expectEnd (what : String) : Proceeds s.stop side (expectEnd s what) p := by
  refine peek fun belongs => ?_
  split
  · exact pure ()
  · exact throw (belongs.faultOf rfl)

theorem reading {read : TokenReader α}
    (left : ∀ {toks a rest}, read toks = .ok (a, rest) → ∃ ts, toks = ts ++ rest)
    (fails : ∀ {toks fault}, toks ⊆ side → read toks = .error fault → FaultOf stop side fault) :
    Proceeds stop side (reading read) p := by
  intro inside
  unfold Binding.reading
  rw [get_bind]
  cases result : read p.rest with
  | error fault => exact fails inside result
  | ok found =>
    obtain ⟨ts, shape⟩ := left result
    exact ⟨ts, shape.symm⟩

theorem declare (stem : String) (make : String → Stmt) : Proceeds stop side (declare stem make) p :=
  fun _ => List.suffix_refl p.rest

theorem element (locator : Locator) : Proceeds stop side (element locator) p := by
  cases locator with
  | self => exact pure _
  | find selector whole => exact declare "el" fun name => .lookup name selector whole

/-! ## Values -/

theorem readPath : Proceeds s.stop side (Binding.reading (path s.stop)) p := by
  refine reading (fun read => ?_) path_fault
  obtain ⟨ts, shape, -⟩ := path_sound read
  exact ⟨ts, shape⟩

theorem readGlobalPath (marker : Token) : Proceeds s.stop side (readGlobalPath s marker) p := by
  have read : Proceeds s.stop side (Binding.reading (globalPath s.stop)) p := by
    refine reading (fun read => ?_) globalPath_fault
    obtain ⟨ts, f, shape, -⟩ := globalPath_sound read
    exact ⟨ts, shape⟩
  refine read.bind fun path q _ _ => ?_
  dsimp only
  split
  · exact fun _ => List.suffix_refl q.rest
  · exact pure path

theorem accessor (fn : String) :
    Proceeds s.stop side (Binding.reading (Binding.accessor s.text fn s.stop)) p :=
  reading accessor_prefix accessor_fault

theorem readAccessor {marker : Token} (belongs : Belongs s.stop side marker) :
    Proceeds s.stop side (readAccessor s marker) p := by
  unfold Binding.readAccessor
  generalize (if marker.text = "prop" then Side.prop else Side.attr) = kind
  dsimp only
  split
  · exact throw_bind (belongs.faultOf rfl)
  refine (accessor _).bind fun found q _ _ => (element found.element).bind fun x r _ _ => ?_
  split
  · exact declare "attr" fun name => .declare name (.attr x found.name)
  · exact declare "prop" fun name => .declare name (memberPath x found.name)

theorem number {t : Token} (belongs : Belongs s.stop side t) :
    Proceeds s.stop side (number t) p := by
  unfold Binding.number
  split
  · exact pure _
  · exact throw (belongs.faultOf rfl)

theorem string {t : Token} (belongs : Belongs s.stop side t) :
    Proceeds s.stop side (string s t) p := by
  unfold Binding.string
  split
  · exact pure _
  · rename_i failed
    exact throw (unquoted_fault belongs failed)

variable {arguments : Parse (List Expr)} {t : Token}

theorem dataPath (belongs : Belongs s.stop side t)
    (rest : ∀ q : Progress, q.rest <:+ p.rest → (nextToken s.stop q.rest).kind = .leftParen →
      Proceeds s.stop side arguments q) : Proceeds s.stop side (dataPath s arguments t) p := by
  refine readPath.bind fun names q _ left => peek fun _ => ?_
  split
  · rename_i opens
    split
    · exact throw_bind (belongs.faultOf rfl)
    · exact (rest q left opens).bind fun xs r _ _ => pure _
  · exact pure _

theorem identifier (belongs : Belongs s.stop side t)
    (rest : ∀ q : Progress, q.rest <:+ p.rest → (nextToken s.stop q.rest).kind = .leftParen →
      Proceeds s.stop side arguments q) : Proceeds s.stop side (identifier s arguments t) p := by
  unfold Binding.identifier
  split
  · exact advance.bind fun _ q _ _ => pure _
  · refine get ?_
    dsimp only
    split
    · exact readAccessor belongs
    split
    · exact throw (belongs.faultOf rfl)
    split
    · split
      · exact throw_bind (belongs.faultOf rfl)
      · exact advance.bind fun _ q _ _ => (readGlobalPath t).bind fun path r _ _ => pure _
    split
    · exact throw (belongs.faultOf rfl)
    · exact dataPath belongs rest

end Proceeds

/-- Readers with enough fuel for the tokens that are left go forward. What is enough depends on how many
calls a reader makes before it takes a token. -/
structure ReadsOn (s : Setting) (side : List Token) (fuel : Nat) : Prop where
  expr : ∀ p : Progress, 8 * p.rest.length + 4 ≤ fuel → Proceeds s.stop side (expr s fuel) p
  binary : ∀ least (p : Progress), 8 * p.rest.length + 3 ≤ fuel → Proceeds s.stop side (binary s fuel least) p
  binaryTail : ∀ least x (p : Progress), 8 * p.rest.length + 1 ≤ fuel →
    Proceeds s.stop side (binaryTail s fuel least x) p
  unary : ∀ p : Progress, 8 * p.rest.length + 2 ≤ fuel → Proceeds s.stop side (unary s fuel) p
  postfixes : ∀ x (p : Progress), 8 * p.rest.length + 1 ≤ fuel → Proceeds s.stop side (postfixes s fuel x) p
  args : ∀ p : Progress, 8 * p.rest.length ≤ fuel → (nextToken s.stop p.rest).kind = .leftParen →
    Proceeds s.stop side (args s fuel) p
  argsTail : ∀ p : Progress, 8 * p.rest.length + 5 ≤ fuel → Proceeds s.stop side (argsTail s fuel) p
  primary : ∀ p : Progress, 8 * p.rest.length + 1 ≤ fuel → Proceeds s.stop side (primary s fuel) p

theorem readsOn (s : Setting) (side : List Token) (fuel : Nat) : ReadsOn s side fuel := by
  induction fuel with
  | zero =>
    constructor
    case args =>
      intro p enough opens
      obtain ⟨t, rest, shape, -⟩ := rest_of_nextToken opens (by decide)
      simp [shape] at enough
    all_goals
      intros
      omega
  | succ fuel ih =>
    constructor
    case expr =>
      intro p enough
      refine (ih.binary 1 p (by omega)).bind fun c q _ left => .peek fun _ => ?_
      have few := left.length_le
      split
      · rename_i question
        refine .skip question (by decide) fun q' few' => ?_
        refine (ih.expr q' (by omega)).bind fun x r _ left => .expect (by decide) fun _ r' _ fewer => ?_
        have few'' := left.length_le
        exact (ih.expr r' (by omega)).bind fun y _ _ _ => .pure _
      · exact .pure c
    case binary =>
      intro least p enough
      refine (ih.unary p (by omega)).bind fun x q _ left => ?_
      have few := left.length_le
      exact ih.binaryTail least x q (by omega)
    case binaryTail =>
      intro least x p enough
      refine .peek fun belongs => ?_
      split
      · exact .pure x
      · rename_i op level found
        split
        · exact .pure x
        · refine .skip (kind_of_binaryOp found) (by decide) fun q few => ?_
          refine (ih.binary _ q (by omega)).bind fun y r _ left => ?_
          have few' := left.length_le
          exact ih.binaryTail least _ r (by omega)
    case unary =>
      intro p enough
      refine .peek fun belongs => ?_
      split
      · rename_i op found
        refine .skip (kind_of_unaryOp found) (by decide) fun q few => ?_
        exact (ih.unary q (by omega)).bind fun x _ _ _ => .pure _
      · refine (ih.primary p (by omega)).bind fun x q _ left => ?_
        have few := left.length_le
        exact ih.postfixes x q (by omega)
    case postfixes =>
      intro x p enough
      refine .peek fun belongs => ?_
      split
      · rename_i dot
        refine .skip dot (by decide) fun q few => .expect (by decide) fun name q' named few' => ?_
        split
        · exact .throw_bind (named.faultOf rfl)
        · refine .peek fun _ => ?_
          split
          · rename_i opens
            refine (ih.args q' (by omega) opens).bind fun xs r _ left => ?_
            have few'' := left.length_le
            exact ih.postfixes _ r (by omega)
          · exact ih.postfixes _ q' (by omega)
      split
      · rename_i bracket
        refine .skip bracket (by decide) fun q few => ?_
        refine (ih.expr q (by omega)).bind fun i r _ left => .expect (by decide) fun _ r' _ few' => ?_
        have few'' := left.length_le
        exact ih.postfixes _ r' (by omega)
      split
      · exact .throw (belongs.faultOf rfl)
      · exact .pure x
    case args =>
      intro p enough opens
      refine .expect (by decide) fun _ q _ few => .peek fun _ => ?_
      split
      · exact Proceeds.advance.bind fun _ _ _ _ => .pure []
      · exact ih.argsTail q (by omega)
    case argsTail =>
      intro p enough
      refine (ih.expr p (by omega)).bind fun x q _ left => .take fun r belongs fewer => ?_
      have few := left.length_le
      split
      · rename_i comma
        have few' := fewer (by simp [comma])
        exact (ih.argsTail r (by omega)).bind fun xs _ _ _ => .pure _
      split
      · exact .pure [x]
      · exact .throw (belongs.faultOf rfl)
    case primary =>
      intro p enough
      refine .peek fun belongs => ?_
      split
      · exact Proceeds.advance.bind fun _ _ _ _ => .number belongs
      · exact Proceeds.advance.bind fun _ _ _ _ => .string belongs
      · rename_i paren
        refine .skip paren (by decide) fun q few => ?_
        exact (ih.expr q (by omega)).bind fun x _ _ _ => .expect (by decide) fun _ _ _ _ => .pure _
      · refine .identifier belongs fun q left opens => ?_
        have few := left.length_le
        exact ih.args q (by omega) opens
      · exact .throw (belongs.faultOf rfl)
      · exact .throw (belongs.faultOf rfl)

theorem source_proceeds (s : Setting) (side : List Token) (p : Progress) :
    Proceeds s.stop side (source s) p := by
  refine .get ?_
  refine ((readsOn s side _).expr p (by unfold fuelFor; omega)).bind fun x q _ _ => ?_
  exact (Proceeds.expectEnd _).bind fun _ _ _ _ => .pure x

theorem target_proceeds (s : Setting) (side : List Token) (p : Progress) :
    Proceeds s.stop side (target s) p := by
  have ending (template : Stmt) (q : Progress) : Proceeds s.stop side (Pure.pure template >>=
      fun made => expectEnd s "assignment target" >>= fun _ => Pure.pure made) q :=
    (Proceeds.pure template).bind fun made _ _ _ =>
      (Proceeds.expectEnd _).bind fun _ _ _ _ => .pure made
  unfold target
  split
  · exact (Proceeds.accessor _).bind fun found _ _ _ => (Proceeds.element _).bind fun x _ _ _ =>
      ending _ _
  · exact (Proceeds.accessor _).bind fun found _ _ _ => (Proceeds.element _).bind fun x _ _ _ =>
      ending _ _
  · refine .take fun q belongs _ => ?_
    dsimp only
    split
    · exact .throw_bind (belongs.faultOf rfl)
    · exact (Proceeds.readGlobalPath _).bind fun path _ _ _ => ending _ _
  · refine .peek fun belongs => ?_
    dsimp only
    split
    · exact .throw_bind (belongs.faultOf rfl)
    · exact Proceeds.readPath.bind fun names _ _ _ => ending _ _

/-! ## Bindings -/

section
variable {global context : Int} {text : RawText}

theorem fill?_isSome {names : List String} {template : Stmt} (h : IsTemplate names template)
    (value : Expr) : (template.fill? value).isSome = true := by
  cases h <;> rfl

theorem program_fault {a : Assignment}
    (h : program text global context a ⟨a.target, [], []⟩ = .error fault q) :
    FaultOf a.sign a.target fault ∨ FaultOf a.stop a.source fault := by
  unfold program at h
  rw [bind_error] at h
  rcases h with h | ⟨template, r, read, h⟩
  · exact .inl ((target_proceeds (targetSetting text global context a) a.target _).error
      (List.Subset.refl _) h)
  rw [modify_bind, bind_error] at h
  rcases h with h | ⟨value, r', -, h⟩
  · exact .inr ((source_proceeds (sourceSetting text global context a) a.source _).error
      (List.Subset.refl _) h)
  obtain ⟨_, _, spelt, -⟩ := target_sound read
  obtain ⟨_, _, _, waiting⟩ := spelt.adds
  obtain ⟨assign, filled⟩ := Option.isSome_iff_exists.1 (fill?_isSome waiting value)
  simp only [filled] at h
  cases h

/-- A text that cannot be cut is told by the cause from one with a side that cannot be read. -/
theorem build_fault {e : BindingError} (h : (build global context text).result = .error e) :
    Assignment.ofText text = .error e ↔ e.fault.cause.isCutting = true := by
  refine ⟨ofText_fault, fun cutting => ?_⟩
  unfold build at h
  split at h
  · rename_i cut
    cases h
    exact cut
  · split at h
    · cases h
    · rename_i failed
      cases h
      rcases program_fault failed with found | found
      · rw [found.not_cutting] at cutting
        cases cutting
      · rw [found.not_cutting] at cutting
        cases cutting

end

end PageBinding.Binding
