import PageBinding.Proofs.Reading.Sides
import PageBinding.Proofs.Text.Split

/-!
Targets that are paths: which tokens are such a target, and which path is written. The path is handed
on as one text and cut at its dots again by the store; for names that the scanner reads this gives
back the names. Reading and writing agree on paths, so a path can be assigned to itself.
-/
namespace PageBinding

open Text

/-! ## Dots and names -/

namespace Token

theorem lexeme_dot {c : Char} {cs : List Char} {l : Lexeme} (h : lexeme c cs = .ok l)
    (isDot : l.kind = .dot) : l.text = ['.'] := by
  have noDot {kind : Kind} (found : punctuation? c = some kind) : kind ≠ .dot := by
    unfold punctuation? at found
    split at found <;> cases found <;> decide
  unfold lexeme at h
  grind [number_kind, identifier_kind, operator_kind]

theorem scan_dot {text : String} {t : Token} (mem : t ∈ scan text) (isDot : t.kind = .dot) :
    t.text = "." := by
  obtain ⟨before, after, shape⟩ := List.append_of_mem mem
  have proper : t.Proper := by simp [Proper, isDot]
  obtain ⟨u, x, v, -, stands, -⟩ := scanFrom_at proper shape
  obtain ⟨c, cs, -, -, read⟩ := stands.read
  have point : x = ['.'] := lexeme_dot read isDot
  rw [stands.text, point]

theorem scan_name {text : String} {t : Token} (mem : t ∈ scan text) (isName : t.kind = .identifier) :
    '.' ∉ t.text.toList := by
  intro inside
  have all := ((scanFrom_plain 0 text.toList t mem).1 isName).1
  have dot := List.all_eq_true.1 all '.' inside
  revert dot
  decide +kernel

theorem eq_nil_of_space {cs : List Char} (solid : ∀ c ∈ cs, isSpace c = false)
    (blank : cs.all isSpace = true) : cs = [] := by
  refine List.eq_nil_iff_forall_not_mem.2 fun c mem => ?_
  have space := List.all_eq_true.1 blank c mem
  rw [solid c mem] at space
  cases space

/-- A text without space is the texts of its tokens. -/
theorem scanFrom_texts {o n : Nat} {cs : List Char} {ts : List Token}
    (solid : ∀ c ∈ cs, isSpace c = false) (h : scanFrom o cs = ts ++ [eofAt n]) :
    cs = ts.flatMap (·.text.toList) := by
  induction ts generalizing o cs with
  | nil => exact eq_nil_of_space solid (blank_of_scan h).1
  | cons t ts ih =>
      rcases scanFrom_cases o cs with ⟨-, ended⟩ | ⟨sp, c, rest, rfl, blank, -, failed | read⟩
      · rw [ended] at h
        simp at h
      · obtain ⟨e, failed⟩ := failed
        rw [failed] at h
        simp at h
      · obtain ⟨l, read, scanned⟩ := read
        rw [scanned, List.cons_append] at h
        obtain ⟨rfl, after⟩ := List.cons.inj h
        have none : sp = [] := eq_nil_of_space (fun d mem => solid d (List.mem_append_left _ mem)) blank
        subst none
        have whole := lexeme_append read
        rw [List.nil_append, ← whole] at solid ⊢
        have later := ih (fun d mem => solid d (List.mem_append_right _ mem)) after
        rw [List.flatMap_cons, String.toList_ofList, ← later]

/-- The scanner takes no white space but space, so a text without space has none around it. -/
theorem solid_of_scan {text : String} {ts : List Token} {n : Nat} (some : ts ≠ [])
    (solid : ∀ c ∈ text.toList, isSpace c = false) (h : scan text = ts ++ [eofAt n]) :
    Solid text.toList := by
  obtain ⟨sp, w, shape, trimmed, scanned⟩ := scanFrom_trimmed some h
  have inside : ∀ c ∈ trimBlank text.toList, isSpace c = false := by
    intro c mem
    refine solid c ?_
    rw [shape]
    simp [mem]
  rwa [scanFrom_texts inside scanned, ← scanFrom_texts solid h] at trimmed

end Token

namespace Binding

/-! ## Paths as texts -/

variable {ts : List Token} {names : List String}

theorem keys_joinPath (some : names ≠ []) (plain : ∀ name ∈ names, '.' ∉ name.toList) :
    Store.keys (joinPath names) = names := by
  have texts : ∀ cs ∈ names.map String.toList, '.' ∉ cs := by simpa using plain
  have joined : (joinPath names).toList = ['.'].intercalate (names.map String.toList) :=
    String.toList_intercalate
  rw [Store.keys, splitOn_eq, joined, List.splitOn_intercalate '.' texts (by simpa using some),
    List.map_map]
  simp

theorem IsPath.names_ne_nil (h : IsPath ts names) : names ≠ [] := by
  cases h <;> exact List.cons_ne_nil _ _

/-- Each name of a path is the text of a token. -/
theorem IsPath.name_mem (h : IsPath ts names) :
    ∀ name ∈ names, ∃ t ∈ ts, t.kind = .identifier ∧ t.text = name := by
  induction h with
  | last isName => simpa using isName.1
  | more isName isDot path ih =>
      intro name mem
      rcases List.mem_cons.1 mem with rfl | later
      · exact ⟨_, List.mem_cons_self, isName.1, rfl⟩
      · obtain ⟨t, mem, found⟩ := ih name later
        exact ⟨t, by simp [mem], found⟩

theorem IsPath.keys (h : IsPath ts names)
    (plain : ∀ t ∈ ts, t.kind = .identifier → '.' ∉ t.text.toList) :
    Store.keys (joinPath names) = names := by
  refine keys_joinPath h.names_ne_nil fun name mem => ?_
  obtain ⟨t, inside, isName, rfl⟩ := h.name_mem name mem
  exact plain t inside isName

/-- A path as it is handed on is what its tokens spell. -/
theorem IsPath.toList_joinPath (h : IsPath ts names) (dots : ∀ t ∈ ts, t.kind = .dot → t.text = ".") :
    (joinPath names).toList = ts.flatMap (·.text.toList) := by
  unfold joinPath joinStrings
  induction h with
  | last isName => simp
  | @more t dot ts names isName isDot path ih =>
      have point : dot.text = "." := dots dot (by simp) isDot
      have later := ih fun u mem => dots u (by simp [mem])
      cases names with
      | nil => exact absurd rfl path.names_ne_nil
      | cons name names =>
          rw [String.intercalate_cons_cons, String.toList_append, later]
          simp [point]

theorem joinPath_eq {p : String} {stop : Nat} (scanned : Token.scan p = ts ++ [Token.eofAt stop])
    (h : IsPath ts names) (solid : ∀ c ∈ p.toList, Token.isSpace c = false) : joinPath names = p := by
  have inScan {t : Token} (mem : t ∈ ts) : t ∈ Token.scan p := by simp [scanned, mem]
  rw [← String.toList_inj, h.toList_joinPath fun t mem => Token.scan_dot (inScan mem),
    ← Token.scanFrom_texts solid scanned]

/-! ## Targets -/

/-- A path of the bound data as a target: its first name has no other meaning. -/
inductive IsDataPath : List Token → List String → Prop
  | path {t : Token} {ts : List Token} {names : List String} :
      IsPath (t :: ts) names → startsWith t.text "$" = false → keywords.contains t.text = false →
      IsDataPath (t :: ts) names

/-- A path of the global data as a target: the marker alone, with a dot or with a path after it. -/
inductive IsGlobalPath : List Token → List String → Prop
  | alone {t : Token} : t.kind = .identifier → Side.isGlobalMarker t.text = true → IsGlobalPath [t] []
  | dot {t dot : Token} :
      t.kind = .identifier → Side.isGlobalMarker t.text = true → dot.kind = .dot →
      IsGlobalPath [t, dot] []
  | path {t dot : Token} {ts : List Token} {names : List String} :
      t.kind = .identifier → Side.isGlobalMarker t.text = true → dot.kind = .dot → IsPath ts names →
      IsGlobalPath (t :: dot :: ts) names

variable {s : Setting} {a b : List Stmt} {st : Stmt}

theorem isTarget_data (side : s.side = .data) :
    IsTarget s a ts st b ↔
      ∃ names, IsDataPath ts names ∧
        st = .setProperty (.bound s.context) (joinPath names) .placeholder ∧ b = a := by
  constructor
  · intro h
    cases h with
    | data _ path plain notKeyword => exact ⟨_, .path path plain notKeyword, rfl, rfl⟩
    | _ other => simp [side] at other
  · rintro ⟨names, ⟨path, plain, notKeyword⟩, rfl, rfl⟩
    exact .data side path plain notKeyword

theorem isTarget_global (side : s.side = .global) :
    IsTarget s a ts st b ↔
      ∃ names, IsGlobalPath ts names ∧
        st = .setProperty (.fixed s.global) (joinPath names) .placeholder ∧ b = a := by
  have nothing : joinPath [] = "" := rfl
  constructor
  · intro h
    cases h with
    | global _ kind isMarker rest =>
        cases rest with
        | missing isDot => exact ⟨[], .dot kind isMarker isDot, by rw [nothing], rfl⟩
        | dotted rest =>
            cases rest with
            | none => exact ⟨[], .alone kind isMarker, by rw [nothing], rfl⟩
            | path isDot path => exact ⟨_, .path kind isMarker isDot path, rfl, rfl⟩
    | _ other => simp [side] at other
  · rintro ⟨names, path, rfl, rfl⟩
    cases path with
    | alone kind isMarker => exact .global side kind isMarker (.dotted .none)
    | dot kind isMarker isDot => exact .global side kind isMarker (.missing isDot)
    | path kind isMarker isDot path => exact .global side kind isMarker (.dotted (.path isDot path))

/-- Reading tokens as a target succeeds with an assignment and leads to the setup statements `b`. -/
def Accepts (s : Setting) (p : Progress) (st : Stmt) (b : List Stmt) : Prop :=
  ∃ q, target s p = .ok st q ∧ q.setup = b

theorem accepts_iff {w : List Nat} (whole : ∀ t ∈ ts, t.kind ≠ .eof) :
    Accepts s ⟨ts, a, w⟩ st b ↔ IsTarget s a ts st b := by
  constructor
  · rintro ⟨q, read, rfl⟩
    exact target_derived whole read
  · intro h
    obtain ⟨w', read⟩ := target_complete h w
    exact ⟨_, read, rfl⟩

/-! ## A path assigned to itself -/

theorem beginsPath_of_plain {name : String} (plain : startsWith name "$" = false)
    (notKeyword : keywords.contains name = false) : BeginsPath name := by
  have marked {other : String} (begins : startsWith other "$" = true) : name ≠ other := by
    rintro rfl
    rw [plain] at begins
    cases begins
  have event : name ≠ "$event" := marked rfl
  have target : name ≠ "$target" := marked rfl
  have element : name ≠ "$element" := marked rfl
  have globals : name ≠ "$globals" := marked rfl
  have single : name ≠ "$global" := marked rfl
  simp only [keywords, List.contains_cons, List.contains_nil, Bool.or_false, Bool.or_eq_false_iff,
    beq_eq_false_iff_ne] at notKeyword
  refine ⟨?_, notKeyword.2.2.2.2, ?_, plain⟩
  · simp [namedValue?, notKeyword, event, target, element]
  · simp [Side.isGlobalMarker, globals, single]

theorem IsDataPath.isExpr (h : IsDataPath ts names) (s : Setting) (a : List Stmt) :
    IsExpr OptionalPath s a ts (.get (.bound s.context) (joinPath names)) a := by
  obtain ⟨path, plain, notKeyword⟩ := h
  exact .plain (.operand (.operand (.path path (beginsPath_of_plain plain notKeyword))))

theorem IsPath.kinds (h : IsPath ts names) : ∀ t ∈ ts, t.kind = .identifier ∨ t.kind = .dot := by
  induction h with
  | last isName => simp [isName.1]
  | more isName isDot path ih => simpa [isName.1, isDot] using ih

theorem IsDataPath.noSign (h : IsDataPath ts names) : ∀ t ∈ ts, t.kind ≠ .assign := by
  obtain ⟨path, -, -⟩ := h
  intro t mem
  rcases path.kinds t mem with kind | kind <;> simp [kind]

/-- A value that is read on its own can be assigned to any path of the bound data. -/
theorem IsDataPath.build {p source : String} {us : List Token} {value : Expr} {setup : List Stmt}
    {global context : Int} (h : IsDataPath ts names) (first : IsSide p ts)
    (side : Side.classify p = .data) (last : IsSide source us)
    (isValue : IsExpr OptionalPath (sideSetting source global context) [] us value setup) :
    (build global context (p ++ " = " ++ source)).result = .ok
      ⟨setup, some (.setProperty (.bound context) (joinPath names) value)⟩ :=
  build_joined first last h.noSign ((isTarget_data side).2 ⟨names, h, rfl, rfl⟩) isValue rfl

/-- Which tokens are a target that is a path, and what is then written. A target of the bound data is a
path whose first name has no other meaning, and one of the global data is a marker, with or without a
dot or a path after it. The names of the path are the keys that it is cut into, as no name has a dot.
A path of the bound data is read as it is written: the binding of it to itself needs no setup. -/
theorem target_paths (s : Setting) (a : List Stmt) (w : List Nat) {toks : List Token}
    (whole : ∀ t ∈ toks, t.kind ≠ .eof) :
    (s.side = .data → ∀ st b, Accepts s ⟨toks, a, w⟩ st b ↔
      ∃ names, IsDataPath toks names ∧
        st = .setProperty (.bound s.context) (joinPath names) .placeholder ∧ b = a) ∧
    (s.side = .global → ∀ st b, Accepts s ⟨toks, a, w⟩ st b ↔
      ∃ names, IsGlobalPath toks names ∧
        st = .setProperty (.fixed s.global) (joinPath names) .placeholder ∧ b = a) ∧
    (∀ names, IsDataPath toks names ∨ IsGlobalPath toks names →
      (∀ t ∈ toks, t.kind = .identifier → '.' ∉ t.text.toList) →
      (names = [] ∧ joinPath names = "") ∨ Store.keys (joinPath names) = names) ∧
    (∀ text, ∀ t ∈ Token.scan text, t.kind = .identifier → '.' ∉ t.text.toList) ∧
    ∀ p stop names, Token.scan p = toks ++ [Token.eofAt stop] → Side.classify p = .data →
      IsDataPath toks names →
      (Token.Solid p.toList → ∀ global context : Int,
        (build global context (p ++ " = " ++ p)).result = .ok
          ⟨[], some (.setProperty (.bound context) (joinPath names)
            (.get (.bound context) (joinPath names)))⟩) ∧
      ((∀ c ∈ p.toList, Token.isSpace c = false) → Token.Solid p.toList ∧ joinPath names = p) := by
  refine ⟨fun side st b => ?_, fun side st b => ?_, ?_, fun text t mem => Token.scan_name mem, ?_⟩
  · rw [accepts_iff whole, isTarget_data side]
  · rw [accepts_iff whole, isTarget_global side]
  · rintro names (⟨path, -, -⟩ | marked) plain
    · exact .inr (path.keys plain)
    · cases marked with
      | alone => exact .inl ⟨rfl, rfl⟩
      | dot => exact .inl ⟨rfl, rfl⟩
      | path kind isMarker isDot path => exact .inr (path.keys fun t mem => plain t (by simp [mem]))
  · intro p stop names scanned side isPath
    have some : toks ≠ [] := by
      obtain ⟨-, -, -⟩ := isPath
      exact List.cons_ne_nil _ _
    constructor
    · intro solid global context
      have isSide : IsSide p toks := ⟨solid, ⟨stop, scanned⟩, some⟩
      exact isPath.build isSide side isSide (isPath.isExpr _ [])
    · intro solid
      obtain ⟨path, -, -⟩ := isPath
      exact ⟨Token.solid_of_scan some solid scanned, joinPath_eq scanned path solid⟩

/-- A path with a name that would be a parameter if it were the first. -/
theorem target_paths_inner_event :
    let p := "user.$event.true"
    let toks : List Token := [⟨.identifier, 0, "user"⟩, ⟨.dot, 4, "."⟩, ⟨.identifier, 5, "$event"⟩,
      ⟨.dot, 11, "."⟩, ⟨.identifier, 12, "true"⟩]
    (∀ t ∈ toks, t.kind ≠ .eof) ∧
      Accepts (sideSetting p 0 1) ⟨toks, [], []⟩ (.setProperty (.bound 1) p .placeholder) [] ∧
      Store.keys p = ["user", "$event", "true"] ∧
      (build 0 1 (p ++ " = " ++ p)).result = .ok
        ⟨[], some (.setProperty (.bound 1) p (.get (.bound 1) p))⟩ := by
  intro p toks
  have whole : ∀ t ∈ toks, t.kind ≠ .eof := by simp [toks]
  have scanned : Token.scan p = toks ++ [Token.eofAt 16] := by decide +kernel
  have side : Side.classify p = .data := by
    rw [Side.classify, scanned]
    decide
  have path : IsDataPath toks ["user", "$event", "true"] :=
    .path (.more ⟨rfl, by decide⟩ rfl (.more ⟨rfl, by decide⟩ rfl (.last ⟨rfl, by decide⟩))) (by decide)
      (by decide)
  have joined : joinPath ["user", "$event", "true"] = p := by decide
  have noSpace : p.toList.all (fun c => !Token.isSpace c) = true := by decide +kernel
  obtain ⟨data, -, keys, names, self⟩ := target_paths (sideSetting p 0 1) [] [] whole
  obtain ⟨binds, solid⟩ := self p 16 _ scanned side path
  rw [← joined]
  refine ⟨whole, (data side _ _).2 ⟨_, path, rfl, rfl⟩, ?_, ?_⟩
  · refine (keys _ (.inl path) fun t mem => names p t ?_).resolve_left (by simp)
    simp [scanned, mem]
  · rw [joined]
    have isSolid := solid fun c mem => by simpa using List.all_eq_true.1 noSpace c mem
    exact joined ▸ binds isSolid.1 0 1

end Binding

end PageBinding
