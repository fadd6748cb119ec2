import VisualTemplate.Proofs.Markup.Failure
import VisualTemplate.Proofs.Schema.Faults
import VisualTemplate.Store
/-!
Which errors are violations of an invariant.

The gate refuses drafts whose parts do not belong together, and these errors are classified as
violations. It refuses drafts with texts that cannot be read as well: the field of a binding, or the
colour of a token, and these errors are not. A schema that passed the gate is refused for no
violation any more, however it is filled.
-/

namespace VisualTemplate

/-! ### Refusals of the gate -/

/-- A text in the draft cannot be read, which the error tells: the field of a bound node, or the
stored colour of a token. -/
inductive Draft.HasUnread (d : Draft) : Error → Prop where
  | path {n : Node} {b : Binding} (within : Node.Within n d.top) (bound : n.binding = some b)
    (unread : FieldPath.ofText? b.field = none) : HasUnread d (.invalidFieldPath b.field)
  | color {name text : String} {t : Token} (declared : d.tokens.get? name = some t)
    (stored : t.default_ = some text) (underived : t.derivation = none)
    (unread : Color.ofText? text = none) : HasUnread d (.invalidColor text.trimmed)

lemma Draft.HasUnread.not_violation {d : Draft} {e : Error} (h : d.HasUnread e) :
    e.isInvariantViolation = false := by
  cases h <;> rfl

/-- A fault of the tokens is a violation or a colour that cannot be read. -/
lemma Draft.violation_or_color {d : Draft} {e : Error} (h : d.tokens.firstFault? = some e) :
    e.isInvariantViolation = true ∨ d.HasUnread e := by
  rcases Option.or_eq_some_iff.1 h with h | ⟨-, h⟩
  · obtain ⟨⟨name, t⟩, hmem, ht⟩ := List.exists_of_findSome?_eq_some h
    have hdeclared := Table.mem_entries_iff.1 hmem
    dsimp only at ht
    unfold Tokens.fault? at ht
    split at ht
    · rw [← Option.some.inj ht]
      exact .inl rfl
    · rw [← Option.some.inj ht]
      exact .inl rfl
    · next text hstored hunderived =>
      split at ht
      · cases ht
      · next hcolor =>
        rw [← Option.some.inj ht]
        exact .inr (.color hdeclared hstored hunderived (by simpa using hcolor))
    · split at ht
      · cases ht
      · rw [← Option.some.inj ht]
        exact .inl rfl
  · obtain ⟨name, -, rfl⟩ := Option.map_eq_some_iff.1 h
    exact .inl rfl

/-- The gate refuses a draft for a violation, or for a text in it that cannot be read. -/
lemma Draft.violation_or_unread {d : Draft} {index : List BindingEntry} {e : Error}
    (h : d.HasFault index e) : e.isInvariantViolation = true ∨ d.HasUnread e := by
  cases h with
  | path within bound unread => exact .inr (.path within bound unread)
  | token found => exact violation_or_color found
  | canvas | tree | repeatedId | row | repeatedVariant | override => exact .inl rfl

/-! ### Refusals of a fill -/

namespace Schema

variable {s : Schema} {e : Error}

lemma Obstacle.not_violation {variant : Option String} {overrides : Table String}
    (h : s.Obstacle variant overrides e) : e.isInvariantViolation = false := by
  cases h <;> rfl

/-- A fill without nodes is refused for its colours alone. -/
lemma not_violation_ofTokens {overrides : Table String}
    (h : Palette.ofTokens s.tokens overrides = .error e) : e.isInvariantViolation = false := by
  rw [← failure?_eq_some, Palette.failure?_ofTokens] at h
  obtain ⟨⟨name, text⟩, -, ho⟩ := List.exists_of_findSome?_eq_some h
  obtain ⟨-, rfl⟩ | ⟨t, -, -, rfl⟩ | ⟨-, rfl⟩ :=
    Palette.replacement_eq_error (failure?_eq_some.1 ho)
  all_goals rfl

/-- The colour of a token is missing only if the token is not declared. -/
lemma not_violation_css {overrides : Table String} {p : Palette}
    (hp : Palette.ofTokens s.tokens overrides = .ok p) {paint : Paint}
    (h : p.css paint = .error e) : e.isInvariantViolation = false := by
  have hvalid := (Draft.fault?_eq_none.1 s.accepted).1
  have htokens : p.tokens = s.draft.tokens := Palette.tokens_of_ofTokens hp
  rw [← failure?_eq_some, Palette.failure?_css (htokens ▸ hvalid.tokens_valid)
    (htokens ▸ hvalid.tokens_acyclic)] at h
  obtain ⟨name, -, rfl⟩ := Option.map_eq_some_iff.1 h
  rfl

lemma not_violation_resolve {overrides : Table String} {p : Palette}
    (hp : Palette.ofTokens s.tokens overrides = .ok p) {name : String}
    (h : p.resolve name = .error e) : e.isInvariantViolation = false := by
  have hcss : p.css (.token name) = .error e := by
    rw [Palette.css, h]
    rfl
  exact not_violation_css hp hcss

lemma not_violation_compile {config : CompileConfig} {r : FillRequest} {assets : AssetSource}
    (h : Document.compile config s r assets = .error e) : e.isInvariantViolation = false := by
  rw [← failure?_eq_some, Document.failure?_compile] at h
  exact (Obstacle.of_obstacle? h).not_violation

end Schema

lemma Store.not_violation_fill {store : Store} {config : CompileConfig} {id : String}
    {r : FillRequest} {e : Error} (h : (store.fill config id r).1 = .error e) :
    e.isInvariantViolation = false := by
  have hcompile (he : store.compile config id r = .error e) : e.isInvariantViolation = false := by
    unfold Store.compile at he
    split at he
    · rw [← Except.error.inj he]
      rfl
    · exact Schema.not_violation_compile he
  unfold Store.fill at h
  dsimp only at h
  split at h
  · cases h
  · split at h
    · cases h
    · next hfail => exact hcompile (hfail.trans h)

/-- **Which refusals are violations.** A draft that the gate refuses is refused for a violation,
except just for a text in it that cannot be read: the field of a bound node or the stored colour of
a token. On a schema that the gate accepted, nothing is a violation any more: no unknown variant, no
replacement of a colour, no reference to a token, no refusal to compile or to fill. -/
theorem Error.violation_iff (e : Error) :
    (∀ (d : Draft) index, d.check index = .error e →
      (e.isInvariantViolation = true ↔ ¬ d.HasUnread e)) ∧
    (∀ (s : Schema) variant, s.nodesFor variant = .error e → e.isInvariantViolation = false) ∧
    (∀ (s : Schema) overrides, Palette.ofTokens s.tokens overrides = .error e →
      e.isInvariantViolation = false) ∧
    (∀ (s : Schema) overrides p, Palette.ofTokens s.tokens overrides = .ok p →
      (∀ name, p.resolve name = .error e → e.isInvariantViolation = false) ∧
      ∀ paint, p.css paint = .error e → e.isInvariantViolation = false) ∧
    (∀ config (s : Schema) r assets, Document.compile config s r assets = .error e →
      e.isInvariantViolation = false) ∧
    ∀ (store : Store) config id r, (store.fill config id r).1 = .error e →
      e.isInvariantViolation = false := by
  refine ⟨fun d index he => ⟨fun hviolation hunread => ?_, fun hread => ?_⟩,
    fun s variant he => ?_, fun s overrides => Schema.not_violation_ofTokens,
    fun s overrides p hp => ⟨fun name => Schema.not_violation_resolve hp,
      fun paint => Schema.not_violation_css hp⟩,
    fun config s r assets => Schema.not_violation_compile,
    fun store config id r => Store.not_violation_fill⟩
  · rw [hunread.not_violation] at hviolation
    cases hviolation
  · have hfault := Draft.hasFault_of_fault? (Draft.check_eq_error_iff.1 he)
    exact (Draft.violation_or_unread hfault).resolve_right hread
  · obtain ⟨id, -, -, rfl⟩ := Schema.nodesFor_eq_error he
    rfl

/-- A text that is bound to what is no path, on a canvas of a size. -/
def misbound (canvas : Canvas) : Draft where
  id := "s"
  canvas
  version := .flat
  nodes := [.leaf { id := "title" }
    (.text { content := "T", binding := some ⟨"a..b", .text, none⟩ })]

theorem Error.violation_iff_misbound :
    (misbound ⟨0, 1⟩).build = .error (.invalidCanvas ⟨0, 1⟩) ∧
      (invalidCanvas ⟨0, 1⟩).isInvariantViolation = true ∧
      (misbound ⟨1, 1⟩).build = .error (.invalidFieldPath "a..b") ∧
      (misbound ⟨1, 1⟩).HasUnread (.invalidFieldPath "a..b") ∧
      ∃ e, Document.compile {} Document.themedSchema {} (fun _ => none) = .error e ∧
        e.isInvariantViolation = false := by
  have hcanvas : (misbound ⟨0, 1⟩).build = .error (.invalidCanvas ⟨0, 1⟩) :=
    Draft.check_eq_error_iff.2 (by decide +kernel)
  have hpath : (misbound ⟨1, 1⟩).build = .error (.invalidFieldPath "a..b") :=
    Draft.check_eq_error_iff.2 (by decide +kernel)
  have hcompile : failure? (Document.compile {} Document.themedSchema {} fun _ => none) =
      some (.unknownToken "gone") := by decide +kernel
  have hrefused := failure?_eq_some.1 hcompile
  obtain ⟨hgate, -, -, -, -, -⟩ := violation_iff (.invalidCanvas ⟨0, 1⟩)
  obtain ⟨hgate', -, -, -, -, -⟩ := violation_iff (.invalidFieldPath "a..b")
  obtain ⟨-, -, -, -, hcompiled, -⟩ := violation_iff (.unknownToken "gone")
  refine ⟨hcanvas, (hgate _ _ hcanvas).2 nofun, hpath, ?_, _, hrefused,
    hcompiled _ _ _ _ hrefused⟩
  by_contra hread
  exact absurd ((hgate' _ _ hpath).2 hread) (by decide)

/-- The gate refuses a binding to what is no path, and this is no violation. -/
theorem Error.misbound_no_violation :
    ∃ e, (misbound ⟨1, 1⟩).build = .error e ∧ e.isInvariantViolation = false :=
  ⟨.invalidFieldPath "a..b", Draft.check_eq_error_iff.2 (by decide +kernel), rfl⟩

end VisualTemplate
