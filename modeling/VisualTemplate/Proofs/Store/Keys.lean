import VisualTemplate.Proofs.Json.Compact
import VisualTemplate.Proofs.Store.Transparency
import VisualTemplate.Proofs.Text.Utf8
/-!
What the key of a request tells apart.

The bytes of a key are a front, which ends with a NUL, and the compact text of the data, which has
none. So the key tells the front and the data. The front joins the schema, the variant and the
colours by separators that may occur in them, and writes no variant as the empty one: it tells
these only if they keep clear of the separators.
-/

namespace VisualTemplate

open Json

namespace Document

/-- The character that closes the parts of a front. -/
def nul : Char := '\x00'

/-- A colour of a request with its name. -/
def tokenChars (t : String × String) : List Char := t.1.toList ++ '=' :: (t.2.toList ++ [nul])

/-- The key of a request before its data. -/
def front (schemaId : String) (r : FillRequest) : List Char :=
  schemaId.toList ++ nul :: ((r.variant.getD "").toList ++ nul :: r.tokens.entries.flatMap tokenChars)

variable {id id' : String} {r r' : FillRequest}

/-! ### The front and the data -/

/-- Texts are cut at the first separator. -/
lemma cut_inj {sep : Char} {xs xs' ys ys' : List Char} (hx : sep ∉ xs) (hx' : sep ∉ xs')
    (h : xs ++ sep :: ys = xs' ++ sep :: ys') : xs = xs' ∧ ys = ys' := by
  induction xs generalizing xs' with
  | nil =>
    cases xs' with
    | nil => exact ⟨rfl, (List.cons.inj h).2⟩
    | cons x xs' =>
      rw [← (List.cons.inj h).1] at hx'
      exact absurd List.mem_cons_self hx'
  | cons x xs ih =>
    cases xs' with
    | nil =>
      rw [(List.cons.inj h).1] at hx
      exact absurd List.mem_cons_self hx
    | cons x' xs' =>
      obtain ⟨rfl, htail⟩ := List.cons.inj h
      obtain ⟨rfl, hys⟩ := ih (fun hm => hx (List.mem_cons_of_mem _ hm))
        (fun hm => hx' (List.mem_cons_of_mem _ hm)) htail
      exact ⟨rfl, hys⟩

lemma utf8_ofList_append (xs ys : List Char) :
    Text.utf8 (.ofList (xs ++ ys)) = Text.utf8 (.ofList xs) ++ Text.utf8 (.ofList ys) := by
  rw [String.ofList_append, Text.utf8_append]

lemma utf8_nul : Text.utf8 (.ofList [nul]) = [0] := by
  rw [Text.utf8_eq]
  decide

lemma utf8_tokenChars (t : String × String) : Text.utf8 (.ofList (tokenChars t)) =
    Text.utf8 t.1 ++ Text.utf8 "=" ++ Text.utf8 t.2 ++ [0] := by
  rw [show tokenChars t = t.1.toList ++ (['='] ++ (t.2.toList ++ [nul])) from rfl,
    utf8_ofList_append, utf8_ofList_append, utf8_ofList_append, utf8_nul, String.ofList_toList,
    String.ofList_toList, List.append_assoc, List.append_assoc]

lemma utf8_tokens (ts : List (String × String)) :
    Text.utf8 (.ofList (ts.flatMap tokenChars)) = ts.flatMap fun (name, value) =>
      Text.utf8 name ++ Text.utf8 "=" ++ Text.utf8 value ++ [0] := by
  induction ts with
  | nil =>
    rw [Text.utf8_eq]
    rfl
  | cons t ts ih =>
    rw [List.flatMap_cons, utf8_ofList_append, utf8_tokenChars, ih, List.flatMap_cons]

/-- The bytes of a key are those of one text. -/
lemma keyBytes_eq (id : String) (r : FillRequest) :
    keyBytes id r = Text.utf8 (.ofList (front id r ++ r.submission.toValue.chars)) := by
  rw [front, show ∀ xs ys zs : List Char, xs ++ nul :: (ys ++ nul :: zs) =
    xs ++ ([nul] ++ (ys ++ ([nul] ++ zs))) from fun _ _ _ => rfl]
  simp only [utf8_ofList_append, utf8_nul, utf8_tokens, String.ofList_toList, Value.chars]
  simp [keyBytes]

lemma exists_front_eq (id : String) (r : FillRequest) : ∃ cs, front id r = cs ++ [nul] := by
  have htokens (ts : List (String × String)) :
      ∃ cs, nul :: ts.flatMap tokenChars = cs ++ [nul] := by
    rcases List.eq_nil_or_concat ts with rfl | ⟨ts, t, rfl⟩
    · exact ⟨[], rfl⟩
    · exact ⟨nul :: (ts.flatMap tokenChars ++ t.1.toList ++ '=' :: t.2.toList),
        by simp [tokenChars]⟩
  obtain ⟨cs, hcs⟩ := htokens r.tokens.entries
  exact ⟨id.toList ++ nul :: ((r.variant.getD "").toList ++ cs), by simp [front, hcs]⟩

/-- The last NUL ends the front. -/
lemma front_append_inj {data data' : List Char} (hd : nul ∉ data) (hd' : nul ∉ data')
    (h : front id r ++ data = front id' r' ++ data') :
    front id r = front id' r' ∧ data = data' := by
  obtain ⟨cs, hcs⟩ := exists_front_eq id r
  obtain ⟨cs', hcs'⟩ := exists_front_eq id' r'
  rw [hcs, hcs'] at h ⊢
  have hrev : data.reverse ++ nul :: cs.reverse = data'.reverse ++ nul :: cs'.reverse := by
    simpa using congrArg List.reverse h
  obtain ⟨h1, h2⟩ := cut_inj (by simpa using hd) (by simpa using hd') hrev
  rw [List.reverse_inj] at h1 h2
  exact ⟨by rw [h2], h1⟩

lemma nul_notMem_chars {v : Value} (hv : v.OfDocument) : nul ∉ v.chars := by
  intro h
  have : Visible nul := visible_value v hv nul h
  exact absurd this (by decide)

lemma keyBytes_eq_iff_front (hr : r.submission.toValue.OfDocument)
    (hr' : r'.submission.toValue.OfDocument) :
    keyBytes id r = keyBytes id' r' ↔
      front id r = front id' r' ∧ r.submission.toValue = r'.submission.toValue := by
  rw [keyBytes_eq, keyBytes_eq]
  constructor
  · intro h
    have hchars := String.ofList_injective (Text.utf8_inj h)
    obtain ⟨hfront, hdata⟩ := front_append_inj (nul_notMem_chars hr) (nul_notMem_chars hr') hchars
    exact ⟨hfront, compact_inj hr hr' (String.toList_inj.1 hdata)⟩
  · rintro ⟨hfront, hdata⟩
    rw [hfront, hdata]

/-! ### Requests that keep clear of the separators -/

/-- The name under which the dynamic fields stand in the data. -/
def dynamicName : String := "dynamicFields"

/-- A request whose parts can be told from its key. -/
structure Separable (id : String) (r : FillRequest) : Prop where
  id_clear : nul ∉ id.toList
  variant_clear : ∀ v ∈ r.variant, v ≠ "" ∧ nul ∉ v.toList
  tokens_clear : ∀ t ∈ r.tokens.entries, nul ∉ t.1.toList ∧ '=' ∉ t.1.toList ∧ nul ∉ t.2.toList
  data_clear : ∀ f ∈ r.submission.values.entries, f.1 ≠ dynamicName

lemma tokens_inj {ts ts' : List (String × String)}
    (hts : ∀ t ∈ ts, nul ∉ t.1.toList ∧ '=' ∉ t.1.toList ∧ nul ∉ t.2.toList)
    (hts' : ∀ t ∈ ts', nul ∉ t.1.toList ∧ '=' ∉ t.1.toList ∧ nul ∉ t.2.toList)
    (h : ts.flatMap tokenChars = ts'.flatMap tokenChars) : ts = ts' := by
  have hne (t : String × String) (cs : List Char) : tokenChars t ++ cs ≠ [] := by
    simp [tokenChars]
  induction ts generalizing ts' with
  | nil =>
    cases ts' with
    | nil => rfl
    | cons t ts' => exact absurd h.symm (hne t _)
  | cons t ts ih =>
    cases ts' with
    | nil => exact absurd h (hne t _)
    | cons t' ts' =>
      obtain ⟨-, heq, hvalue⟩ := hts t List.mem_cons_self
      obtain ⟨-, heq', hvalue'⟩ := hts' t' List.mem_cons_self
      simp only [List.flatMap_cons, tokenChars, List.append_assoc, List.cons_append,
        List.nil_append] at h
      obtain ⟨hname, h⟩ := cut_inj heq heq' h
      obtain ⟨htext, h⟩ := cut_inj hvalue hvalue' h
      have htail := ih (fun x hx => hts x (List.mem_cons_of_mem _ hx))
        (fun x hx => hts' x (List.mem_cons_of_mem _ hx)) h
      rw [htail, Prod.ext (String.toList_inj.1 hname) (String.toList_inj.1 htext)]

lemma variant_inj {v v' : Option String} (hv : ∀ x ∈ v, x ≠ "") (hv' : ∀ x ∈ v', x ≠ "")
    (h : v.getD "" = v'.getD "") : v = v' := by
  cases v with
  | none =>
    cases v' with
    | none => rfl
    | some x => exact absurd h.symm (hv' x rfl)
  | some x =>
    cases v' with
    | none => exact absurd h (hv x rfl)
    | some y => rw [show x = y from h]

/-- The front of a request that keeps clear of the separators tells its parts. -/
lemma front_inj (hr : Separable id r) (hr' : Separable id' r')
    (h : front id r = front id' r') : id = id' ∧ r.variant = r'.variant ∧ r.tokens = r'.tokens := by
  have hclear {r : FillRequest} (hv : ∀ v ∈ r.variant, v ≠ "" ∧ nul ∉ v.toList) :
      nul ∉ (r.variant.getD "").toList := by
    cases hrv : r.variant with
    | none => simp
    | some v => exact (hv v hrv).2
  unfold front at h
  obtain ⟨hid, h⟩ := cut_inj hr.id_clear hr'.id_clear h
  obtain ⟨hvariant, htokens⟩ := cut_inj (hclear hr.variant_clear) (hclear hr'.variant_clear) h
  refine ⟨String.toList_inj.1 hid, ?_, ?_⟩
  · exact variant_inj (fun x hx => (hr.variant_clear x hx).1)
      (fun x hx => (hr'.variant_clear x hx).1) (String.toList_inj.1 hvariant)
  · exact Table.ext (tokens_inj hr.tokens_clear hr'.tokens_clear htokens)

lemma toValue_inj {s s' : Submission} (hs : ∀ f ∈ s.values.entries, f.1 ≠ dynamicName)
    (hs' : ∀ f ∈ s'.values.entries, f.1 ≠ dynamicName) (h : s.toValue = s'.toValue) : s = s' := by
  have hfields := Value.object.inj h
  obtain ⟨values, dynamic⟩ := s
  obtain ⟨values', dynamic'⟩ := s'
  have hempty {t : Table Value} (ht : t.isEmpty = true) : t.entries = [] := by
    simpa [Table.isEmpty] using ht
  cases hd : dynamic.isEmpty with
  | true =>
    cases hd' : dynamic'.isEmpty with
    | true =>
      have hvalues : values.entries = values'.entries := by simpa [hd, hd'] using hfields
      rw [Table.ext hvalues, Table.ext ((hempty hd).trans (hempty hd').symm)]
    | false =>
      have hvalues : values.entries = ("dynamicFields", .object dynamic'.entries) ::
        values'.entries := by simpa [hd, hd'] using hfields
      exact absurd rfl (hs _ (hvalues ▸ List.mem_cons_self))
  | false =>
    cases hd' : dynamic'.isEmpty with
    | true =>
      have hvalues : ("dynamicFields", .object dynamic.entries) :: values.entries =
        values'.entries := by simpa [hd, hd'] using hfields
      exact absurd rfl (hs' _ (hvalues ▸ List.mem_cons_self))
    | false =>
      have hboth : dynamic.entries = dynamic'.entries ∧ values.entries = values'.entries := by
        simpa [hd, hd'] using hfields
      rw [Table.ext hboth.1, Table.ext hboth.2]

lemma eq_of_keyBytes_eq (hr : r.submission.toValue.OfDocument)
    (hr' : r'.submission.toValue.OfDocument) (hs : Separable id r) (hs' : Separable id' r')
    (h : keyBytes id r = keyBytes id' r') : id = id' ∧ r = r' := by
  obtain ⟨hfront, hdata⟩ := (keyBytes_eq_iff_front hr hr').1 h
  obtain ⟨hid, hvariant, htokens⟩ := front_inj hs hs' hfront
  have hsubmission := toValue_inj hs.data_clear hs'.data_clear hdata
  refine ⟨hid, ?_⟩
  cases r
  cases r'
  simp_all

end Document

namespace Store

open Document

/-- Kept documents are transparent to requests that keep clear of the separators. -/
lemma run_eq_bare_of_separable (x : Session) (start : x.store.cache = []) (ops : List Operation)
    (documents : ∀ p ∈ requests ops, p.2.submission.toValue.OfDocument)
    (separable : ∀ p ∈ requests ops, Separable p.1 p.2)
    (digests : ∀ p ∈ requests ops, ∀ q ∈ requests ops,
      cacheKey p.1 p.2 = cacheKey q.1 q.2 → keyBytes p.1 p.2 = keyBytes q.1 q.2) :
    (x.run ops).2 = (x.bare.run ops).2 := by
  have distinct : KeysDistinct (requests ops) := by
    intro p hp q hq h
    obtain ⟨hid, hreq⟩ := eq_of_keyBytes_eq (documents p hp) (documents q hq) (separable p hp)
      (separable q hq) (digests p hp q hq h)
    exact Prod.ext hid hreq
  have hcur : Current (requests ops) x := current_of_cache_nil start
  exact (run_eq_bare_run distinct ops hcur (List.Subset.refl _)).1

/-- A request with the key of one that was just compiled is answered with its document. -/
lemma fill_of_same_key {s : Store} {config : CompileConfig} {id id' : String}
    {r r' : FillRequest} {d : Document} (hempty : s.cache = []) (hroom : s.capacity ≠ 0)
    (hkey : cacheKey id r = cacheKey id' r') (hd : s.compile config id r = .ok d) :
    (s.fill config id r).1 = .ok d ∧
      ((s.fill config id r).2.fill config id' r').1 = .ok d := by
  have hfill : s.fill config id r = (.ok d, s.keep ⟨cacheKey id r, id, d⟩) := by
    simp only [fill, hempty, List.find?_nil, hd]
  have hcache : (s.keep ⟨cacheKey id r, id, d⟩).cache = [⟨cacheKey id r, id, d⟩] := by
    simp [keep, hroom, hempty, latest]
  rw [hfill]
  refine ⟨rfl, ?_⟩
  simp [fill, ← hkey, hcache]

end Store

namespace Document

variable {id id' : String} {r r' : FillRequest}

/-- **What keys tell apart.** The bytes of two keys are equal just when the fronts are the same
text and the data are the same value. Requests that keep clear of the separators are equal then;
and in a run of such requests, as long as no two keys share a digest, every fill answers what a
store without kept documents answers. -/
theorem keyBytes_eq_iff (hr : r.submission.toValue.OfDocument)
    (hr' : r'.submission.toValue.OfDocument) :
    (keyBytes id r = keyBytes id' r' ↔
      front id r = front id' r' ∧ r.submission.toValue = r'.submission.toValue) ∧
    (Separable id r → Separable id' r' → keyBytes id r = keyBytes id' r' →
      id = id' ∧ r.variant = r'.variant ∧ r.tokens = r'.tokens ∧
        r.submission = r'.submission) ∧
    ∀ (x : Store.Session) (ops : List Store.Operation), x.store.cache = [] →
      (∀ p ∈ Store.requests ops, p.2.submission.toValue.OfDocument ∧ Separable p.1 p.2) →
      (∀ p ∈ Store.requests ops, ∀ q ∈ Store.requests ops,
        cacheKey p.1 p.2 = cacheKey q.1 q.2 → keyBytes p.1 p.2 = keyBytes q.1 q.2) →
      (x.run ops).2 = (x.bare.run ops).2 := by
  refine ⟨keyBytes_eq_iff_front hr hr', fun hs hs' h => ?_, fun x ops start hps digests => ?_⟩
  · obtain ⟨rfl, rfl⟩ := eq_of_keyBytes_eq hr hr' hs hs' h
    exact ⟨rfl, rfl, rfl, rfl⟩
  · exact Store.run_eq_bare_of_separable x start ops (fun p hp => (hps p hp).1)
      (fun p hp => (hps p hp).2) digests

/-- A request with a variant, a colour and a number in its data. -/
def plainRequest : FillRequest where
  submission := { values := .ofList [("count", .number (.whole 3))] }
  variant := some "v"
  tokens := .ofList [("primary", "#fff")]

theorem keyBytes_eq_iff_plainRequest :
    plainRequest.submission.toValue.OfDocument ∧ ({} : FillRequest).submission.toValue.OfDocument ∧
      Separable "s" plainRequest ∧ Separable "s" {} ∧
      keyBytes "s" plainRequest ≠ keyBytes "s" {} := by
  have hplain : plainRequest.submission.toValue.OfDocument := by
    simp [Submission.toValue, plainRequest, Table.ofList, Table.insert, Table.put, Table.empty,
      Table.isEmpty, Value.OfDocument, fieldsOfDocument, Number.OfDocument]
  have hempty : ({} : FillRequest).submission.toValue.OfDocument := by
    simp [Submission.toValue, Table.empty, Table.isEmpty, Value.OfDocument, fieldsOfDocument]
  have hs : Separable "s" plainRequest :=
    ⟨by decide, by simp [plainRequest, nul], by decide, by
      simp [plainRequest, Table.ofList, Table.insert, Table.put, Table.empty, dynamicName]⟩
  have hs' : Separable "s" {} := ⟨by decide, by simp, by decide, by simp [Table.empty]⟩
  refine ⟨hplain, hempty, hs, hs', fun h => ?_⟩
  have hvariant := ((keyBytes_eq_iff hplain hempty).2.1 hs hs' h).2.1
  exact absurd hvariant (by simp [plainRequest])

/-- The calls that show a request in place of another: no variant, and one with the empty name. -/
def emptyVariant : List Store.Operation :=
  [.put Store.blankImport, .fill "s" {}, .fill "s" { variant := some "" }]

/-- The key does not tell no variant from the variant with the empty name. A store that has filled
a schema without a variant then answers for a variant that the schema does not have. -/
theorem keyBytes_emptyVariant :
    keyBytes "s" {} = keyBytes "s" { variant := some "" } ∧
    ∃ d, (Store.Session.run ⟨{}, {}⟩ emptyVariant).2 = [.ok d, .ok d] ∧
      (Store.Bare.run ⟨.empty, .empty, {}⟩ emptyVariant).2 =
        [.ok d, .error (.unknownVariant "")] := by
  have hbytes : keyBytes "s" {} = keyBytes "s" { variant := some "" } := rfl
  have hkey : cacheKey "s" {} = cacheKey "s" { variant := some "" } := by
    rw [cacheKey, hbytes, cacheKey]
  let stored : Store := ({} : Store).put Store.blankImport
  have hroom : stored.capacity ≠ 0 := show 64 ≠ 0 by decide
  have hplain : ∃ d, stored.compile {} "s" {} = .ok d := ⟨_, rfl⟩
  have hempty : stored.compile {} "s" { variant := some "" } = .error (.unknownVariant "") := rfl
  obtain ⟨d, hd⟩ := hplain
  obtain ⟨h1, h2⟩ := Store.fill_of_same_key (s := stored) rfl hroom hkey hd
  refine ⟨hbytes, d, ?_, ?_⟩
  · show [(stored.fill {} "s" {}).1, ((stored.fill {} "s" {}).2.fill {} "s" _).1] = _
    rw [h1, h2]
  · show [stored.compile {} "s" {}, stored.compile {} "s" { variant := some "" }] = _
    rw [hd, hempty]

end Document

end VisualTemplate
