import UrlQuery.Proofs.Encoding.Sequence
import UrlQuery.Proofs.Params.Parse
import UrlQuery.Proofs.Params.Valued
import UrlQuery.Url.Query

/-!
# Appending to the query of a URL

The query of a URL that was read holds only characters that a query shows as they are
(`keepsQuery_parse`), and so does a query string (`kept_of_isQueryText`). So the two with a
separator between them are stored as they are, and are read as what the URL held with the new
parameters merged behind (`appendParams_merges`).

Nothing else of the URL changes, and nothing at all where there is nothing to append.
-/

namespace UrlQuery.Url

/-! ## The characters of a query -/

theorem range_of_isQueryChar {c : Char} (h : Form.isQueryChar c = true) :
    0x20 ≤ c.toNat ∧ c.toNat < 0x7F := by
  simp only [Form.isQueryChar, Bool.or_eq_true, Bool.and_eq_true, decide_eq_true_eq,
    List.contains_iff_mem] at h
  rcases h with ((⟨hl, hr⟩ | ⟨hl, hr⟩) | ⟨hl, hr⟩) | h
  · exact ⟨Nat.le_trans (by decide) hl, Nat.lt_of_le_of_lt hr (by decide)⟩
  · exact ⟨Nat.le_trans (by decide) hl, Nat.lt_of_le_of_lt hr (by decide)⟩
  · exact ⟨Nat.le_trans (by decide) hl, Nat.lt_of_le_of_lt hr (by decide)⟩
  · simp only [List.mem_cons, List.not_mem_nil, or_false] at h
    rcases h with rfl | rfl | rfl | rfl | rfl | rfl | rfl <;> decide

/-- The characters of a query string are shown as they are, unless one of them is escaped. -/
theorem isKept_of_isQueryChar {escaped : List Char}
    (hescaped : (escaped.any Form.isQueryChar) = false) {c : Char}
    (h : Form.isQueryChar c = true) : isKept escaped c = true := by
  have hfree : c ∉ escaped := fun hmem => List.any_eq_false.1 hescaped c hmem h
  obtain ⟨hlow, hhigh⟩ := range_of_isQueryChar h
  simp [isKept, hlow, hhigh, hfree]

theorem keptInQuery_of_isQueryChar (special : Bool) {c : Char} (h : Form.isQueryChar c = true) :
    keptInQuery special c = true := by
  refine isKept_of_isQueryChar ?_ h
  cases special <;> decide

theorem keptInQuery_percent (special : Bool) : keptInQuery special '%' = true := by
  cases special <;> decide

theorem keptInQuery_of_isUpperHex (special : Bool) (c : Char) (h : Percent.isUpperHex c = true) :
    keptInQuery special c = true :=
  keptInQuery_of_isQueryChar special (Form.isQueryChar_of_isUpperHex h)

/-- A query string holds only characters that a query shows as they are. -/
theorem kept_of_isQueryText (special : Bool) {cs : List Char} (h : Form.IsQueryText cs) :
    ∀ c ∈ cs, keptInQuery special c = true := by
  induction h with
  | nil => simp
  | char hc _ ih => exact List.forall_mem_cons.2 ⟨keptInQuery_of_isQueryChar special hc, ih⟩
  | escape hx hy _ ih =>
    simp only [List.forall_mem_cons]
    exact ⟨keptInQuery_percent special, keptInQuery_of_isUpperHex special _ hx,
      keptInQuery_of_isUpperHex special _ hy, ih⟩

/-! ## Queries that are stored -/

/-- The query of a URL as text, which is empty if there is none. -/
def queryText (url : Url) : String := url.query.getD ""

/-- The query holds only characters that a query shows as they are. -/
def KeepsQuery (url : Url) : Prop :=
  ∀ c ∈ url.queryText.toList, keptInQuery url.isSpecial c = true

/-- What is escaped for a query holds only characters that a query shows as they are. -/
theorem kept_of_mem_escaped {special : Bool} {cs : List Char} {c : Char}
    (h : c ∈ (escaped (keptInQuery special) cs).toList) : keptInQuery special c = true := by
  rw [escaped, String.toList_ofList] at h
  exact Percent.kept_of_mem_encode (keptInQuery_percent special)
    (keptInQuery_of_isUpperHex special) h

/-- A query of characters that a query shows as they are is stored as it is. -/
theorem setQuery_of_kept (url : Url) {query : String}
    (h : ∀ c ∈ query.toList, keptInQuery url.isSpecial c = true) :
    url.setQuery query = { url with query := some query } := by
  rw [setQuery, escaped, Percent.encode_of_kept h, String.ofList_toList]

/-! ### Reading

However a URL is read, its query and its fragment come last and are cut off by `withTail`.
-/

theorem keepsQuery_withTail (url : Url) (cs : List Char) : (withTail url cs).KeepsQuery := by
  intro c hc
  unfold withTail queryText at hc
  simp only at hc
  split at hc
  · simp at hc
  · exact kept_of_mem_escaped hc

theorem keepsQuery_ofAuthority {scheme : String} {cs : List Char} {url : Url}
    (h : ofAuthority scheme cs = .ok url) : url.KeepsQuery := by
  unfold ofAuthority at h
  cases hauthority : readAuthority scheme cs with
  | error e => rw [hauthority] at h; cases h
  | ok result =>
    rw [hauthority] at h
    cases h
    exact keepsQuery_withTail _ _

theorem keepsQuery_ofFileAuthority {cs : List Char} {url : Url}
    (h : ofFileAuthority cs = .ok url) : url.KeepsQuery := by
  unfold ofFileAuthority at h
  simp only at h
  split at h
  · cases h
    exact keepsQuery_withTail _ _
  · split at h
    · cases h
      exact keepsQuery_withTail _ _
    · cases hhost : domainHost (withoutBreaks (cutBefore (endsAuthority true) cs).1) with
      | error e => rw [hhost] at h; cases h
      | ok host =>
        rw [hhost] at h
        simp only [bind, Except.bind] at h
        split at h
        · cases h
          exact keepsQuery_withTail _ _
        · cases h
          exact keepsQuery_withTail _ _

theorem keepsQuery_ofFile {cs : List Char} {url : Url} (h : ofFile cs = .ok url) :
    url.KeepsQuery := by
  unfold ofFile at h
  split at h
  · cases h
    exact keepsQuery_withTail _ _
  · split at h
    · cases h
      exact keepsQuery_withTail _ _
    · exact keepsQuery_ofFileAuthority h

/-- **The query of a URL that was read** holds only characters that a query shows as they are. -/
theorem keepsQuery_parse {text : String} {url : Url} (h : parse text = .ok url) :
    url.KeepsQuery := by
  unfold parse at h
  simp only at h
  split at h
  · cases h
  · split at h
    · exact keepsQuery_ofFile h
    · split at h
      · exact keepsQuery_ofAuthority h
      · split at h
        · exact keepsQuery_ofAuthority h
        · cases h
          exact keepsQuery_withTail _ _

/-! ## Appending -/

theorem extended_eq (query : Option String) (encoded : String) :
    extended query encoded
      = if query.getD "" = "" then encoded else query.getD "" ++ "&" ++ encoded := by
  cases query with
  | none => rfl
  | some before => simp [extended]

theorem appendParams_of_toPairs_eq_nil (url : Url) {v : Params} (h : v.toPairs = []) :
    url.appendParams v = url := by
  rw [appendParams, Params.encode_eq_empty_iff.2 h]
  rfl

/-- The query of a URL with parameters behind it. -/
def queryTextWith (url : Url) (v : Params) : String :=
  if url.queryText = "" then v.encode else url.queryText ++ "&" ++ v.encode

theorem kept_queryTextWith {url : Url} (hurl : url.KeepsQuery) (v : Params) :
    ∀ c ∈ (url.queryTextWith v).toList, keptInQuery url.isSpecial c = true := by
  have hkept : ∀ c ∈ v.encode.toList, keptInQuery url.isSpecial c = true :=
    kept_of_isQueryText _ v.isQueryText_encode
  unfold queryTextWith
  split
  · exact hkept
  · -- Two texts that are kept, and a separator that is kept too.
    simp only [String.toList_append, List.forall_mem_append]
    exact ⟨⟨hurl, List.forall_mem_singleton.2 (keptInQuery_of_isQueryChar _ (by decide))⟩, hkept⟩

theorem appendParams_eq {url : Url} (hurl : url.KeepsQuery) {v : Params} (hv : v.toPairs ≠ []) :
    url.appendParams v = { url with query := some (url.queryTextWith v) } := by
  have hencode : v.encode.isEmpty = false := by
    rw [Bool.eq_false_iff, ne_eq, String.isEmpty_iff, Params.encode_eq_empty_iff]
    exact hv
  rw [appendParams, hencode, if_neg Bool.false_ne_true, extended_eq, ← queryText, ← queryTextWith]
  exact setQuery_of_kept url (kept_queryTextWith hurl v)

/-- **The query with parameters behind it is read as both**, one merged behind the other. -/
theorem parse_queryTextWith (url : Url) (v : Params) :
    Params.parse (url.queryTextWith v) = (Params.parse url.queryText).merge v.compact := by
  unfold queryTextWith
  split
  · next h =>
    have hparse : Params.parse "" = Params.empty := rfl
    rw [h, hparse, Params.empty_merge, Params.parse_encode]
  · exact Params.parse_append_encode _ v

theorem keepsQuery_appendParams {url : Url} (hurl : url.KeepsQuery) (v : Params) :
    (url.appendParams v).KeepsQuery := by
  by_cases hv : v.toPairs = []
  · rw [appendParams_of_toPairs_eq_nil url hv]
    exact hurl
  · rw [appendParams_eq hurl hv]
    exact kept_queryTextWith hurl v

/-! ## Encoding -/

/-- No encoding fails because of a URL. -/
theorem encode_ne_invalidUrl (config : Config) (value : Value) (cause : UrlError) :
    value.encode config ≠ .error (.invalidUrl cause) := by
  intro h
  obtain ⟨left, hinto⟩ := Encoding.encode_eq_error_iff.1 h
  obtain ⟨_, step, _, _, _, _, hfails⟩ := Encoding.encodeInto_eq_error_iff.1 hinto
  cases step with
  | custom encoder key => cases hfails.choose_spec.2
  | enter scope level => cases hfails.2.1
  | refuse kind => cases hfails.1
  | write _ _ | leave => exact hfails

theorem appendInto_of_ok {config : Config} {value : Value} {v : Params}
    (h : value.encode config = .ok v) (url : Url) :
    url.appendInto config value = (.ok (), url.appendParams v) := by
  rw [appendInto, h]

theorem appendInto_of_error {config : Config} {value : Value} {e : Error}
    (h : value.encode config = .error e) (url : Url) :
    url.appendInto config value = (.error e, url) := by
  rw [appendInto, h]

theorem build_of_error (config : Config) {base : String} {cause : UrlError}
    (h : parse base = .error cause) (value : Value) :
    build config base value = .error (.invalidUrl cause) := by
  rw [build, h]
  rfl

theorem build_of_ok (config : Config) {base : String} {url : Url} (h : parse base = .ok url)
    (value : Value) : build config base value = url.appendValue config value := by
  rw [build, h]
  rfl

/-- Where the text is a URL, building appends what the value is encoded as, or fails as it does. -/
theorem build_of_encode (config : Config) {base : String} {url : Url} (h : parse base = .ok url)
    (value : Value) :
    (∀ v, value.encode config = .ok v → build config base value = .ok (url.appendParams v)) ∧
      ∀ e, value.encode config = .error e → build config base value = .error e := by
  rw [build_of_ok config h, appendValue]
  constructor
  · intro v hv
    rw [appendInto_of_ok hv]
  · intro e he
    rw [appendInto_of_error he]

/-- Building fails with the error of a text just if the text is no URL. -/
theorem build_eq_invalidUrl_iff {config : Config} {base : String} {value : Value}
    {cause : UrlError} :
    build config base value = .error (.invalidUrl cause) ↔ parse base = .error cause := by
  cases hparse : parse base with
  | error e => simp [build_of_error config hparse]
  | ok url =>
    rw [build_of_ok config hparse, appendValue]
    cases hvalue : value.encode config with
    | ok v => simp [appendInto_of_ok hvalue]
    | error e =>
      rw [appendInto_of_error hvalue]
      simpa [hvalue] using encode_ne_invalidUrl config value cause

/--
**Appending to a URL keeps what it held.**

* A URL that was read holds a query of characters that a query shows as they are.
* Parameters without a value change nothing.
* Any others change the query of such a URL and nothing else: the query string stands behind the old
  query, and the two are read as the old query with the parameters merged behind. Such a URL it
  stays, so more can be appended.
* A value is appended as what it is encoded as. If it cannot be encoded the URL stays as it was.
* A URL is built from the text of one by appending in the same way. Building fails with the error
  of the text just if the text is no URL, whatever is encoded.
-/
theorem appendParams_merges :
    (∀ base url, parse base = .ok url → url.KeepsQuery) ∧
    (∀ (url : Url) (v : Params), (∀ k, v.getAll k = []) → url.appendParams v = url) ∧
    (∀ (url : Url) (v : Params), url.KeepsQuery → (∃ k, v.getAll k ≠ []) →
      let query := if url.queryText = "" then v.encode else url.queryText ++ "&" ++ v.encode
      url.appendParams v = { url with query := some query } ∧
        Params.parse query = (Params.parse url.queryText).merge v.compact ∧
        (url.appendParams v).KeepsQuery) ∧
    (∀ (config : Config) (url : Url) (value : Value),
      (∀ v, value.encode config = .ok v →
        url.appendInto config value = (.ok (), url.appendParams v)) ∧
      (∀ e, value.encode config = .error e → url.appendInto config value = (.error e, url))) ∧
    (∀ (config : Config) (base : String) (url : Url) (value : Value), parse base = .ok url →
      (∀ v, value.encode config = .ok v → build config base value = .ok (url.appendParams v)) ∧
      (∀ e, value.encode config = .error e → build config base value = .error e)) ∧
    (∀ config base value cause,
      build config base value = .error (.invalidUrl cause) ↔ parse base = .error cause) := by
  refine ⟨fun _ _ => keepsQuery_parse, fun url v hv => ?_, fun url v hurl hv => ?_,
    fun config url value => ⟨fun _ h => appendInto_of_ok h url,
      fun _ h => appendInto_of_error h url⟩,
    fun config _ _ value h => build_of_encode config h value,
    fun _ _ _ _ => build_eq_invalidUrl_iff⟩
  · exact appendParams_of_toPairs_eq_nil url (Params.toPairs_eq_nil_iff_getAll.2 hv)
  · have hpairs : v.toPairs ≠ [] := by
      rw [ne_eq, Params.toPairs_eq_nil_iff_getAll, Classical.not_forall]
      exact hv
    exact ⟨appendParams_eq hurl hpairs, parse_queryTextWith url v, keepsQuery_appendParams hurl v⟩

/-- A query that begins with a question mark and ends in an escape that is cut short. -/
theorem appendParams_merges_cut :
    let url : Url :=
      { scheme := "a", path := .plain "b", query := some "?x&y=%4", fragment := some "c" }
    let v := Params.ofPairs [("x", "1")]
    parse "a:b??x&y=%4#c" = .ok url ∧ url.appendParams Params.empty = url ∧
      url.appendParams v = { url with query := some "?x&y=%4&x=1" } ∧
      Params.parse "?x&y=%4&x=1" = (Params.parse "?x&y=%4").merge v ∧
      url.appendInto {} (.text "x=1") = (.ok (), url.appendParams v) ∧
      url.appendInto {} (.bool true) = (.error (.unsupportedKind .bool), url) ∧
      build {} "a:b??x&y=%4#c" (.text "x=1") = .ok (url.appendParams v) := by
  intro url v
  have hparse : parse "a:b??x&y=%4#c" = .ok url := by rfl
  obtain ⟨hreads, hnone, hsome, hvalues, hbuild, -⟩ := appendParams_merges
  have hquery := hsome url v (hreads _ _ hparse) ⟨"x", by decide⟩
  exact ⟨hparse, hnone url _ fun _ => rfl, hquery.1, hquery.2.1,
    (hvalues {} url (.text "x=1")).1 v (by rfl), (hvalues {} url (.bool true)).2 _ rfl,
    (hbuild {} _ url (.text "x=1") hparse).1 v (by rfl)⟩

end UrlQuery.Url
