import ServiceDirectory.Proofs.Url.Readable

/-!
# Reading a canonical string again

The reader trims its text, but not the parts that it cuts out of the text.  A part may
therefore end in blanks, and when it is the last one of a canonical string these blanks are
lost in the next reading.  `settled` is the URL without them: it is what the canonical string
of a readable URL reads back to, and so the string reads back to the URL itself exactly when
it does not end in a blank.
-/

namespace ServiceDirectory

namespace Url

/-! ## Settled URLs -/

/-- Pairs with the blanks taken off the end of the last value. -/
def settledPairs : List (String × String) → List (String × String)
  | [] => []
  | [(key, value)] => [(key, String.ofList (Text.trimEnd value.toList))]
  | pair :: next :: rest => pair :: settledPairs (next :: rest)

/-- The URL with the blanks taken off the end of its last part: of the last value, or of the
path where there are no parameters, or of the host where there is nothing behind it. -/
def settled (u : Url) : Url :=
  if u.parameters.entries ≠ [] then
    { u with parameters := ⟨settledPairs u.parameters.entries⟩ }
  else if u.path ≠ "" then { u with path := String.ofList (Text.trimEnd u.path.toList) }
  else if u.port = none then { u with host := String.ofList (Text.trimEnd u.host.toList) }
  else u

theorem map_fst_settledPairs (pairs : List (String × String)) :
    (settledPairs pairs).map Prod.fst = pairs.map Prod.fst := by
  induction pairs using settledPairs.induct with
  | case1 => rfl
  | case2 => rfl
  | case3 pair next rest ih => rw [settledPairs, List.map_cons, ih, ← List.map_cons]

/-- What holds of the keys and values, and is kept by taking characters off the end of a
value, holds of the settled pairs. -/
theorem forall_settledPairs {p : String → List Char → Prop}
    (hsub : ∀ key s t, List.Sublist s t → p key t → p key s) {pairs : List (String × String)}
    (h : ∀ pair ∈ pairs, p pair.1 pair.2.toList) :
    ∀ pair ∈ settledPairs pairs, p pair.1 pair.2.toList := by
  induction pairs using settledPairs.induct with
  | case1 => exact h
  | case2 key value =>
    intro pair hpair
    obtain rfl := List.mem_singleton.1 hpair
    rw [String.toList_ofList]
    exact hsub key _ _ (Text.trimEnd_sublist _) (h (key, value) (List.mem_singleton.2 rfl))
  | case3 first next rest ih =>
    intro pair hpair
    rcases List.mem_cons.1 hpair with rfl | hpair
    · exact h _ List.mem_cons_self
    · exact ih (fun pair hmem => h pair (List.mem_cons_of_mem _ hmem)) pair hpair

theorem queryChars_cons_cons (pair next : String × String) (rest : List (String × String)) :
    queryChars (pair :: next :: rest) =
      '?' :: pairChars pair ++ '&' :: (queryChars (next :: rest)).tail := by
  simp [queryChars]

theorem settledPairs_ne_nil {pairs : List (String × String)} (h : pairs ≠ []) :
    settledPairs pairs ≠ [] := by
  intro hnil
  have hkeys := map_fst_settledPairs pairs
  rw [hnil] at hkeys
  exact h (List.map_eq_nil_iff.1 hkeys.symm)

/-- Behind the question mark, only the last value can end in blanks. -/
theorem trimEnd_tail_queryChars (pairs : List (String × String)) :
    Text.trimEnd (queryChars pairs).tail = (queryChars (settledPairs pairs)).tail := by
  induction pairs using settledPairs.induct with
  | case1 => rfl
  | case2 key value =>
    have hvalue := Text.trimEnd_append_cons (c := '=') (by decide) key.toList value.toList
    simpa [queryChars, settledPairs, pairChars] using hvalue
  | case3 pair next rest ih =>
    have hne : settledPairs (next :: rest) ≠ [] := settledPairs_ne_nil (by simp)
    obtain ⟨next', rest', hsettled⟩ := List.exists_cons_of_ne_nil hne
    rw [settledPairs, hsettled, queryChars_cons_cons, queryChars_cons_cons, List.cons_append,
      List.cons_append, List.tail_cons, List.tail_cons, Text.trimEnd_append_cons (by decide), ih,
      hsettled]

theorem trimEnd_append_queryChars (s : List Char) {pairs : List (String × String)}
    (h : pairs ≠ []) :
    Text.trimEnd (s ++ queryChars pairs) = s ++ queryChars (settledPairs pairs) := by
  have hmark : ∀ pairs, pairs ≠ [] → queryChars pairs = '?' :: (queryChars pairs).tail := by
    intro pairs hne
    cases pairs with
    | nil => exact absurd rfl hne
    | cons pair rest => rfl
  rw [hmark pairs h, Text.trimEnd_append_cons (by decide), trimEnd_tail_queryChars,
    ← hmark _ (settledPairs_ne_nil h)]

theorem trimEnd_decimal (n : Nat) : Text.trimEnd (Text.decimal n) = Text.decimal n := by
  refine Text.trimEnd_eq_self_iff.2 fun c hc => ?_
  have hdigit := Nat.isDigit_of_mem_toDigits (b := 10) (by decide) (by decide)
    (List.mem_of_getLast? hc)
  rw [Char.isDigit, Bool.and_eq_true, decide_eq_true_eq, decide_eq_true_eq] at hdigit
  have hlow : 48 ≤ c.toNat := hdigit.1
  have hhigh : c.toNat ≤ 57 := hdigit.2
  simp only [Text.isBlank, Bool.or_eq_false_iff, Bool.and_eq_false_iff, decide_eq_false_iff_not,
    beq_eq_false_iff_ne]
  omega

/-- The trimmed canonical string is that of the settled URL, except that a path of blanks
leaves its slash behind. -/
theorem trimEnd_fullChars (u : Url) :
    Text.trimEnd u.fullChars = u.settled.fullChars ∨
      u.settled ≠ u ∧ u.settled.path = "" ∧ u.settled.parameters.entries = [] ∧
        Text.trimEnd u.fullChars = u.settled.fullChars ++ ['/'] := by
  unfold settled
  split_ifs with hquery hpath hport
  · left
    rw [fullChars, trimEnd_append_queryChars _ hquery]
    rfl
  · rw [not_not] at hquery
    have hslash : u.fullChars = u.protocol.toList ++ [':', '/', '/'] ++
        (u.host.toList ++ portChars u.port) ++ '/' :: u.path.toList := by
      simp [fullChars, hquery, queryChars, pathChars, hpath]
    rw [hslash, Text.trimEnd_append_cons (by decide)]
    by_cases hblank : Text.trimEnd u.path.toList = []
    · right
      refine ⟨?_, by simp [hblank], hquery, ?_⟩
      · intro hsame
        have hempty : u.path = "" := by rw [← hsame, hblank]
        exact hpath hempty
      · simp [fullChars, hquery, queryChars, pathChars, hblank]
    · left
      simp [fullChars, hquery, queryChars, pathChars, hblank]
  · left
    rw [not_not] at hquery hpath
    have hlast : u.fullChars = u.protocol.toList ++ [':', '/'] ++ '/' :: u.host.toList := by
      simp [fullChars, hquery, hpath, hport, queryChars, pathChars, portChars]
    rw [hlast, Text.trimEnd_append_cons (by decide)]
    simp [fullChars, hquery, hpath, hport, queryChars, pathChars, portChars]
  · left
    rw [not_not] at hquery hpath
    obtain ⟨port, hsome⟩ := Option.ne_none_iff_exists'.1 hport
    have hlast : u.fullChars = u.protocol.toList ++ [':', '/', '/'] ++ u.host.toList ++
        ':' :: Text.decimal port.toNat := by
      simp [fullChars, hquery, hpath, hsome, queryChars, pathChars, portChars]
    rw [hlast, Text.trimEnd_append_cons (by decide), trimEnd_decimal]

theorem dropSlashes_of_prefix {s path : List Char} (hbefore : s <+: path)
    (hpath : dropSlashes path = path) : dropSlashes s = s := by
  rw [dropSlashes, List.dropWhile_eq_self_iff] at hpath ⊢
  intro hs
  rw [hbefore.getElem hs]
  exact hpath (hs.trans_le hbefore.length_le)

/-- Taking blanks off the end of its last part leaves a URL readable. -/
theorem Readable.settled {u : Url} (h : u.Readable) : u.settled.Readable := by
  have hkept : ∀ {c : Char} {s : String}, c ∉ s.toList →
      c ∉ (String.ofList (Text.trimEnd s.toList)).toList := by
    intro c s hc hmem
    rw [String.toList_ofList] at hmem
    exact hc ((Text.trimEnd_sublist _).subset hmem)
  unfold Url.settled
  split_ifs with hquery hpath hport
  · have hkeys : ((settledPairs u.parameters.entries).map Prod.fst).Nodup := by
      rw [map_fst_settledPairs]
      exact h.keys
    have hpairs := forall_settledPairs
      (p := fun key value => key ≠ "" ∧ '&' ∉ key.toList ∧ '=' ∉ key.toList ∧ '&' ∉ value)
      (fun _ _ _ hsub hp => ⟨hp.1, hp.2.1, hp.2.2.1, fun hmem => hp.2.2.2 (hsub.subset hmem)⟩)
      fun pair hpair => ⟨h.key_ne pair hpair, h.key_ampersand pair hpair,
        h.key_equals pair hpair, h.value_ampersand pair hpair⟩
    exact ⟨h.protocol_ne, h.protocol, h.host_slash, h.host_query, h.host_colon, h.path_slash,
      h.path_query, hkeys, fun pair hpair => (hpairs pair hpair).1,
      fun pair hpair => (hpairs pair hpair).2.1, fun pair hpair => (hpairs pair hpair).2.2.1,
      fun pair hpair => (hpairs pair hpair).2.2.2⟩
  · refine ⟨h.protocol_ne, h.protocol, h.host_slash, h.host_query, h.host_colon, ?_,
      hkept h.path_query, h.keys, h.key_ne, h.key_ampersand, h.key_equals, h.value_ampersand⟩
    rw [String.toList_ofList]
    exact dropSlashes_of_prefix (Text.trimEnd_isPrefix _) h.path_slash
  · exact ⟨h.protocol_ne, h.protocol, hkept h.host_slash, hkept h.host_query,
      fun hnone => hkept (h.host_colon hnone), h.path_slash, h.path_query, h.keys, h.key_ne,
      h.key_ampersand, h.key_equals, h.value_ampersand⟩
  · exact h

/-! ## The second reading -/

theorem Readable.readTrimmed_trimEnd {u : Url} (h : u.Readable) :
    readTrimmed (Text.trimEnd u.fullChars) = .ok u.settled := by
  rcases trimEnd_fullChars u with hsame | ⟨-, hpath, hparameters, hslash⟩
  · rw [hsame]
    exact h.settled.readTrimmed_fullChars
  · rw [hslash]
    exact h.settled.readTrimmed_append_slash hpath hparameters

/-- A readable URL loses the blanks at the end of its canonical string, and nothing else. -/
theorem Readable.settled_eq_self_iff {u : Url} (h : u.Readable) :
    u.settled = u ↔ ∀ c ∈ u.fullString.toList.getLast?, Text.isBlank c = false := by
  rw [toList_fullString, ← Text.trimEnd_eq_self_iff]
  constructor
  · intro hsettled
    rcases trimEnd_fullChars u with hsame | ⟨hother, -⟩
    · rw [hsame, hsettled]
    · exact absurd hsettled hother
  · intro htrimmed
    have hread := h.readTrimmed_trimEnd
    rw [htrimmed, h.readTrimmed_fullChars] at hread
    exact (Except.ok.inj hread).symm

/-- The canonical string of a readable URL reads back to the settled URL, unless blanks stand
before its protocol. -/
theorem Readable.parse_fullString_eq {u : Url} (h : u.Readable)
    (hstart : ∀ c ∈ u.protocol.toList.head?, Text.isBlank c = false) :
    parse u.fullString = .ok u.settled := by
  have hhead : u.fullChars.head? = u.protocol.toList.head? := by
    obtain ⟨c, rest, hprotocol⟩ := List.exists_cons_of_ne_nil h.protocol_toList_ne
    simp [fullChars, hprotocol]
  rw [parse, toList_fullString, Text.trim, Text.trimStart_eq_self (hhead ▸ hstart)]
  exact h.readTrimmed_trimEnd

/-- The protocol stands at the beginning of the text. -/
theorem protocol_prefix_of_readTrimmed {text : List Char} {u : Url}
    (h : readTrimmed text = .ok u) : u.protocol.toList <+: text := by
  obtain _ | _ | _ | ⟨⟨hmark, -, -, -⟩, -⟩ := reads_of_readTrimmed h
  rw [hmark.parts, List.append_assoc]
  exact List.prefix_append _ _

/-- No protocol that has been read begins with a blank. -/
theorem protocol_start_of_parse {text : String} {u : Url} (h : parse text = .ok u) :
    ∀ c ∈ u.protocol.toList.head?, Text.isBlank c = false := by
  intro c hc
  have hbefore := (protocol_prefix_of_readTrimmed h).trans (Text.trimEnd_isPrefix _)
  refine Text.isBlank_of_head?_trimStart (s := text.toList) ?_
  obtain ⟨rest, hrest⟩ := hbefore
  cases hprotocol : u.protocol.toList with
  | nil => simp [hprotocol] at hc
  | cons d tail =>
    rw [hprotocol] at hc hrest
    rw [← hrest]
    exact hc

end Url

end ServiceDirectory
