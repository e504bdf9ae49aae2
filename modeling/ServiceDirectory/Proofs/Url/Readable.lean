import ServiceDirectory.Proofs.Url.Grammar

/-!
# URLs that read back

The canonical string of a URL is read back part by part, so the marks that end a part must
not occur within it.  `Readable` says so.  Every URL that has been read is readable, and a
readable URL is what its canonical string reads back to.  Blanks at the end do not matter
here, since the string is read without trimming it first.
-/

namespace ServiceDirectory

namespace Url

/-- Behind a text without the mark, the mark of a protocol stands first. -/
theorem firstAt_protocolMark {before : List Char} (after : List Char)
    (h : ¬protocolMark <:+: before) :
    Text.FirstAt protocolMark (before ++ protocolMark ++ after) before after := by
  induction before with
  | nil => exact Text.firstAt_of_prefix rfl
  | cons c before ih =>
    have hstart : ¬protocolMark <+: c :: (before ++ protocolMark ++ after) := by
      -- The mark overlaps itself nowhere, so it would stand within `before`.
      rintro ⟨rest, heq⟩
      rcases before with _ | ⟨d, _ | ⟨e, before⟩⟩
      · simp [protocolMark] at heq
      · simp [protocolMark] at heq
      · simp only [protocolMark, List.cons_append, List.cons.injEq, List.nil_append] at heq
        obtain ⟨rfl, rfl, rfl, -⟩ := heq
        exact absurd ⟨[], before, by simp [protocolMark]⟩ h
    exact (Text.firstAt_cons_iff hstart).2
      ⟨before, rfl, ih fun hinfix => h (List.infix_cons hinfix)⟩

/-! ## Readable URLs -/

/-- No part of the URL holds a mark at which it would be cut. -/
structure Readable (u : Url) : Prop where
  protocol_ne : u.protocol ≠ ""
  protocol : ¬protocolMark <:+: u.protocol.toList
  host_slash : '/' ∉ u.host.toList
  host_query : '?' ∉ u.host.toList
  host_colon : u.port = none → ':' ∉ u.host.toList
  path_slash : dropSlashes u.path.toList = u.path.toList
  path_query : '?' ∉ u.path.toList
  keys : u.parameters.keys.Nodup
  key_ne : ∀ pair ∈ u.parameters.entries, pair.1 ≠ ""
  key_ampersand : ∀ pair ∈ u.parameters.entries, '&' ∉ pair.1.toList
  key_equals : ∀ pair ∈ u.parameters.entries, '=' ∉ pair.1.toList
  value_ampersand : ∀ pair ∈ u.parameters.entries, '&' ∉ pair.2.toList

theorem not_mem_decimal {c : Char} (hc : c.isDigit = false) (n : Nat) : c ∉ Text.decimal n := by
  intro hmem
  have hdigit := Nat.isDigit_of_mem_toDigits (b := 10) (by decide) (by decide) hmem
  rw [hdigit] at hc
  cases hc

theorem numeral_decimal (port : UInt16) :
    PortNumeral (Text.decimal port.toNat) port.toNat := by
  obtain ⟨hne, hdigits, hvalue⟩ :=
    Text.readDecimal_eq_some_iff.1 (Text.readDecimal_decimal port.toNat)
  exact ⟨⟨_, Or.inl rfl, hne, hdigits, hvalue⟩, Nat.le_of_lt_succ port.toNat_lt⟩

theorem authority_append {host : List Char} {port : Option UInt16}
    (hhost : port = none → ':' ∉ host) : Authority (host ++ portChars port) (.ok (host, port)) := by
  cases port with
  | none =>
    rw [portChars, List.append_nil]
    exact .host (hhost rfl)
  | some port => exact .port (not_mem_decimal (by decide) port.toNat) (numeral_decimal port)

/-- The pieces of a written query are its pairs. -/
theorem pieces_pairs {pair : String × String} {rest : List (String × String)}
    (h : ∀ pair' ∈ pair :: rest, '&' ∉ pairChars pair') :
    Text.pieces '&' (pairChars pair ++ rest.flatMap fun pair' => '&' :: pairChars pair') =
      (pair :: rest).map pairChars := by
  induction rest generalizing pair with
  | nil =>
    have hpair := h pair (by simp)
    simp [Text.pieces_of_not_mem hpair]
  | cons next rest ih =>
    rw [List.flatMap_cons, List.cons_append, Text.pieces_append _ (h pair (by simp)),
      ih fun pair' hmem => h pair' (List.mem_cons_of_mem pair hmem)]
    rfl

theorem sets_pairs {pairs : List (String × String)} {pair : String × String}
    {rest : List (String × String)} (hpairs : pairs = pair :: rest)
    (hkey : ∀ pair ∈ pairs, pair.1 ≠ "") (hequals : ∀ pair ∈ pairs, '=' ∉ pair.1.toList)
    (hampersand : ∀ pair ∈ pairs, '&' ∉ pairChars pair) :
    Sets (pairChars pair ++ rest.flatMap fun pair' => '&' :: pairChars pair') pairs := by
  have hparts := Text.pieces_eq_iff.1 (pieces_pairs (by rwa [hpairs] at hampersand))
  have hsplit : List.Forall₂
      (fun piece pair => Text.SplitsAt '=' piece pair.1.toList pair.2.toList)
      (pairs.map pairChars) pairs := by
    rw [List.forall₂_map_left_iff, List.forall₂_same]
    exact fun pair hpair => .found rfl (hequals pair hpair)
  have hkept : pairs.filter (·.1 ≠ "") = pairs :=
    List.filter_eq_self.2 fun pair hpair => by simpa using hkey pair hpair
  rw [← hpairs] at hparts
  exact hkept ▸ .intro hparts hsplit

theorem not_mem_portChars {c : Char} (hdigit : c.isDigit = false) (hcolon : c ≠ ':')
    (port : Option UInt16) : c ∉ portChars port := by
  cases port with
  | none => simp [portChars]
  | some port => simp [portChars, hcolon, not_mem_decimal hdigit port.toNat]

theorem exists_query {location : List Char} (hlocation : '?' ∉ location)
    {pairs : List (String × String)} (hkey : ∀ pair ∈ pairs, pair.1 ≠ "")
    (hequals : ∀ pair ∈ pairs, '=' ∉ pair.1.toList)
    (hampersand : ∀ pair ∈ pairs, '&' ∉ pairChars pair) :
    ∃ query, Text.SplitsAt '?' (location ++ queryChars pairs) location query ∧
      Sets query pairs := by
  cases hpairs : pairs with
  | nil =>
    rw [queryChars, List.append_nil]
    exact ⟨[], .absent hlocation, readQuery_eq_iff.1 (by decide)⟩
  | cons pair rest =>
    refine ⟨_, .found rfl hlocation, ?_⟩
    rw [← hpairs]
    exact sets_pairs hpairs hkey hequals hampersand

theorem splitsAt_pathChars {authority : List Char} (hauthority : '/' ∉ authority)
    (path : List Char) : Text.SplitsAt '/' (authority ++ pathChars path) authority path := by
  cases path with
  | nil =>
    rw [pathChars, List.isEmpty_nil, if_pos rfl, List.append_nil]
    exact .absent hauthority
  | cons c path => exact .found rfl hauthority

theorem Readable.slash_not_mem_authority {u : Url} (h : u.Readable) :
    '/' ∉ u.host.toList ++ portChars u.port := by
  simp [h.host_slash, not_mem_portChars (c := '/') (by decide) (by decide) u.port]

theorem Readable.query_not_mem_authority {u : Url} (h : u.Readable) :
    '?' ∉ u.host.toList ++ portChars u.port := by
  simp [h.host_query, not_mem_portChars (c := '?') (by decide) (by decide) u.port]

theorem Readable.protocol_toList_ne {u : Url} (h : u.Readable) : u.protocol.toList ≠ [] := by
  simpa using h.protocol_ne

/-- A readable URL is what its canonical string reads back to. -/
theorem Readable.readTrimmed_fullChars {u : Url} (h : u.Readable) :
    readTrimmed u.fullChars = .ok u := by
  have hpathQuery : '?' ∉ pathChars u.path.toList := by
    unfold pathChars
    split
    · simp
    · simp [h.path_query]
  have hlocation : '?' ∉ u.host.toList ++ portChars u.port ++ pathChars u.path.toList := by
    rw [List.mem_append, not_or]
    exact ⟨h.query_not_mem_authority, hpathQuery⟩
  have hampersand : ∀ pair ∈ u.parameters.entries, '&' ∉ pairChars pair := by
    intro pair hpair
    simp [pairChars, h.key_ampersand pair hpair, h.value_ampersand pair hpair]
  obtain ⟨query, hquery, hsets⟩ := exists_query hlocation h.key_ne h.key_equals hampersand
  have hfull : u.fullChars = u.protocol.toList ++ protocolMark ++
      (u.host.toList ++ portChars u.port ++ pathChars u.path.toList ++
        queryChars u.parameters.entries) := by
    simp [fullChars, protocolMark]
  have hlayout := LaidOut.intro (firstAt_protocolMark _ h.protocol) h.protocol_toList_ne hquery
    (splitsAt_pathChars h.slash_not_mem_authority _)
  have hparameters := OrderedMap.collects_ofList u.parameters.entries
  rw [OrderedMap.ofList_entries h.keys] at hparameters
  rw [hfull]
  exact (Reads.url hlayout (authority_append h.host_colon) (dropSlashes_eq_iff.1 h.path_slash)
    hsets hparameters).readTrimmed_eq

/-- A slash behind an authority is read as an empty path. -/
theorem Readable.readTrimmed_append_slash {u : Url} (h : u.Readable) (hpath : u.path = "")
    (hparameters : u.parameters.entries = []) : readTrimmed (u.fullChars ++ ['/']) = .ok u := by
  have hlocation : '?' ∉ u.host.toList ++ portChars u.port ++ ['/'] := by
    rw [List.mem_append, not_or]
    exact ⟨h.query_not_mem_authority, by simp⟩
  have hfull : u.fullChars ++ ['/'] = u.protocol.toList ++ protocolMark ++
      (u.host.toList ++ portChars u.port ++ ['/']) := by
    simp [fullChars, protocolMark, hpath, hparameters, pathChars, queryChars]
  have hlayout := LaidOut.intro (firstAt_protocolMark _ h.protocol) h.protocol_toList_ne
    (.absent hlocation) (.found rfl h.slash_not_mem_authority)
  have hunslashed : Unslashed [] u.path.toList := by
    rw [hpath]
    exact dropSlashes_eq_iff.1 rfl
  have hsets : Sets [] [] := readQuery_eq_iff.1 (by decide)
  have hnothing : OrderedMap.Collects [] u.parameters.entries := by
    rw [hparameters]
    exact OrderedMap.collects_ofList []
  rw [hfull]
  exact (Reads.url hlayout (authority_append h.host_colon) hunslashed hsets
    hnothing).readTrimmed_eq

/-! ## URLs that have been read -/

theorem Authority.host_spec {authority host : List Char} {port : Option UInt16}
    (h : Authority authority (.ok (host, port))) :
    (∀ c ∈ host, c ∈ authority) ∧ (port = none → ':' ∉ host) := by
  cases h with
  | host hcolon => exact ⟨fun _ hc => hc, fun _ => hcolon⟩
  | port => exact ⟨fun _ hc => List.mem_append_left _ hc, nofun⟩

theorem Sets.spec {query : List Char} {settings : List (String × String)}
    (h : Sets query settings) : ∀ pair ∈ settings,
      pair.1 ≠ "" ∧ '&' ∉ pair.1.toList ∧ '=' ∉ pair.1.toList ∧ '&' ∉ pair.2.toList := by
  intro pair hpair
  rw [← readQuery_eq_iff.2 h, readQuery_eq_filter] at hpair
  obtain ⟨hmem, hkey⟩ := List.mem_filter.1 hpair
  obtain ⟨piece, hpiece, hread⟩ := List.mem_map.1 hmem
  obtain ⟨hequals, hkeyIn, hvalueIn⟩ := (pairOf_eq_iff.1 hread).spec
  have hampersand := Text.not_mem_of_mem_pieces hpiece
  exact ⟨by simpa using hkey, fun hc => hampersand (hkeyIn '&' hc), hequals,
    fun hc => hampersand (hvalueIn '&' hc)⟩

theorem Reads.readable {t : List Char} {u : Url} (h : Reads t (.ok u)) : u.Readable := by
  obtain _ | _ | _ |
    ⟨⟨hmark, hprotocol, hlocation, hcut⟩, hauthority, hpath, hquery, hparameters⟩ := h
  obtain ⟨hquestion, -, -⟩ := hlocation.spec
  obtain ⟨hslash, hauthorityIn, hpathIn⟩ := hcut.spec
  obtain ⟨hhostIn, hcolon⟩ := hauthority.host_spec
  have hpair := fun pair hmem => hquery.spec pair (hparameters.mem hmem)
  have hpathQuery : '?' ∉ u.path.toList := by
    obtain ⟨slashes, rfl, -⟩ := hpath.parts
    exact fun hc => hquestion (hpathIn '?' (List.mem_append_right _ hc))
  exact {
    protocol_ne := by simpa using hprotocol
    protocol := hmark.unmarked (by simp [protocolMark])
    host_slash := fun hc => hslash (hhostIn '/' hc)
    host_query := fun hc => hquestion (hauthorityIn '?' (hhostIn '?' hc))
    host_colon := hcolon
    path_slash := dropSlashes_eq_iff.2 ⟨⟨[], rfl, nofun⟩, hpath.head⟩
    path_query := hpathQuery
    keys := hparameters.keys_nodup
    key_ne := fun pair hmem => (hpair pair hmem).1
    key_ampersand := fun pair hmem => (hpair pair hmem).2.1
    key_equals := fun pair hmem => (hpair pair hmem).2.2.1
    value_ampersand := fun pair hmem => (hpair pair hmem).2.2.2 }

theorem reads_of_readTrimmed {t : List Char} {u : Url} (h : readTrimmed t = .ok u) :
    Reads t (.ok u) :=
  h ▸ reads_readTrimmed t

/-- Every URL that has been read is readable. -/
theorem readable_of_parse {text : String} {u : Url} (h : parse text = .ok u) : u.Readable :=
  (reads_of_readTrimmed h).readable

/-- URLs that have been read are told apart by their canonical strings. -/
theorem Readable.eq_of_fullString_eq {u v : Url} (hu : u.Readable) (hv : v.Readable)
    (h : u.fullString = v.fullString) : u = v := by
  have hchars : u.fullChars = v.fullChars := by
    rw [← toList_fullString, ← toList_fullString, h]
  have hread := hu.readTrimmed_fullChars
  rw [hchars, hv.readTrimmed_fullChars] at hread
  exact (Except.ok.inj hread).symm

end Url

end ServiceDirectory
