import ServiceDirectory.Proofs.Keys
import ServiceDirectory.Proofs.Text.Parts
import ServiceDirectory.Url.Parse

/-!
# The grammar of URLs

`Reads` says what a trimmed text is read as, from where its marks stand: the protocol ends at
the first `://`, the query begins at the first `?` behind it, the path at the first `/` before
that, and the port behind the last `:` of what is left.  A mark that stands further on belongs
to the part that it stands in.  Every text has one reading, and it is the one that `parse`
finds.
-/

namespace ServiceDirectory.Url

/-! ## Ports -/

/-- A numeral of a port: one or more digits, perhaps behind a plus sign, of value at most
65535.  It may begin with zeros. -/
structure PortNumeral (s : List Char) (n : ℕ) : Prop where
  digits : ∃ digits, (s = digits ∨ s = '+' :: digits) ∧ digits ≠ [] ∧
    (∀ c ∈ digits, c.isDigit = true) ∧ Text.placeValue digits = n
  small : n ≤ 65535

/-- A plus sign is no digit, so the sign can only be the one in front. -/
theorem readPort_eq (s : List Char) {digits : List Char}
    (h : s = digits ∨ s = '+' :: digits) (hdigits : ∀ c ∈ digits, c.isDigit = true) :
    readPort s = match Text.readDecimal digits with
      | some n => if n < 65536 then some n.toUInt16 else none
      | none => none := by
  rcases h with rfl | rfl
  · cases s with
    | nil => rfl
    | cons c rest =>
      have hplus : c ≠ '+' := by
        rintro rfl
        exact absurd (hdigits '+' List.mem_cons_self) (by decide)
      unfold readPort
      split
      · rename_i heq
        exact absurd (List.cons.inj heq).1 hplus
      · rfl
  · rfl

theorem readPort_of_numeral {s : List Char} {n : ℕ} (h : PortNumeral s n) :
    readPort s = some n.toUInt16 := by
  obtain ⟨⟨digits, hsign, hne, hdigits, hvalue⟩, hsmall⟩ := h
  rw [readPort_eq s hsign hdigits, Text.readDecimal_eq_some_iff.2 ⟨hne, hdigits, hvalue⟩]
  exact if_pos (by omega)

theorem numeral_of_readPort {s : List Char} {port : UInt16} (h : readPort s = some port) :
    PortNumeral s port.toNat := by
  unfold readPort at h
  dsimp only at h
  split at h
  · rename_i n hread
    split at h
    · rename_i hlt
      obtain rfl := Option.some.inj h
      obtain ⟨hne, hdigits, hvalue⟩ := Text.readDecimal_eq_some_iff.1 hread
      have hn : n.toUInt16.toNat = n := UInt16.toNat_ofNat_of_lt' hlt
      rw [hn]
      refine ⟨⟨_, ?_, hne, hdigits, hvalue⟩, by omega⟩
      split
      · exact Or.inr rfl
      · exact Or.inl rfl
    · cases h
  · cases h

theorem readPort_eq_some_iff {s : List Char} {port : UInt16} :
    readPort s = some port ↔ PortNumeral s port.toNat := by
  constructor
  · exact numeral_of_readPort
  · intro h
    rw [readPort_of_numeral h]
    simp

theorem readPort_eq_none_iff {s : List Char} :
    readPort s = none ↔ ∀ n, ¬PortNumeral s n := by
  constructor
  · intro hnone n h
    rw [readPort_of_numeral h] at hnone
    cases hnone
  · intro h
    cases hread : readPort s with
    | none => rfl
    | some port => exact absurd (numeral_of_readPort hread) (h _)

/-! ## Authorities -/

/-- An authority is a host, or a host with a port behind the last colon.  What stands behind
the last colon and is no port is an error. -/
inductive Authority : List Char → Except (List Char) (List Char × Option UInt16) → Prop
  | host {host : List Char} (hcolon : ':' ∉ host) : Authority host (.ok (host, none))
  | port {host numeral : List Char} {port : UInt16} (hcolon : ':' ∉ numeral)
    (hport : PortNumeral numeral port.toNat) :
    Authority (host ++ ':' :: numeral) (.ok (host, some port))
  | invalid {host text : List Char} (hcolon : ':' ∉ text) (hport : ∀ n, ¬PortNumeral text n) :
    Authority (host ++ ':' :: text) (.error text)

theorem readAuthority_eq_iff {authority : List Char}
    {outcome : Except (List Char) (List Char × Option UInt16)} :
    readAuthority authority = outcome ↔ Authority authority outcome := by
  constructor
  · rintro rfl
    unfold readAuthority
    cases hcut : Text.cutLast ':' authority with
    | none => exact .host (Text.cutLast_eq_none_iff.1 hcut)
    | some parts =>
      obtain ⟨rfl, hcolon⟩ := Text.cutLast_eq_some_iff.1 hcut
      dsimp only
      cases hport : readPort parts.2 with
      | none => exact .invalid hcolon (readPort_eq_none_iff.1 hport)
      | some port => exact .port hcolon (readPort_eq_some_iff.1 hport)
  · unfold readAuthority
    rintro (hcolon | ⟨hcolon, hport⟩ | ⟨hcolon, hport⟩)
    · rw [Text.cutLast_eq_none_iff.2 hcolon]
    · rw [Text.cutLast_append _ hcolon]
      dsimp only
      rw [readPort_eq_some_iff.2 hport]
    · rw [Text.cutLast_append _ hcolon]
      dsimp only
      rw [readPort_eq_none_iff.2 hport]

/-! ## Paths -/

/-- What is left of a path without the slashes at its start. -/
structure Unslashed (path kept : List Char) : Prop where
  parts : ∃ slashes, path = slashes ++ kept ∧ ∀ c ∈ slashes, c = '/'
  head : kept.head? ≠ some '/'

theorem dropSlashes_eq_iff {path kept : List Char} :
    dropSlashes path = kept ↔ Unslashed path kept := by
  constructor
  · rintro rfl
    refine ⟨⟨path.takeWhile (· == '/'), List.takeWhile_append_dropWhile.symm, ?_⟩, ?_⟩
    · intro c hc
      have hslash := List.mem_takeWhile_imp (p := (· == '/')) hc
      exact eq_of_beq hslash
    · intro hhead
      have hnot := List.head?_dropWhile_not (· == '/') path
      rw [← dropSlashes, hhead] at hnot
      exact absurd hnot (by decide)
  · rintro ⟨⟨slashes, rfl, hslashes⟩, hhead⟩
    rw [dropSlashes, List.dropWhile_append_of_pos fun c hc => beq_iff_eq.2 (hslashes c hc)]
    cases kept with
    | nil => rfl
    | cons c kept => exact List.dropWhile_cons_of_neg (by simpa using hhead)

/-! ## Queries -/

/-- The settings of a query are the pairs between its ampersands, each cut at its first equals
sign, but for those with an empty key. -/
inductive Sets (query : List Char) : List (String × String) → Prop
  | intro {parts : List (List Char)} {pairs : List (String × String)}
    (hparts : Text.MadeOf '&' query parts)
    (hpairs : List.Forall₂
      (fun piece pair => Text.SplitsAt '=' piece pair.1.toList pair.2.toList) parts pairs) :
    Sets query (pairs.filter (·.1 ≠ ""))

/-- Key and value of a pair as texts. -/
def pairOf (piece : List Char) : String × String :=
  (String.ofList (readPair piece).1, String.ofList (readPair piece).2)

theorem pairOf_eq_iff {piece : List Char} {pair : String × String} :
    pairOf piece = pair ↔ Text.SplitsAt '=' piece pair.1.toList pair.2.toList := by
  rw [← Text.cutFirst_getD_eq_iff, ← readPair, Prod.ext_iff, Prod.ext_iff, pairOf]
  simp only [← String.toList_inj, String.toList_ofList]

theorem readQuery_eq_filter (query : List Char) :
    readQuery query = ((Text.pieces '&' query).map pairOf).filter (·.1 ≠ "") := by
  rw [readQuery]
  induction Text.pieces '&' query with
  | nil => rfl
  | cons piece parts ih =>
    rw [List.map_cons, List.map_cons, List.filterMap_cons, List.filter_cons, ← ih]
    cases hkey : (readPair piece).1 <;> simp [pairOf, hkey]

theorem readQuery_eq_iff {query : List Char} {settings : List (String × String)} :
    readQuery query = settings ↔ Sets query settings := by
  rw [readQuery_eq_filter]
  constructor
  · rintro rfl
    refine .intro (Text.pieces_eq_iff.1 rfl) ?_
    rw [List.forall₂_map_right_iff, List.forall₂_same]
    exact fun piece _ => pairOf_eq_iff.1 rfl
  · rintro ⟨hparts, hpairs⟩
    have hpieces := hpairs.imp fun _ _ => pairOf_eq_iff.2
    rw [← List.forall₂_map_left_iff (f := pairOf), List.forall₂_eq_eq_eq] at hpieces
    rw [Text.pieces_eq_iff.2 hparts, hpieces]

/-! ## Texts -/

/-- Where the parts of a text with a protocol stand.  The first question mark is looked for
before the first slash, so a query may hold slashes and an authority no question mark. -/
inductive LaidOut (t protocol authority path query : List Char) : Prop
  | intro {rest location : List Char} (hmark : Text.FirstAt protocolMark t protocol rest)
    (hprotocol : protocol ≠ []) (hquery : Text.SplitsAt '?' rest location query)
    (hpath : Text.SplitsAt '/' location authority path)

/-- The outcome of reading a trimmed text. -/
inductive Reads (t : List Char) : Except UrlError Url → Prop
  | empty (hempty : t = []) : Reads t (.error .empty)
  | missingProtocol (hne : t ≠ []) (hmark : ¬protocolMark <:+: t ∨ protocolMark <+: t) :
    Reads t (.error (.missingProtocol (String.ofList t)))
  | invalidPort {protocol authority path query port : List Char}
    (hlayout : LaidOut t protocol authority path query)
    (hport : Authority authority (.error port)) :
    Reads t (.error (.invalidPort (String.ofList t) (String.ofList port)))
  | url {u : Url} {authority path query : List Char} {settings : List (String × String)}
    (hlayout : LaidOut t u.protocol.toList authority path query)
    (hauthority : Authority authority (.ok (u.host.toList, u.port)))
    (hpath : Unslashed path u.path.toList) (hquery : Sets query settings)
    (hparameters : OrderedMap.Collects settings u.parameters.entries) : Reads t (.ok u)

theorem LaidOut.readTrimmed_eq {t protocol authority path query : List Char}
    (h : LaidOut t protocol authority path query) :
    readTrimmed t = match readAuthority authority with
      | .error port => .error (.invalidPort (String.ofList t) (String.ofList port))
      | .ok (host, port) =>
        .ok { ofParts (String.ofList protocol) (String.ofList host) port (String.ofList path) with
          parameters := .ofList (readQuery query) } := by
  obtain ⟨hmark, hprotocol, hquery, hpath⟩ := h
  have hne : t.isEmpty = false := by
    rw [hmark.parts]
    simp [protocolMark]
  obtain ⟨c, rest, rfl⟩ := List.exists_cons_of_ne_nil hprotocol
  rw [readTrimmed, hne, if_neg (by decide), Text.cutFirstMark_eq_some_iff.2 hmark]
  dsimp only
  rw [Text.cutFirst_getD_eq_iff.2 hquery]
  dsimp only
  have hcut := Text.cutFirst_getD_eq_iff.2 hpath
  generalize (Text.cutFirst '/' _).getD _ = parts at hcut ⊢
  subst hcut
  rfl

theorem exists_laidOut {t protocol rest : List Char}
    (hmark : Text.FirstAt protocolMark t protocol rest) (hprotocol : protocol ≠ []) :
    ∃ authority path query, LaidOut t protocol authority path query :=
  ⟨_, _, _, .intro hmark hprotocol (Text.cutFirst_getD_eq_iff.1 rfl)
    (Text.cutFirst_getD_eq_iff.1 rfl)⟩

theorem reads_readTrimmed (t : List Char) : Reads t (readTrimmed t) := by
  by_cases hne : t = []
  · subst hne
    exact .empty rfl
  have hempty : t.isEmpty = false := by simpa using hne
  cases hcut : Text.cutFirstMark protocolMark t with
  | none =>
    rw [readTrimmed, hempty, if_neg (by decide), hcut]
    exact .missingProtocol hne (Or.inl (Text.cutFirstMark_eq_none_iff.1 hcut))
  | some parts =>
    obtain ⟨protocol, rest⟩ := parts
    have hmark := Text.cutFirstMark_eq_some_iff.1 hcut
    by_cases hprotocol : protocol = []
    · subst hprotocol
      rw [readTrimmed, hempty, if_neg (by decide), hcut]
      exact .missingProtocol hne (Or.inr ⟨rest, hmark.parts.symm⟩)
    · obtain ⟨authority, path, query, hlayout⟩ := exists_laidOut hmark hprotocol
      rw [hlayout.readTrimmed_eq]
      have hauthority := readAuthority_eq_iff.1 (rfl : readAuthority authority = _)
      cases hread : readAuthority authority with
      | error port =>
        rw [hread] at hauthority
        exact .invalidPort hlayout hauthority
      | ok address =>
        obtain ⟨host, port⟩ := address
        rw [hread] at hauthority
        rw [← String.toList_ofList (l := protocol)] at hlayout
        rw [← String.toList_ofList (l := host)] at hauthority
        have hpath : Unslashed path
            (String.ofList (dropSlashes (String.ofList path).toList)).toList := by
          rw [String.toList_ofList, String.toList_ofList]
          exact dropSlashes_eq_iff.1 rfl
        exact .url hlayout hauthority hpath (readQuery_eq_iff.1 rfl) (OrderedMap.collects_ofList _)

theorem Reads.readTrimmed_eq {t : List Char} {outcome : Except UrlError Url}
    (h : Reads t outcome) : readTrimmed t = outcome := by
  cases h with
  | empty hempty =>
    subst hempty
    rfl
  | missingProtocol hne hmark =>
    have hempty : t.isEmpty = false := by simpa using hne
    rw [readTrimmed, hempty, if_neg (by decide)]
    rcases hmark with hmark | ⟨rest, hstart⟩
    · rw [Text.cutFirstMark_eq_none_iff.2 hmark]
    · rw [Text.cutFirstMark_eq_some_iff.2 (Text.firstAt_of_prefix hstart.symm)]
  | invalidPort hlayout hport =>
    rw [hlayout.readTrimmed_eq, readAuthority_eq_iff.2 hport]
  | @url u _ _ _ settings hlayout hauthority hpath hquery hparameters =>
    rw [hlayout.readTrimmed_eq, readAuthority_eq_iff.2 hauthority, readQuery_eq_iff.2 hquery]
    have hsettings : OrderedMap.ofList settings = u.parameters :=
      congrArg OrderedMap.mk ((OrderedMap.collects_ofList settings).unique hparameters)
    rw [hsettings]
    simp [ofParts, dropSlashes_eq_iff.2 hpath]

/-- What a text is read as is what its reading by the grammar is, once the blanks at its ends
are gone. -/
theorem parse_eq_iff_reads (text : String) (outcome : Except UrlError Url) :
    parse text = outcome ↔ ∃ t, Text.Trimmed text.toList t ∧ Reads t outcome := by
  constructor
  · rintro rfl
    exact ⟨_, Text.trimmed_trim _, reads_readTrimmed _⟩
  · rintro ⟨t, htrimmed, hreads⟩
    rw [parse, Text.trim_eq_iff.2 htrimmed, hreads.readTrimmed_eq]

/-- Marks behind the end of a part are read with the part that they stand in. -/
example :
    parse " x://h:1:+080//p/:q://r?&k=1&&j&k=2?&=3 " =
        .ok (((ofParts "x" "h:1" (some 80) "p/:q://r").withParameter "k" "2?").withParameter
          "j" "") ∧
      parse "x://h:80:-1/p?:2" = .error (.invalidPort "x://h:80:-1/p?:2" "-1") := by
  decide

end ServiceDirectory.Url
