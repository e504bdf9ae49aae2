import ServiceDirectory.Proofs.Url.Rereading
import ServiceDirectory.Url.ServiceKey

/-!
# Which URLs survive their canonical string

A URL can be made from parts that its canonical string does not keep apart.  For the URLs
that can be made at all, the string reads back to the URL exactly under the conditions of
`parse_fullString_iff`.  A URL that has been read meets all of them but one: it may end in a
blank.  Then its canonical string reads back to another URL, and yet no other URL that has been
read has the same string.
-/

namespace ServiceDirectory.Url

/-- The URLs that can be made: from parts or from a text, and then by setting and removing
parameters. -/
inductive Made : Url → Prop
  | ofParts (protocol host : String) (port : Option UInt16) (path : String) :
    Made (ofParts protocol host port path)
  | parse {text : String} {u : Url} (h : parse text = .ok u) : Made u
  | withParameter {u : Url} (h : Made u) (key value : String) : Made (u.withParameter key value)
  | withoutParameter {u : Url} (h : Made u) (key : String) : Made (u.withoutParameter key)

/-- However a URL is made, its path begins with no slash and no parameter is set twice. -/
theorem Made.path_slash_and_keys {u : Url} (h : u.Made) :
    dropSlashes u.path.toList = u.path.toList ∧ u.parameters.keys.Nodup := by
  induction h with
  | ofParts protocol host port path =>
    exact ⟨by simp [Url.ofParts, dropSlashes, List.dropWhile_idempotent],
      OrderedMap.keys_nodup_empty⟩
  | parse h =>
    have hreadable := readable_of_parse h
    exact ⟨hreadable.path_slash, hreadable.keys⟩
  | withParameter _ key value ih => exact ⟨ih.1, OrderedMap.keys_nodup_insert ih.2 key value⟩
  | withoutParameter _ key ih => exact ⟨ih.1, OrderedMap.keys_nodup_erase ih.2 key⟩

/-- The canonical string of a URL reads back to the URL if and only if no part of it holds a
mark at which it would be cut there, and no blank is trimmed from either end. -/
theorem Made.parse_fullString_iff {u : Url} (h : u.Made) :
    Url.parse u.fullString = .ok u ↔
      (u.protocol ≠ "" ∧ (∀ c ∈ u.protocol.toList.head?, Text.isBlank c = false) ∧
        ¬protocolMark <:+: u.protocol.toList) ∧
      ('/' ∉ u.host.toList ∧ '?' ∉ u.host.toList ∧ (u.port = none → ':' ∉ u.host.toList)) ∧
      '?' ∉ u.path.toList ∧
      (∀ pair ∈ u.parameters.entries,
        pair.1 ≠ "" ∧ '&' ∉ pair.1.toList ∧ '=' ∉ pair.1.toList) ∧
      (∀ pair ∈ u.parameters.entries, '&' ∉ pair.2.toList) ∧
      ∀ c ∈ u.fullString.toList.getLast?, Text.isBlank c = false := by
  constructor
  · intro hparse
    have hreadable := readable_of_parse hparse
    have hstart := protocol_start_of_parse hparse
    rw [hreadable.parse_fullString_eq hstart, Except.ok.injEq,
      hreadable.settled_eq_self_iff] at hparse
    exact ⟨⟨hreadable.protocol_ne, hstart, hreadable.protocol⟩,
      ⟨hreadable.host_slash, hreadable.host_query, hreadable.host_colon⟩, hreadable.path_query,
      fun pair hpair => ⟨hreadable.key_ne pair hpair, hreadable.key_ampersand pair hpair,
        hreadable.key_equals pair hpair⟩,
      hreadable.value_ampersand, hparse⟩
  · rintro ⟨⟨hne, hstart, hmark⟩, ⟨hslash, hquery, hcolon⟩, hpath, hkeys, hvalues, hend⟩
    have hreadable : u.Readable :=
      ⟨hne, hmark, hslash, hquery, hcolon, h.path_slash_and_keys.1, hpath,
        h.path_slash_and_keys.2, fun pair hpair => (hkeys pair hpair).1,
        fun pair hpair => (hkeys pair hpair).2.1, fun pair hpair => (hkeys pair hpair).2.2,
        hvalues⟩
    rw [hreadable.parse_fullString_eq hstart, Except.ok.injEq]
    exact hreadable.settled_eq_self_iff.2 hend

/-- A URL whose parts hold every mark that they may. -/
def crowded : Url :=
  (((ofParts "a:/" "[::1] :" (some 0) "//p//q:r&=").withParameter "k?/" "a=b?c://d").withParameter
    "gone" "&").withoutParameter "gone"

theorem crowded_made : crowded.Made :=
  (((Made.ofParts _ _ _ _).withParameter _ _).withParameter _ _).withoutParameter _

theorem parse_fullString_iff_crowded :
    crowded.Made ∧ Url.parse crowded.fullString = .ok crowded := by
  have hfirst : crowded.protocol.toList.head? = some 'a' := by decide
  have hlast : crowded.fullString.toList.getLast? = some 'd' := by decide
  have hstart : ∀ c ∈ crowded.protocol.toList.head?, Text.isBlank c = false := by
    rw [hfirst]
    rintro c ⟨⟩
    decide
  have hend : ∀ c ∈ crowded.fullString.toList.getLast?, Text.isBlank c = false := by
    rw [hlast]
    rintro c ⟨⟩
    decide
  exact ⟨crowded_made, crowded_made.parse_fullString_iff.2
    ⟨⟨by decide, hstart, by decide⟩, by decide, by decide, by decide, by decide, hend⟩⟩

/-! ## URLs that have been read -/

/-- What has been read is read again as the settled URL.  It is the same URL unless its
canonical string ends in a blank. -/
theorem reread_of_parse {text : String} {u : Url} (h : parse text = .ok u) :
    parse u.fullString = .ok u.settled ∧
      (parse u.fullString = .ok u ↔
        ∀ c ∈ u.fullString.toList.getLast?, Text.isBlank c = false) := by
  have hreadable := readable_of_parse h
  have hreread := hreadable.parse_fullString_eq (protocol_start_of_parse h)
  exact ⟨hreread, by rw [hreread, Except.ok.injEq, hreadable.settled_eq_self_iff]⟩

/-- Slashes, a padded port, empty pairs and repeated keys are gone after the first reading. -/
theorem reread_of_parse_untidy :
    ∃ u, parse " x://h:+0080///p?&k=1&&j&k=2&=3 " = .ok u ∧ u.fullString = "x://h:80/p?k=2&j=" ∧
      parse u.fullString = .ok u := by
  let u : Url := ((ofParts "x" "h" (some 80) "p").withParameter "k" "2").withParameter "j" ""
  have hparse : parse " x://h:+0080///p?&k=1&&j&k=2&=3 " = .ok u := by decide
  have hlast : u.fullString.toList.getLast? = some '=' := by decide
  have hend : ∀ c ∈ u.fullString.toList.getLast?, Text.isBlank c = false := by
    rw [hlast]
    rintro c ⟨⟩
    decide
  exact ⟨u, hparse, by decide, (reread_of_parse hparse).2.2 hend⟩

/-- An empty query behind a path that ends in a blank is dropped by the first reading, and so
the second one trims the path. -/
theorem reread_ne_of_blank_path :
    parse "dubbo://h/Svc ?" = .ok (ofParts "dubbo" "h" none "Svc ") ∧
      parse (ofParts "dubbo" "h" none "Svc ").fullString = .ok (ofParts "dubbo" "h" none "Svc") ∧
      ofParts "dubbo" "h" none "Svc" ≠ ofParts "dubbo" "h" none "Svc " := by
  decide

/-! ## Telling URLs apart -/

/-- URLs that have been read are told apart by their canonical strings, whatever these end in:
a string has one reading if it is not trimmed first. -/
theorem parts_eq_of_fullString_eq {text text' : String} {u v : Url} (hu : parse text = .ok u)
    (hv : parse text' = .ok v) (h : u.fullString = v.fullString) :
    (u.protocol = v.protocol ∧ u.host = v.host ∧ u.port = v.port ∧ u.path = v.path ∧
      u.parameters.entries = v.parameters.entries) ∧ u.serviceKey = v.serviceKey := by
  obtain rfl := (readable_of_parse hu).eq_of_fullString_eq (readable_of_parse hv) h
  exact ⟨⟨rfl, rfl, rfl, rfl, rfl⟩, rfl⟩

/-- Both texts have a colon in the host and an equals sign, a question mark and a last blank in
the value.  The blank keeps the canonical string from reading back. -/
theorem parts_eq_of_fullString_eq_blank :
    ∃ u v, parse "x://a:b:+080//p?k=1&k=a=?b &" = .ok u ∧
      parse "  x://a:b:80/p?k=a=?b &=z" = .ok v ∧
      u.fullString = "x://a:b:80/p?k=a=?b " ∧ v.fullString = "x://a:b:80/p?k=a=?b " ∧
      parse u.fullString ≠ .ok u ∧
      (u.protocol = v.protocol ∧ u.host = v.host ∧ u.port = v.port ∧ u.path = v.path ∧
        u.parameters.entries = v.parameters.entries) ∧ u.serviceKey = v.serviceKey := by
  let u : Url := (ofParts "x" "a:b" (some 80) "p").withParameter "k" "a=?b "
  have hu : parse "x://a:b:+080//p?k=1&k=a=?b &" = .ok u := by decide
  have hv : parse "  x://a:b:80/p?k=a=?b &=z" = .ok u := by decide
  exact ⟨u, u, hu, hv, by decide, by decide, by decide, parts_eq_of_fullString_eq hu hv rfl⟩

/-- URLs that have been put together need not be told apart. -/
example :
    let u := ofParts "x" "h:80" none "p"
    let v := ofParts "x" "h" (some 80) "p"
    u ≠ v ∧ u.fullString = v.fullString := by
  decide

end ServiceDirectory.Url
