import Mathlib.Data.List.Basic
import ServiceDirectory.Discovery.Query
import ServiceDirectory.Proofs.World.After
import ServiceDirectory.Proofs.World.Fields

/-!
# Reading a listing page by page

A client that cannot take a long listing at once asks for windows of it, each in a call of
its own.  As long as every call finds the same listing, the windows that begin at the
multiples of their size lie next to each other and cover it, and what is left of them
without the unhealthy instances is what is left of the listing.
-/

namespace ServiceDirectory

variable {κ α : Type}

namespace Page

/-- The offsets `0`, `size`, `2 * size` and so on below `total`. -/
def starts (total size : Nat) : List Nat := List.range' 0 ((total + size - 1) / size) size

theorem mem_starts {total size offset : Nat} (hsize : 0 < size) :
    offset ∈ starts total size ↔ size ∣ offset ∧ offset < total := by
  simp only [starts, List.mem_range', Nat.zero_add]
  constructor
  · rintro ⟨i, hi, rfl⟩
    refine ⟨Nat.dvd_mul_right size i, ?_⟩
    have hle : (i + 1) * size ≤ total + size - 1 := (Nat.le_div_iff_mul_le hsize).1 hi
    rw [Nat.add_mul, Nat.mul_comm i] at hle
    omega
  · rintro ⟨⟨i, rfl⟩, hlt⟩
    refine ⟨i, (Nat.le_div_iff_mul_le hsize).2 ?_, rfl⟩
    rw [Nat.succ_mul, Nat.mul_comm i]
    omega

/-- The first windows, put one behind the other, are the front of the list. -/
theorem flatMap_drop_take (items : List α) (size count : Nat) :
    ((List.range' 0 count size).flatMap fun offset => (items.drop offset).take size) =
      items.take (size * count) := by
  induction count with
  | zero => rfl
  | succ count ih =>
    rw [List.range'_concat, List.flatMap_append, ih, List.flatMap_singleton, Nat.zero_add,
      Nat.mul_succ, List.take_add]

/-- There are windows enough to reach the end. -/
theorem flatMap_starts (items : List α) {size : Nat} (hsize : 0 < size) :
    ((starts items.length size).flatMap fun offset => (items.drop offset).take size) = items := by
  rw [starts, flatMap_drop_take]
  apply List.take_of_length_le
  have hlt := Nat.lt_mul_div_succ (items.length + size - 1) hsize
  rw [Nat.mul_add] at hlt
  omega

/-- An offset below the length of a list is a word. -/
theorem toNat_start {items : List α} {size start : Nat} (hsize : 0 < size)
    (hfits : items.length < UInt64.size) (hstart : start ∈ starts items.length size) :
    (UInt64.ofNat start).toNat = start :=
  UInt64.toNat_ofNat_of_lt' (Nat.lt_trans ((mem_starts hsize).1 hstart).2 hfits)

/-- What is kept of the windows is, one behind the other, what is kept of the list. -/
theorem flatMap_retain_window {items : List α} (hfits : items.length < UInt64.size)
    (keep : α → Bool) {size : UInt64} (hsize : 0 < size.toNat) :
    (((starts items.length size.toNat).map fun start =>
      (window items (UInt64.ofNat start) size).retain keep).flatMap Page.data) =
      items.filter keep := by
  have hdata : ∀ start ∈ starts items.length size.toNat,
      ((window items (UInt64.ofNat start) size).retain keep).data =
        ((items.drop start).take size.toNat).filter keep := by
    intro start hstart
    show (window items (UInt64.ofNat start) size).data.filter keep = _
    rw [data_window, toNat_start hsize hfits hstart]
  rw [List.flatMap_map, List.flatMap_congr hdata, ← List.filter_flatMap,
    flatMap_starts items hsize]

/-- `page` is the window of `items` that was asked for. -/
structure Shows (items : List α) (offset size : UInt64) (page : Page α) : Prop where
  offset_eq : page.offset = offset
  size_eq : page.size = size
  total_eq : page.total = items.length
  /-- The window is a contiguous part of the list. -/
  data_eq : page.data = (items.drop offset.toNat).take size.toNat
  length_eq : page.data.length = min size.toNat (items.length - offset.toNat)
  empty_of_past : items.length ≤ offset.toNat → page.data = []
  /-- Counted in words, the place of an item in the list is still the sum of the offset and
  its place in the window. -/
  word_eq : ∀ i < page.data.length,
    (offset + UInt64.ofNat i).toNat = offset.toNat + i ∧
      page.data[i]? = items[(offset + UInt64.ofNat i).toNat]?

theorem window_shows {items : List α} (hfits : items.length < UInt64.size)
    (offset size : UInt64) : Shows items offset size (window items offset size) where
  offset_eq := rfl
  size_eq := rfl
  total_eq := rfl
  data_eq := data_window items offset size
  length_eq := by rw [data_window, List.length_take, List.length_drop]
  empty_of_past := data_window_of_length_le
  word_eq i hi := by
    rw [data_window, List.length_take, List.length_drop] at hi
    have hword : (offset + UInt64.ofNat i).toNat = offset.toNat + i := by
      have hsize : UInt64.size = 2 ^ 64 := rfl
      rw [UInt64.toNat_add, UInt64.toNat_ofNat', Nat.mod_eq_of_lt (a := i) (by omega)]
      exact Nat.mod_eq_of_lt (by omega)
    refine ⟨hword, ?_⟩
    rw [hword, data_window, List.getElem?_take_of_lt (by omega), List.getElem?_drop]

end Page

namespace Discovery

/-- Asked for a service in `w`, the source answers with `xs`. -/
def Lists (host : Host κ) (service : String) (xs : List Instance) (d : Discovery)
    (w : World κ) : Prop :=
  w.result (d.instances host service).run = .ok xs

/-- Sources that are asked one after the other, each in the world that the one before it has
left, answer with these lists. -/
inductive ListInTurn (host : Host κ) (service : String) :
    List Discovery → List (List Instance) → World κ → Prop
  | nil (w : World κ) : ListInTurn host service [] [] w
  | cons {d : Discovery} {rest : List Discovery} {xs : List Instance}
      {lists : List (List Instance)} {w : World κ} (first : d.Lists host service xs w)
      (others : ListInTurn host service rest lists (w.after (d.instances host service).run)) :
      ListInTurn host service (d :: rest) (xs :: lists) w

/-- What a composite lists is what its sources list, one behind the other. -/
theorem lists_composite_iff (host : Host κ) (service : String) (id : Ref .composite)
    (sources : List Discovery) (xs : List Instance) (w : World κ) :
    (composite id sources).Lists host service xs w ↔
      ∃ lists, ListInTurn host service sources lists w ∧ xs = lists.flatten := by
  show w.result (instancesOfAll host service sources).run = .ok xs ↔ _
  induction sources generalizing w xs with
  | nil =>
    constructor
    · intro h
      cases h
      exact ⟨[], .nil w, rfl⟩
    · rintro ⟨lists, hturn, rfl⟩
      cases hturn
      rfl
  | cons d rest ih =>
    rw [instancesOfAll]
    constructor
    · intro h
      cases hfirst : w.result (d.instances host service).run with
      | error cause =>
        rw [World.result_bind_of_error hfirst] at h
        cases h
      | ok first =>
        rw [World.result_bind_of_ok hfirst] at h
        cases hrest : (w.after (d.instances host service).run).result
            (instancesOfAll host service rest).run with
        | error cause =>
          rw [World.result_bind_of_error hrest] at h
          cases h
        | ok others =>
          rw [World.result_bind_of_ok hrest] at h
          cases h
          obtain ⟨lists, hturn, rfl⟩ := (ih others _).1 hrest
          exact ⟨first :: lists, .cons hfirst hturn, rfl⟩
    · rintro ⟨lists, hturn, rfl⟩
      cases hturn with
      | cons first others =>
        rw [World.result_bind_of_ok first,
          World.result_bind_of_ok ((ih _ _).2 ⟨_, others, rfl⟩)]
        rfl

/-- A page is cut out of the list that the source answers with; a failure is passed on. -/
theorem result_page (host : Host κ) (d : Discovery) (service : String) (offset size : UInt64)
    (healthyOnly : Bool) (w : World κ) :
    w.result (d.page host service offset size healthyOnly).run =
      (w.result (d.instances host service).run).map fun xs =>
        (Page.window xs offset size).retain fun x => !healthyOnly || x.healthy := by
  have hall : ∀ page : Page Instance, page.retain (fun _ => true) = page := by
    intro page
    simp [Page.retain]
  rw [page, World.result_bind_except]
  cases w.result (d.instances host service).run with
  | error cause => rfl
  | ok xs =>
    cases healthyOnly with
    | false => exact congrArg Except.ok (hall _).symm
    | true => rfl

/-- Where every page is asked for while the source lists `xs`, the pages that begin at the
multiples of their size hold `xs`, or its healthy members; nothing is lost and nothing comes
twice.  Each page, at whatever offset and of whatever size, is the window of `xs` that was
asked for, with the unhealthy instances dropped afterwards.  The length of a list in memory is
itself a word. -/
theorem pages_of_lists (host : Host κ) (d : Discovery) (service : String) {xs : List Instance}
    (hfits : xs.length < UInt64.size) :
    (∀ (size : UInt64) (healthyOnly : Bool) (moment : Nat → World κ), 0 < size →
      (∀ start ∈ Page.starts xs.length size.toNat, d.Lists host service xs (moment start)) →
      ∃ pages : List (Page Instance),
        pages.map (fun page => page.offset.toNat) = Page.starts xs.length size.toNat ∧
        (∀ page ∈ pages, (moment page.offset.toNat).result
          (d.page host service page.offset size healthyOnly).run = .ok page) ∧
        pages.flatMap Page.data = if healthyOnly then xs.filter Instance.healthy else xs) ∧
    ∀ (w : World κ) (offset size : UInt64), d.Lists host service xs w →
      ∃ page : Page Instance,
        w.result (d.page host service offset size false).run = .ok page ∧
        w.result (d.page host service offset size true).run =
          .ok { page with data := page.data.filter Instance.healthy } ∧
        Page.Shows xs offset size page := by
  constructor
  · intro size healthyOnly moment hsize hlists
    have hpos : 0 < size.toNat := UInt64.lt_iff_toNat_lt.1 hsize
    let keep (x : Instance) : Bool := !healthyOnly || x.healthy
    refine ⟨(Page.starts xs.length size.toNat).map fun start =>
      (Page.window xs (UInt64.ofNat start) size).retain keep, ?_, ?_, ?_⟩
    · rw [List.map_map]
      exact (List.map_congr_left fun start => Page.toNat_start hpos hfits).trans (List.map_id _)
    · intro page hpage
      obtain ⟨start, hstart, rfl⟩ := List.mem_map.1 hpage
      have hword := Page.toNat_start hpos hfits hstart
      show (moment (UInt64.ofNat start).toNat).result
        (d.page host service (UInt64.ofNat start) size healthyOnly).run = _
      rw [hword, result_page, hlists start hstart]
      rfl
    · rw [Page.flatMap_retain_window hfits keep hpos]
      cases healthyOnly with
      | false => exact List.filter_true xs
      | true => rfl
  · intro w offset size hlists
    refine ⟨Page.window xs offset size, ?_, ?_, Page.window_shows hfits offset size⟩
    · rw [result_page, hlists]
      simp [Page.retain, Except.map]
    · rw [result_page, hlists]
      rfl

/-! ## Two sources, read in pages of two -/

section Reading

def east : List Instance :=
  [.ofAddress "svc" "e" 1, (Instance.ofAddress "svc" "e" 2).withHealthy false]

def west : List Instance := [.ofAddress "svc" "w" 1, .ofAddress "svc" "w" 2]

def bothSides : Discovery := composite ⟨2⟩ [memory ⟨0⟩, memory ⟨1⟩]

/-- Each side has its instances; an instance of another service may have come since. -/
def stocked (others : List Instance) : World Unit :=
  let table (xs : List Instance) := (InstanceTable.empty.put "svc" xs).put "other" others
  let w := (World.initial ()).setMemory ⟨0⟩ ⟨"east", ⟨0⟩, table east⟩
  w.setMemory ⟨1⟩ ⟨"west", ⟨0⟩, table west⟩

theorem bothSides_lists (others : List Instance) :
    bothSides.Lists Host.quiet "svc" (east ++ west) (stocked others) :=
  (lists_composite_iff _ _ _ _ _ _).2 ⟨[east, west], .cons rfl (.cons rfl (.nil _)), rfl⟩

/-- Two pages hold the healthy instances of both sides, although another service has changed
between them.  A page that begins at the last instance ends there, and the largest offset shows
nothing. -/
theorem pages_of_bothSides :
    (east ++ west).length < UInt64.size ∧
      (∀ start, bothSides.Lists Host.quiet "svc" (east ++ west)
        (stocked (List.replicate start (.ofAddress "other" "o" 1)))) ∧
      (∃ pages : List (Page Instance),
        pages.map (fun page => page.offset.toNat) = [0, 2] ∧
        pages.flatMap Page.data =
          [.ofAddress "svc" "e" 1, .ofAddress "svc" "w" 1, .ofAddress "svc" "w" 2]) ∧
      (∃ page : Page Instance, page.data = [.ofAddress "svc" "w" 2] ∧
        (stocked []).result (bothSides.page Host.quiet "svc" 3 2 false).run = .ok page) ∧
      ∃ page : Page Instance, page.data = [] ∧ page.total = 4 ∧
        (stocked []).result (bothSides.page Host.quiet "svc" (0 - 1) (0 - 1) false).run =
          .ok page := by
  have hfits : (east ++ west).length < UInt64.size := by decide
  have hlists := fun start : Nat =>
    bothSides_lists (List.replicate start (.ofAddress "other" "o" 1))
  obtain ⟨hall, hone⟩ := pages_of_lists Host.quiet bothSides "svc" hfits
  refine ⟨hfits, hlists, ?_, ?_, ?_⟩
  · obtain ⟨pages, hoffsets, -, hdata⟩ := hall 2 true _ (by decide) fun start _ => hlists start
    exact ⟨pages, hoffsets, hdata⟩
  · obtain ⟨page, hpage, -, hshows⟩ := hone (stocked []) 3 2 (bothSides_lists [])
    exact ⟨page, hshows.data_eq, hpage⟩
  · obtain ⟨page, hpage, -, hshows⟩ := hone (stocked []) (0 - 1) (0 - 1) (bothSides_lists [])
    exact ⟨page, hshows.empty_of_past (by decide), hshows.total_eq, hpage⟩

end Reading

end Discovery

end ServiceDirectory
