/-!
# Windowed results

A `Page` is a window over a longer list together with the request it answers.
Offsets and sizes are 64-bit words; cutting a window adds neither, so no request
is too large.
-/

namespace ServiceDirectory

/-- A window of `size` items from `offset` on, out of `total` items. -/
structure Page (α : Type) where
  offset : UInt64
  size : UInt64
  total : Nat
  data : List α
deriving DecidableEq, Repr

namespace Page

variable {α : Type}

/-- Cuts the window out of `items`; it is empty when `offset` is at the end or past it. -/
def window (items : List α) (offset size : UInt64) : Page α where
  offset := offset
  size := size
  total := items.length
  data := if offset.toNat < items.length then (items.drop offset.toNat).take size.toNat else []

/-- Drops items from the window only; `total` still counts the whole list. -/
def retain (page : Page α) (keep : α → Bool) : Page α :=
  { page with data := page.data.filter keep }

def hasData (page : Page α) : Bool := !page.data.isEmpty

/-- A window past the end holds nothing. -/
theorem data_window_of_length_le {items : List α} {offset size : UInt64}
    (h : items.length ≤ offset.toNat) : (window items offset size).data = [] :=
  if_neg (Nat.not_lt.2 h)

/-- Past the end there is nothing to cut, so the window is cut in the same way everywhere. -/
theorem data_window (items : List α) (offset size : UInt64) :
    (window items offset size).data = (items.drop offset.toNat).take size.toNat := by
  by_cases h : offset.toNat < items.length
  · exact if_pos h
  · rw [data_window_of_length_le (Nat.not_lt.1 h), List.drop_eq_nil_of_le (Nat.not_lt.1 h),
      List.take_nil]

end Page

end ServiceDirectory
