import MySqlClient.Proofs.Wire.Forms
import MySqlClient.Proofs.Wire.Terminated

/-!
# Items one behind the other

A packet is a row of items, each of which tells where it ends: a length-encoded number by its lead
octet, a length-encoded string by the number in front of it, and any other string by the NUL behind
it.  So a reader that knows the kinds of the items finds them all, whatever follows.

* `Wire.Item`, `Wire.ItemKind`: items, with `Item.encode`, and their kinds, with `ItemKind.reader`;
  `Wire.readItems` reads one item after the other.
* `Wire.reads_items`: **items are read back in their order.**
* `Wire.eq_or_lenEncSize_lt`: among the forms of a number, the one that is written is the shortest.
* `Wire.Item.exists_encode_eq_cons`: no length-encoded item begins like a NULL or an error packet.
* `Wire.Item.exists_parse_eq_error`: a length-encoded item that is cut off is refused.
* `Wire.items_delimited`: the whole of it.
-/

namespace MySqlClient.Wire

/-! ## Items and their kinds -/

/-- A part of a packet that tells where it ends. -/
inductive Item where
  /-- A length-encoded number. -/
  | number (n : UInt64)
  /-- A string behind its length. -/
  | octets (content : Bytes)
  /-- A string before a NUL. -/
  | terminated (content : Bytes)
  deriving DecidableEq

/-- What a reader has to know of an item. -/
inductive ItemKind where
  | number
  | octets
  | terminated
  deriving DecidableEq

namespace Item

def kind : Item → ItemKind
  | number _ => .number
  | octets _ => .octets
  | terminated _ => .terminated

/-- The octets of an item. -/
def encode : Item → Bytes
  | number n => lenEncInt n
  | octets content => lenEncBytes content
  | terminated content => nulTerminated content

/-- The item can be written: the length of a string is a number, or the string has no NUL. -/
def Fits : Item → Prop
  | number _ => True
  | octets content => content.length < UInt64.size
  | terminated content => 0 ∉ content

instance : DecidablePred Fits
  | number _ => inferInstanceAs (Decidable True)
  | octets _ => inferInstanceAs (Decidable (_ < _))
  | terminated _ => inferInstanceAs (Decidable (_ ∉ _))

end Item

/-- Read an item of a kind.  Where SQL NULL stands instead of it, there is none. -/
def ItemKind.reader : ItemKind → Reader (Option Item)
  | number => do return (← Reader.lenEncInt).map Item.number
  | octets => do return (← Reader.lenEncBytes).map Item.octets
  | terminated => do return some (Item.terminated (← Reader.nulTerminated))

/-- Read items of given kinds. -/
def readItems : List ItemKind → Reader (List (Option Item))
  | [] => return []
  | kind :: kinds => do
    let item ← kind.reader
    let items ← readItems kinds
    return item :: items

/-! ## Reading back -/

theorem reads_item {item : Item} (h : item.Fits) :
    Reader.Reads item.kind.reader item.encode (some item) := by
  cases item with
  | number n => exact (Reader.reads_lenEncInt n).map fun found => found.map Item.number
  | octets content => exact (Reader.reads_lenEncBytes h).map fun found => found.map Item.octets
  | terminated content =>
    exact (Reader.reads_nulTerminated h).map fun found => some (Item.terminated found)

/-- **Items are read back in their order.** -/
theorem reads_items {items : List Item} (h : ∀ item ∈ items, item.Fits) :
    Reader.Reads (readItems (items.map Item.kind)) (items.flatMap Item.encode)
      (items.map some) := by
  induction items with
  | nil => exact Reader.Reads.pure []
  | cons item items ih =>
    obtain ⟨hitem, hitems⟩ := List.forall_mem_cons.mp h
    have hrest := (ih hitems).map fun found => some item :: found
    exact (reads_item hitem).bind _ hrest

/-! ## The shortest form -/

/-- A marked form is the one that is written, or a longer one. -/
theorem eq_or_lenEncSize_lt_of_marker {n : UInt64} {marker : UInt8} {digits : Bytes}
    (hmarker : IsMarker marker digits.length) (hn : n.toNat = digits.toNat) :
    marker :: digits = lenEncInt n ∨ lenEncSize n < (marker :: digits).length := by
  have hdigits := digits.ofNat_toNat
  have hlt := digits.toNat_lt
  unfold lenEncInt lenEncSize
  simp only [UInt64.lt_iff_toNat_lt, hn, UInt64.reduceToNat, List.length_cons]
  by_cases hone : digits.toNat < 251
  · simp only [hone, if_true]
    rcases hmarker with ⟨-, hwidth⟩ | ⟨-, hwidth⟩ | ⟨-, hwidth⟩ <;> omega
  by_cases htwo : digits.toNat < 65536
  · simp only [hone, htwo, if_true, if_false]
    rcases hmarker with ⟨rfl, hwidth⟩ | ⟨-, hwidth⟩ | ⟨-, hwidth⟩
    · rw [hwidth] at hdigits
      exact .inl (congrArg (0xFC :: ·) hdigits.symm)
    · omega
    · omega
  by_cases hthree : digits.toNat < 16777216
  · simp only [hone, htwo, hthree, if_true, if_false]
    rcases hmarker with ⟨-, hwidth⟩ | ⟨rfl, hwidth⟩ | ⟨-, hwidth⟩
    · rw [hwidth] at hlt
      exact absurd hlt htwo
    · rw [hwidth] at hdigits
      exact .inl (congrArg (0xFD :: ·) hdigits.symm)
    · omega
  · simp only [hone, htwo, hthree, if_false]
    rcases hmarker with ⟨-, hwidth⟩ | ⟨-, hwidth⟩ | ⟨rfl, hwidth⟩
    · rw [hwidth] at hlt
      exact absurd hlt htwo
    · rw [hwidth] at hlt
      exact absurd hlt hthree
    · rw [hwidth] at hdigits
      exact .inl (congrArg (0xFE :: ·) hdigits.symm)

/-- **Among the forms of a number, the one that is written is the shortest.** -/
theorem eq_or_lenEncSize_lt {n : UInt64} {form : Bytes} (h : IsLenEncInt n.toNat form) :
    form = lenEncInt n ∨ lenEncSize n < form.length := by
  generalize hn : n.toNat = value at h
  cases h with
  | @single lead hlead =>
    have hlt : n < 251 := by
      rw [UInt64.lt_iff_toNat_lt, hn]
      exact hlead
    left
    rw [lenEncInt, if_pos hlt, hn]
    exact congrArg (· :: []) UInt8.ofNat_toNat.symm
  | marked hmarker => exact eq_or_lenEncSize_lt_of_marker hmarker hn

/-- What a reader takes for a number is the form that is written, or a longer one. -/
theorem eq_or_lenEncSize_lt_of_read {n : UInt64} {form rest : Bytes}
    (h : Reader.lenEncInt (form ++ rest) = .ok (some n) rest) :
    form = lenEncInt n ∨ lenEncSize n < form.length := by
  obtain ⟨front, hfront, heq⟩ := (Reader.recognizes_lenEncInt _ _ _).mp h
  rw [List.append_cancel_right heq]
  exact eq_or_lenEncSize_lt hfront

/-! ## Where items begin, and where they are cut off -/

namespace Item

/-- **No length-encoded item begins like a NULL or an error packet.** -/
theorem exists_encode_eq_cons {item : Item} (h : item.kind ≠ .terminated) :
    ∃ lead rest, item.encode = lead :: rest ∧ lead ≠ 0xFB ∧ lead ≠ 0xFF := by
  cases item with
  | number n =>
    obtain ⟨lead, rest, heq, herr, hnull, -⟩ := exists_lenEncInt_eq_cons n
    exact ⟨lead, rest, heq, hnull, herr⟩
  | octets content =>
    obtain ⟨lead, rest, heq, herr, hnull, -⟩ :=
      exists_lenEncInt_eq_cons (UInt64.ofNat content.length)
    refine ⟨lead, rest ++ content, ?_, hnull, herr⟩
    rw [encode, lenEncBytes, heq, List.cons_append]
  | terminated content => exact absurd rfl h

/-- **A length-encoded item that is cut off is refused.** -/
theorem exists_parse_eq_error {item : Item} (h : item.kind ≠ .terminated) (hfits : item.Fits)
    {front more : Bytes} (hcut : item.encode = front ++ more) (hmore : more ≠ []) :
    ∃ error, item.kind.reader.parse front = .error error := by
  have hreads := reads_item hfits
  rw [hcut] at hreads
  cases item with
  | number n =>
    exact (Reader.recognizes_lenEncInt.map _).exists_parse_eq_error hreads hmore
  | octets content =>
    exact (Reader.recognizes_lenEncBytes.map _).exists_parse_eq_error hreads hmore
  | terminated content => exact absurd rfl h

end Item

/-- **Items delimit themselves.**  Written one behind the other, with anything behind them, they are
read back and nothing else is taken.  A number takes as many octets as were announced, which is less
than in any other of its forms.  No length-encoded item begins like a NULL or an error packet, and
none that is cut off is taken for anything. -/
theorem items_delimited {items : List Item} (h : ∀ item ∈ items, item.Fits) (rest : Bytes) :
    readItems (items.map Item.kind) (items.flatMap Item.encode ++ rest) =
        .ok (items.map some) rest ∧
      (∀ n, (lenEncInt n).length = lenEncSize n ∧
        ∀ form behind, Reader.lenEncInt (form ++ behind) = .ok (some n) behind →
          form = lenEncInt n ∨ lenEncSize n < form.length) ∧
      ∀ item ∈ items, item.kind ≠ .terminated →
        (∃ lead others, item.encode = lead :: others ∧ lead ≠ 0xFB ∧ lead ≠ 0xFF) ∧
        ∀ front more, item.encode = front ++ more → more ≠ [] →
          ∃ error, item.kind.reader.parse front = .error error := by
  refine ⟨reads_items h rest, fun n => ⟨length_lenEncInt n, ?_⟩, fun item hitem hkind => ?_⟩
  · intro form behind hread
    exact eq_or_lenEncSize_lt_of_read hread
  · refine ⟨Item.exists_encode_eq_cons hkind, fun front more hcut hmore => ?_⟩
    exact Item.exists_parse_eq_error hkind (h item hitem) hcut hmore

/-- Six items: numbers of one, three and four octets, a string, an empty one, and one before a
NUL. -/
def sixItems : List Item :=
  [.number 250, .number 251, .number 65536, .octets [0x00, 0xFB], .octets [], .terminated [0x41]]

theorem items_delimited_sixItems :
    readItems [.number, .number, .number, .octets, .octets, .terminated]
        [0xFA, 0xFC, 0xFB, 0x00, 0xFD, 0x00, 0x00, 0x01, 0x02, 0x00, 0xFB, 0x00, 0x41, 0x00, 0xFF] =
      .ok (sixItems.map some) [0xFF] ∧
    ∃ error, ItemKind.octets.reader.parse [0x02, 0x00] = .error error := by
  obtain ⟨hread, -, hitems⟩ := items_delimited (show ∀ item ∈ sixItems, item.Fits by decide) [0xFF]
  refine ⟨hread, ?_⟩
  have hitem : Item.octets [0x00, 0xFB] ∈ sixItems := by decide
  exact (hitems _ hitem (by decide)).2 [0x02, 0x00] [0xFB] rfl (by decide)

end MySqlClient.Wire
