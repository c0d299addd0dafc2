import SealedExchange.Binary.Format
import SealedExchange.Proofs.Success
import SealedExchange.Proofs.Text.Utf8

/-! # Reading undoes writing

Each way of making a layout keeps the law that what was written is read back, whatever follows it.
Writing fails only where a length or a number does not fit.
-/

namespace SealedExchange.Binary.Format

variable {α β : Type}

theorem take_append (bytes rest : Bytes) :
    take bytes.length (bytes ++ rest) = .ok (bytes, rest) := by
  simp [take]

theorem lawful_byte : byte.Lawful := by
  intro b bytes rest hwrite
  cases hwrite
  rfl

theorem lawful_natural (width : Nat) : (natural width).Lawful := by
  intro n bytes rest hwrite
  simp only [natural] at hwrite
  split at hwrite
  next hlt =>
    cases hwrite
    have htake := take_append (Bytes.ofNatLE width n) rest
    rw [Bytes.length_ofNatLE] at htake
    change (take width (Bytes.ofNatLE width n ++ rest)).map _ = _
    simp only [htake, map_ok, Bytes.toNatLE_ofNatLE, Nat.mod_eq_of_lt hlt]
  next => cases hwrite

theorem lawful_map {f : Format α} (hf : f.Lawful) {of : α → β} {back : β → α}
    (hback : ∀ b, of (back b) = b) : (f.map of back).Lawful := by
  intro b bytes rest hwrite
  change (f.read (bytes ++ rest)).map _ = _
  simp only [hf (back b) bytes rest hwrite, map_ok, hback]

theorem lawful_pair {f : Format α} {g : Format β} (hf : f.Lawful) (hg : g.Lawful) :
    (f.pair g).Lawful := by
  rintro ⟨a, b⟩ bytes rest hwrite
  obtain ⟨first, hfirst, hwrite⟩ := bind_eq_ok_iff.mp hwrite
  obtain ⟨second, hsecond, hwrite⟩ := bind_eq_ok_iff.mp hwrite
  cases hwrite
  change (f.read (first ++ second ++ rest) >>= _) = _
  rw [List.append_assoc, hf a first (second ++ rest) hfirst, ok_bind]
  change (g.read (second ++ rest) >>= _) = _
  rw [hg b second rest hsecond]
  rfl

theorem readMany_writeAll {f : Format α} (hf : f.Lawful) {as : List α} {bytes : Bytes}
    (hwrite : writeAll f as = .ok bytes) (rest : Bytes) :
    readMany f as.length (bytes ++ rest) = .ok (as, rest) := by
  induction as generalizing bytes with
  | nil =>
    cases hwrite
    rfl
  | cons a as ih =>
    obtain ⟨first, hfirst, hwrite⟩ := bind_eq_ok_iff.mp hwrite
    obtain ⟨more, hmore, hwrite⟩ := bind_eq_ok_iff.mp hwrite
    cases hwrite
    change (f.read (first ++ more ++ rest) >>= _) = _
    rw [List.append_assoc, hf a first (more ++ rest) hfirst, ok_bind]
    change (readMany f as.length (more ++ rest) >>= _) = _
    rw [ih hmore]
    rfl

theorem lawful_list {f : Format α} (hf : f.Lawful) : (list f).Lawful := by
  intro as bytes rest hwrite
  obtain ⟨count, hcount, hwrite⟩ := bind_eq_ok_iff.mp hwrite
  obtain ⟨elements, helements, hwrite⟩ := bind_eq_ok_iff.mp hwrite
  cases hwrite
  change ((natural 8).read (count ++ elements ++ rest) >>= _) = _
  rw [List.append_assoc, lawful_natural 8 as.length count (elements ++ rest) hcount, ok_bind]
  exact readMany_writeAll hf helements rest

theorem lawful_bytes : bytes.Lawful := lawful_list lawful_byte

theorem lawful_exactly (n : Nat) : (exactly n).Lawful := by
  rintro ⟨b, hlength⟩ bytes rest hwrite
  cases hwrite
  subst hlength
  simp [exactly]

theorem lawful_option {f : Format α} (hf : f.Lawful) : (option f).Lawful := by
  intro a bytes rest hwrite
  cases a with
  | none =>
    cases hwrite
    rfl
  | some a =>
    obtain ⟨value, hvalue, hwrite⟩ := bind_eq_ok_iff.mp hwrite
    cases hwrite
    change (f.read (value ++ rest)).map _ = _
    rw [hf a value rest hvalue, map_ok]

theorem lawful_alternative [DecidableEq α] (all : List α) : (alternative all).Lawful := by
  intro a bytes rest hwrite
  simp only [alternative] at hwrite
  split at hwrite
  next i hindex =>
    have hread := lawful_natural 4 i bytes rest hwrite
    have hget : all[i]? = some a := by
      rw [List.idxOf?, List.findIdx?_eq_some_iff_getElem] at hindex
      obtain ⟨hlt, heq, _⟩ := hindex
      rw [List.getElem?_eq_getElem hlt, eq_of_beq heq]
    simp only [alternative]
    rw [hread, ok_bind]
    simp only [hget]
  next => cases hwrite

theorem lawful_signed : signed.Lawful := by
  intro n bytes rest hwrite
  cases hwrite
  have htake := take_append (Bytes.ofNatLE 8 n.toUInt64.toNat) rest
  rw [Bytes.length_ofNatLE] at htake
  have hlt : n.toUInt64.toNat < Bytes.count 8 := n.toUInt64.toNat_lt
  simp only [signed, htake, map_ok, Bytes.toNatLE_ofNatLE, Nat.mod_eq_of_lt hlt,
    UInt64.ofNat_toNat, Int64.toInt64_toUInt64]

theorem lawful_text : text.Lawful := by
  intro s bytes rest hwrite
  obtain ⟨count, hcount, hwrite⟩ := bind_eq_ok_iff.mp hwrite
  cases hwrite
  change ((natural 8).read (count ++ Text.Utf8.encode s ++ rest) >>= _) = _
  rw [List.append_assoc, lawful_natural 8 _ count (Text.Utf8.encode s ++ rest) hcount, ok_bind]
  simp only [take_append, mapError_ok, ok_bind, Text.Utf8.decode_encode]

theorem decode_of_write {f : Format α} (hf : f.Lawful) {a : α} {bytes : Bytes}
    (hwrite : f.write a = .ok bytes) : f.decode bytes = .ok a := by
  have hread := hf a bytes [] hwrite
  rw [List.append_nil] at hread
  rw [decode, hread, map_ok]

/-! ## Values that can be written -/

/-- A value has a layout. -/
def Writes (f : Format α) (a : α) : Prop := ∃ bytes, f.write a = .ok bytes

theorem writes_natural {width n : Nat} (hfits : n < Bytes.count width) :
    (natural width).Writes n :=
  ⟨_, if_pos hfits⟩

theorem writes_map {f : Format α} {of : α → β} {back : β → α} {b : β} (hb : f.Writes (back b)) :
    (f.map of back).Writes b :=
  hb

theorem writes_pair {f : Format α} {g : Format β} {a : α} {b : β} (ha : f.Writes a)
    (hb : g.Writes b) : (f.pair g).Writes (a, b) := by
  obtain ⟨first, hfirst⟩ := ha
  obtain ⟨second, hsecond⟩ := hb
  exact ⟨first ++ second, bind_eq_ok_iff.mpr
    ⟨first, hfirst, bind_eq_ok_iff.mpr ⟨second, hsecond, rfl⟩⟩⟩

theorem exists_writeAll {f : Format α} {as : List α} (hall : ∀ a ∈ as, f.Writes a) :
    ∃ bytes, writeAll f as = .ok bytes := by
  induction as with
  | nil => exact ⟨[], rfl⟩
  | cons a as ih =>
    obtain ⟨first, hfirst⟩ := hall a List.mem_cons_self
    obtain ⟨more, hmore⟩ := ih fun b hb => hall b (.tail _ hb)
    exact ⟨first ++ more, bind_eq_ok_iff.mpr
      ⟨first, hfirst, bind_eq_ok_iff.mpr ⟨more, hmore, rfl⟩⟩⟩

theorem writes_list {f : Format α} {as : List α} (hlength : as.length < Bytes.count 8)
    (hall : ∀ a ∈ as, f.Writes a) : (list f).Writes as := by
  obtain ⟨count, hcount⟩ := writes_natural hlength
  obtain ⟨elements, helements⟩ := exists_writeAll hall
  exact ⟨count ++ elements, bind_eq_ok_iff.mpr
    ⟨count, hcount, bind_eq_ok_iff.mpr ⟨elements, helements, rfl⟩⟩⟩

theorem writes_bytes {bs : Bytes} (hlength : bs.length < Bytes.count 8) : bytes.Writes bs :=
  writes_list hlength fun b _ => ⟨[b], rfl⟩

theorem writes_option {f : Format α} {a : Option α} (ha : ∀ b, a = some b → f.Writes b) :
    (option f).Writes a := by
  cases a with
  | none => exact ⟨[0], rfl⟩
  | some b =>
    obtain ⟨bytes, hbytes⟩ := ha b rfl
    exact ⟨1 :: bytes, bind_eq_ok_iff.mpr ⟨bytes, hbytes, rfl⟩⟩

theorem writes_text {s : String} (hlength : (Text.Utf8.encode s).length < Bytes.count 8) :
    text.Writes s := by
  obtain ⟨count, hcount⟩ := writes_natural hlength
  exact ⟨count ++ Text.Utf8.encode s, bind_eq_ok_iff.mpr ⟨count, hcount, rfl⟩⟩

theorem writes_signed (n : Int64) : signed.Writes n := ⟨_, rfl⟩

/-! ## What a layout can say -/

theorem writes_natural_iff {width n : Nat} :
    (natural width).Writes n ↔ n < Bytes.count width := by
  refine ⟨?_, writes_natural⟩
  rintro ⟨bytes, hwrite⟩
  simp only [natural] at hwrite
  split at hwrite
  next hlt => exact hlt
  next => cases hwrite

theorem writes_pair_iff {f : Format α} {g : Format β} {a : α} {b : β} :
    (f.pair g).Writes (a, b) ↔ f.Writes a ∧ g.Writes b := by
  refine ⟨?_, fun h => writes_pair h.1 h.2⟩
  rintro ⟨bytes, hwrite⟩
  obtain ⟨first, hfirst, hwrite⟩ := bind_eq_ok_iff.mp hwrite
  obtain ⟨second, hsecond, _⟩ := bind_eq_ok_iff.mp hwrite
  exact ⟨⟨first, hfirst⟩, ⟨second, hsecond⟩⟩

theorem writes_of_writeAll {f : Format α} {as : List α} {bytes : Bytes}
    (hwrite : writeAll f as = .ok bytes) : ∀ a ∈ as, f.Writes a := by
  induction as generalizing bytes with
  | nil => exact fun _ hmem => absurd hmem List.not_mem_nil
  | cons a as ih =>
    obtain ⟨first, hfirst, hwrite⟩ := bind_eq_ok_iff.mp hwrite
    obtain ⟨more, hmore, _⟩ := bind_eq_ok_iff.mp hwrite
    exact List.forall_mem_cons.mpr ⟨⟨first, hfirst⟩, ih hmore⟩

theorem writes_list_iff {f : Format α} {as : List α} :
    (list f).Writes as ↔ as.length < Bytes.count 8 ∧ ∀ a ∈ as, f.Writes a := by
  refine ⟨?_, fun h => writes_list h.1 h.2⟩
  rintro ⟨bytes, hwrite⟩
  obtain ⟨count, hcount, hwrite⟩ := bind_eq_ok_iff.mp hwrite
  obtain ⟨elements, helements, _⟩ := bind_eq_ok_iff.mp hwrite
  exact ⟨writes_natural_iff.mp ⟨count, hcount⟩, writes_of_writeAll helements⟩

theorem writes_bytes_iff {bs : Bytes} : bytes.Writes bs ↔ bs.length < Bytes.count 8 :=
  ⟨fun h => (writes_list_iff.mp h).1, writes_bytes⟩

theorem writes_option_iff {f : Format α} {a : Option α} :
    (option f).Writes a ↔ ∀ b, a = some b → f.Writes b := by
  refine ⟨?_, writes_option⟩
  rintro ⟨bytes, hwrite⟩ b rfl
  obtain ⟨value, hvalue, _⟩ := bind_eq_ok_iff.mp hwrite
  exact ⟨value, hvalue⟩

/-! ## Values that were read -/

/-- Every value that is read can be written, though perhaps not as the bytes it was read from. -/
def Rewritable (f : Format α) : Prop :=
  ∀ input a rest, f.read input = .ok (a, rest) → f.Writes a

theorem rewritable_byte : byte.Rewritable := fun _ b _ _ => ⟨[b], rfl⟩

theorem toNatLE_lt (bytes : Bytes) : bytes.toNatLE < Bytes.count bytes.length := by
  induction bytes with
  | nil => simp [Bytes.toNatLE, Bytes.count_zero]
  | cons b rest ih =>
    have hbyte := b.toNat_lt
    rw [Bytes.toNatLE, List.length_cons, Bytes.count_succ]
    omega

theorem rewritable_natural (width : Nat) : (natural width).Rewritable := by
  intro input n rest hread
  obtain ⟨⟨bytes, after⟩, htake, heq⟩ := map_eq_ok_iff.mp hread
  cases heq
  rw [take] at htake
  split at htake
  next hle =>
    cases htake
    have hlt := toNatLE_lt (input.take width)
    rw [List.length_take_of_le hle] at hlt
    exact writes_natural hlt
  next => cases htake

/-- A change of type keeps the law where the values it gives come from values that can be
written. -/
theorem rewritable_map {f : Format α} (hf : f.Rewritable) {of : α → β} {back : β → α}
    (hback : ∀ a, f.Writes a → f.Writes (back (of a))) : (f.map of back).Rewritable := by
  intro input b rest hread
  obtain ⟨⟨a, after⟩, hread, heq⟩ := map_eq_ok_iff.mp hread
  cases heq
  exact writes_map (hback a (hf input a rest hread))

theorem rewritable_pair {f : Format α} {g : Format β} (hf : f.Rewritable) (hg : g.Rewritable) :
    (f.pair g).Rewritable := by
  rintro input ⟨a, b⟩ rest hread
  obtain ⟨⟨a', middle⟩, hfirst, hread⟩ := bind_eq_ok_iff.mp hread
  obtain ⟨⟨b', after⟩, hsecond, heq⟩ := bind_eq_ok_iff.mp hread
  cases heq
  exact writes_pair (hf input a middle hfirst) (hg middle b rest hsecond)

theorem length_of_readMany {f : Format α} {n : Nat} {input rest : Bytes} {as : List α}
    (hread : readMany f n input = .ok (as, rest)) : as.length = n := by
  induction n generalizing input as with
  | zero =>
    cases hread
    rfl
  | succ n ih =>
    obtain ⟨⟨a, middle⟩, _, hread⟩ := bind_eq_ok_iff.mp hread
    obtain ⟨⟨more, after⟩, hmore, heq⟩ := bind_eq_ok_iff.mp hread
    cases heq
    rw [List.length_cons, ih hmore]

theorem writes_of_readMany {f : Format α} (hf : f.Rewritable) {n : Nat} {input rest : Bytes}
    {as : List α} (hread : readMany f n input = .ok (as, rest)) : ∀ a ∈ as, f.Writes a := by
  induction n generalizing input as with
  | zero =>
    cases hread
    exact fun _ hmem => absurd hmem List.not_mem_nil
  | succ n ih =>
    obtain ⟨⟨a, middle⟩, hfirst, hread⟩ := bind_eq_ok_iff.mp hread
    obtain ⟨⟨more, after⟩, hmore, heq⟩ := bind_eq_ok_iff.mp hread
    cases heq
    exact List.forall_mem_cons.mpr ⟨hf input a middle hfirst, ih hmore⟩

theorem rewritable_list {f : Format α} (hf : f.Rewritable) : (list f).Rewritable := by
  intro input as rest hread
  obtain ⟨⟨count, middle⟩, hcount, hread⟩ := bind_eq_ok_iff.mp hread
  have hlength := length_of_readMany hread
  have hfits := writes_natural_iff.mp (rewritable_natural 8 input count middle hcount)
  exact writes_list (hlength ▸ hfits) (writes_of_readMany hf hread)

theorem rewritable_bytes : bytes.Rewritable := rewritable_list rewritable_byte

theorem rewritable_exactly (n : Nat) : (exactly n).Rewritable := fun _ b _ _ => ⟨b.1, rfl⟩

theorem rewritable_option {f : Format α} (hf : f.Rewritable) : (option f).Rewritable := by
  intro input a rest hread
  refine writes_option fun b hb => ?_
  subst hb
  cases input with
  | nil => cases hread
  | cons tag input =>
    simp only [option] at hread
    split at hread
    · cases hread
    · split at hread
      · obtain ⟨⟨b', after⟩, hvalue, heq⟩ := map_eq_ok_iff.mp hread
        cases heq
        exact hf input b' after hvalue
      · cases hread

end SealedExchange.Binary.Format
