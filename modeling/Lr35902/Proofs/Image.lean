import Lr35902.Cartridge
import Lr35902.Cpu.Basic
import Lr35902.Proofs.MemoryDump

/-!
# Images in memory

Bytes copied to an address lie from there on, up to the end of memory, and nowhere else
(`read_fill`); two stretches of bytes that follow one another may be copied in turn
(`fill_append`). Loading clears memory first, so what was in it does not matter. A cartridge can be
any list of bytes that is not empty and fits into memory (`loading_places_bytes`).
-/

namespace Lr35902

namespace Memory

theorem fill_of_le (m : Memory) {start : Nat} (h : 65536 ≤ start) (bytes : List UInt8) :
    m.fill start bytes = m := by
  cases bytes with
  | nil => rfl
  | cons b bs => rw [fill, dif_neg (Nat.not_lt.mpr h)]

theorem fill_cons (m : Memory) {start : Nat} (h : start < 65536) (b : UInt8) (bs : List UInt8) :
    m.fill start (b :: bs) = (m.write (UInt16.ofNat start) b).fill (start + 1) bs := by
  have hstart : (UInt16.ofNat start).toNat = start := UInt16.toNat_ofNat_of_lt' h
  rw [fill, dif_pos h]
  simp only [write, hstart]

/-- A byte after copying: one of those copied, or the old one if none of them came to its
address. -/
theorem read_fill (m : Memory) (start : Nat) (bytes : List UInt8) (a : UInt16) :
    (m.fill start bytes).read a =
      if start ≤ a.toNat then bytes[a.toNat - start]?.getD (m.read a) else m.read a := by
  have ha := a.toNat_lt
  induction bytes generalizing m start with
  | nil => simp [fill]
  | cons b bs ih =>
    rcases Nat.lt_or_ge start 65536 with hlt | hge
    · have heq : UInt16.ofNat start = a ↔ start = a.toNat := by
        rw [← UInt16.toNat_inj, UInt16.toNat_ofNat_of_lt' hlt]
      rw [fill_cons m hlt, ih, read_write]
      simp only [heq]
      rcases Nat.lt_trichotomy start a.toNat with h | h | h
      · have hnext : a.toNat - start = a.toNat - (start + 1) + 1 := by omega
        rw [if_pos (Nat.succ_le_of_lt h), if_neg (Nat.ne_of_lt h), if_pos (Nat.le_of_lt h), hnext,
          List.getElem?_cons_succ]
      · subst h
        rw [if_neg (Nat.not_succ_le_self _), if_pos rfl, if_pos (Nat.le_refl _), Nat.sub_self,
          List.getElem?_cons_zero, Option.getD_some]
      · have hnext : ¬ start + 1 ≤ a.toNat := by omega
        rw [if_neg hnext, if_neg (Nat.ne_of_gt h), if_neg (Nat.not_le_of_gt h)]
    · -- Bytes past the end of memory are dropped; none comes to a low address.
      rw [fill_of_le m hge, if_neg (by omega)]

theorem fill_append (m : Memory) (start : Nat) (xs ys : List UInt8) :
    m.fill start (xs ++ ys) = (m.fill start xs).fill (start + xs.length) ys := by
  induction xs generalizing m start with
  | nil => rfl
  | cons x xs ih =>
    have hlength : start + (x :: xs).length = start + 1 + xs.length := by
      rw [List.length_cons]
      omega
    rcases Nat.lt_or_ge start 65536 with hlt | hge
    · rw [List.cons_append, fill_cons m hlt, fill_cons m hlt, ih, hlength]
    · rw [fill_of_le m hge, fill_of_le m hge, fill_of_le m (by omega)]

@[simp] theorem read_clear (m : Memory) (a : UInt16) : m.clear.read a = 0 := by
  simp [read, clear]

theorem clear_eq_blank (m : Memory) : m.clear = blank :=
  ext_read fun a => by rw [read_clear, read_blank]

theorem load_eq_ofImage (m : Memory) (bytes : List UInt8) : m.load bytes = ofImage bytes := by
  rw [load, clear_eq_blank, ofImage]

theorem read_loadAt (m : Memory) (start : UInt16) (bytes : List UInt8) (a : UInt16) :
    (m.loadAt start bytes).read a =
      if h : start.toNat ≤ a.toNat ∧ a.toNat < start.toNat + bytes.length then
        bytes[a.toNat - start.toNat]
      else m.read a := by
  rw [loadAt, read_fill]
  split_ifs with hle h h
  · rw [List.getElem?_eq_getElem (by omega), Option.getD_some]
  · rw [List.getElem?_eq_none (by omega), Option.getD_none]
  · exact absurd h.1 hle
  · rfl

theorem read_load (m : Memory) (bytes : List UInt8) (a : UInt16) :
    (m.load bytes).read a = if h : a.toNat < bytes.length then bytes[a.toNat] else 0 := by
  rw [load, read_fill, if_pos (Nat.zero_le _), Nat.sub_zero, read_clear]
  split_ifs with h
  · rw [List.getElem?_eq_getElem h, Option.getD_some]
  · rw [List.getElem?_eq_none (Nat.not_lt.mp h), Option.getD_none]

theorem loadAt_append (m : Memory) (start : UInt16) (xs ys : List UInt8)
    (h : start.toNat + xs.length ≤ 0xFFFF) :
    m.loadAt start (xs ++ ys) =
      (m.loadAt start xs).loadAt (start + UInt16.ofNat xs.length) ys := by
  have hnext : (start + UInt16.ofNat xs.length).toNat = start.toNat + xs.length := by
    rw [UInt16.toNat_add, UInt16.toNat_ofNat']
    omega
  rw [loadAt, loadAt, loadAt, hnext, fill_append]

end Memory

namespace Cartridge

theorem ofBytes_eq_empty_iff {bytes : List UInt8} :
    ofBytes bytes = .error .empty ↔ bytes.length = 0 := by
  unfold ofBytes
  split_ifs with hnil hle
  · simp [hnil]
  · simp [hnil]
  · simp [hnil]

theorem ofBytes_eq_tooLarge_iff {bytes : List UInt8} {n : Nat} :
    ofBytes bytes = .error (.tooLarge n) ↔ n = bytes.length ∧ 65536 < bytes.length := by
  unfold ofBytes
  split_ifs with hnil hle
  · simp [hnil]
  · simp [hle]
  · simp [Nat.not_le.mp hle, eq_comm]

theorem bytes_of_ofBytes {bytes : List UInt8} {c : Cartridge} (h : ofBytes bytes = .ok c) :
    c.bytes = bytes := by
  unfold ofBytes at h
  split_ifs at h
  cases h
  rfl

theorem exists_ofBytes_iff {bytes : List UInt8} :
    (∃ c, ofBytes bytes = .ok c) ↔ 1 ≤ bytes.length ∧ bytes.length ≤ 65536 := by
  constructor
  · rintro ⟨c, h⟩
    obtain rfl := bytes_of_ofBytes h
    exact ⟨List.length_pos_iff.mpr c.bytes_ne_nil, c.length_le⟩
  · rintro ⟨hpos, hle⟩
    refine ⟨⟨bytes, List.length_pos_iff.mp hpos, hle⟩, ?_⟩
    unfold ofBytes
    rw [dif_neg (List.length_pos_iff.mp hpos), dif_pos hle]

/-- Loading an image leaves its bytes from address 0 up and zeros behind them, whatever was in
memory. Copying bytes to an address changes the cells from there on, as many as there are bytes and
cells, and no others, and two stretches of bytes may be copied one after the other. The lists of one
to 65536 bytes are the cartridges, any other is refused for what is wrong with it, and a cartridge
loaded into memory is the image of its bytes. -/
theorem loading_places_bytes (m : Memory) :
    (∀ (image : List UInt8) (a : UInt16), (m.load image).read a =
      if h : a.toNat < image.length then image[a.toNat] else 0) ∧
    (∀ (m' : Memory) (image : List UInt8), m.load image = m'.load image) ∧
    (∀ (start : UInt16) (data : List UInt8) (a : UInt16), (m.loadAt start data).read a =
      if h : start.toNat ≤ a.toNat ∧ a.toNat < start.toNat + data.length then
        data[a.toNat - start.toNat]
      else m.read a) ∧
    (∀ (start : UInt16) (xs ys : List UInt8), start.toNat + xs.length ≤ 0xFFFF →
      m.loadAt start (xs ++ ys) =
        (m.loadAt start xs).loadAt (start + UInt16.ofNat xs.length) ys) ∧
    ∀ bytes : List UInt8,
      ((∃ c, ofBytes bytes = .ok c) ↔ 1 ≤ bytes.length ∧ bytes.length ≤ 65536) ∧
      (ofBytes bytes = .error .empty ↔ bytes.length = 0) ∧
      (∀ n, ofBytes bytes = .error (.tooLarge n) ↔ n = bytes.length ∧ 65536 < bytes.length) ∧
      ∀ c, ofBytes bytes = .ok c → c.bytes = bytes ∧ c.loadInto m = (Cpu.ofImage bytes).mem := by
  refine ⟨m.read_load, fun m' image => ?_, m.read_loadAt, m.loadAt_append, fun bytes => ?_⟩
  · rw [Memory.load_eq_ofImage, Memory.load_eq_ofImage]
  · refine ⟨exists_ofBytes_iff, ofBytes_eq_empty_iff, fun n => ofBytes_eq_tooLarge_iff,
      fun c hc => ⟨bytes_of_ofBytes hc, ?_⟩⟩
    rw [loadInto, Memory.load_eq_ofImage, bytes_of_ofBytes hc]
    rfl

/-- Bytes copied to the last two cells in two goes, the last one past the end; and the shortest
cartridge. -/
theorem loading_places_bytes_at_end :
    ((0xFFFE : UInt16).toNat + [1].length ≤ 0xFFFF ∧
      Memory.blank.loadAt 0xFFFE ([1] ++ [2, 3]) =
        (Memory.blank.loadAt 0xFFFE [1]).loadAt (0xFFFE + UInt16.ofNat [1].length) [2, 3]) ∧
    (ofBytes [0x76] = .ok ⟨[0x76], by decide, by decide⟩ ∧
      (⟨[0x76], by decide, by decide⟩ : Cartridge).loadInto .blank = (Cpu.ofImage [0x76]).mem) := by
  have hroom : (0xFFFE : UInt16).toNat + [(1 : UInt8)].length ≤ 0xFFFF := by decide
  have hok : ofBytes [0x76] = .ok ⟨[0x76], by decide, by decide⟩ := rfl
  obtain ⟨-, -, -, happend, haccept⟩ := loading_places_bytes .blank
  exact ⟨⟨hroom, happend 0xFFFE [1] [2, 3] hroom⟩, hok, ((haccept [0x76]).2.2.2 _ hok).2⟩

end Cartridge

end Lr35902
