import StreamWatch.Network.Block
import StreamWatch.Proofs.Network.Address

namespace StreamWatch.Network

/-!
# Blocks of addresses, bit by bit

An address is in a block exactly if it agrees with the base of the block in the first bits:

* `Block.covers_iff` — membership in a block, bit by bit;
* `IPv4.IsNetmask` — the mask whose first bits are set and no others;
* `maskLength?_number`, `maskLength?_netmask`, `maskLength?_hostmask` — the three ways to write how
  many bits count;
* `inBlockText_iff` — hence membership in a block that is given as a text, in each of these ways.
-/

open Text

/-- Does an address agree with the base of a block in the first bits?  The bits behind them do not
    count. -/
theorem Block.covers_iff {width : Nat} (block : Block width) (h : block.length ≤ width)
    (address : BitVec width) : block.covers address = true ↔
      ∀ i < block.length, address.getMsbD i = block.base.getMsbD i := by
  rw [covers, beq_iff_eq]
  constructor
  · -- The first bits are shifted to the end, where they are still the same.
    intro hsame i hi
    have hbit := congrArg (fun x => x.getMsbD (i + (width - block.length))) hsame
    have hin : i + (width - block.length) < width := by omega
    have hshifted : ¬ i + (width - block.length) < width - block.length := by omega
    simpa [BitVec.getMsbD_ushiftRight, hin, hshifted] using hbit
  · intro hagree
    apply BitVec.eq_of_getMsbD_eq
    intro i hi
    rw [BitVec.getMsbD_ushiftRight, BitVec.getMsbD_ushiftRight]
    by_cases hshifted : i < width - block.length
    · simp [hshifted]
    · rw [hagree (i - (width - block.length)) (by omega)]

/-! ### Masks -/

/-- Is an address the mask of a length: are its first bits set, and no others? -/
def IPv4.IsNetmask (mask : IPv4) (length : Nat) : Prop :=
  ∀ i < 32, mask.getMsbD i = decide (i < length)

/-- There is one mask of each length. -/
theorem IPv4.IsNetmask.eq_netmask {mask : IPv4} {length : Nat} (hlength : length ≤ 32)
    (h : mask.IsNetmask length) : mask = netmask length := by
  apply BitVec.eq_of_getMsbD_eq
  intro i hi
  rw [h i hi, netmask, BitVec.getMsbD_shiftLeft, BitVec.getMsbD_allOnes]
  have hshifted : i < length ↔ i + (32 - length) < 32 := by omega
  exact decide_eq_decide.mpr hshifted

/-- A number of bits is read back from its decimal digits. -/
theorem maskLength?_number {n : Nat} (h : n ≤ 32) : maskLength? (toString n).toList = some n := by
  have hall : ∀ n < 33, maskLength? (decimalDigits n) = some n := by decide +kernel
  have hdigits : (toString n).toList = decimalDigits n := Nat.toList_repr
  rw [hdigits]
  exact hall n (Nat.lt_succ_of_le h)

/-- A written address is no number, but stands for a mask or the complement of one. -/
theorem maskLength?_text (mask : IPv4) :
    maskLength? mask.text.toList = (netmaskLength? mask).or (netmaskLength? (~~~mask)) := by
  have hnumber : decimal? mask.text.toList = none :=
    decimal?_eq_none mask.point_mem_text rfl
  unfold maskLength?
  rw [hnumber, ite_self, IPv4.parse?_text]
  rfl

/-- A mask stands for the number of its bits that are set. -/
theorem maskLength?_netmask {mask : IPv4} {n : Nat} (h : mask.IsNetmask n) (hn : n ≤ 32) :
    maskLength? mask.text.toList = some n := by
  have hall : ∀ n < 33, netmaskLength? (netmask n) = some n := by decide +kernel
  rw [maskLength?_text, h.eq_netmask hn, hall n (Nat.lt_succ_of_le hn)]
  rfl

/-- The complement of a mask stands for the same number, unless all its bits are the same: then it
    is a mask itself. -/
theorem maskLength?_hostmask {mask : IPv4} {n : Nat} (h : mask.IsNetmask n) (hpos : 1 ≤ n)
    (hn : n ≤ 31) : maskLength? (~~~mask).text.toList = some n := by
  have hall : ∀ n < 32, 1 ≤ n →
      (netmaskLength? (~~~netmask n)).or (netmaskLength? (~~~(~~~netmask n))) = some n := by
    decide +kernel
  -- The complement is tried as a mask first, and is none, because its first bit is not set.
  rw [maskLength?_text, h.eq_netmask (Nat.le_succ_of_le hn)]
  exact hall n (Nat.lt_succ_of_le hn) hpos

/-! ### Blocks in text -/

/-- There is no slash in a written address. -/
theorem IPv4.slash_not_mem_text (a : IPv4) : '/' ∉ a.text.toList := by
  intro hmem
  rcases IPv4.isDigit_or_eq_of_mem_text hmem with hdigit | hpoint
  · exact absurd hdigit (by decide)
  · exact absurd hpoint (by decide)

/-- A block is read from a written address, a slash and a mask. -/
theorem inBlockText_text (a b : IPv4) {mask : String} {length : Nat} (hslash : '/' ∉ mask.toList)
    (hmask : maskLength? mask.toList = some length) :
    inBlockText a.text (b.text ++ "/" ++ mask) = (Block.mk b length).covers a := by
  have hfields : fields '/' (b.text ++ "/" ++ mask).toList = [b.text.toList, mask.toList] := by
    rw [String.toList_append, String.toList_append, List.append_assoc]
    show fields '/' (b.text.toList ++ '/' :: mask.toList) = _
    rw [fields_append b.slash_not_mem_text, fields_of_not_mem hslash]
  have hblock : blockOfText? (b.text ++ "/" ++ mask).toList = some ⟨b, length⟩ := by
    rw [blockOfText?, hfields]
    dsimp only
    rw [IPv4.parse?_text, hmask]
    rfl
  rw [inBlockText, IPv4.parse?_text, hblock]

/-- **Membership in a block, as it is written.**  A written address is in the block of a written
    address, a slash and a number from 0 to 32 exactly if as many of their first bits agree.  Where
    that number is neither 0 nor 32, it may as well be written as its mask, or as the complement of
    that. -/
theorem inBlockText_iff (a b : IPv4) {n : Nat} (hn : n ≤ 32) :
    (inBlockText a.text (b.text ++ "/" ++ toString n) = true ↔
        ∀ i < n, a.getMsbD i = b.getMsbD i) ∧
      ∀ mask : IPv4, mask.IsNetmask n → 1 ≤ n → n ≤ 31 →
        inBlockText a.text (b.text ++ "/" ++ mask.text) =
            inBlockText a.text (b.text ++ "/" ++ toString n) ∧
          inBlockText a.text (b.text ++ "/" ++ (~~~mask).text) =
            inBlockText a.text (b.text ++ "/" ++ toString n) := by
  have hslash : '/' ∉ (toString n).toList := by
    intro hmem
    have hdigits : (toString n).toList = Nat.toDigits 10 n := Nat.toList_repr
    rw [hdigits] at hmem
    have hdigit := Nat.isDigit_of_mem_toDigits (by decide) (by decide) hmem
    exact absurd hdigit (by decide)
  have hnumber := inBlockText_text a b hslash (maskLength?_number hn)
  constructor
  · rw [hnumber]
    exact Block.covers_iff ⟨b, n⟩ hn a
  · intro mask hmask hpos hlast
    rw [hnumber]
    constructor
    · exact inBlockText_text a b mask.slash_not_mem_text (maskLength?_netmask hmask hn)
    · exact inBlockText_text a b (IPv4.slash_not_mem_text _)
        (maskLength?_hostmask hmask hpos hlast)

/-- Two addresses that differ in their last octet, in a block of 24 bits. -/
theorem inBlockText_iff_lastOctet :
    24 ≤ 32 ∧ (IPv4.ofOctets 255 255 255 0).IsNetmask 24 ∧
      inBlockText "81.2.69.160" "81.2.69.142/24" = true ∧
      inBlockText "81.2.69.160" "81.2.69.142/255.255.255.0" = true ∧
      inBlockText "81.2.69.160" "81.2.69.142/0.0.0.255" = true := by
  have hmask : (IPv4.ofOctets 255 255 255 0).IsNetmask 24 := by
    unfold IPv4.IsNetmask
    decide
  obtain ⟨hnumber, hothers⟩ := inBlockText_iff (IPv4.ofOctets 81 2 69 160)
    (IPv4.ofOctets 81 2 69 142) (show 24 ≤ 32 by decide)
  obtain ⟨hnetmask, hhostmask⟩ := hothers _ hmask (by decide) (by decide)
  have hin := hnumber.mpr (by decide)
  exact ⟨by decide, hmask, hin, hnetmask.trans hin, hhostmask.trans hin⟩

/-- All bits of the mask of a block of all addresses are the same, so that its complement is the
    mask of a single address. -/
example : inBlockText "81.2.69.160" "81.2.69.142/0.0.0.0" = true ∧
    inBlockText "81.2.69.160" "81.2.69.142/255.255.255.255" = false := by decide +kernel

end StreamWatch.Network
