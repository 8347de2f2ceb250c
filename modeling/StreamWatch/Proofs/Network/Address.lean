import StreamWatch.Network.Address
import StreamWatch.Number.Notation

namespace StreamWatch

/-!
# Addresses written and read

A short address is written as four decimal octets between points:

* `Text.fields_intercalate` — fields that are put together with a separator between them are found
  again;
* `Network.IPv4.text` — an address as it is written;
* `Network.IPv4.parse?_text` — an address is read back from what is written.
-/

/-! ### Fields -/

namespace Text

variable {separator : Char}

/-- There is always a field. -/
theorem fields_ne_nil (separator : Char) (cs : List Char) : fields separator cs ≠ [] := by
  cases cs with
  | nil => exact List.cons_ne_nil _ _
  | cons c rest =>
    unfold fields
    split
    · exact List.cons_ne_nil _ _
    · split
      · exact List.cons_ne_nil _ _
      · exact List.cons_ne_nil _ _

/-- A text without a separator is one field. -/
theorem fields_of_not_mem {field : List Char} (h : separator ∉ field) :
    fields separator field = [field] := by
  induction field with
  | nil => rfl
  | cons c cs ih =>
    rw [fields, ih (List.not_mem_of_not_mem_cons h)]
    exact if_neg (List.ne_of_not_mem_cons h).symm

/-- A field ends in front of a separator. -/
theorem fields_append {field : List Char} (h : separator ∉ field) (rest : List Char) :
    fields separator (field ++ separator :: rest) = field :: fields separator rest := by
  induction field with
  | nil =>
    obtain ⟨first, others, hrest⟩ := List.exists_cons_of_ne_nil (fields_ne_nil separator rest)
    rw [List.nil_append, fields, hrest]
    exact if_pos rfl
  | cons c cs ih =>
    rw [List.cons_append, fields, ih (List.not_mem_of_not_mem_cons h)]
    exact if_neg (List.ne_of_not_mem_cons h).symm

/-- Fields without separators in them are found again between the separators. -/
theorem fields_intercalate {parts : List (List Char)} (hparts : parts ≠ [])
    (h : ∀ part ∈ parts, separator ∉ part) :
    fields separator ([separator].intercalate parts) = parts := by
  induction parts with
  | nil => exact absurd rfl hparts
  | cons part rest ih =>
    have hpart := h part List.mem_cons_self
    cases rest with
    | nil =>
      rw [List.intercalate_singleton]
      exact fields_of_not_mem hpart
    | cons next rest =>
      rw [List.intercalate_cons_cons, List.append_assoc, List.singleton_append,
        fields_append hpart,
        ih (List.cons_ne_nil next rest) fun part hmem => h part (List.mem_cons_of_mem _ hmem)]

/-- What stands in fields that are put together is a separator or stands in one of them. -/
theorem mem_intercalate {parts : List (List Char)} {c : Char}
    (h : c ∈ [separator].intercalate parts) : c = separator ∨ ∃ part ∈ parts, c ∈ part := by
  induction parts with
  | nil => cases h
  | cons part rest ih =>
    cases rest with
    | nil =>
      rw [List.intercalate_singleton] at h
      exact .inr ⟨part, List.mem_cons_self, h⟩
    | cons next rest =>
      rw [List.intercalate_cons_cons, List.append_assoc] at h
      rcases List.mem_append.mp h with hpart | h
      · exact .inr ⟨part, List.mem_cons_self, hpart⟩
      · rcases List.mem_cons.mp h with hseparator | hrest
        · exact .inl hseparator
        · obtain hseparator | ⟨other, hother, hc⟩ := ih hrest
          · exact .inl hseparator
          · exact .inr ⟨other, List.mem_cons_of_mem part hother, hc⟩

/-- A text in which something else than digits stands is not a number. -/
theorem decimal?_eq_none {field : List Char} {c : Char} (hmem : c ∈ field)
    (hc : c.isDigit = false) : decimal? field = none := by
  refine if_neg ?_
  intro hdigits
  have hall := List.all_eq_true.mp (Bool.and_eq_true_iff.mp hdigits).2 c hmem
  exact Bool.false_ne_true (hc.symm.trans hall)

end Text

namespace Network

open Text

/-! ### Octets -/

/-- An octet is read back from its decimal digits. -/
theorem octet?_decimalDigits {n : Nat} (h : n < 256) : octet? (decimalDigits n) = some n := by
  have hall : ∀ n < 256, octet? (decimalDigits n) = some n := by decide +kernel
  exact hall n h

namespace IPv4

/-- The octets of an address, the most significant first. -/
def octets (a : IPv4) : List Nat :=
  [a.toNat / 16777216, a.toNat / 65536 % 256, a.toNat / 256 % 256, a.toNat % 256]

/-- An address in dotted decimal. -/
def text (a : IPv4) : String := ".".intercalate (a.octets.map toString)

variable {a : IPv4}

/-- The octets make up the address. -/
theorem ofOctets_octets (a : IPv4) :
    ofOctets (a.toNat / 16777216) (a.toNat / 65536 % 256) (a.toNat / 256 % 256) (a.toNat % 256) =
      a := by
  have hparts : ((a.toNat / 16777216 * 256 + a.toNat / 65536 % 256) * 256 +
      a.toNat / 256 % 256) * 256 + a.toNat % 256 = a.toNat := by omega
  rw [ofOctets, hparts, BitVec.ofNat_toNat, BitVec.setWidth_eq]

/-- The characters of a written address. -/
theorem toList_text (a : IPv4) :
    a.text.toList = ['.'].intercalate (a.octets.map decimalDigits) := by
  rw [text, String.toList_intercalate, List.map_map]
  congr 2
  funext n
  exact Nat.toList_repr

/-- A written address is made of digits and points. -/
theorem isDigit_or_eq_of_mem_text {c : Char} (h : c ∈ a.text.toList) :
    c.isDigit = true ∨ c = '.' := by
  rw [toList_text] at h
  obtain hpoint | ⟨part, hpart, hc⟩ := mem_intercalate h
  · exact .inr hpoint
  · obtain ⟨n, _, rfl⟩ := List.mem_map.mp hpart
    exact .inl (Nat.isDigit_of_mem_toDigits (by decide) (by decide) hc)

/-- There is a point in a written address. -/
theorem point_mem_text (a : IPv4) : '.' ∈ a.text.toList := by
  rw [toList_text]
  show '.' ∈ ['.'].intercalate (decimalDigits _ :: decimalDigits _ :: _)
  rw [List.intercalate_cons_cons]
  exact List.mem_append_left _ (List.mem_append_right _ List.mem_cons_self)

/-- **An address is read back** from its dotted decimal. -/
theorem parse?_text (a : IPv4) : parse? a.text.toList = some a := by
  have hfields : fields '.' a.text.toList = a.octets.map decimalDigits := by
    have hne : a.octets.map decimalDigits ≠ [] := List.cons_ne_nil _ _
    rw [toList_text]
    apply fields_intercalate hne
    intro part hpart hpoint
    obtain ⟨n, _, rfl⟩ := List.mem_map.mp hpart
    have hdigit := Nat.isDigit_of_mem_toDigits (by decide) (by decide) hpoint
    exact absurd hdigit (by decide)
  have hoctet (n : Nat) : octet? (decimalDigits (n % 256)) = some (n % 256) :=
    octet?_decimalDigits (Nat.mod_lt n (by decide))
  have hfirst : octet? (decimalDigits (a.toNat / 16777216)) = some (a.toNat / 16777216) :=
    octet?_decimalDigits (by omega)
  rw [parse?, hfields]
  simp only [octets, List.map_cons, List.map_nil, hoctet, hfirst]
  exact congrArg some (ofOctets_octets a)

end IPv4

end Network

end StreamWatch
