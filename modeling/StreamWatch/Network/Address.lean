import StreamWatch.Text.Fields

namespace StreamWatch.Network

/-! # Internet addresses

Addresses are bit vectors, and their textual forms are read exactly:

* `IPv4.parse?`: four decimal octets without leading zeros;
* `IPv6.parse?`: eight hexadecimal groups, of which one run of zero groups may be left
  out, the last two of which may be written as an address of four octets, and which a
  zone may follow.
-/

open Text

/-- An address of 32 bits. -/
abbrev IPv4 := BitVec 32

/-- An address of 128 bits. -/
abbrev IPv6 := BitVec 128

/-- An octet in decimal, at most three digits without a leading zero. -/
def octet? (field : List Char) : Option Nat := do
  let n ← decimal? field
  if field.length ≤ 3 ∧ (field = ['0'] ∨ field.head? ≠ some '0') ∧ n ≤ 255 then some n else none

/-- The address of four octets, the most significant first. -/
def IPv4.ofOctets (a b c d : Nat) : IPv4 :=
  BitVec.ofNat 32 (((a * 256 + b) * 256 + c) * 256 + d)

/-- Reads four octets between points. -/
def IPv4.parse? (cs : List Char) : Option IPv4 :=
  match fields '.' cs with
  | [a, b, c, d] => do
    return IPv4.ofOctets (← octet? a) (← octet? b) (← octet? c) (← octet? d)
  | _ => none

/-- The value of a hexadecimal digit. -/
def hexDigit? (c : Char) : Option Nat :=
  if '0' ≤ c ∧ c ≤ '9' then some (c.toNat - '0'.toNat)
  else if 'a' ≤ c ∧ c ≤ 'f' then some (c.toNat - 'a'.toNat + 10)
  else if 'A' ≤ c ∧ c ≤ 'F' then some (c.toNat - 'A'.toNat + 10)
  else none

/-- A group of an address: left empty, or one to four hexadecimal digits. -/
def group? (field : List Char) : Option (Option Nat) :=
  if field.isEmpty then some none
  else if field.length ≤ 4 then
    (field.mapM hexDigit?).map fun digits => some (digits.foldl (fun n d => 16 * n + d) 0)
  else none

/-- The groups of a field that ends an address: two of them for a field of four octets. -/
def lastGroups? (field : List Char) : Option (List (Option Nat)) :=
  if field.contains '.' then
    (IPv4.parse? field).map fun a => [some (a.toNat / 65536), some (a.toNat % 65536)]
  else (group? field).map fun g => [g]

/-- The groups of the fields of an address. -/
def groups? : List (List Char) → Option (List (Option Nat))
  | [] => some []
  | [last] => lastGroups? last
  | field :: rest => do
    let g ← group? field
    let gs ← groups? rest
    return g :: gs

/-- The groups before a run of zeros that is left out. Such a run at the very start
    leaves one more empty field before it. -/
def leadingGroups? (gs : List (Option Nat)) : Option (List Nat) :=
  if gs = [none] then some [] else gs.mapM id

/-- Completes the groups to eight. Of the inner groups at most one is empty, which is
    where a run of one zero group or more is left out. -/
def complete? (gs : List (Option Nat)) : Option (List Nat) :=
  let inner := (gs.drop 1).dropLast
  match inner.findIdx? Option.isNone with
  | none => if gs.length = 8 then gs.mapM id else none
  | some i => do
    let before ← leadingGroups? (gs.take (i + 1))
    let after ← leadingGroups? (gs.drop (i + 2))
    let known := before.length + after.length
    if known < 8 then some (before ++ List.replicate (8 - known) 0 ++ after) else none

/-- The address of eight groups, the most significant first; groups that are not given
    at the end are zero. -/
def IPv6.ofGroups (groups : List Nat) : IPv6 :=
  BitVec.ofNat 128 ((groups ++ List.replicate (8 - groups.length) 0).foldl
    (fun n g => 65536 * n + g) 0)

/-- Separates a zone from an address: a percent sign and one character or more, none of
    which is another percent sign. -/
def withoutZone? (cs : List Char) : Option (List Char) :=
  match fields '%' cs with
  | [address] => some address
  | [address, zone] => if zone.isEmpty then none else some address
  | _ => none

/-- Reads an address of groups between colons, with or without a zone. -/
def IPv6.parse? (cs : List Char) : Option IPv6 := do
  if cs.contains '/' then none
  else
    let address ← withoutZone? cs
    let parts := fields ':' address
    if parts.length < 3 then none
    else
      let gs ← groups? parts
      let known ← complete? gs
      return IPv6.ofGroups known

end StreamWatch.Network
