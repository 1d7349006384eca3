/-!
# Decimal digits

The decimal digits of Unicode come in runs of ten, one run for each script; `decimalZeros` lists
where the runs begin, and `digitValue?` reads a digit of any script. `isDigitLike` is the wider class
that also holds superscripts, circled digits and the like, which look like digits and have no place
value.

* `digitValue?_lt`: the value of a digit is below ten.
* `isDigitLike_of_digitValue?`: every decimal digit is in the wider class.
-/

namespace ProxyTestbed.Text

/-- The characters with the value zero, in ascending order; the digits `1` to `9` of the same script
follow each of them. -/
def decimalZeros : List Nat := [
  48, 0x660, 0x6F0, 0x7C0, 0x966, 0x9E6, 0xA66, 0xAE6, 0xB66, 0xBE6, 0xC66, 0xCE6, 0xD66,
  0xDE6, 0xE50, 0xED0, 0xF20, 0x1040, 0x1090, 0x17E0, 0x1810, 0x1946, 0x19D0, 0x1A80, 0x1A90,
  0x1B50, 0x1BB0, 0x1C40, 0x1C50, 0xA620, 0xA8D0, 0xA900, 0xA9D0, 0xA9F0, 0xAA50, 0xABF0,
  0xFF10, 0x104A0, 0x10D30, 0x11066, 0x110F0, 0x11136, 0x111D0, 0x112F0, 0x11450, 0x114D0,
  0x11650, 0x116C0, 0x11730, 0x118E0, 0x11950, 0x11C50, 0x11D50, 0x11DA0, 0x16A60, 0x16AC0,
  0x16B50, 0x1D7CE, 0x1D7D8, 0x1D7E2, 0x1D7EC, 0x1D7F6, 0x1E140, 0x1E2F0, 0x1E950, 0x1FBF0
]

/-- The value of a decimal digit of any script. -/
def digitValue? (c : Char) : Option Nat :=
  (decimalZeros.find? fun z => z ≤ c.toNat && c.toNat < z + 10).map (c.toNat - ·)

/-- The characters that are digits in a wider sense than a place value: superscripts, subscripts,
and digits in circles, brackets or with a full stop, as closed ranges. -/
def digitSigns : List (Nat × Nat) := [
  (0xb2, 0xb3), (0xb9, 0xb9), (0x1369, 0x1371), (0x19da, 0x19da), (0x2070, 0x2070),
  (0x2074, 0x2079), (0x2080, 0x2089), (0x2460, 0x2468), (0x2474, 0x247c), (0x2488, 0x2490),
  (0x24ea, 0x24ea), (0x24f5, 0x24fd), (0x24ff, 0x24ff), (0x2776, 0x277e), (0x2780, 0x2788),
  (0x278a, 0x2792), (0x10a40, 0x10a43), (0x10e60, 0x10e68), (0x11052, 0x1105a),
  (0x1f100, 0x1f10a)
]

/-- A decimal digit, or a sign that stands for one. -/
def isDigitLike (c : Char) : Bool :=
  (digitValue? c).isSome || digitSigns.any fun r => r.1 ≤ c.toNat && c.toNat ≤ r.2

theorem digitValue?_lt {c : Char} {d : Nat} (h : digitValue? c = some d) : d < 10 := by
  obtain ⟨z, hz, rfl⟩ := Option.map_eq_some_iff.1 h
  have := List.find?_some hz
  simp at this
  omega

theorem isDigitLike_of_digitValue? {c : Char} {d : Nat} (h : digitValue? c = some d) :
    isDigitLike c = true := by
  simp [isDigitLike, h]

end ProxyTestbed.Text
