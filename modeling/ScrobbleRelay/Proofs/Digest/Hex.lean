import ScrobbleRelay.Digest.Md5

/-!
# The shape of a digest

A digest has sixteen bytes, whatever the message, and its text two lower-case
hexadecimal digits for each of them.
-/

namespace ScrobbleRelay.Digest

/-- A decimal digit, or one of the first six lower-case letters. -/
def isLowerHexDigit (c : Char) : Bool := c.isDigit || ('a' ≤ c && c ≤ 'f')

/-- A text of so many lower-case hexadecimal digits. -/
def IsLowerHex (count : Nat) (s : String) : Prop :=
  s.length = count ∧ ∀ c ∈ s.toList, isLowerHexDigit c = true

theorem isLowerHexDigit_hexDigit :
    ∀ n < 16, isLowerHexDigit (hexDigit n) = true := by
  decide

theorem length_hexOfBytes (bytes : List UInt8) :
    (hexOfBytes bytes).length = 2 * bytes.length := by
  induction bytes with
  | nil => rfl
  | cons b bytes ih =>
      have hcons : hexOfBytes (b :: bytes) =
          hexDigit (b.toNat / 16) :: hexDigit (b.toNat % 16) ::
            hexOfBytes bytes := rfl
      rw [hcons, List.length_cons, List.length_cons, ih, List.length_cons]
      omega

theorem isLowerHexDigit_of_mem_hexOfBytes {bytes : List UInt8} {c : Char}
    (h : c ∈ hexOfBytes bytes) : isLowerHexDigit c = true := by
  obtain ⟨b, -, hc⟩ := List.mem_flatMap.mp h
  have hbyte : b.toNat < 256 := b.toNat_lt
  simp only [List.mem_cons, List.not_mem_nil, or_false] at hc
  rcases hc with rfl | rfl
  · exact isLowerHexDigit_hexDigit _ (by omega)
  · exact isLowerHexDigit_hexDigit _ (Nat.mod_lt _ (by decide))

theorem length_md5 (message : List UInt8) : (md5 message).length = 16 := by
  simp [md5, littleEndian]

/-- The text of a digest has thirty-two lower-case hexadecimal digits. -/
theorem isLowerHex_md5Hex (s : String) : IsLowerHex 32 (md5Hex s) := by
  constructor
  · rw [md5Hex, String.length_ofList, length_hexOfBytes, length_md5]
  · intro c hc
    rw [md5Hex, String.toList_ofList] at hc
    exact isLowerHexDigit_of_mem_hexOfBytes hc

end ScrobbleRelay.Digest
