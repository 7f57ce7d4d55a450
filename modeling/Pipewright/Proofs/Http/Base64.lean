import Pipewright.Http.Base64

/-!
# Decoding what was encoded

Three bytes are four groups of six bits, each group has a character of its own, and none of these is
an equals sign, so decoding a group of four characters gives the three bytes back.
-/
namespace Pipewright.Base64

/-- Six bits have a character that stands for them. -/
theorem value_digit {n : Nat} (small : n < 64) : value (digit n) = some n := by
  have all : ∀ n : Fin 64, value (digit n) = some n.val := by decide +kernel
  exact all ⟨n, small⟩

/-- No six bits have an equals sign. -/
theorem digit_ne_equals {n : Nat} (small : n < 64) : digit n ≠ '=' := by
  have all : ∀ n : Fin 64, digit n ≠ '=' := by decide +kernel
  exact all ⟨n, small⟩

/-- Two characters before two equals signs stand for one byte. -/
theorem decode_one {x y : Nat} (hx : x < 64) (hy : y < 64) :
    decode [digit x, digit y, '=', '='] =
      if (x * 64 + y) % 16 = 0 then some [UInt8.ofNat ((x * 64 + y) / 16)] else none := by
  rw [decode]
  simp [value_digit hx, value_digit hy]

/-- Three characters before an equals sign stand for two bytes. -/
theorem decode_two {x y z : Nat} (hx : x < 64) (hy : y < 64) (hz : z < 64) :
    decode [digit x, digit y, digit z, '='] =
      let n := (x * 64 + y) * 64 + z
      if n % 4 = 0 then some [UInt8.ofNat (n / 1024), UInt8.ofNat (n / 4 % 256)] else none := by
  rw [decode]
  · simp [value_digit hx, value_digit hy, value_digit hz]
  · exact digit_ne_equals hz

/-- Four characters that are no equals signs stand for three bytes. -/
theorem decode_three {x y z w : Nat} (hx : x < 64) (hy : y < 64) (hz : z < 64) (hw : w < 64)
    (rest : List Char) :
    decode (digit x :: digit y :: digit z :: digit w :: rest) =
      (decode rest).map fun bytes =>
        let n := ((x * 64 + y) * 64 + z) * 64 + w
        UInt8.ofNat (n / 65536) :: UInt8.ofNat (n / 256 % 256) :: UInt8.ofNat (n % 256) ::
          bytes := by
  rw [decode]
  · simp only [value_digit hx, value_digit hy, value_digit hz, value_digit hw]
    cases decode rest <;> rfl
  · exact fun third _ _ => digit_ne_equals hz third
  · exact fun fourth _ => digit_ne_equals hw fourth

/-- Decoding gives back the bytes that were encoded. -/
theorem decode_encode (bytes : List UInt8) : decode (encode bytes) = some bytes := by
  induction bytes using encode.induct with
  | case1 => rfl
  | case2 a =>
    have := a.toNat_lt
    rw [encode, decode_one (by omega) (by omega), if_pos (by omega)]
    have whole : (a.toNat * 16 / 64 * 64 + a.toNat * 16 % 64) / 16 = a.toNat := by omega
    rw [whole, UInt8.ofNat_toNat]
  | case3 a b =>
    have := a.toNat_lt
    have := b.toNat_lt
    rw [encode, decode_two (by omega) (by omega) (by omega), if_pos (by omega)]
    have whole : ((a.toNat * 256 + b.toNat) * 4 / 4096 * 64 +
        (a.toNat * 256 + b.toNat) * 4 / 64 % 64) * 64 + (a.toNat * 256 + b.toNat) * 4 % 64 =
        (a.toNat * 256 + b.toNat) * 4 := by omega
    have first : (a.toNat * 256 + b.toNat) * 4 / 1024 = a.toNat := by omega
    have second : (a.toNat * 256 + b.toNat) * 4 / 4 % 256 = b.toNat := by omega
    rw [whole, first, second, UInt8.ofNat_toNat, UInt8.ofNat_toNat]
  | case4 a b c rest ih =>
    have := a.toNat_lt
    have := b.toNat_lt
    have := c.toNat_lt
    rw [encode, decode_three (by omega) (by omega) (by omega) (by omega), ih, Option.map_some]
    have whole : ((((a.toNat * 256 + b.toNat) * 256 + c.toNat) / 262144 * 64 +
        ((a.toNat * 256 + b.toNat) * 256 + c.toNat) / 4096 % 64) * 64 +
        ((a.toNat * 256 + b.toNat) * 256 + c.toNat) / 64 % 64) * 64 +
        ((a.toNat * 256 + b.toNat) * 256 + c.toNat) % 64 =
        (a.toNat * 256 + b.toNat) * 256 + c.toNat := by omega
    have first : ((a.toNat * 256 + b.toNat) * 256 + c.toNat) / 65536 = a.toNat := by omega
    have second : ((a.toNat * 256 + b.toNat) * 256 + c.toNat) / 256 % 256 = b.toNat := by omega
    have third : ((a.toNat * 256 + b.toNat) * 256 + c.toNat) % 256 = c.toNat := by omega
    simp only [whole, first, second, third, UInt8.ofNat_toNat]

end Pipewright.Base64
