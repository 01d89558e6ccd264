/-!
# Bytes as text

Reading bytes that need not be the encoding of a text. Each longest run of bytes that could have
started a character, and each byte that cannot start one, is read as the replacement character.
-/

namespace Autostart.Utf8

/-- What a first byte announces. -/
inductive Start where
  /-- A character of one byte. -/
  | char (c : Char)
  /-- The bits of a longer character so far, and the ranges of the bytes to come. -/
  | lead (bits : Nat) (ranges : List (Nat × Nat))
  /-- No character. -/
  | invalid

/-- The range of every byte after the second one. -/
def continuation : Nat × Nat := (0x80, 0xBF)

/-- What a byte announces at the start of a character. -/
def start (b : Nat) : Start :=
  if b < 0x80 then .char (Char.ofNat b)
  else if b < 0xC2 then .invalid
  else if b < 0xE0 then .lead (b - 0xC0) [continuation]
  else if b < 0xF0 then
    .lead (b - 0xE0)
      [if b = 0xE0 then (0xA0, 0xBF) else if b = 0xED then (0x80, 0x9F) else continuation,
        continuation]
  else if b < 0xF5 then
    .lead (b - 0xF0)
      [if b = 0xF0 then (0x90, 0xBF) else if b = 0xF4 then (0x80, 0x8F) else continuation,
        continuation, continuation]
  else .invalid

/-- The replacement character. -/
def replacement : Char := Char.ofNat 0xFFFD

/-- The characters that bytes are read as, after the bits of a character whose further bytes lie in
the given ranges. -/
def readAfter (bits : Nat) : List (Nat × Nat) → List UInt8 → List Char
  | [], [] => []
  | _ :: _, [] => [replacement]
  | ranges, b :: rest =>
    let fresh (before : List Char) : List Char :=
      match start b.toNat with
      | .char c => before ++ c :: readAfter 0 [] rest
      | .lead bits ranges => before ++ readAfter bits ranges rest
      | .invalid => before ++ replacement :: readAfter 0 [] rest
    match ranges with
    | [] => fresh []
    | (low, high) :: more =>
      if low ≤ b.toNat && b.toNat ≤ high then
        let bits := 64 * bits + (b.toNat - 0x80)
        if more.isEmpty then Char.ofNat bits :: readAfter 0 [] rest else readAfter bits more rest
      else fresh [replacement]

/-- The text that bytes are read as. -/
def lossy (bytes : List UInt8) : String :=
  String.ofList (readAfter 0 [] bytes)

/-- The text that bytes encode, and nothing when they encode none. -/
def decode? (bytes : List UInt8) : Option String :=
  String.fromUTF8? (ByteArray.mk bytes.toArray)

/-- The bytes that encode a text. -/
def encode (s : String) : List UInt8 :=
  s.toUTF8.toList

end Autostart.Utf8
