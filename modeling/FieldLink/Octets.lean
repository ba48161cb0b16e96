/-
  FieldLink.Octets
  ────────────────────────────────
  **OCTET STRINGS AND THE TWO OCTET ORDERS OF A 16-BIT WORD.**

  Everything on a line is a list of octets.  A word is written high octet
  first (`Octets.big`) in every header, and low octet first
  (`Octets.little`) only in the trailer of a serial frame.  Text travels as
  its UTF-8 encoding.

      word_big            — `word` undoes `big`
      toText_ofText       — every text is read back from its encoding
      ofText_toText       — nothing but an encoding is read as a text
      overwrite_overwrite — pieces are put into a buffer one behind another
-/
namespace FieldLink

/-- A string of octets, first transmitted first. -/
abbrev Octets := List UInt8

namespace Octets

/-! ## §1. Words. -/

/-- The word whose high and low octets are given. -/
def word (high low : UInt8) : UInt16 := UInt16.ofNat (high.toNat * 256 + low.toNat)

/-- A word, high octet first. -/
def big (w : UInt16) : Octets := [UInt8.ofNat (w.toNat / 256), UInt8.ofNat (w.toNat % 256)]

/-- A word, low octet first. -/
def little (w : UInt16) : Octets := [UInt8.ofNat (w.toNat % 256), UInt8.ofNat (w.toNat / 256)]

@[simp] theorem length_big (w : UInt16) : (big w).length = 2 := rfl

@[simp] theorem length_little (w : UInt16) : (little w).length = 2 := rfl

theorem toNat_word (high low : UInt8) : (word high low).toNat = high.toNat * 256 + low.toNat := by
  have hh := high.toNat_lt
  have hl := low.toNat_lt
  rw [word, UInt16.toNat_ofNat']
  omega

@[simp] theorem word_big (w : UInt16) :
    word (UInt8.ofNat (w.toNat / 256)) (UInt8.ofNat (w.toNat % 256)) = w := by
  have hw := w.toNat_lt
  apply UInt16.toNat_inj.mp
  rw [toNat_word, UInt8.toNat_ofNat', UInt8.toNat_ofNat']
  omega

theorem big_inj {w w' : UInt16} (h : big w = big w') : w = w' := by
  simp only [big, List.cons.injEq, and_true] at h
  rw [← word_big w, ← word_big w', h.1, h.2]

@[simp] theorem big_word (high low : UInt8) : big (word high low) = [high, low] := by
  have hh := high.toNat_lt
  have hl := low.toNat_lt
  have hhigh : (high.toNat * 256 + low.toNat) / 256 = high.toNat := by omega
  have hlow : (high.toNat * 256 + low.toNat) % 256 = low.toNat := by omega
  simp [big, toNat_word, hhigh, hlow]

@[simp] theorem little_word (high low : UInt8) : little (word high low) = [low, high] := by
  have h := big_word high low
  simp only [big, List.cons.injEq, and_true] at h
  simp [little, h]

/-! ## §2. Text. -/

/-- The UTF-8 encoding of a text. -/
def ofText (text : String) : Octets := text.toUTF8.data.toList

/-- The text that an octet string encodes, if it is well-formed UTF-8. -/
def toText? (octets : Octets) : Option String := String.fromUTF8? ⟨octets.toArray⟩

@[simp] theorem length_ofText (text : String) : (ofText text).length = text.utf8ByteSize := by
  simp [ofText, ← String.size_toByteArray]

theorem ofText_toText {octets : Octets} {text : String} (h : toText? octets = some text) :
    ofText text = octets := by
  unfold toText? String.fromUTF8? at h
  split at h
  · cases h
    simp [ofText, String.fromUTF8]
  · cases h

@[simp] theorem toText_ofText (text : String) : toText? (ofText text) = some text := by
  have hbytes : (⟨(ofText text).toArray⟩ : ByteArray) = text.toByteArray := by
    simp [ofText]
  rw [toText?, hbytes, String.fromUTF8?, dif_pos text.isValidUTF8]
  rfl

/-! ## §3. Hexadecimal words in messages. -/

/-- One hexadecimal digit, in capitals. -/
def hexDigit (n : Nat) : Char := if n < 10 then Char.ofNat (48 + n) else Char.ofNat (55 + n)

/-- The last `width` hexadecimal digits of a number, in capitals. -/
def hexText : Nat → Nat → String
  | 0, _ => ""
  | width + 1, n => (hexText width (n / 16)).push (hexDigit (n % 16))

/-! ## §4. Buffers. -/

/-- A buffer with a piece put over its octets, from a place on. -/
def overwrite (place : Nat) (piece buffer : Octets) : Octets :=
  buffer.take place ++ piece ++ buffer.drop (place + piece.length)

@[simp] theorem overwrite_zero (piece buffer : Octets) :
    overwrite 0 piece buffer = piece ++ buffer.drop piece.length := by
  simp [overwrite]

/-- A piece that fits leaves the length of a buffer as it is. -/
theorem length_overwrite {place : Nat} {piece buffer : Octets}
    (h : place + piece.length ≤ buffer.length) :
    (overwrite place piece buffer).length = buffer.length := by
  simp only [overwrite, List.length_append, List.length_take, List.length_drop]
  omega

/-- What stands in front of the place and the piece behind it are the front of the buffer. -/
theorem take_overwrite {place : Nat} {buffer : Octets} (h : place ≤ buffer.length)
    (piece : Octets) :
    (overwrite place piece buffer).take (place + piece.length) = buffer.take place ++ piece :=
  List.take_left' (by rw [List.length_append, List.length_take_of_le h])

/-- Two pieces one behind the other are one piece. -/
theorem overwrite_overwrite {place : Nat} {buffer : Octets} (h : place ≤ buffer.length)
    (first second : Octets) :
    overwrite (place + first.length) second (overwrite place first buffer)
      = overwrite place (first ++ second) buffer := by
  have hfront : (buffer.take place ++ first).length = place + first.length := by
    rw [List.length_append, List.length_take_of_le h]
  have hback : (overwrite place first buffer).drop (place + first.length + second.length)
      = buffer.drop (place + first.length + second.length) := by
    rw [overwrite, ← hfront, List.drop_length_add_append, List.drop_drop]
  rw [overwrite, take_overwrite h, hback, overwrite, List.length_append, Nat.add_assoc,
    List.append_assoc (buffer.take place)]

end Octets

end FieldLink
