import ShapeCheck.Input.Symbol

/-!
# Encoded texts

The bytes that a text is sent as, each character by its UTF-8 bytes, and what is read from them.

* `character?_encodeChar` — the bytes of a character are read as that character, whatever follows;
* `decode_encode` — so the bytes of a text are read as the text.
-/

set_option autoImplicit false

namespace ShapeCheck.Input

/-- The bytes of a text. -/
def encode (text : List Char) : List UInt8 := text.flatMap String.utf8EncodeChar

theorem codeFrom?_toNat {least : Nat} {c : Char} (h : least ≤ c.toNat) :
    codeFrom? least c.toNat = some c := by
  have hvalid : c.toNat < 0xD800 ∨ (0xDFFF < c.toNat ∧ c.toNat < 0x110000) := c.valid
  rw [codeFrom?, if_pos ⟨h, hvalid⟩, Char.ofNat_toNat]

theorem continuation?_ofNat {n : Nat} (h : n < 64) :
    continuation? (UInt8.ofNat (n + 128)) = some n := by
  have hn : (UInt8.ofNat (n + 128)).toNat = n + 128 := by
    rw [UInt8.toNat_ofNat']
    omega
  rw [continuation?, hn, if_pos (by omega)]
  simp

theorem twoBytes?_eq {c : Char} (h : 0x80 ≤ c.toNat) (hle : c.toNat < 0x800) :
    twoBytes? (UInt8.ofNat (c.toNat / 64 % 32 + 192)) (UInt8.ofNat (c.toNat % 64 + 128)) =
      some c := by
  have ha : (UInt8.ofNat (c.toNat / 64 % 32 + 192)).toNat = c.toNat / 64 + 192 := by
    rw [UInt8.toNat_ofNat']
    omega
  have hcode : (c.toNat / 64 + 192 - 192) * 64 + c.toNat % 64 = c.toNat := by omega
  rw [twoBytes?, ha, if_pos (by omega), continuation?_ofNat (by omega), Option.bind_some, hcode,
    codeFrom?_toNat h]

theorem threeBytes?_eq {c : Char} (h : 0x800 ≤ c.toNat) (hle : c.toNat < 0x10000) :
    threeBytes? (UInt8.ofNat (c.toNat / 4096 % 16 + 224)) (UInt8.ofNat (c.toNat / 64 % 64 + 128))
      (UInt8.ofNat (c.toNat % 64 + 128)) = some c := by
  have ha : (UInt8.ofNat (c.toNat / 4096 % 16 + 224)).toNat = c.toNat / 4096 + 224 := by
    rw [UInt8.toNat_ofNat']
    omega
  have hcode : ((c.toNat / 4096 + 224 - 224) * 64 + c.toNat / 64 % 64) * 64 + c.toNat % 64 =
      c.toNat := by omega
  rw [threeBytes?, ha, if_pos (by omega), continuation?_ofNat (by omega), Option.bind_some,
    continuation?_ofNat (by omega), Option.bind_some, hcode, codeFrom?_toNat h]

theorem fourBytes?_eq {c : Char} (h : 0x10000 ≤ c.toNat) :
    fourBytes? (UInt8.ofNat (c.toNat / 262144 % 8 + 240))
      (UInt8.ofNat (c.toNat / 4096 % 64 + 128)) (UInt8.ofNat (c.toNat / 64 % 64 + 128))
      (UInt8.ofNat (c.toNat % 64 + 128)) = some c := by
  have hvalid : c.toNat < 0xD800 ∨ (0xDFFF < c.toNat ∧ c.toNat < 0x110000) := c.valid
  have ha : (UInt8.ofNat (c.toNat / 262144 % 8 + 240)).toNat = c.toNat / 262144 + 240 := by
    rw [UInt8.toNat_ofNat']
    omega
  have hcode : (((c.toNat / 262144 + 240 - 240) * 64 + c.toNat / 4096 % 64) * 64 +
      c.toNat / 64 % 64) * 64 + c.toNat % 64 = c.toNat := by omega
  rw [fourBytes?, ha, if_pos (by omega), continuation?_ofNat (by omega), Option.bind_some,
    continuation?_ofNat (by omega), Option.bind_some, continuation?_ofNat (by omega),
    Option.bind_some, hcode, codeFrom?_toNat h]

/-- A first byte from some bound on begins no character of fewer bytes. -/
theorem twoBytes?_eq_none {a b : UInt8} (h : 0xE0 ≤ a.toNat) : twoBytes? a b = none := by
  rw [twoBytes?, if_neg (by omega)]

theorem threeBytes?_eq_none {a b c : UInt8} (h : 0xF0 ≤ a.toNat) : threeBytes? a b c = none := by
  rw [threeBytes?, if_neg (by omega)]

theorem character?_of_twoBytes {a b : UInt8} {c : Char} (ha : 0x80 ≤ a.toNat)
    (h : twoBytes? a b = some c) (rest : List UInt8) : character? a (b :: rest) = some (c, 1) := by
  rw [character?.eq_def, if_neg (by omega)]
  rcases rest with _ | ⟨x, _ | ⟨y, rest⟩⟩ <;> simp only [h] <;> rfl

theorem character?_of_threeBytes {a b b' : UInt8} {c : Char} (ha : 0xE0 ≤ a.toNat)
    (h : threeBytes? a b b' = some c) (rest : List UInt8) :
    character? a (b :: b' :: rest) = some (c, 2) := by
  rw [character?.eq_def, if_neg (by omega)]
  rcases rest with _ | ⟨x, rest⟩ <;> simp only [twoBytes?_eq_none ha, h] <;> rfl

theorem character?_of_fourBytes {a b b' b'' : UInt8} {c : Char} (ha : 0xF0 ≤ a.toNat)
    (h : fourBytes? a b b' b'' = some c) (rest : List UInt8) :
    character? a (b :: b' :: b'' :: rest) = some (c, 3) := by
  have htwo : twoBytes? a b = none := twoBytes?_eq_none (by omega)
  rw [character?.eq_def, if_neg (by omega)]
  simp only [htwo, threeBytes?_eq_none ha, h]
  rfl

/-- **The bytes of a character are read as that character**, whatever bytes follow. -/
theorem character?_encodeChar (c : Char) (rest : List UInt8) : ∃ a more,
    String.utf8EncodeChar c = a :: more ∧ character? a (more ++ rest) = some (c, more.length) := by
  have hv : c.val.toNat = c.toNat := rfl
  unfold String.utf8EncodeChar
  simp only [hv]
  split
  · refine ⟨_, [], rfl, ?_⟩
    have ha : (UInt8.ofNat c.toNat).toNat = c.toNat := by
      rw [UInt8.toNat_ofNat']
      omega
    rw [character?.eq_def, ha, if_pos (by omega), Char.ofNat_toNat]
    rfl
  split
  · refine ⟨_, [_], rfl, character?_of_twoBytes ?_ (twoBytes?_eq (by omega) (by omega)) rest⟩
    rw [UInt8.toNat_ofNat']
    omega
  split
  · refine ⟨_, [_, _], rfl,
      character?_of_threeBytes ?_ (threeBytes?_eq (by omega) (by omega)) rest⟩
    rw [UInt8.toNat_ofNat']
    omega
  · refine ⟨_, [_, _, _], rfl, character?_of_fourBytes ?_ (fourBytes?_eq (by omega)) rest⟩
    rw [UInt8.toNat_ofNat']
    omega

/-- **The bytes of a text are read as the text.** -/
theorem decode_encode : ∀ text : List Char, decode (encode text) = ofChars text
  | [] => by rw [encode, List.flatMap_nil, decode]; rfl
  | c :: text => by
    obtain ⟨a, more, hbytes, hchar⟩ := character?_encodeChar c (encode text)
    have hencode : encode (c :: text) = a :: (more ++ encode text) := by
      rw [encode, List.flatMap_cons, hbytes]
      rfl
    rw [hencode, decode, hchar]
    dsimp only
    rw [List.drop_left, decode_encode text]
    rfl

end ShapeCheck.Input
