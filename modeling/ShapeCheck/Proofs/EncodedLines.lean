import ShapeCheck.Proofs.Encoding
import ShapeCheck.Proofs.JsonStrings

/-!
# Lines of bytes

Bytes may be cut into lines before they are decoded: no line feed is part of a longer character,
whether the bytes around it make characters or not.

* `character?_eq_some_iff` — the characters with which bytes begin, by their number of bytes;
* `decode_ascii` — a byte of a single character stands for that character wherever it stands;
* `splitOn_decode` — so the lines of what bytes are decoded to are what the lines of the bytes are
  decoded to;
* `chars?_decode_iff` — bytes are decoded to characters alone iff they are the bytes of a text.
-/

set_option autoImplicit false

namespace ShapeCheck.Input

/-! ## Characters of several bytes -/

section

variable {a b b' b'' : UInt8} {c : Char} {n : Nat}

theorem continuation?_eq_some (h : continuation? b = some n) : b.toNat = n + 0x80 ∧ n < 0x40 := by
  unfold continuation? at h
  split at h
  · have hn := Option.some.inj h
    omega
  · cases h

theorem toNat_ofNat (h : n.isValidChar) : (Char.ofNat n).toNat = n := by
  rw [Char.ofNat, dif_pos h]
  rfl

theorem codeFrom?_eq_some {least : Nat} (h : codeFrom? least n = some c) :
    c.toNat = n ∧ least ≤ n := by
  unfold codeFrom? at h
  split at h
  · rename_i hcode
    cases h
    exact ⟨toNat_ofNat hcode.2, hcode.1⟩
  · cases h

theorem exists_of_twoBytes? (h : twoBytes? a b = some c) :
    ∃ y, continuation? b = some y ∧ 0xC0 ≤ a.toNat ∧ 0x80 ≤ c.toNat ∧ a.toNat < 0xE0 ∧
      c.toNat = (a.toNat - 0xC0) * 64 + y := by
  unfold twoBytes? at h
  split at h
  · obtain ⟨y, hy, h⟩ := Option.bind_eq_some_iff.mp h
    obtain ⟨hcode, hleast⟩ := codeFrom?_eq_some h
    exact ⟨y, hy, by omega, by omega, by omega, hcode⟩
  · cases h

theorem exists_of_threeBytes? (h : threeBytes? a b b' = some c) :
    ∃ y z, continuation? b = some y ∧ continuation? b' = some z ∧ 0xE0 ≤ a.toNat ∧
      0x800 ≤ c.toNat ∧ a.toNat < 0xF0 ∧ c.toNat = ((a.toNat - 0xE0) * 64 + y) * 64 + z := by
  unfold threeBytes? at h
  split at h
  · obtain ⟨y, hy, h⟩ := Option.bind_eq_some_iff.mp h
    obtain ⟨z, hz, h⟩ := Option.bind_eq_some_iff.mp h
    obtain ⟨hcode, hleast⟩ := codeFrom?_eq_some h
    exact ⟨y, z, hy, hz, by omega, by omega, by omega, hcode⟩
  · cases h

theorem exists_of_fourBytes? (h : fourBytes? a b b' b'' = some c) :
    ∃ x y z, continuation? b = some x ∧ continuation? b' = some y ∧ continuation? b'' = some z ∧
      0xF0 ≤ a.toNat ∧ 0x10000 ≤ c.toNat ∧ a.toNat < 0xF8 ∧
      c.toNat = (((a.toNat - 0xF0) * 64 + x) * 64 + y) * 64 + z := by
  unfold fourBytes? at h
  split at h
  · obtain ⟨x, hx, h⟩ := Option.bind_eq_some_iff.mp h
    obtain ⟨y, hy, h⟩ := Option.bind_eq_some_iff.mp h
    obtain ⟨z, hz, h⟩ := Option.bind_eq_some_iff.mp h
    obtain ⟨hcode, hleast⟩ := codeFrom?_eq_some h
    exact ⟨x, y, z, hx, hy, hz, by omega, by omega, by omega, hcode⟩
  · cases h

end

/-- A character with which bytes begin, and how many bytes behind the first one belong to it. -/
inductive BeginsWith : UInt8 → List UInt8 → Char → Nat → Prop
  | one {a : UInt8} (h : a.toNat < 0x80) (rest : List UInt8) :
      BeginsWith a rest (Char.ofNat a.toNat) 0
  | two {a b : UInt8} {c : Char} (h : twoBytes? a b = some c) (rest : List UInt8) :
      BeginsWith a (b :: rest) c 1
  | three {a b b' : UInt8} {c : Char} (h : threeBytes? a b b' = some c) (rest : List UInt8) :
      BeginsWith a (b :: b' :: rest) c 2
  | four {a b b' b'' : UInt8} {c : Char} (h : fourBytes? a b b' b'' = some c)
      (rest : List UInt8) : BeginsWith a (b :: b' :: b'' :: rest) c 3

section

variable {a b : UInt8} {rest back : List UInt8} {c : Char} {more : Nat}

theorem character?_eq_some_iff : character? a rest = some (c, more) ↔ BeginsWith a rest c more := by
  constructor
  · intro h
    rw [character?.eq_def] at h
    split at h
    · cases h
      exact .one ‹_› rest
    · split at h
      · cases h
      · obtain ⟨_, htwo, ⟨⟩⟩ := Option.map_eq_some_iff.mp h
        exact .two htwo []
      · rcases Option.or_eq_some_iff.mp h with h | ⟨-, h⟩
        · obtain ⟨_, htwo, ⟨⟩⟩ := Option.map_eq_some_iff.mp h
          exact .two htwo _
        · obtain ⟨_, hthree, ⟨⟩⟩ := Option.map_eq_some_iff.mp h
          exact .three hthree []
      · rcases Option.or_eq_some_iff.mp h with h | ⟨-, h⟩
        · obtain ⟨_, htwo, ⟨⟩⟩ := Option.map_eq_some_iff.mp h
          exact .two htwo _
        · rcases Option.or_eq_some_iff.mp h with h | ⟨-, h⟩
          · obtain ⟨_, hthree, ⟨⟩⟩ := Option.map_eq_some_iff.mp h
            exact .three hthree _
          · obtain ⟨_, hfour, ⟨⟩⟩ := Option.map_eq_some_iff.mp h
            exact .four hfour _
  · rintro (⟨h, _⟩ | ⟨h, _⟩ | ⟨h, _⟩ | ⟨h, _⟩)
    · rw [character?.eq_def, if_pos h]
    · obtain ⟨-, -, ha, -⟩ := exists_of_twoBytes? h
      exact character?_of_twoBytes (by omega) h _
    · obtain ⟨-, -, -, -, ha, -⟩ := exists_of_threeBytes? h
      exact character?_of_threeBytes ha h _
    · obtain ⟨-, -, -, -, -, -, ha, -⟩ := exists_of_fourBytes? h
      exact character?_of_fourBytes ha h _

namespace BeginsWith

theorem more_le (h : BeginsWith a rest c more) : more ≤ rest.length := by
  cases h <;> simp

theorem append (h : BeginsWith a rest c more) (back : List UInt8) :
    BeginsWith a (rest ++ back) c more := by
  cases h with
  | one h => exact .one h _
  | two h => exact .two h _
  | three h => exact .three h _
  | four h => exact .four h _

/-- A byte that continues no character is no part of one that began before it. -/
theorem of_append (hb : continuation? b = none) (h : BeginsWith a (rest ++ b :: back) c more) :
    BeginsWith a rest c more := by
  generalize hbytes : rest ++ b :: back = bytes at h
  cases h with
  | one h => exact .one h rest
  | two h =>
    obtain ⟨y, hy, -⟩ := exists_of_twoBytes? h
    rcases rest with _ | ⟨x, rest⟩
    · simp_all
    · obtain ⟨rfl, -⟩ := List.cons.inj hbytes
      exact .two h rest
  | three h =>
    obtain ⟨y, z, hy, hz, -⟩ := exists_of_threeBytes? h
    rcases rest with _ | ⟨x, _ | ⟨x', rest⟩⟩
    · simp_all
    · simp_all
    · simp only [List.cons_append, List.cons.injEq] at hbytes
      obtain ⟨rfl, rfl, -⟩ := hbytes
      exact .three h rest
  | four h =>
    obtain ⟨x, y, z, hx, hy, hz, -⟩ := exists_of_fourBytes? h
    rcases rest with _ | ⟨x, _ | ⟨x', _ | ⟨x'', rest⟩⟩⟩
    · simp_all
    · simp_all
    · simp_all
    · simp only [List.cons_append, List.cons.injEq] at hbytes
      obtain ⟨rfl, rfl, rfl, -⟩ := hbytes
      exact .four h rest

theorem ascii (h : BeginsWith a rest c more) (hc : c.toNat < 0x80) : a.toNat = c.toNat := by
  cases h with
  | one h => exact (toNat_ofNat (Or.inl (by omega))).symm
  | two h =>
    obtain ⟨-, -, -, hleast, -⟩ := exists_of_twoBytes? h
    omega
  | three h =>
    obtain ⟨-, -, -, -, -, hleast, -⟩ := exists_of_threeBytes? h
    omega
  | four h =>
    obtain ⟨-, -, -, -, -, -, -, hleast, -⟩ := exists_of_fourBytes? h
    omega

/-- **The bytes of a character are those with which it begins.** -/
theorem encodeChar (h : BeginsWith a rest c more) :
    String.utf8EncodeChar c = a :: rest.take more := by
  have hc : c.val.toNat = c.toNat := rfl
  unfold String.utf8EncodeChar
  simp only [hc]
  cases h with
  | one h =>
    have hcode : (Char.ofNat a.toNat).toNat = a.toNat := toNat_ofNat (Or.inl (by omega))
    rw [hcode, if_pos (by omega), UInt8.ofNat_toNat]
    rfl
  | two h =>
    obtain ⟨y, hy, ha, hleast, ha', hcode⟩ := exists_of_twoBytes? h
    obtain ⟨hb, hy⟩ := continuation?_eq_some hy
    rw [if_neg (by omega), if_pos (by omega)]
    simp only [List.take_succ_cons, List.take_zero, List.cons.injEq, and_true, ← UInt8.toNat_inj,
      UInt8.toNat_ofNat']
    omega
  | three h =>
    obtain ⟨y, z, hy, hz, ha, hleast, ha', hcode⟩ := exists_of_threeBytes? h
    obtain ⟨hb, hy⟩ := continuation?_eq_some hy
    obtain ⟨hb', hz⟩ := continuation?_eq_some hz
    rw [if_neg (by omega), if_neg (by omega), if_pos (by omega)]
    simp only [List.take_succ_cons, List.take_zero, List.cons.injEq, and_true, ← UInt8.toNat_inj,
      UInt8.toNat_ofNat']
    omega
  | four h =>
    obtain ⟨x, y, z, hx, hy, hz, ha, hleast, ha', hcode⟩ := exists_of_fourBytes? h
    obtain ⟨hb, hx⟩ := continuation?_eq_some hx
    obtain ⟨hb', hy⟩ := continuation?_eq_some hy
    obtain ⟨hb'', hz⟩ := continuation?_eq_some hz
    rw [if_neg (by omega), if_neg (by omega), if_neg (by omega)]
    simp only [List.take_succ_cons, List.take_zero, List.cons.injEq, and_true, ← UInt8.toNat_inj,
      UInt8.toNat_ofNat']
    omega

end BeginsWith

end

/-! ## Bytes of single characters -/

theorem decode_nil : decode [] = [] := by rw [decode]

section

variable {a : UInt8} {rest : List UInt8}

theorem decode_of_some {c : Char} {more : Nat} (h : character? a rest = some (c, more)) :
    decode (a :: rest) = .char c :: decode (rest.drop more) := by
  rw [decode, h]

theorem decode_of_none (h : character? a rest = none) :
    decode (a :: rest) = .stray a :: decode rest := by
  rw [decode, h]

end

section

variable {b : UInt8} (hb : b.toNat < 0x80)

include hb

theorem continuation?_ascii : continuation? b = none := by
  rw [continuation?, if_neg (by omega)]

theorem character?_append_ascii (a : UInt8) (front back : List UInt8) :
    character? a (front ++ b :: back) = character? a front := by
  cases hchar : character? a front with
  | some begun =>
    obtain ⟨c, more⟩ := begun
    exact character?_eq_some_iff.mpr ((character?_eq_some_iff.mp hchar).append (b :: back))
  | none =>
    rw [Option.eq_none_iff_forall_ne_some]
    rintro ⟨c, more⟩ hsome
    have hbegins := (character?_eq_some_iff.mp hsome).of_append (continuation?_ascii hb)
    rw [character?_eq_some_iff.mpr hbegins] at hchar
    cases hchar

/-- **A byte of a single character is no part of a longer one**: what stands before it and what
stands behind it are decoded apart from each other. -/
theorem decode_ascii (front back : List UInt8) : decode (front ++ b :: back) =
    decode front ++ .char (Char.ofNat b.toNat) :: decode back := by
  induction front using decode.induct with
  | case1 =>
    rw [decode_nil, List.nil_append, decode_of_some (character?_eq_some_iff.mpr (.one hb back))]
    rfl
  | case2 a front c more hchar ih =>
    have hwhole := (character?_append_ascii hb a front back).trans hchar
    have hmore : more ≤ front.length := (character?_eq_some_iff.mp hchar).more_le
    rw [List.cons_append, decode_of_some hwhole, decode_of_some hchar,
      List.drop_append_of_le_length hmore, ih, List.cons_append]
  | case3 a front hchar ih =>
    have hwhole := (character?_append_ascii hb a front back).trans hchar
    rw [List.cons_append, decode_of_none hwhole, decode_of_none hchar, ih, List.cons_append]

end

theorem newline_not_mem_decode {bytes : List UInt8} (h : 10 ∉ bytes) :
    Symbol.char '\n' ∉ decode bytes := by
  induction bytes using decode.induct with
  | case1 =>
    rw [decode_nil]
    exact List.not_mem_nil
  | case2 a rest c more hchar ih =>
    rw [List.mem_cons, not_or] at h
    have hne : c ≠ '\n' := by
      rintro rfl
      have ha := (character?_eq_some_iff.mp hchar).ascii (by decide)
      exact h.1 (UInt8.toNat_inj.mp ha).symm
    simp [decode_of_some hchar, hne.symm, ih (mt List.mem_of_mem_drop h.2)]
  | case3 a rest hchar ih =>
    rw [List.mem_cons, not_or] at h
    simp [decode_of_none hchar, ih h.2]

/-- **Lines may be cut before or after they are decoded.** -/
theorem splitOn_decode (bytes : List UInt8) :
    (decode bytes).splitOn (.char '\n') = (bytes.splitOn 10).map decode := by
  by_cases h : 10 ∈ bytes
  · obtain ⟨line, rest, hbytes, hline⟩ := List.eq_append_cons_of_mem h
    have hdecode : decode (line ++ 10 :: rest) = decode line ++ .char '\n' :: decode rest :=
      decode_ascii (by decide) line rest
    rw [hbytes, hdecode, List.splitOn_append_cons_self_of_not_mem (newline_not_mem_decode hline),
      splitOn_decode rest, List.splitOn_append_cons_self_of_not_mem hline, List.map_cons]
  · rw [List.splitOn_eq_singleton h, List.splitOn_eq_singleton (newline_not_mem_decode h)]
    rfl
termination_by bytes.length
decreasing_by simp only [hbytes, List.length_append, List.length_cons]; omega

/-! ## Bytes of texts -/

theorem encode_of_decode {bytes : List UInt8} {text : List Char}
    (h : decode bytes = ofChars text) : encode text = bytes := by
  induction bytes using decode.induct generalizing text with
  | case1 =>
    rw [decode_nil] at h
    rw [List.map_eq_nil_iff.mp h.symm]
    rfl
  | case2 a rest c more hchar ih =>
    rw [decode_of_some hchar] at h
    obtain ⟨c', text', hc, hrest, rfl⟩ := Json.ofChars_eq_cons h
    cases hc
    have hbytes := (character?_eq_some_iff.mp hchar).encodeChar
    calc encode (c :: text')
      _ = String.utf8EncodeChar c ++ encode text' := List.flatMap_cons
      _ = a :: (rest.take more ++ rest.drop more) := by rw [hbytes, ih hrest, List.cons_append]
      _ = a :: rest := by rw [List.take_append_drop]
  | case3 a rest hchar =>
    rw [decode_of_none hchar] at h
    obtain ⟨_, _, hc, -⟩ := Json.ofChars_eq_cons h
    cases hc

/-- **Bytes are decoded to characters alone iff they are the bytes of a text**, and then to that
text. -/
theorem chars?_decode_iff {bytes : List UInt8} {text : List Char} :
    chars? (decode bytes) = some text ↔ encode text = bytes := by
  constructor
  · intro h
    exact encode_of_decode (Json.chars?_eq_some h)
  · rintro rfl
    rw [decode_encode, Json.chars?_ofChars]

end ShapeCheck.Input
