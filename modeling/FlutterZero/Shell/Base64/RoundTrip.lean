import FlutterZero.Shell.Base64

/-! # Base64 round trip

Encoded text is decoded to the bytes it was made of, with white space anywhere in it
and a NUL behind it (`base64_round_trip`).  The proof follows the groups of three bytes:
what one source byte does to a group is said by the `decodeRound` lemmas, and what a
whole group does by `storeGroup_eq`.
-/

namespace FlutterZero.Shell.Base64

open FlutterZero.Lib

/-! ## Characters -/

def value? (c : UInt8) : Option Nat :=
  if c < 43 ∨ 122 < c then none
  else
    let decoded := kDecodeData.getD (c.toNat - 43) (-1)
    if decoded < 0 then none else some decoded.toNat

def isSpace (c : UInt8) : Bool := 0 < c ∧ c ≤ 32

variable {digit : Nat}

theorem value?_encodeChar (bound : digit < 64) : value? (encodeChar digit) = some digit := by
  have all : ∀ digit : Fin 64, value? (encodeChar digit) = some digit.val := by decide +kernel
  exact all ⟨digit, bound⟩

variable {c : UInt8}

theorem of_value? (found : value? c = some digit) :
    ¬ c ≤ 32 ∧ ¬ (c < 43 ∨ 122 < c) ∧ kDecodeData.getD (c.toNat - 43) (-1) = digit ∧ digit < 64 := by
  have all : ∀ code : Fin 256, ∀ digit ∈ value? (UInt8.ofNat code),
      ¬ UInt8.ofNat code ≤ 32 ∧ ¬ (UInt8.ofNat code < 43 ∨ 122 < UInt8.ofNat code) ∧
        kDecodeData.getD ((UInt8.ofNat code).toNat - 43) (-1) = digit ∧ digit < 64 := by decide +kernel
  have at' := all ⟨c.toNat, c.toNat_lt⟩
  simp only [UInt8.ofNat_toNat] at at'
  exact at' digit found

theorem ne_zero_of_not_le (visible : ¬ c ≤ 32) : c ≠ 0 := by
  intro zero
  subst zero
  exact visible (by decide)

theorem encodeChar_ne_zero (bound : digit < 64) : encodeChar digit ≠ 0 :=
  ne_zero_of_not_le (of_value? (value?_encodeChar bound)).1

theorem not_isSpace_of_value? (found : value? c = some digit) : isSpace c = false := by
  simp [isSpace, (of_value? found).1]

theorem ofInt_digit (bound : digit < 64) : UInt8.ofInt digit = UInt8.ofNat digit := by
  have all : ∀ digit : Fin 64, UInt8.ofInt digit.val = UInt8.ofNat digit.val := by decide
  exact all ⟨digit, bound⟩

/-! ## One source byte -/

theorem decodeRound_space (space : isSpace c = true) (bytes : List UInt8) (byte : Nat)
    (next : Option UInt8) : decodeRound bytes byte c next = .ok (.goOn bytes byte) := by
  simp only [isSpace, decide_eq_true_eq] at space
  have nonzero : c ≠ 0 := fun zero => absurd space.1 (by simp [zero])
  rw [decodeRound, if_neg nonzero, if_pos space.2]

/-- A character of the alphabet is put into the group, and the next byte of the buffer
    tells how it goes on. -/
theorem decodeRound_of_value? (found : value? c = some digit) (bytes : List UInt8)
    (byte : Nat) (next : Option UInt8) : decodeRound bytes byte c next =
      match next with
      | none => .error .readPastBuffer
      | some next =>
        if next ≠ 0 then
          .ok (if byte + 1 < 4 then .goOn (bytes.set byte (UInt8.ofNat digit)) (byte + 1)
            else .group (bytes.set byte (UInt8.ofNat digit)) false false)
        else if byte + 1 = 4 then .ok (.group (bytes.set byte (UInt8.ofNat digit)) false false)
        else .ok (pad (bytes.set byte (UInt8.ofNat digit)) (byte + 1)) := by
  obtain ⟨visible, inTable, entry, bound⟩ := of_value? found
  have notPad : ((digit : Int) ≠ decodePad) := by
    rw [decodePad]
    omega
  rw [decodeRound, if_neg (ne_zero_of_not_le visible), if_neg visible, if_neg inTable]
  have notNegative : ¬ ((digit : Int) < 0) := by omega
  cases next with
  | none => simp only [entry, if_pos notPad, if_neg notNegative]
  | some next => simp only [entry, if_pos notPad, if_neg notNegative, ofInt_digit bound, if_neg (Nat.add_one_ne_zero byte)]

theorem decodeRound_goOn {next : UInt8} {byte : Nat} (found : value? c = some digit)
    (more : next ≠ 0) (room : byte < 3) (bytes : List UInt8) :
    decodeRound bytes byte c (some next) = .ok (.goOn (bytes.set byte (UInt8.ofNat digit)) (byte + 1)) := by
  rw [decodeRound_of_value? found]
  simp only [if_pos more, if_pos (show byte + 1 < 4 by omega)]

theorem decodeRound_full (found : value? c = some digit) (bytes : List UInt8) (next : UInt8) :
    decodeRound bytes 3 c (some next) = .ok (.group (bytes.set 3 (UInt8.ofNat digit)) false false) := by
  rw [decodeRound_of_value? found]
  by_cases nul : next = 0
  · simp [nul]
  · simp [nul]

theorem decodeRound_pad (bytes : List UInt8) (byte : Nat) (next : Option UInt8) :
    decodeRound bytes byte (encodeChar encodePad) next = .ok (pad (bytes.set byte 254) byte) := by rfl

/-! ## One group -/

theorem or_eq_add_of_dvd {x y i : Nat} (zeros : 2 ^ i ∣ x) (below : y < 2 ^ i) : x ||| y = x + y := by
  obtain ⟨q, rfl⟩ := zeros
  rw [mul_comm, ← Nat.shiftLeft_eq, Nat.shiftLeft_add_eq_or_of_lt below]

theorem encodeBits_eq {high low i : Nat} (j : Nat) (below : low < 2 ^ (i + j)) :
    (low >>> i ||| high <<< j) &&& 0x3F = (high * 2 ^ j + low / 2 ^ i) % 64 := by
  have small : low / 2 ^ i < 2 ^ j := Nat.div_lt_of_lt_mul (by rwa [← pow_add])
  rw [Nat.or_comm, Nat.shiftLeft_eq, Nat.shiftRight_eq_div_pow, or_eq_add_of_dvd (Nat.dvd_mul_left _ _) small]
  exact Nat.and_two_pow_sub_one_eq_mod _ 6

theorem encodeGroups_cons (a b c : UInt8) (src : List UInt8) :
    encodeGroups (a :: b :: c :: src) =
      encodeChar (a.toNat / 4) :: encodeChar ((a.toNat * 16 + b.toNat / 16) % 64) ::
        encodeChar ((b.toNat * 4 + c.toNat / 64) % 64) :: encodeChar (c.toNat % 64) :: encodeGroups src := by
  have first : a.toNat >>> 2 = a.toNat / 4 := Nat.shiftRight_eq_div_pow _ 2
  have last : c.toNat &&& 0x3F = c.toNat % 64 := Nat.and_two_pow_sub_one_eq_mod _ 6
  simp only [encodeGroups, encodeBits_eq 4 b.toNat_lt, encodeBits_eq 2 c.toNat_lt, first, last]
  rfl

theorem encodeGroups_two (a b : UInt8) :
    encodeGroups [a, b] =
      [encodeChar (a.toNat / 4), encodeChar ((a.toNat * 16 + b.toNat / 16) % 64),
        encodeChar (b.toNat * 4 % 64), encodeChar encodePad] := by
  have first : a.toNat >>> 2 = a.toNat / 4 := Nat.shiftRight_eq_div_pow _ 2
  have last : b.toNat <<< 2 &&& 0x3F = b.toNat * 4 % 64 := by
    rw [Nat.shiftLeft_eq]
    exact Nat.and_two_pow_sub_one_eq_mod _ 6
  simp only [encodeGroups, encodeBits_eq 4 b.toNat_lt, first, last]
  rfl

theorem encodeGroups_one (a : UInt8) :
    encodeGroups [a] =
      [encodeChar (a.toNat / 4), encodeChar (a.toNat * 16 % 64), encodeChar encodePad, encodeChar encodePad] := by
  have first : a.toNat >>> 2 = a.toNat / 4 := Nat.shiftRight_eq_div_pow _ 2
  have last : (0 ||| a.toNat <<< 4) &&& 0x3F = a.toNat * 16 % 64 := by
    rw [Nat.zero_or, Nat.shiftLeft_eq]
    exact Nat.and_two_pow_sub_one_eq_mod _ 6
  simp only [encodeGroups, first, last]

theorem length_encodeGroups (src : List UInt8) : (encodeGroups src).length = encodedSize src.length := by
  induction src using encodeGroups.induct with
  | case1 a b c src ih =>
    rw [encodeGroups_cons]
    simp only [List.length_cons, ih, encodedSize]
    omega
  | case2 a b =>
    rw [encodeGroups_two]
    simp [encodedSize]
  | case3 a =>
    rw [encodeGroups_one]
    simp [encodedSize]
  | case4 => rfl

theorem eq_nil_of_encodeGroups {src : List UInt8} (empty : encodeGroups src = []) : src = [] := by
  have length := length_encodeGroups src
  rw [empty, List.length_nil, encodedSize] at length
  exact List.length_eq_zero_iff.mp (by omega)

theorem store_eq {i : Nat} {written : List UInt8} (length : written.length = i) (small : i + 1 < 2 ^ 31)
    (byte : Nat) : store i (some written) byte = .ok (i + 1, some (written ++ [UInt8.ofNat byte])) := by
  rw [store, if_pos small]
  simp [← length]

theorem decodeBits_eq {high low : Nat} (i j : Nat) (split : i + j = 8) (below : low < 2 ^ i) :
    high <<< i % 256 ||| low = high % 2 ^ j * 2 ^ i + low := by
  have byte : high <<< i % 256 = high % 2 ^ j * 2 ^ i := by
    rw [Nat.shiftLeft_eq, ← Nat.mul_mod_mul_right, ← pow_add, add_comm j i, split]
    rfl
  rw [byte, or_eq_add_of_dvd (Nat.dvd_mul_left _ _) below]

section Group

variable {d₀ d₁ d₂ d₃ i : Nat} {written : List UInt8}

theorem digit_toNat {d : Nat} (bound : d < 64) : (UInt8.ofNat d).toNat = d := by
  rw [UInt8.toNat_ofNat', Nat.mod_eq_of_lt (by omega)]

theorem first_eq (bound₁ : d₁ < 64) : (d₀ <<< 2) % 256 ||| d₁ >>> 4 = d₀ % 64 * 4 + d₁ / 16 := by
  rw [Nat.shiftRight_eq_div_pow]
  exact decodeBits_eq 2 6 rfl (by omega)

theorem second_eq (bound₂ : d₂ < 64) : (d₁ <<< 4) &&& 0xFF ||| d₂ >>> 2 = d₁ % 16 * 16 + d₂ / 4 := by
  rw [Nat.shiftRight_eq_div_pow, show d₁ <<< 4 &&& 0xFF = d₁ <<< 4 % 256 from Nat.and_two_pow_sub_one_eq_mod _ 8]
  exact decodeBits_eq 4 4 rfl (by omega)

theorem third_eq (bound₃ : d₃ < 64) : (d₂ <<< 6) &&& 0xFF ||| d₃ = d₂ % 4 * 64 + d₃ := by
  rw [show d₂ <<< 6 &&& 0xFF = d₂ <<< 6 % 256 from Nat.and_two_pow_sub_one_eq_mod _ 8]
  exact decodeBits_eq 6 2 rfl bound₃

theorem storeGroup_full (length : written.length = i) (small : i + 3 < 2 ^ 31) (bound₀ : d₀ < 64)
    (bound₁ : d₁ < 64) (bound₂ : d₂ < 64) (bound₃ : d₃ < 64) :
    storeGroup i (some written) [UInt8.ofNat d₀, UInt8.ofNat d₁, UInt8.ofNat d₂, UInt8.ofNat d₃] false false =
      .ok (i + 3, some (written ++ [UInt8.ofNat (d₀ % 64 * 4 + d₁ / 16), UInt8.ofNat (d₁ % 16 * 16 + d₂ / 4),
        UInt8.ofNat (d₂ % 4 * 64 + d₃)])) := by
  simp only [storeGroup, List.getD_cons_zero, List.getD_cons_succ, digit_toNat bound₀, digit_toNat bound₁,
    digit_toNat bound₂, digit_toNat bound₃, first_eq bound₁, second_eq bound₂, third_eq bound₃]
  rw [store_eq length (by omega), ok_bind]
  dsimp only
  rw [if_neg (by decide), store_eq (by simp [length]) (by omega), ok_bind]
  dsimp only
  rw [if_neg (by decide), store_eq (by simp [length]) (by omega)]
  simp

theorem storeGroup_padThree (length : written.length = i) (small : i + 2 < 2 ^ 31) (bound₀ : d₀ < 64)
    (bound₁ : d₁ < 64) (bound₂ : d₂ < 64) (padding : UInt8) :
    storeGroup i (some written) [UInt8.ofNat d₀, UInt8.ofNat d₁, UInt8.ofNat d₂, padding] false true =
      .ok (i + 2, some (written ++ [UInt8.ofNat (d₀ % 64 * 4 + d₁ / 16), UInt8.ofNat (d₁ % 16 * 16 + d₂ / 4)])) := by
  simp only [storeGroup, List.getD_cons_zero, List.getD_cons_succ, digit_toNat bound₀, digit_toNat bound₁,
    digit_toNat bound₂, first_eq bound₁, second_eq bound₂]
  rw [store_eq length (by omega), ok_bind]
  dsimp only
  rw [if_neg (by decide), store_eq (by simp [length]) (by omega), ok_bind]
  simp

theorem storeGroup_padTwo (length : written.length = i) (small : i + 1 < 2 ^ 31) (bound₀ : d₀ < 64)
    (bound₁ : d₁ < 64) (padding padding' : UInt8) :
    storeGroup i (some written) [UInt8.ofNat d₀, UInt8.ofNat d₁, padding, padding'] true true =
      .ok (i + 1, some (written ++ [UInt8.ofNat (d₀ % 64 * 4 + d₁ / 16)])) := by
  simp only [storeGroup, List.getD_cons_zero, List.getD_cons_succ, digit_toNat bound₀, digit_toNat bound₁,
    first_eq bound₁]
  rw [store_eq length (by omega), ok_bind]
  simp

end Group

/-! ## Text with white space in it -/

/-- `text` is `chars` with white space inserted. -/
def Spaced (chars text : List UInt8) : Prop := text.filter (fun c => !isSpace c) = chars

variable {text : List UInt8}

theorem spaced_cons {chars : List UInt8} (spaced : Spaced (c :: chars) text) :
    ∃ spaces rest, text = spaces ++ c :: rest ∧ (∀ space ∈ spaces, isSpace space = true) ∧ Spaced chars rest := by
  obtain ⟨spaces, rest, split, skipped, _, spacedRest⟩ := List.filter_eq_cons_iff.mp spaced
  exact ⟨spaces, rest, split, fun space member => by simpa using skipped space member, spacedRest⟩

theorem spaced_nil (spaced : Spaced [] text) : ∀ c ∈ text, isSpace c = true := by
  intro c member
  simpa using List.filter_eq_nil_iff.mp spaced c member

theorem head_ne_zero_of_spaced {chars tail : List UInt8} (visible : c ≠ 0)
    (spaced : Spaced (c :: chars) text) : ∃ next, (text ++ tail).head? = some next ∧ next ≠ 0 := by
  obtain ⟨spaces, rest, rfl, skipped, _⟩ := spaced_cons spaced
  cases spaces with
  | nil => exact ⟨c, rfl, visible⟩
  | cons space spaces =>
    refine ⟨space, rfl, ?_⟩
    intro zero
    have isIt := skipped space (by simp)
    rw [zero] at isIt
    cases isIt

section Loop

variable (extra i : Nat) (bytes : List UInt8) (byte : Nat) (dst : Dst) (dstLength : Nat) (tail : List UInt8)

theorem decodeLoop_spaces {spaces : List UInt8} (skipped : ∀ space ∈ spaces, isSpace space = true) :
    decodeLoop (spaces.length + extra) i bytes byte dst dstLength (spaces ++ tail) =
      decodeLoop extra i bytes byte dst dstLength tail := by
  induction spaces with
  | nil => rw [List.length_nil, Nat.zero_add, List.nil_append]
  | cons space spaces ih =>
    obtain ⟨isIt, skipped⟩ := List.forall_mem_cons.mp skipped
    rw [List.cons_append, decodeLoop, decodeRound_space isIt, ok_bind, ← ih skipped, List.length_cons,
      show spaces.length + 1 + extra - 1 = spaces.length + extra by omega]

variable {chars text : List UInt8}

theorem decodeLoop_digit {digit : Nat} (bound : digit < 64)
    (room : byte < 3) (visible : c ≠ 0) (spaced : Spaced (encodeChar digit :: c :: chars) text) :
    ∃ rest, Spaced (c :: chars) rest ∧
      decodeLoop (text.length + extra) i bytes byte dst dstLength (text ++ tail) =
        decodeLoop (rest.length + extra) i (bytes.set byte (UInt8.ofNat digit)) (byte + 1) dst dstLength
          (rest ++ tail) := by
  obtain ⟨spaces, rest, rfl, skipped, spacedRest⟩ := spaced_cons spaced
  obtain ⟨next, head, nonzero⟩ := head_ne_zero_of_spaced visible spacedRest
  refine ⟨rest, spacedRest, ?_⟩
  rw [List.length_append, List.length_cons, List.append_assoc, List.cons_append, add_assoc,
    decodeLoop_spaces _ _ _ _ _ _ _ skipped,
    decodeLoop, head, decodeRound_goOn (value?_encodeChar bound) nonzero room, ok_bind,
    show rest.length + 1 + extra - 1 = rest.length + extra by omega]

theorem decodeLoop_two {d₀ d₁ : Nat} (bound₀ : d₀ < 64) (bound₁ : d₁ < 64)
    (visible : c ≠ 0) (spaced : Spaced (encodeChar d₀ :: encodeChar d₁ :: c :: chars) text) :
    ∃ rest, Spaced (c :: chars) rest ∧
      decodeLoop (text.length + extra) i [0, 0, 0, 0] 0 dst dstLength (text ++ tail) =
        decodeLoop (rest.length + extra) i [UInt8.ofNat d₀, UInt8.ofNat d₁, 0, 0] 2 dst dstLength (rest ++ tail) := by
  obtain ⟨text₁, spaced₁, first⟩ := decodeLoop_digit extra i [0, 0, 0, 0] 0 dst dstLength tail bound₀ (by decide)
    (encodeChar_ne_zero bound₁) spaced
  obtain ⟨text₂, spaced₂, second⟩ := decodeLoop_digit extra i [UInt8.ofNat d₀, 0, 0, 0] 1 dst dstLength tail bound₁
    (by decide) visible spaced₁
  exact ⟨text₂, spaced₂, first.trans second⟩

theorem decodeLoop_three {d₀ d₁ d₂ : Nat} (bound₀ : d₀ < 64) (bound₁ : d₁ < 64) (bound₂ : d₂ < 64) (visible : c ≠ 0)
    (spaced : Spaced (encodeChar d₀ :: encodeChar d₁ :: encodeChar d₂ :: c :: chars) text) :
    ∃ rest, Spaced (c :: chars) rest ∧
      decodeLoop (text.length + extra) i [0, 0, 0, 0] 0 dst dstLength (text ++ tail) =
        decodeLoop (rest.length + extra) i [UInt8.ofNat d₀, UInt8.ofNat d₁, UInt8.ofNat d₂, 0] 3 dst dstLength
          (rest ++ tail) := by
  obtain ⟨text₂, spaced₂, two⟩ := decodeLoop_two extra i dst dstLength tail bound₀ bound₁ (encodeChar_ne_zero bound₂)
    spaced
  obtain ⟨text₃, spaced₃, third⟩ := decodeLoop_digit extra i [UInt8.ofNat d₀, UInt8.ofNat d₁, 0, 0] 2 dst dstLength
    tail bound₂ (by decide) visible spaced₂
  exact ⟨text₃, spaced₃, two.trans third⟩

/-- White space and then the character that completes a group; what follows it in the
    buffer is looked at, whatever it is. -/
theorem decodeLoop_full {digit i' : Nat} {dst' : Dst} (bound : digit < 64)
    (spaced : Spaced (encodeChar digit :: chars) text)
    (stored : storeGroup i dst (bytes.set 3 (UInt8.ofNat digit)) false false = .ok (i', dst')) (rest' : List UInt8) :
    ∃ rest, Spaced chars rest ∧
      decodeLoop (text.length + extra) i bytes 3 dst dstLength (text ++ 0 :: rest') =
        if rest.length + extra = 0 then .ok ⟨.none, i', dst'⟩
        else decodeLoop (rest.length + extra) i' [0, 0, 0, 0] 0 dst' dstLength (rest ++ 0 :: rest') := by
  obtain ⟨spaces, rest, rfl, skipped, spacedRest⟩ := spaced_cons spaced
  obtain ⟨next, head⟩ : ∃ next, (rest ++ 0 :: rest').head? = some next := by cases rest <;> simp
  refine ⟨rest, spacedRest, ?_⟩
  rw [List.length_append, List.length_cons, List.append_assoc, List.cons_append, add_assoc,
    decodeLoop_spaces _ _ _ _ _ _ _ skipped,
    decodeLoop, head, decodeRound_full (value?_encodeChar bound), ok_bind]
  dsimp only
  rw [stored, ok_bind, show rest.length + 1 + extra - 1 = rest.length + extra by omega]
  simp

theorem decodeLoop_pad {i' : Nat} {dst' : Dst} {padTwo : Bool} (spaced : Spaced (encodeChar encodePad :: chars) text)
    (padded : pad (bytes.set byte 254) byte = .group (bytes.set byte 254) padTwo true)
    (stored : storeGroup i dst (bytes.set byte 254) padTwo true = .ok (i', dst')) :
    decodeLoop (text.length + extra) i bytes byte dst dstLength (text ++ tail) = .ok ⟨.none, i', dst'⟩ := by
  obtain ⟨spaces, rest, rfl, skipped, _⟩ := spaced_cons spaced
  rw [List.length_append, List.length_cons, List.append_assoc, List.cons_append, add_assoc,
    decodeLoop_spaces _ _ _ _ _ _ _ skipped,
    decodeLoop, decodeRound_pad, ok_bind, padded]
  dsimp only
  rw [stored, ok_bind]
  simp

end Loop

theorem byte_eq {byte : UInt8} {value : Nat} (same : value = byte.toNat) : UInt8.ofNat value = byte := by
  rw [same, UInt8.ofNat_toNat]

theorem decodeLoop_encodeGroups (b text written rest : List UInt8) (dstLength extra i : Nat)
    (spaced : Spaced (encodeGroups b) text) (length : written.length = i) (short : i + b.length < 2 ^ 31)
    (goesOn : text.length + extra ≠ 0) :
    decodeLoop (text.length + extra) i [0, 0, 0, 0] 0 (some written) dstLength (text ++ 0 :: rest) =
      .ok ⟨.none, i + b.length, some (written ++ b)⟩ := by
  have visible : encodeChar encodePad ≠ 0 := by decide
  induction b using encodeGroups.induct generalizing text written i with
  | case4 =>
    rw [decodeLoop_spaces _ _ _ _ _ _ _ (spaced_nil spaced), List.length_nil, List.append_nil, Nat.add_zero]
    rfl
  | case3 a =>
    have boundA := a.toNat_lt
    rw [encodeGroups_one] at spaced
    obtain ⟨text₂, spaced₂, two⟩ := decodeLoop_two extra i (some written) dstLength (0 :: rest) (by omega) (by omega)
      visible spaced
    have stored := storeGroup_padTwo length short (show a.toNat / 4 < 64 by omega)
      (Nat.mod_lt (a.toNat * 16) (show 0 < 64 by decide)) 254 0
    have first : UInt8.ofNat (a.toNat / 4 % 64 * 4 + a.toNat * 16 % 64 / 16) = a := byte_eq (by omega)
    rw [two, decodeLoop_pad extra i [_, _, 0, 0] 2 _ dstLength _ spaced₂ rfl stored, first]
    rfl
  | case2 a b =>
    have boundA := a.toNat_lt
    have boundB := b.toNat_lt
    rw [encodeGroups_two] at spaced
    obtain ⟨text₃, spaced₃, three⟩ := decodeLoop_three extra i (some written) dstLength (0 :: rest) (by omega)
      (by omega) (by omega) visible spaced
    have stored := storeGroup_padThree length short (show a.toNat / 4 < 64 by omega)
      (Nat.mod_lt (a.toNat * 16 + b.toNat / 16) (show 0 < 64 by decide))
      (Nat.mod_lt (b.toNat * 4) (show 0 < 64 by decide)) 254
    have first : UInt8.ofNat (a.toNat / 4 % 64 * 4 + (a.toNat * 16 + b.toNat / 16) % 64 / 16) = a :=
      byte_eq (by omega)
    have second : UInt8.ofNat ((a.toNat * 16 + b.toNat / 16) % 64 % 16 * 16 + b.toNat * 4 % 64 / 4) = b :=
      byte_eq (by omega)
    rw [three, decodeLoop_pad extra i [_, _, _, 0] 3 _ dstLength _ spaced₃ rfl stored, first, second]
    rfl
  | case1 a b c src ih =>
    have boundA := a.toNat_lt
    have boundB := b.toNat_lt
    have boundC := c.toNat_lt
    rw [List.length_cons, List.length_cons, List.length_cons] at short ⊢
    rw [encodeGroups_cons] at spaced
    obtain ⟨text₃, spaced₃, three⟩ := decodeLoop_three extra i (some written) dstLength (0 :: rest) (by omega)
      (by omega) (by omega) (encodeChar_ne_zero (by omega)) spaced
    have stored := storeGroup_full length (by omega) (show a.toNat / 4 < 64 by omega)
      (Nat.mod_lt (a.toNat * 16 + b.toNat / 16) (show 0 < 64 by decide))
      (Nat.mod_lt (b.toNat * 4 + c.toNat / 64) (show 0 < 64 by decide))
      (Nat.mod_lt c.toNat (show 0 < 64 by decide))
    have first : UInt8.ofNat (a.toNat / 4 % 64 * 4 + (a.toNat * 16 + b.toNat / 16) % 64 / 16) = a :=
      byte_eq (by omega)
    have second : UInt8.ofNat ((a.toNat * 16 + b.toNat / 16) % 64 % 16 * 16 +
        (b.toNat * 4 + c.toNat / 64) % 64 / 4) = b := byte_eq (by omega)
    have third : UInt8.ofNat ((b.toNat * 4 + c.toNat / 64) % 64 % 4 * 64 + c.toNat % 64) = c := byte_eq (by omega)
    rw [first, second, third] at stored
    obtain ⟨text₄, spaced₄, full⟩ := decodeLoop_full extra i [_, _, _, 0] (some written) dstLength (by omega) spaced₃
      stored rest
    rw [three, full]
    by_cases atEnd : text₄.length + extra = 0
    · -- the source ends with the group, so nothing is left to decode
      have noText : text₄ = [] := List.length_eq_zero_iff.mp (by omega)
      have noBytes : src = [] := by
        rw [noText] at spaced₄
        exact eq_nil_of_encodeGroups spaced₄.symm
      rw [if_pos atEnd, noBytes]
      rfl
    · rw [if_neg atEnd, ih text₄ _ _ spaced₄ (by simp [length]) (by omega) atEnd, List.append_assoc]
      simp only [List.cons_append, List.nil_append, Except.ok.injEq, DecodeResult.mk.injEq, true_and, and_true]
      omega

/-! ## Without a destination -/

/-- What is stored with `dst` null and with `dst` given, as many bytes as are counted. -/
inductive StoresAgree : Except Fault (Nat × Dst) → Except Fault (Nat × Dst) → Prop where
  | faulted (fault : Fault) : StoresAgree (.error fault) (.error fault)
  | stored (written : List UInt8) :
      StoresAgree (.ok (written.length, none)) (.ok (written.length, some written))

/-- The calls with `dst` null and with `dst` given end alike. -/
inductive CallsAgree : Except Fault DecodeResult → Except Fault DecodeResult → Prop where
  | faulted (fault : Fault) : CallsAgree (.error fault) (.error fault)
  | decoded (written : List UInt8) :
      CallsAgree (.ok ⟨.none, written.length, none⟩) (.ok ⟨.none, written.length, some written⟩)
  | failed (error : Error) (isError : error ≠ .none) (dstLength dstLength' : Nat) (dst : Dst) :
      CallsAgree (.ok ⟨error, dstLength, none⟩) (.ok ⟨error, dstLength', dst⟩)

theorem store_agree (written : List UInt8) (byte : Nat) :
    StoresAgree (store written.length none byte) (store written.length (some written) byte) := by
  by_cases small : written.length + 1 < 2 ^ 31
  · rw [store_eq rfl small, store, if_pos small]
    have stored := StoresAgree.stored (written ++ [UInt8.ofNat byte])
    rw [List.length_append, List.length_singleton] at stored
    exact stored
  · rw [store, if_neg small, store, if_neg small]
    exact .faulted .overflow

theorem StoresAgree.bind {x y : Except Fault (Nat × Dst)} {f : Nat × Dst → Except Fault (Nat × Dst)}
    (agree : StoresAgree x y)
    (next : ∀ written : List UInt8, StoresAgree (f (written.length, none)) (f (written.length, some written))) :
    StoresAgree (x >>= f) (y >>= f) := by
  cases agree with
  | faulted fault => exact .faulted fault
  | stored written => exact next written

theorem storeGroup_agree (written bytes : List UInt8) (padTwo padThree : Bool) :
    StoresAgree (storeGroup written.length none bytes padTwo padThree)
      (storeGroup written.length (some written) bytes padTwo padThree) := by
  apply (store_agree written _).bind
  intro written
  cases padTwo with
  | true => exact .stored written
  | false =>
    apply (store_agree written _).bind
    intro written
    cases padThree with
    | true => exact .stored written
    | false => exact store_agree written _

theorem decodeLoop_agree (left : Nat) (written bytes : List UInt8) (byte dstLength dstLength' : Nat)
    (src : List UInt8) :
    CallsAgree (decodeLoop left written.length bytes byte none dstLength src)
      (decodeLoop left written.length bytes byte (some written) dstLength' src) := by
  induction src generalizing left written bytes byte with
  | nil => exact .faulted .readPastBuffer
  | cons srcByte src ih =>
    rw [decodeLoop, decodeLoop]
    cases decodeRound bytes byte srcByte src.head? with
    | error fault => exact .faulted fault
    | ok round =>
      rw [ok_bind, ok_bind]
      cases round with
      | goOn bytes byte => exact ih (left - 1) written bytes byte
      | returned error =>
        cases error with
        | none => exact .decoded written
        | badPadding => exact .failed _ (by decide) _ _ _
        | badChar => exact .failed _ (by decide) _ _ _
      | group bytes padTwo padThree =>
        dsimp only
        have stored := storeGroup_agree written bytes padTwo padThree
        revert stored
        generalize storeGroup written.length none bytes padTwo padThree = x
        generalize storeGroup written.length (some written) bytes padTwo padThree = y
        intro stored
        cases stored with
        | faulted fault => exact .faulted fault
        | stored written =>
          rw [ok_bind, ok_bind]
          dsimp only
          by_cases ends : padTwo = true ∨ padThree = true ∨ left - 1 = 0
          · rw [if_pos ends, if_pos ends]
            exact .decoded written
          · rw [if_neg ends, if_neg ends]
            exact ih (left - 1) written [0, 0, 0, 0] 0

theorem decode_agree (src : List UInt8) (srcLength dstLength dstLength' : Nat) :
    CallsAgree (decode src srcLength none dstLength) (decode src srcLength (some []) dstLength') := by
  by_cases empty : srcLength = 0
  · rw [decode, decode, if_pos empty, if_pos empty]
    exact .decoded []
  · rw [decode, decode, if_neg empty, if_neg empty]
    exact decodeLoop_agree srcLength [] [0, 0, 0, 0] 0 dstLength dstLength' src

/-! ## Round trip -/

theorem encodeChar_mem (bound : digit < 64) : encodeChar digit ∈ kDefaultEncode.take encodePad := by
  have inside : digit < (kDefaultEncode.take encodePad).length := bound
  have found : encodeChar digit = (kDefaultEncode.take encodePad)[digit] := by
    rw [encodeChar, List.getD_eq_getElem?_getD, List.getElem_take, List.getElem?_eq_getElem, Option.getD_some]
  exact found ▸ List.getElem_mem inside

theorem encodeGroups_chars (b : List UInt8) :
    ∃ chars padding, encodeGroups b = chars ++ List.replicate padding 61 ∧
      ∀ c ∈ chars, c ∈ kDefaultEncode.take encodePad := by
  induction b using encodeGroups.induct with
  | case1 a b c src ih =>
    have boundA := a.toNat_lt
    obtain ⟨chars, padding, rest, inside⟩ := ih
    refine ⟨encodeChar (a.toNat / 4) :: encodeChar ((a.toNat * 16 + b.toNat / 16) % 64) ::
      encodeChar ((b.toNat * 4 + c.toNat / 64) % 64) :: encodeChar (c.toNat % 64) :: chars, padding, ?_, ?_⟩
    · rw [encodeGroups_cons, rest]
      rfl
    · simp only [List.forall_mem_cons]
      exact ⟨encodeChar_mem (by omega), encodeChar_mem (by omega), encodeChar_mem (by omega),
        encodeChar_mem (by omega), inside⟩
  | case2 a b =>
    have boundA := a.toNat_lt
    refine ⟨[encodeChar (a.toNat / 4), encodeChar ((a.toNat * 16 + b.toNat / 16) % 64),
      encodeChar (b.toNat * 4 % 64)], 1, encodeGroups_two a b, ?_⟩
    simp only [List.forall_mem_cons]
    exact ⟨encodeChar_mem (by omega), encodeChar_mem (by omega), encodeChar_mem (by omega), by simp⟩
  | case3 a =>
    have boundA := a.toNat_lt
    refine ⟨[encodeChar (a.toNat / 4), encodeChar (a.toNat * 16 % 64)], 2, encodeGroups_one a, ?_⟩
    simp only [List.forall_mem_cons]
    exact ⟨encodeChar_mem (by omega), encodeChar_mem (by omega), by simp⟩
  | case4 => exact ⟨[], 0, rfl, by simp⟩

/-- Bytes are encoded to as many characters as `encodedSize` says, of the alphabet or
    trailing `=`, and decoded again from them with white space inserted and a NUL behind.
    On any source, the length reported with `dst` null is the number of bytes written
    with `dst` given, unless the source is rejected. -/
theorem base64_round_trip :
    (∀ b : List UInt8, b.length < 2 ^ 31 →
      ((encode b).1.length = encodedSize b.length ∧ (encode b).2 = encodedSize b.length) ∧
      (∃ chars padding, (encode b).1 = chars ++ List.replicate padding 61 ∧
        ∀ c ∈ chars, c ∈ kDefaultEncode.take encodePad) ∧
      ∀ text rest srcLength dstLength, Spaced (encode b).1 text → text.length ≤ srcLength →
        decode (text ++ 0 :: rest) srcLength (some []) dstLength = .ok ⟨.none, b.length, some b⟩) ∧
    (∀ src srcLength dstLength dstLength' r, decode src srcLength none dstLength = .ok r → r.error = .none →
      ∃ written, decode src srcLength (some []) dstLength' = .ok ⟨.none, written.length, some written⟩ ∧
        r.dstLength = written.length) := by
  constructor
  · intro b short
    refine ⟨⟨length_encodeGroups b, rfl⟩, encodeGroups_chars b, ?_⟩
    intro text rest srcLength dstLength spaced inside
    obtain ⟨extra, rfl⟩ := Nat.exists_eq_add_of_le inside
    by_cases empty : text.length + extra = 0
    · -- nothing is read
      have noText : text = [] := List.length_eq_zero_iff.mp (by omega)
      have noBytes : b = [] := by
        rw [noText] at spaced
        exact eq_nil_of_encodeGroups spaced.symm
      rw [decode, if_pos empty, noBytes]
      rfl
    · have decoded := decodeLoop_encodeGroups b text [] rest dstLength extra 0 spaced rfl (by omega) empty
      rw [Nat.zero_add, List.nil_append] at decoded
      rw [decode, if_neg empty, decoded]
  · intro src srcLength dstLength dstLength' r decoded noError
    have agree := decode_agree src srcLength dstLength dstLength'
    rw [decoded] at agree
    revert agree
    generalize decode src srcLength (some []) dstLength' = y
    intro agree
    cases agree with
    | decoded written => exact ⟨written, rfl, rfl⟩
    | failed error isError => exact absurd noError isError

/-- `Q Q==` and a NUL. -/
theorem base64_round_trip_A :
    decode ([81, 32, 81, 61, 61] ++ 0 :: []) 5 (some []) 7 = .ok ⟨.none, 1, some [65]⟩ ∧
    ∃ written, decode ([81, 32, 81, 61, 61] ++ 0 :: []) 5 (some []) 7 = .ok ⟨.none, written.length, some written⟩ ∧
      1 = written.length :=
  ⟨(base64_round_trip.1 [65] (by decide)).2.2 [81, 32, 81, 61, 61] [] 5 7 (by rfl) (by decide),
    base64_round_trip.2 ([81, 32, 81, 61, 61] ++ 0 :: []) 5 7 7 ⟨.none, 1, none⟩ (by rfl) rfl⟩

/-- `QUJD!` is rejected when three bytes have been written, and no length is reported. -/
theorem decode_rejected :
    ¬ ∀ src srcLength dstLength r r' written, decode src srcLength none dstLength = .ok r →
      decode src srcLength (some []) dstLength = .ok r' → r'.dst = some written → r.dstLength = written.length := by
  intro always
  have equal := always ([81, 85, 74, 68, 33] ++ 0 :: []) 5 0 ⟨.badChar, 0, none⟩
    ⟨.badChar, 0, some [65, 66, 67]⟩ [65, 66, 67] (by rfl) (by rfl) rfl
  cases equal

end FlutterZero.Shell.Base64
