import FlutterZero.Shell.Base64.RoundTrip

/-! # What `Base64::Decode` reads

The bound on the source is only looked at between groups.  Inside a group the decoder
takes the next byte, and looks at the one behind it, wherever the source ends.  So what
follows the source in its buffer does not matter exactly when something in the source
ends the call before the counter of the output overflows (`honoursLength_iff`).
-/

namespace FlutterZero.Shell.Base64

open FlutterZero.Lib

/-- A call on the bytes of `source` returns, and in the same way whatever follows them in
    the buffer, also where nothing does. -/
def HonoursLength (source : List UInt8) : Prop :=
  ∀ dst dstLength, ∃ result, ∀ rest, decode (source ++ rest) source.length dst dstLength = .ok result

/-- Neither white space nor a character of the alphabet: the call ends here. -/
def stops (c : UInt8) : Bool := !isSpace c && (value? c).isNone

/-- The characters of the alphabet in `source`. -/
abbrev digitCount (source : List UInt8) : Nat := source.countP (fun c => (value? c).isSome)

/-- The byte `c`, which ends the call behind `before`, pads the last group: an equals sign,
    or a NUL right behind a character of the alphabet. -/
def pads (before : List UInt8) (c : UInt8) : Bool :=
  c == 61 || c == 0 && before.getLast?.any fun last => (value? last).isSome

/-- How many bytes that many characters of the alphabet, padded or not, are decoded to. -/
def outputLength (digits : Nat) (padded : Bool) : Nat := 3 * (digits / 4) + if padded then digits % 4 - 1 else 0

/-- A byte of `source` ends the call, and what is written by then can be counted. -/
def EndsInside (source : List UInt8) : Prop :=
  ∃ before c after, source = before ++ c :: after ∧ (∀ b ∈ before, stops b = false) ∧ stops c = true ∧
    outputLength (digitCount before) (pads before c) < 2 ^ 31

variable {c : UInt8}

theorem space_or_value (goesOn : stops c = false) : isSpace c = true ∨ ∃ digit, value? c = some digit := by
  cases space : isSpace c with
  | true => exact .inl rfl
  | false =>
    cases found : value? c with
    | none => simp [stops, space, found] at goesOn
    | some digit => exact .inr ⟨digit, rfl⟩

theorem ne_zero_of_not_stops (goesOn : stops c = false) : c ≠ 0 := by
  intro zero
  rw [zero] at goesOn
  cases goesOn

theorem value?_of_isSpace (space : isSpace c = true) : value? c = none := by
  cases found : value? c with
  | none => rfl
  | some digit => simp [not_isSpace_of_value? found] at space

theorem digitCount_space (space : isSpace c = true) (src : List UInt8) : digitCount (c :: src) = digitCount src := by
  simp [digitCount, value?_of_isSpace space]

theorem digitCount_value {digit : Nat} (found : value? c = some digit) (src : List UInt8) :
    digitCount (c :: src) = digitCount src + 1 := by
  simp [digitCount, found]

/-! ## Bytes that end the call -/

theorem kDecodeData_eq_pad_iff : kDecodeData.getD (c.toNat - 43) (-1) = decodePad ↔ c = 61 := by
  have table : ∀ k < 80, (kDecodeData.getD k (-1) = decodePad ↔ k = 18) := by decide
  rw [← UInt8.toNat_inj]
  change _ ↔ c.toNat = 61
  by_cases inside : c.toNat - 43 < 80
  · rw [table _ inside]
    omega
  · have beyond : kDecodeData.getD (c.toNat - 43) (-1) = -1 :=
      List.getD_eq_default _ _ (not_lt.mp inside)
    rw [beyond, decodePad]
    omega

theorem decodeRound_stops (ends : stops c = true) (bytes : List UInt8) (byte : Nat) (next : Option UInt8) :
    decodeRound bytes byte c next = .ok (if c = 61 then pad (bytes.set byte 254) byte
      else if c = 0 then .returned .none else .returned .badChar) := by
  obtain ⟨visible, noDigit⟩ : isSpace c = false ∧ value? c = none := by simpa [stops] using ends
  by_cases isPad : c = 61
  · rw [if_pos isPad, isPad]
    exact decodeRound_pad bytes byte next
  rw [if_neg isPad]
  by_cases nul : c = 0
  · rw [decodeRound, if_pos nul, if_pos nul]
  have notSpace : ¬ c ≤ 32 := by
    intro low
    have positive : 0 < c := UInt8.pos_iff_ne_zero.mpr nul
    simp [isSpace, low, positive] at visible
  rw [if_neg nul, decodeRound, if_neg nul, if_neg notSpace]
  by_cases outside : c < 43 ∨ 122 < c
  · rw [if_pos outside]
  have negative : kDecodeData.getD (c.toNat - 43) (-1) < 0 := by
    by_contra nonnegative
    rw [value?, if_neg outside] at noDigit
    dsimp only at noDigit
    rw [if_neg nonnegative] at noDigit
    cases noDigit
  rw [if_neg outside]
  dsimp only
  rw [if_pos (mt kDecodeData_eq_pad_iff.mp isPad), if_pos negative]

section Loop

variable (left i : Nat) (bytes : List UInt8) (byte : Nat) (dst : Dst) (dstLength : Nat) {source before : List UInt8}

theorem decodeLoop_stops (ends : ∃ c ∈ source, stops c = true) (rest rest' : List UInt8) :
    decodeLoop left i bytes byte dst dstLength (source ++ rest) =
      decodeLoop left i bytes byte dst dstLength (source ++ rest') := by
  induction source generalizing left i bytes byte dst with
  | nil => simp at ends
  | cons c source ih =>
    rw [List.cons_append, List.cons_append, decodeLoop, decodeLoop]
    cases here : stops c with
    | true =>
      rw [decodeRound_stops here, decodeRound_stops here, ok_bind, ok_bind, pad]
      by_cases isPad : c = 61
      · by_cases early : byte < 2
        · simp [isPad, early]
        · simp [isPad, early]
      · by_cases nul : c = 0
        · simp [nul]
        · simp [isPad, nul]
    | false =>
      have later : ∃ c ∈ source, stops c = true := by simpa [here] using ends
      -- something of the source comes next, whatever the rest is
      have head : (source ++ rest).head? = (source ++ rest').head? := by
        obtain ⟨c', member, _⟩ := later
        cases source with
        | nil => simp at member
        | cons c'' source => rfl
      rw [head]
      simp only [ih _ _ _ _ _ later]

/-! ## What is written -/

theorem storeGroup_returns {padTwo padThree : Bool} {n : Nat}
    (count : (if padTwo then 1 else if padThree then 2 else 3) = n) :
    ∃ dst', storeGroup i dst bytes padTwo padThree =
      if i + n < 2 ^ 31 then .ok (i + n, dst') else .error .overflow := by
  simp only [storeGroup, store]
  by_cases first : i + 1 < 2 ^ 31
  · rw [if_pos first, ok_bind]
    cases padTwo with
    | true =>
      obtain rfl : 1 = n := count
      exact ⟨_, (if_pos first).symm⟩
    | false =>
      by_cases second : i + 1 + 1 < 2 ^ 31
      · simp only [if_pos second, ok_bind, Bool.false_eq_true, if_false]
        cases padThree with
        | true =>
          obtain rfl : 2 = n := count
          exact ⟨_, (if_pos second).symm⟩
        | false =>
          obtain rfl : 3 = n := count
          exact ⟨_, rfl⟩
      · have two : 2 ≤ n := by
          cases padThree with
          | true => exact count.le
          | false => exact le_trans (by decide) count.le
        refine ⟨none, ?_⟩
        simp only [if_neg second, Bool.false_eq_true, if_false]
        rw [if_neg (by omega)]
        rfl
  · have one : 1 ≤ n := by
      rw [← count]
      split
      · exact le_rfl
      · split <;> decide
    refine ⟨none, ?_⟩
    rw [if_neg first, if_neg (by omega)]
    rfl

theorem storeGroup_padded (late : 2 ≤ byte) (room : byte ≤ 3) :
    ∃ dst', storeGroup i dst bytes (byte = 2) true =
      if i + (byte - 1) < 2 ^ 31 then .ok (i + (byte - 1), dst') else .error .overflow := by
  apply storeGroup_returns
  by_cases two : byte = 2
  · rw [decide_eq_true two, if_pos rfl, two]
  · rw [decide_eq_false two, if_neg (by decide), if_pos rfl]
    omega

theorem outputLength_of_lt {digits : Nat} (few : digits < 4) (padded : Bool) :
    outputLength digits padded = if padded then digits - 1 else 0 := by
  rw [outputLength, Nat.div_eq_of_lt few, Nat.mod_eq_of_lt few, Nat.mul_zero, Nat.zero_add]

theorem outputLength_add (digits : Nat) (padded : Bool) :
    outputLength (4 + digits) padded = 3 + outputLength digits padded := by
  rw [outputLength, outputLength, Nat.add_mod_left, Nat.add_div_left _ (by decide)]
  omega

theorem pads_cons_cons (c₁ c₂ : UInt8) (before : List UInt8) :
    pads (c₁ :: c₂ :: before) c = pads (c₂ :: before) c := by
  rw [pads, pads, List.getLast?_cons_cons]

theorem decodeLoop_digit_cons {c' : UInt8} {digit : Nat} (found : value? c = some digit)
    (more : c' ≠ 0) (room : byte < 3) (src : List UInt8) :
    decodeLoop left i bytes byte dst dstLength (c :: c' :: src) =
      decodeLoop (left - 1) i (bytes.set byte (UInt8.ofNat digit)) (byte + 1) dst dstLength (c' :: src) := by
  rw [decodeLoop, List.head?_cons, decodeRound_goOn found more room, ok_bind]

theorem decodeLoop_full_cons {c' : UInt8} {digit : Nat} (found : value? c = some digit)
    (behind : 1 < left) (src : List UInt8) : decodeLoop left i bytes 3 dst dstLength (c :: c' :: src) =
      storeGroup i dst (bytes.set 3 (UInt8.ofNat digit)) false false >>= fun stored =>
        decodeLoop (left - 1) stored.1 [0, 0, 0, 0] 0 stored.2 dstLength (c' :: src) := by
  have more : ¬ left - 1 = 0 := by omega
  rw [decodeLoop, List.head?_cons, decodeRound_full found, ok_bind]
  simp [more]

theorem decodeLoop_space_cons (space : isSpace c = true) (src : List UInt8) :
    decodeLoop left i bytes byte dst dstLength (c :: src) =
      decodeLoop (left - 1) i bytes byte dst dstLength src := by
  rw [decodeLoop, decodeRound_space space, ok_bind]

/-- A NUL behind a group that is not full pads it. -/
theorem decodeLoop_nul_cons {digit : Nat} (found : value? c = some digit) (room : byte < 3) (src : List UInt8) :
    ∃ bytes', decodeLoop left i bytes byte dst dstLength (c :: 0 :: src) =
      if byte = 0 then .ok ⟨.badPadding, dstLength, dst⟩
      else storeGroup i dst bytes' (byte + 1 = 2) true >>= fun stored => .ok ⟨.none, stored.1, stored.2⟩ := by
  have notFull : byte + 1 ≠ 4 := by omega
  refine ⟨bytes.set byte (UInt8.ofNat digit), ?_⟩
  rw [decodeLoop, List.head?_cons, decodeRound_of_value? found]
  simp only [ne_eq, not_true_eq_false, if_false, if_neg notFull, ok_bind, pad]
  by_cases first : byte = 0
  · simp [first]
  · have second : ¬ byte + 1 < 2 := by omega
    simp [first, second]

theorem outputLength_pads_cons (b : UInt8) (before : List UInt8) :
    outputLength (digitCount before) (pads (b :: before) c) = outputLength (digitCount before) (pads before c) := by
  cases before with
  | nil =>
    rw [digitCount, List.countP_nil, outputLength_of_lt (by decide), outputLength_of_lt (by decide)]
    simp
  | cons b' before => rw [pads_cons_cons]

theorem decodeLoop_returns_iff (goesOn : ∀ b ∈ before, stops b = false) (ends : stops c = true) (room : byte ≤ 3)
    (fits : i < 2 ^ 31) (inside : before.length < left) (tail : List UInt8) :
    (∃ result, decodeLoop left i bytes byte dst dstLength (before ++ c :: tail) = .ok result) ↔
      i + outputLength (byte + digitCount before) (pads before c) < 2 ^ 31 := by
  induction before generalizing left i bytes byte dst with
  | nil =>
    rw [List.nil_append, decodeLoop, decodeRound_stops ends, ok_bind, digitCount, List.countP_nil, Nat.add_zero,
      outputLength_of_lt (by omega)]
    by_cases isPad : c = 61
    · rw [if_pos isPad, pad]
      by_cases early : byte < 2
      · have none_written : (if pads [] c = true then byte - 1 else 0) = 0 := by split <;> omega
        rw [if_pos early, none_written]
        exact iff_of_true ⟨_, rfl⟩ fits
      · obtain ⟨dst', stored⟩ := storeGroup_padded i (bytes.set byte 254) byte dst (not_lt.mp early) room
        have padded : pads [] c = true := by simp [pads, isPad]
        rw [if_neg early, if_pos padded]
        dsimp only
        rw [stored]
        by_cases small : i + (byte - 1) < 2 ^ 31
        · rw [if_pos small, ok_bind]
          exact iff_of_true ⟨⟨.none, i + (byte - 1), dst'⟩, by simp⟩ small
        · rw [if_neg small]
          exact iff_of_false (by rintro ⟨_, ⟨⟩⟩) small
    · have unpadded : pads [] c = false := by simp [pads, isPad]
      rw [if_neg isPad, unpadded]
      refine iff_of_true ?_ fits
      by_cases nul : c = 0
      · rw [if_pos nul]
        exact ⟨_, rfl⟩
      · rw [if_neg nul]
        exact ⟨_, rfl⟩
  | cons b before ih =>
    obtain ⟨here, later⟩ := List.forall_mem_cons.mp goesOn
    rw [List.length_cons] at inside
    obtain space | ⟨digit, found⟩ := space_or_value here
    · have padded : pads (b :: before) c = pads before c := by
        cases before with
        | nil => simp [pads, value?_of_isSpace space]
        | cons b' before => exact pads_cons_cons b b' before
      rw [List.cons_append, decodeLoop_space_cons left i bytes byte dst dstLength space, digitCount_space space, padded]
      exact ih _ _ _ _ _ later room fits (by omega)
    · obtain ⟨c', rest, split⟩ : ∃ c' rest, before ++ c :: tail = c' :: rest := by
        cases before with
        | nil => exact ⟨c, tail, rfl⟩
        | cons b' before => exact ⟨b', before ++ c :: tail, rfl⟩
      rw [List.cons_append, digitCount_value found]
      by_cases gathering : byte < 3
      · by_cases nul : before = [] ∧ c = 0
        · obtain ⟨rfl, rfl⟩ := nul
          obtain ⟨bytes', ended⟩ := decodeLoop_nul_cons left i bytes byte dst dstLength found gathering tail
          have padded : pads [b] 0 = true := by simp [pads, found]
          rw [List.nil_append, ended, padded, digitCount, List.countP_nil, outputLength_of_lt (by omega), if_pos rfl]
          by_cases first : byte = 0
          · rw [if_pos first]
            exact iff_of_true ⟨_, rfl⟩ (by omega)
          · obtain ⟨dst', stored⟩ := storeGroup_padded i bytes' (byte + 1) dst (by omega) (by omega)
            rw [if_neg first, stored, Nat.add_sub_cancel]
            by_cases small : i + byte < 2 ^ 31
            · rw [if_pos small, ok_bind]
              exact iff_of_true ⟨_, rfl⟩ (by omega)
            · rw [if_neg small]
              exact iff_of_false (by rintro ⟨_, returned⟩; cases returned) (by omega)
        · have more : c' ≠ 0 := by
            cases before with
            | nil =>
              obtain rfl : c = c' := (List.cons.inj split).1
              simpa using nul
            | cons b' before =>
              obtain rfl : b' = c' := (List.cons.inj split).1
              exact ne_zero_of_not_stops (later b' (by simp))
          have padded : pads (b :: before) c = pads before c := by
            cases before with
            | nil =>
              have visible : c ≠ 0 := by simpa using nul
              simp [pads, visible]
            | cons b' before => exact pads_cons_cons b b' before
          rw [split, decodeLoop_digit_cons left i bytes byte dst dstLength found more gathering, ← split, padded,
            ih _ _ _ _ _ later (by omega) fits (by omega), add_assoc, add_comm 1]
      · obtain rfl : byte = 3 := by omega
        obtain ⟨dst', stored⟩ := storeGroup_returns i (bytes.set 3 (UInt8.ofNat digit)) dst
          (show (if false = true then 1 else if false = true then 2 else 3) = 3 from rfl)
        rw [split, decodeLoop_full_cons left i bytes dst dstLength found (by omega), stored, ← split,
          add_comm (digitCount before), ← add_assoc, outputLength_add, outputLength_pads_cons]
        by_cases full : i + 3 < 2 ^ 31
        · rw [if_pos full, ok_bind, ih _ _ _ _ _ later (by decide) full (by omega), Nat.zero_add, add_assoc]
        · rw [if_neg full]
          exact iff_of_false (by rintro ⟨_, returned⟩; cases returned) (by omega)

/-- Without a byte that ends the call the decoder runs out of the buffer, or of the counter. -/
theorem decodeLoop_ne_ok (goesOn : ∀ b ∈ source, stops b = false) (room : byte ≤ 3)
    (inside : source.length ≤ left) (result : DecodeResult) :
    decodeLoop left i bytes byte dst dstLength source ≠ .ok result := by
  induction source generalizing left i bytes byte dst with
  | nil => simp [decodeLoop]
  | cons b source ih =>
    obtain ⟨here, later⟩ := List.forall_mem_cons.mp goesOn
    rw [List.length_cons] at inside
    obtain space | ⟨digit, found⟩ := space_or_value here
    · rw [decodeLoop_space_cons left i bytes byte dst dstLength space]
      exact ih _ _ _ _ _ later room (by omega)
    · cases source with
      | nil =>
        rw [decodeLoop, List.head?_nil, decodeRound_of_value? found]
        intro returned
        cases returned
      | cons b' source =>
        have more : b' ≠ 0 := ne_zero_of_not_stops (later b' (by simp))
        by_cases gathering : byte < 3
        · rw [decodeLoop_digit_cons left i bytes byte dst dstLength found more gathering]
          exact ih _ _ _ _ _ later (by omega) (by omega)
        · obtain rfl : byte = 3 := by omega
          rw [List.length_cons] at inside
          rw [decodeLoop_full_cons left i bytes dst dstLength found (by omega)]
          cases storeGroup i dst (bytes.set 3 (UInt8.ofNat digit)) false false with
          | error fault =>
            intro returned
            cases returned
          | ok stored => exact ih _ _ _ _ _ later (by decide) (by rw [List.length_cons]; omega)

end Loop

/-- A call honours the source's length exactly when the source is empty, or when one of its
    bytes ends the call and what is written by then does not overflow the counter. -/
theorem honoursLength_iff (source : List UInt8) : HonoursLength source ↔ source = [] ∨ EndsInside source := by
  by_cases empty : source = []
  · rw [empty]
    exact iff_of_true (fun dst dstLength => ⟨_, fun rest => rfl⟩) (.inl rfl)
  have positive : source.length ≠ 0 := mt List.length_eq_zero_iff.mp empty
  rw [or_iff_right empty]
  constructor
  · intro honours
    obtain ⟨result, returned⟩ := honours none 0
    have alone := returned []
    rw [decode, if_neg positive, List.append_nil] at alone
    cases found : source.find? stops with
    | none =>
      have goesOn : ∀ b ∈ source, stops b = false := by simpa using found
      exact absurd alone (decodeLoop_ne_ok _ _ _ _ _ _ goesOn (by decide) le_rfl result)
    | some c =>
      obtain ⟨ends, before, after, split, goesOn⟩ := List.find?_eq_some_iff_append.mp found
      have goesOn : ∀ b ∈ before, stops b = false := by simpa using goesOn
      refine ⟨before, c, after, split, goesOn, ends, ?_⟩
      rw [← Nat.zero_add (digitCount before), ← Nat.zero_add (outputLength _ _)]
      rw [split] at alone
      refine (decodeLoop_returns_iff _ _ _ _ _ _ goesOn ends (by decide) (by decide) ?_ after).mp ⟨result, alone⟩
      simp
  · rintro ⟨before, c, after, split, goesOn, ends, fits⟩ dst dstLength
    have inside : before.length < source.length := by simp [split]
    rw [← Nat.zero_add (digitCount before), ← Nat.zero_add (outputLength _ _)] at fits
    obtain ⟨result, returned⟩ := (decodeLoop_returns_iff source.length 0 [0, 0, 0, 0] 0 dst dstLength goesOn ends
      (by decide) (by decide) inside after).mpr fits
    rw [← split] at returned
    refine ⟨result, fun rest => ?_⟩
    have endsInside : ∃ b ∈ source, stops b = true := ⟨c, by simp [split], ends⟩
    rw [decode, if_neg positive, decodeLoop_stops _ _ _ _ _ _ endsInside rest [], List.append_nil]
    exact returned

/-- `QQ`, where what follows decides between a byte and a bad character. -/
theorem not_honoursLength :
    ¬ ∀ (srcLength : Nat) (src src' : List UInt8) (dst : Dst) (dstLength : Nat),
      srcLength ≤ src.length → srcLength ≤ src'.length → src.take srcLength = src'.take srcLength →
      decode src srcLength dst dstLength = decode src' srcLength dst dstLength := by
  intro always
  have same := always 2 [81, 81, 0] [81, 81, 33] (some []) 0 (by decide) (by decide) rfl
  have different : decode [81, 81, 0] 2 (some []) 0 ≠ decode [81, 81, 33] 2 (some []) 0 := by decide
  exact different same

end FlutterZero.Shell.Base64

