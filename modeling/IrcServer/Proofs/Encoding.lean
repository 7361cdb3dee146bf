import IrcServer.LineReader
import Mathlib.Algebra.Group.Nat.Defs
import Mathlib.Data.List.Basic

namespace IrcServer

namespace Utf8

/-! Texts that are written as bytes and read back.

The bytes of a character are a first byte and bytes that continue it, six bits each.
`decode_encodeChar` reads one character off the front of any bytes; all else is by induction. -/

theorem toNat_ofNat {n : Nat} (small : n < 256) : (UInt8.ofNat n).toNat = n := by
  rw [UInt8.toNat_ofNat', Nat.mod_eq_of_lt small]

theorem following_step {count value n : Nat} {low high : UInt8} {rest : List UInt8}
    (above : low.toNat ≤ n % 64 + 128) (below : n % 64 + 128 ≤ high.toNat) :
    following (count + 1) low high value (UInt8.ofNat (n % 64 + 128) :: rest) =
      following count 0x80 0xBF (value * 64 + n % 64) rest := by
  have size : (UInt8.ofNat (n % 64 + 128)).toNat = n % 64 + 128 := toNat_ofNat (by omega)
  have fits : low ≤ UInt8.ofNat (n % 64 + 128) ∧ UInt8.ofNat (n % 64 + 128) ≤ high := by
    rw [UInt8.le_iff_toNat_le, UInt8.le_iff_toNat_le, size]
    exact ⟨above, below⟩
  rw [following, if_pos fits, size, Nat.add_sub_cancel]

/-- A byte after the second one of a character has no bounds of its own. -/
theorem following_next {count value n : Nat} {rest : List UInt8} :
    following (count + 1) 0x80 0xBF value (UInt8.ofNat (n % 64 + 128) :: rest) =
      following count 0x80 0xBF (value * 64 + n % 64) rest := by
  have low : (0x80 : UInt8).toNat = 128 := rfl
  have high : (0xBF : UInt8).toNat = 191 := rfl
  exact following_step (by omega) (by omega)

/-- The first byte of a character announces its bits and `count` more bytes, of which the first may
be the one with the last six bits of `next`. -/
def Announces (byte : UInt8) (bits count next : Nat) : Prop :=
  ∃ low high, Lead.ofByte? byte = some ⟨bits, count, low, high⟩ ∧
    low.toNat ≤ next % 64 + 128 ∧ next % 64 + 128 ≤ high.toNat

theorem decode_of_announces {byte : UInt8} {bits count next : Nat} {bytes rest : List UInt8}
    {c : Char} (announces : Announces byte bits count next)
    (read : ∀ low high : UInt8, low.toNat ≤ next % 64 + 128 → next % 64 + 128 ≤ high.toNat →
      following count low high bits (bytes ++ rest) = (some c.toNat, rest)) :
    decode (byte :: bytes ++ rest) = c :: decode rest := by
  obtain ⟨low, high, known, above, below⟩ := announces
  rw [List.cons_append, decode, known]
  simp only [read low high above below, Option.elim_some, Char.ofNat_toNat]

section FirstByte

variable {n : Nat}

theorem announces_one (small : n ≤ 127) : Announces (UInt8.ofNat n) n 0 0 := by
  refine ⟨0x80, 0xBF, ?_, by decide, by decide⟩
  have size : (UInt8.ofNat n).toNat = n := toNat_ofNat (by omega)
  simp only [Lead.ofByte?, size]
  rw [if_pos (by omega)]

theorem announces_two (more : ¬ n ≤ 127) (small : n ≤ 2047) :
    Announces (UInt8.ofNat (n / 64 % 32 + 192)) (n / 64) 1 n := by
  have low : (0x80 : UInt8).toNat = 128 := rfl
  have high : (0xBF : UInt8).toNat = 191 := rfl
  have bits : n / 64 % 32 + 192 - 0xC0 = n / 64 := by omega
  refine ⟨0x80, 0xBF, ?_, by omega, by omega⟩
  have size : (UInt8.ofNat (n / 64 % 32 + 192)).toNat = n / 64 % 32 + 192 :=
    toNat_ofNat (by omega)
  simp only [Lead.ofByte?, size]
  rw [if_neg (by omega), if_neg (by omega), if_pos (by omega), bits]

/-- The second byte of three excludes long forms and surrogates. -/
theorem announces_three (more : ¬ n ≤ 2047) (small : n ≤ 65535)
    (real : n < 0xD800 ∨ 0xDFFF < n) :
    Announces (UInt8.ofNat (n / 4096 % 16 + 224)) (n / 4096) 2 (n / 64) := by
  have low : (0x80 : UInt8).toNat = 128 ∧ (0xA0 : UInt8).toNat = 160 := ⟨rfl, rfl⟩
  have high : (0xBF : UInt8).toNat = 191 ∧ (0x9F : UInt8).toNat = 159 := ⟨rfl, rfl⟩
  have size : (UInt8.ofNat (n / 4096 % 16 + 224)).toNat = n / 4096 % 16 + 224 :=
    toNat_ofNat (by omega)
  unfold Announces
  simp only [Lead.ofByte?, size]
  rw [if_neg (by omega), if_neg (by omega), if_neg (by omega)]
  by_cases first : n / 4096 = 0
  · rw [if_pos (by omega), first]
    exact ⟨0xA0, 0xBF, rfl, by omega, by omega⟩
  rw [if_neg (by omega)]
  by_cases last : n / 4096 = 0xD
  · rw [if_pos (by omega), last]
    exact ⟨0x80, 0x9F, rfl, by omega, by omega⟩
  have bits : n / 4096 % 16 + 224 - 0xE0 = n / 4096 := by omega
  rw [if_neg (by omega), if_pos (by omega), bits]
  exact ⟨0x80, 0xBF, rfl, by omega, by omega⟩

/-- The second byte of four excludes long forms and numbers that no character has. -/
theorem announces_four (more : ¬ n ≤ 65535) (small : n < 0x110000) :
    Announces (UInt8.ofNat (n / 262144 % 8 + 240)) (n / 262144) 3 (n / 4096) := by
  have low : (0x80 : UInt8).toNat = 128 ∧ (0x90 : UInt8).toNat = 144 := ⟨rfl, rfl⟩
  have high : (0xBF : UInt8).toNat = 191 ∧ (0x8F : UInt8).toNat = 143 := ⟨rfl, rfl⟩
  have size : (UInt8.ofNat (n / 262144 % 8 + 240)).toNat = n / 262144 % 8 + 240 :=
    toNat_ofNat (by omega)
  unfold Announces
  simp only [Lead.ofByte?, size]
  rw [if_neg (by omega), if_neg (by omega), if_neg (by omega), if_neg (by omega),
    if_neg (by omega), if_neg (by omega)]
  by_cases first : n / 262144 = 0
  · rw [if_pos (by omega), first]
    exact ⟨0x90, 0xBF, rfl, by omega, by omega⟩
  rw [if_neg (by omega)]
  by_cases last : n / 262144 = 4
  · rw [if_neg (by omega), if_pos (by omega), last]
    exact ⟨0x80, 0x8F, rfl, by omega, by omega⟩
  have bits : n / 262144 % 8 + 240 - 0xF0 = n / 262144 := by omega
  rw [if_pos (by omega), bits]
  exact ⟨0x80, 0xBF, rfl, by omega, by omega⟩

end FirstByte

theorem decode_encodeChar (c : Char) (rest : List UInt8) :
    decode (String.utf8EncodeChar c ++ rest) = c :: decode rest := by
  have real : c.toNat < 0xD800 ∨ 0xDFFF < c.toNat ∧ c.toNat < 0x110000 := c.valid
  have number : c.val.toNat = c.toNat := rfl
  rw [String.utf8EncodeChar]
  simp only [number]
  split
  · rename_i small
    exact decode_of_announces (announces_one small) fun _ _ _ _ => rfl
  split
  · rename_i more small
    refine decode_of_announces (announces_two more small) fun low high above below => ?_
    rw [List.singleton_append, following_step above below, following]
    congr 2
    omega
  split
  · rename_i more small
    refine decode_of_announces (announces_three more small (by omega))
      fun low high above below => ?_
    rw [List.cons_append, List.singleton_append, following_step above below, following_next,
      following]
    congr 2
    omega
  · rename_i more
    refine decode_of_announces (announces_four more (by omega)) fun low high above below => ?_
    rw [List.cons_append, List.cons_append, List.singleton_append, following_step above below,
      following_next, following_next, following]
    congr 2
    omega

theorem encode_append (left right : Text) : encode (left ++ right) = encode left ++ encode right :=
  List.flatMap_append

/-- What is written is read back, whatever follows. -/
theorem decode_encode_append (text : Text) (rest : List UInt8) :
    decode (encode text ++ rest) = text ++ decode rest := by
  induction text with
  | nil => rfl
  | cons c text inductionHypothesis =>
      rw [encode, List.flatMap_cons, List.append_assoc, decode_encodeChar, ← encode,
        inductionHypothesis, List.cons_append]

theorem decode_encode (text : Text) : decode (encode text) = text := by
  have read := decode_encode_append text []
  rwa [List.append_nil, decode, List.append_nil] at read

theorem length_encode (text : Text) : (encode text).length = text.byteLength := by
  induction text with
  | nil => rfl
  | cons c text inductionHypothesis =>
      rw [encode, List.flatMap_cons, List.length_append, String.length_utf8EncodeChar, ← encode,
        inductionHypothesis, Text.byteLength_cons]

section Order

variable {m n : Nat} {left right : List UInt8}

theorem ofNat_cons_lt (less : m < n) (small : n < 256) :
    UInt8.ofNat m :: left < UInt8.ofNat n :: right := by
  refine List.cons_lt_cons_iff.mpr (.inl ?_)
  rw [UInt8.lt_iff_toNat_lt, toNat_ofNat (by omega), toNat_ofNat small]
  exact less

theorem ofNat_cons_lt_of_le (order : m ≤ n) (small : n < 256) (rest : m = n → left < right) :
    UInt8.ofNat m :: left < UInt8.ofNat n :: right := by
  rcases Nat.lt_or_eq_of_le order with less | rfl
  · exact ofNat_cons_lt less small
  · exact List.cons_lt_cons_iff.mpr (.inr ⟨rfl, rest rfl⟩)

/-- The bytes of a character come before those of a character with a greater number. -/
theorem encodeChar_append_lt {a b : Char} (less : a.toNat < b.toNat) :
    String.utf8EncodeChar a ++ left < String.utf8EncodeChar b ++ right := by
  have number : a.val.toNat = a.toNat ∧ b.val.toNat = b.toNat := ⟨rfl, rfl⟩
  have real : b.toNat < 0xD800 ∨ 0xDFFF < b.toNat ∧ b.toNat < 0x110000 := b.valid
  simp only [String.utf8EncodeChar, number]
  split_ifs
  -- More bytes begin with a greater one, and as many differ where the numbers do.
  all_goals first
    | omega
    | exact ofNat_cons_lt (by omega) (by omega)
    | exact ofNat_cons_lt_of_le (by omega) (by omega) fun first =>
        ofNat_cons_lt (by omega) (by omega)
    | exact ofNat_cons_lt_of_le (by omega) (by omega) fun first =>
        ofNat_cons_lt_of_le (by omega) (by omega) fun second =>
          ofNat_cons_lt (by omega) (by omega)
    | exact ofNat_cons_lt_of_le (by omega) (by omega) fun first =>
        ofNat_cons_lt_of_le (by omega) (by omega) fun second =>
          ofNat_cons_lt_of_le (by omega) (by omega) fun third =>
            ofNat_cons_lt (by omega) (by omega)

end Order

/-- The order of texts is that of their bytes. -/
theorem encode_lt_encode {first second : Text} (order : first.le second = true)
    (differs : first ≠ second) : encode first < encode second := by
  induction first generalizing second with
  | nil =>
      obtain ⟨c, rest, rfl⟩ := List.exists_cons_of_ne_nil differs.symm
      have filled : encode (c :: rest) ≠ [] := by
        intro empty
        have length := (length_encode (c :: rest)).symm.trans (congrArg List.length empty)
        exact absurd length (Nat.ne_of_gt (Nat.add_pos_left c.utf8Size_pos _))
      obtain ⟨byte, bytes, shape⟩ := List.exists_cons_of_ne_nil filled
      rw [shape]
      exact List.nil_lt_cons byte bytes
  | cons a first inductionHypothesis =>
      cases second with
      | nil => cases order
      | cons b second =>
          simp only [Text.le, Bool.or_eq_true, decide_eq_true_eq, Bool.and_eq_true, beq_iff_eq]
            at order
          rcases order with less | ⟨rfl, order⟩
          · exact encodeChar_append_lt less
          · exact List.append_left_lt
              (inductionHypothesis order fun same => differs (congrArg _ same))

/-- A byte below 128 stands for itself and is part of no other character. -/
theorem mem_encodeChar {byte : UInt8} {c : Char} (small : byte.toNat < 128)
    (member : byte ∈ String.utf8EncodeChar c) : c.toNat = byte.toNat := by
  have number : c.val.toNat = c.toNat := rfl
  have large : ∀ {n : Nat}, byte = UInt8.ofNat n → n < 256 → 128 ≤ n → False := by
    intro n same fits beyond
    have size := congrArg UInt8.toNat same
    rw [toNat_ofNat fits] at size
    omega
  simp only [String.utf8EncodeChar, number] at member
  split at member
  · rename_i less
    rw [List.mem_singleton.mp member, toNat_ofNat (by omega)]
  · exfalso
    split at member
    · rcases List.mem_cons.mp member with same | tail
      · exact large same (by omega) (by omega)
      · exact large (List.mem_singleton.mp tail) (by omega) (by omega)
    · split at member <;> grind

theorem lineFeed_mem_encode {text : Text} : lineFeed ∈ encode text ↔ '\n' ∈ text := by
  rw [encode, List.mem_flatMap]
  constructor
  · intro member
    obtain ⟨c, inside, member⟩ := member
    have number := mem_encodeChar (by decide) member
    have same : c = '\n' := Char.toNat_inj.mp number
    exact same ▸ inside
  · intro member
    exact ⟨'\n', member, by decide⟩

/-! Bytes without an LF are read as a text without one, whether they are UTF-8 or not. -/

theorem following_sublist (count : Nat) (low high : UInt8) (value : Nat) (bytes : List UInt8) :
    (following count low high value bytes).2.Sublist bytes := by
  induction count generalizing low high value bytes with
  | zero => exact List.Sublist.refl _
  | succ count inductionHypothesis =>
      cases bytes with
      | nil => exact List.Sublist.refl _
      | cons byte bytes =>
          rw [following]
          split
          · exact (inductionHypothesis _ _ _ _).trans (List.sublist_cons_self _ _)
          · exact List.Sublist.refl _

/-- Every byte that follows adds six bits. -/
theorem le_of_following {count value n : Nat} {low high : UInt8} {bytes : List UInt8}
    (read : (following count low high value bytes).1 = some n) : value * 64 ^ count ≤ n := by
  induction count generalizing low high value bytes with
  | zero =>
      cases read
      simp
  | succ count inductionHypothesis =>
      cases bytes with
      | nil => cases read
      | cons byte bytes =>
          rw [following] at read
          split at read
          · have later := inductionHypothesis read
            have more : value * 64 ^ (count + 1) ≤ (value * 64 + (byte.toNat - 0x80)) * 64 ^ count := by
              rw [Nat.pow_succ', ← Nat.mul_assoc]
              exact Nat.mul_le_mul_right _ (Nat.le_add_right _ _)
            exact Nat.le_trans more later
          · cases read

theorem le_of_following_succ {count value n : Nat} {low high : UInt8} {bytes : List UInt8}
    (read : (following (count + 1) low high value bytes).1 = some n) :
    (value * 64 + (low.toNat - 0x80)) * 64 ^ count ≤ n := by
  cases bytes with
  | nil => cases read
  | cons byte bytes =>
      rw [following] at read
      split at read
      · rename_i bounds
        have above := UInt8.le_iff_toNat_le.mp bounds.1
        apply Nat.le_trans _ (le_of_following read)
        apply Nat.mul_le_mul_right
        omega
      · cases read

/-- What a first byte announces is itself, or a character beyond ASCII. -/
theorem Lead.ofByte?_cases {byte : UInt8} {lead : Lead} (known : ofByte? byte = some lead) :
    (lead.following = 0 ∧ lead.bits = byte.toNat) ∨
      ∃ count, lead.following = count + 1 ∧
        128 ≤ (lead.bits * 64 + (lead.low.toNat - 0x80)) * 64 ^ count := by
  have lows : (0x80 : UInt8).toNat = 128 ∧ (0xA0 : UInt8).toNat = 160 ∧ (0x90 : UInt8).toNat = 144 :=
    ⟨rfl, rfl, rfl⟩
  have beyond : ∀ {bits count : Nat} {low high : UInt8},
      some ⟨bits, count + 1, low, high⟩ = some lead →
      128 ≤ (bits * 64 + (low.toNat - 0x80)) * 64 ^ count →
        ∃ count, lead.following = count + 1 ∧
          128 ≤ (lead.bits * 64 + (lead.low.toNat - 0x80)) * 64 ^ count := by
    intro bits count low high same far
    rw [← Option.some.inj same]
    exact ⟨count, rfl, far⟩
  simp only [ofByte?] at known
  split at known
  · rw [← Option.some.inj known]
    exact .inl ⟨rfl, rfl⟩
  split at known
  · cases known
  right
  split at known
  · exact beyond known (by omega)
  split at known
  · exact beyond known (by omega)
  split at known
  · exact beyond known (by omega)
  split at known
  · exact beyond known (by omega)
  split at known
  · exact beyond known (by omega)
  split at known
  · exact beyond known (by omega)
  split at known
  · exact beyond known (by omega)
  · cases known

theorem replacement_ne_lineFeed : '\n' ≠ replacement := by decide

theorem eq_ten_of_ofNat {n : Nat} (same : '\n' = Char.ofNat n) : n = 10 := by
  have code : (Char.ofNat n).toNat = 10 := congrArg Char.toNat same.symm
  by_cases valid : n.isValidChar
  · rwa [Char.ofNat, dif_pos valid] at code
  · rw [Char.ofNat, dif_neg valid] at code
    cases code

/-- An LF is read where there is one. -/
theorem lineFeed_not_mem_decode {bytes : List UInt8} (clean : lineFeed ∉ bytes) :
    '\n' ∉ decode bytes := by
  induction bytes using decode.induct with
  | case1 => simp [decode]
  | case2 byte bytes unknown inductionHypothesis =>
      rw [decode, unknown]
      simp only [List.mem_cons, not_or] at clean ⊢
      exact ⟨replacement_ne_lineFeed, inductionHypothesis clean.2⟩
  | case3 byte bytes lead known read inductionHypothesis =>
      rw [decode, known]
      simp only [List.mem_cons, not_or] at clean ⊢
      refine ⟨fun same => ?_, inductionHypothesis fun later =>
        clean.2 ((following_sublist _ _ _ _ _).subset later)⟩
      obtain ⟨n, value, number⟩ : ∃ n, (following lead.following lead.low lead.high lead.bits
          bytes).1 = some n ∧ n = 10 := by
        cases value : (following lead.following lead.low lead.high lead.bits bytes).1 with
        | none =>
            rw [value] at same
            exact absurd same replacement_ne_lineFeed
        | some n =>
            rw [value, Option.elim_some] at same
            exact ⟨n, rfl, eq_ten_of_ofNat same⟩
      rcases Lead.ofByte?_cases known with ⟨alone, bits⟩ | ⟨count, more, far⟩
      · rw [alone, following, bits, number] at value
        exact clean.1 (UInt8.toNat_inj.mp (Option.some.inj value).symm)
      · rw [more] at value
        have large := le_of_following_succ value
        omega

end Utf8

end IrcServer
