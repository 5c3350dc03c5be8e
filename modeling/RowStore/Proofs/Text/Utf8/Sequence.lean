import Mathlib.Data.List.Forall2
import RowStore.Text.Utf8.RoundTrip

/-!
# Sequences of bytes

A first byte expects each of the bytes behind it in a range. Bytes in these ranges are the bytes
of a character, so every front of such a sequence begins a character. Reading a sequence goes on
to its last byte or stops in front of the first byte that is not admitted.
-/

namespace RowStore.Text.Utf8

/-- What a first byte can be, by the number of bytes that follow it. -/
inductive Lead (first : UInt8) : Nat → List ByteRange → Prop
  | one {value : Nat} (byte : first.toNat = value) (high : value < 128) : Lead first value []
  | two {value : Nat} (byte : first.toNat = value + 192) (low : 2 ≤ value) (high : value < 32) :
      Lead first value [trailing]
  | three {value : Nat} (byte : first.toNat = value + 224) (high : value < 16) :
      Lead first value [secondOfThree value, trailing]
  | four {value : Nat} (byte : first.toNat = value + 240) (high : value < 5) :
      Lead first value [secondOfFour value, trailing, trailing]

/-- A byte that is read as a first one is one, with the ranges that are expected behind it. -/
theorem lead_of_lead? {first : UInt8} {value : Nat} {following : List ByteRange}
    (found : lead? first = some (value, following)) : Lead first value following := by
  simp only [lead?] at found
  repeat' split at found
  all_goals simp only [Option.some.injEq, Prod.mk.injEq, reduceCtorEq] at found
  all_goals obtain ⟨rfl, rfl⟩ := found
  · exact .one rfl ‹_›
  · exact .two (by omega) (by omega) (by omega)
  · exact .three (by omega) (by decide)
  · exact .three (by omega) (by decide)
  · have lead : Lead first (first.toNat - 0xE0) [secondOfThree (first.toNat - 0xE0), trailing] :=
      .three (by omega) (by omega)
    rwa [secondOfThree, if_neg (by omega), if_neg (by omega)] at lead
  · exact .four (by omega) (by decide)
  · have lead : Lead first (first.toNat - 0xF0)
        [secondOfFour (first.toNat - 0xF0), trailing, trailing] := .four (by omega) (by omega)
    rwa [secondOfFour, if_neg (by omega), if_neg (by omega)] at lead
  · exact .four (by omega) (by decide)

/-- Bytes that lie in the ranges expected of them, one byte for each range. -/
def Follows (ranges : List ByteRange) (bytes : List UInt8) : Prop :=
  List.Forall₂ (fun range byte => range.admits byte = true) ranges bytes

/-- A range admits the bytes between its bounds. -/
theorem admits_iff {range : ByteRange} {byte : UInt8} :
    range.admits byte = true ↔ range.low.toNat ≤ byte.toNat ∧ byte.toNat ≤ range.high.toNat := by
  simp only [ByteRange.admits, Bool.and_eq_true, decide_eq_true_eq, UInt8.le_iff_toNat_le]

/-- The values of the bytes of a character, by its size. -/
theorem toNat_encodeChar {value : Nat} (valid : value.isValidChar) :
    (String.utf8EncodeChar (Char.ofNat value)).map UInt8.toNat =
      if value < 128 then [value]
      else if value < 2048 then [value / 64 + 192, value % 64 + 128]
      else if value < 65536 then [value / 4096 + 224, value / 64 % 64 + 128, value % 64 + 128]
      else [value / 262144 + 240, value / 4096 % 64 + 128, value / 64 % 64 + 128,
        value % 64 + 128] := by
  have number : (Char.ofNat value).val.toNat = value := by
    rw [Char.ofNat, dif_pos valid]
    rfl
  have bound : value < 0x110000 := by
    rcases valid with low | ⟨-, high⟩
    · exact Nat.lt_trans low (by decide)
    · exact high
  simp only [String.utf8EncodeChar, number]
  by_cases one : value < 128
  · rw [if_pos (Nat.le_of_lt_succ one), if_pos one]
    simp only [List.map_cons, List.map_nil, UInt8.toNat_ofNat']
    rw [Nat.mod_eq_of_lt (by omega)]
  rw [if_neg (by omega), if_neg one]
  by_cases two : value < 2048
  · rw [if_pos (Nat.le_of_lt_succ two), if_pos two]
    simp only [List.map_cons, List.map_nil, UInt8.toNat_ofNat', List.cons.injEq, and_true]
    omega
  rw [if_neg (by omega), if_neg two]
  by_cases three : value < 65536
  · rw [if_pos (Nat.le_of_lt_succ three), if_pos three]
    simp only [List.map_cons, List.map_nil, UInt8.toNat_ofNat', List.cons.injEq, and_true]
    omega
  · rw [if_neg (by omega), if_neg three]
    simp only [List.map_cons, List.map_nil, UInt8.toNat_ofNat', List.cons.injEq, and_true]
    omega

/-- The bounds of the second byte of three. -/
theorem secondOfThree_admits {high : Nat} {byte : UInt8}
    (admitted : (secondOfThree high).admits byte = true) :
    128 ≤ byte.toNat ∧ byte.toNat < 192 ∧ (high = 0 → 160 ≤ byte.toNat) ∧
      (high = 13 → byte.toNat < 160) := by
  rw [admits_iff, secondOfThree] at admitted
  split at admitted
  · have bounds : 160 ≤ byte.toNat ∧ byte.toNat ≤ 191 := admitted
    omega
  split at admitted
  · have bounds : 128 ≤ byte.toNat ∧ byte.toNat ≤ 159 := admitted
    omega
  · have bounds : 128 ≤ byte.toNat ∧ byte.toNat ≤ 191 := admitted
    omega

/-- The bounds of the second byte of four. -/
theorem secondOfFour_admits {high : Nat} {byte : UInt8}
    (admitted : (secondOfFour high).admits byte = true) :
    128 ≤ byte.toNat ∧ byte.toNat < 192 ∧ (high = 0 → 144 ≤ byte.toNat) ∧
      (high = 4 → byte.toNat < 144) := by
  rw [admits_iff, secondOfFour] at admitted
  split at admitted
  · have bounds : 144 ≤ byte.toNat ∧ byte.toNat ≤ 191 := admitted
    omega
  split at admitted
  · have bounds : 128 ≤ byte.toNat ∧ byte.toNat ≤ 143 := admitted
    omega
  · have bounds : 128 ≤ byte.toNat ∧ byte.toNat ≤ 191 := admitted
    omega

/-- The bounds of any other byte that continues a sequence. -/
theorem trailing_admits {byte : UInt8} (admitted : trailing.admits byte = true) :
    128 ≤ byte.toNat ∧ byte.toNat < 192 := by
  have bounds : 128 ≤ byte.toNat ∧ byte.toNat ≤ 191 := admits_iff.1 admitted
  omega

/-- Bytes with the values of the bytes of a character are those bytes. -/
theorem exists_encodeChar {value : Nat} {bytes : List UInt8}
    (values : (String.utf8EncodeChar (Char.ofNat value)).map UInt8.toNat =
      bytes.map UInt8.toNat) :
    ∃ c : Char, String.utf8EncodeChar c = bytes :=
  ⟨Char.ofNat value, (List.map_inj_right fun _ _ => UInt8.toNat_inj.1).1 values⟩

/-- A first byte and the bytes that it expects are the bytes of a character. -/
theorem Lead.exists_encodeChar {first : UInt8} {value : Nat} {following : List ByteRange}
    (lead : Lead first value following) {tail : List UInt8} (follows : Follows following tail) :
    ∃ c : Char, String.utf8EncodeChar c = first :: tail := by
  cases lead with
  | one byte high =>
    cases follows with
    | nil =>
      have valid : value.isValidChar := .inl (by omega)
      apply Utf8.exists_encodeChar
      rw [toNat_encodeChar valid, if_pos high]
      simp only [List.map_cons, List.map_nil, byte]
  | two byte low high =>
    obtain ⟨second, -, admitted, ⟨⟩, rfl⟩ := List.forall₂_cons_left_iff.1 follows
    have bounds := trailing_admits admitted
    have valid : (value * 64 + (second.toNat - 128)).isValidChar := .inl (by omega)
    apply Utf8.exists_encodeChar
    rw [toNat_encodeChar valid, if_neg (by omega), if_pos (by omega)]
    simp only [List.map_cons, List.map_nil, List.cons.injEq, and_true]
    omega
  | three byte high =>
    obtain ⟨second, _, admitted, others, rfl⟩ := List.forall₂_cons_left_iff.1 follows
    obtain ⟨third, _, last, ⟨⟩, rfl⟩ := List.forall₂_cons_left_iff.1 others
    have narrow := secondOfThree_admits admitted
    have bounds := trailing_admits last
    have valid :
        ((value * 64 + (second.toNat - 128)) * 64 + (third.toNat - 128)).isValidChar := by
      by_cases low : value < 14
      · exact .inl (by omega)
      · exact .inr (by omega)
    apply Utf8.exists_encodeChar
    rw [toNat_encodeChar valid, if_neg (by omega), if_neg (by omega), if_pos (by omega)]
    simp only [List.map_cons, List.map_nil, List.cons.injEq, and_true]
    omega
  | four byte high =>
    obtain ⟨second, _, admitted, others, rfl⟩ := List.forall₂_cons_left_iff.1 follows
    obtain ⟨third, _, middle, final, rfl⟩ := List.forall₂_cons_left_iff.1 others
    obtain ⟨fourth, _, last, ⟨⟩, rfl⟩ := List.forall₂_cons_left_iff.1 final
    have narrow := secondOfFour_admits admitted
    have bounds := trailing_admits middle
    have ends := trailing_admits last
    have valid : (((value * 64 + (second.toNat - 128)) * 64 + (third.toNat - 128)) * 64 +
        (fourth.toNat - 128)).isValidChar := .inr (by omega)
    apply Utf8.exists_encodeChar
    rw [toNat_encodeChar valid, if_neg (by omega), if_neg (by omega), if_neg (by omega)]
    simp only [List.map_cons, List.map_nil, List.cons.injEq, and_true]
    omega

/-- The ranges expected behind a first byte are not empty. -/
theorem Lead.admits_low {first : UInt8} {value : Nat} {following : List ByteRange}
    (lead : Lead first value following) : ∀ range ∈ following, range.admits range.low = true := by
  have others : trailing.admits trailing.low = true := by decide
  have three : ∀ value < 16, (secondOfThree value).admits (secondOfThree value).low = true := by
    decide
  have four : ∀ value < 5, (secondOfFour value).admits (secondOfFour value).low = true := by
    decide
  cases lead with
  | one => simp
  | two => simpa using others
  | three _ high => simpa using ⟨three _ high, others⟩
  | four _ high => simpa using ⟨four _ high, others⟩

/-- Reading goes on behind a first byte up to the last byte that it expects, or up to the first
byte that is not admitted, which begins the next part. -/
theorem resume_scanFrom (value : Nat) (ranges : List ByteRange) (bytes : List UInt8) :
    ∃ tail rest, bytes = tail ++ rest ∧
      ((Follows ranges tail ∧ ∃ c, (resume value ranges).1 ++
          scanFrom (resume value ranges).2 bytes = some c :: scan rest) ∨
        (∃ front missed later, ranges = front ++ missed :: later ∧ Follows front tail ∧
          (∀ byte ∈ rest.head?, missed.admits byte = false) ∧
          (resume value ranges).1 ++ scanFrom (resume value ranges).2 bytes =
            none :: scan rest)) := by
  induction ranges generalizing value bytes with
  | nil => exact ⟨[], bytes, rfl, .inl ⟨.nil, _, rfl⟩⟩
  | cons next later ih =>
    cases bytes with
    | nil => exact ⟨[], [], rfl, .inr ⟨[], next, later, rfl, .nil, by simp, rfl⟩⟩
    | cons byte bytes =>
      cases admitted : next.admits byte with
      | true =>
        obtain ⟨tail, rest, rfl, read⟩ := ih (value * 64 + (byte.toNat - 0x80)) bytes
        have step : (resume value (next :: later)).1 ++
              scanFrom (resume value (next :: later)).2 (byte :: (tail ++ rest)) =
            (resume (value * 64 + (byte.toNat - 0x80)) later).1 ++
              scanFrom (resume (value * 64 + (byte.toNat - 0x80)) later).2 (tail ++ rest) := by
          simp only [resume, scanFrom, Utf8.step, admitted, if_true, List.nil_append]
        refine ⟨byte :: tail, rest, rfl, ?_⟩
        rw [step]
        obtain ⟨follows, whole⟩ | ⟨front, missed, after, rfl, follows, stopped, cut⟩ := read
        · exact .inl ⟨.cons admitted follows, whole⟩
        · exact .inr ⟨next :: front, missed, after, rfl, .cons admitted follows, stopped, cut⟩
      | false =>
        refine ⟨[], byte :: bytes, rfl, .inr ⟨[], next, later, rfl, .nil, ?_, ?_⟩⟩
        · simpa using admitted
        · simp only [resume, scanFrom, Utf8.step, admitted, scan]
          rfl

end RowStore.Text.Utf8
