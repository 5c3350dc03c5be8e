import RowStore.Proofs.Text.Utf8.Sequence

/-!
# Replacement of ill-formed parts

Lenient reading is said here without a reader: a character is read where its bytes stand, and
elsewhere the longest front with which a character could begin, or else a single byte, is replaced
as one part. Bytes have exactly one text in this sense, the one that is computed.
-/

namespace RowStore.Text.Utf8

/-- Reading bytes gives at least one part for them. -/
theorem scan_eq_nil {bytes : List UInt8} : scan bytes = [] ↔ bytes = [] := by
  constructor
  · intro none
    cases bytes with
    | nil => rfl
    | cons first more =>
      simp only [scan, scanFrom, step, begin] at none
      cases lead : lead? first with
      | none => simp [lead] at none
      | some found =>
        simp only [lead] at none
        obtain ⟨tail, rest, -, ⟨-, c, whole⟩ | ⟨_, _, _, -, -, -, cut⟩⟩ :=
          resume_scanFrom found.1 found.2 more
        · simp [whole] at none
        · simp [cut] at none
  · rintro rfl
    rfl

/-- A byte that begins no sequence is a part of its own. -/
theorem scan_cons_of_none {first : UInt8} (lead : lead? first = none) (more : List UInt8) :
    scan (first :: more) = none :: scan more := by
  simp [scan, scanFrom, step, begin, lead]

/-- A byte that begins a sequence is followed by what it expects. -/
theorem scan_cons_of_some {first : UInt8} {value : Nat} {following : List ByteRange}
    (lead : lead? first = some (value, following)) (more : List UInt8) :
    scan (first :: more) =
      (resume value following).1 ++ scanFrom (resume value following).2 more := by
  simp [scan, scanFrom, step, begin, lead]

/-- Bytes of a character are read as the character. -/
theorem scan_encodeChar_append (c : Char) (rest : List UInt8) :
    scan (String.utf8EncodeChar c ++ rest) = some c :: scan rest :=
  scanFrom_encodeChar c rest

/-- The bytes of a character are a first byte and those that it expects. -/
theorem lead?_of_encodeChar {c : Char} {first : UInt8} {tail : List UInt8}
    (encoded : String.utf8EncodeChar c = first :: tail) :
    ∃ value following, lead? first = some (value, following) ∧ Follows following tail := by
  have read := scan_encodeChar_append c []
  rw [List.append_nil, encoded, scan_nil] at read
  cases lead : lead? first with
  | none => simp [scan_cons_of_none lead] at read
  | some found =>
    obtain ⟨value, following⟩ := found
    rw [scan_cons_of_some lead] at read
    obtain ⟨front, rest, rfl, ⟨follows, c, whole⟩ | ⟨_, _, _, -, -, -, cut⟩⟩ :=
      resume_scanFrom value following tail
    · rw [whole] at read
      obtain rfl : rest = [] := scan_eq_nil.1 (List.cons.inj read).2
      rw [List.append_nil]
      exact ⟨value, following, rfl, follows⟩
    · rw [cut] at read
      cases read

/-- A front of the bytes of a character. -/
def Begins (part : List UInt8) : Prop := ∃ c : Char, part <+: String.utf8EncodeChar c

/-- The part in front of some bytes that cannot be read: no character stands there, and the part
is as long as bytes can begin a character, or a single byte. -/
structure IllFormed (part rest : List UInt8) : Prop where
  nonempty : part ≠ []
  unreadable : ∀ c : Char, ¬String.utf8EncodeChar c <+: part ++ rest
  begins : Begins part ∨ part.length = 1
  maximal : ∀ longer, longer <+: part ++ rest → Begins longer → longer.length ≤ part.length

/-- Text read from bytes: characters where their bytes stand, and the replacement character for
each maximal ill-formed part. -/
inductive Replaced : List UInt8 → List Char → Prop where
  | nil : Replaced [] []
  | character (c : Char) {rest : List UInt8} {text : List Char} (after : Replaced rest text) :
      Replaced (String.utf8EncodeChar c ++ rest) (c :: text)
  | illFormed {part rest : List UInt8} {text : List Char} (broken : IllFormed part rest)
      (after : Replaced rest text) : Replaced (part ++ rest) ('\uFFFD' :: text)

/-- Where a part is read as ill-formed no character stands. -/
theorem unreadable_of_scan {bytes : List UInt8} {parts : List (Option Char)}
    (read : scan bytes = none :: parts) (c : Char) : ¬String.utf8EncodeChar c <+: bytes := by
  rintro ⟨rest, rfl⟩
  rw [scan_encodeChar_append] at read
  cases read

/-- A byte that begins no sequence is an ill-formed part. -/
theorem illFormed_of_lead?_eq_none {first : UInt8} (lead : lead? first = none)
    (rest : List UInt8) : IllFormed [first] rest := by
  constructor
  case nonempty => simp
  case unreadable => exact unreadable_of_scan (scan_cons_of_none lead rest)
  case begins => exact .inr rfl
  case maximal =>
    rintro longer front ⟨c, others, encoded⟩
    cases longer with
    | nil => exact Nat.zero_le _
    | cons byte bytes =>
      obtain rfl : byte = first := (List.cons_prefix_cons.1 front).1
      obtain ⟨value, following, found, -⟩ := lead?_of_encodeChar encoded.symm
      rw [lead] at found
      cases found

/-- A first byte with some of the bytes that it expects begins a character. -/
theorem Lead.begins {first : UInt8} {value : Nat} {front later : List ByteRange}
    (lead : Lead first value (front ++ later)) {tail : List UInt8} (follows : Follows front tail) :
    Begins (first :: tail) := by
  have least : Follows later (later.map ByteRange.low) :=
    List.forall₂_map_right_iff.2 (List.forall₂_same.2 fun range member =>
      lead.admits_low range (List.mem_append_right front member))
  obtain ⟨c, encoded⟩ := lead.exists_encodeChar (List.rel_append follows least)
  exact ⟨c, later.map ByteRange.low, encoded.symm⟩

/-- A first byte with some of the bytes that it expects, up to one that it does not, is an
ill-formed part. -/
theorem illFormed_of_missed {first : UInt8} {value : Nat} {front later : List ByteRange}
    {missed : ByteRange} (lead : lead? first = some (value, front ++ missed :: later))
    {tail rest : List UInt8} (follows : Follows front tail)
    (stopped : ∀ byte ∈ rest.head?, missed.admits byte = false)
    {parts : List (Option Char)} (read : scan (first :: tail ++ rest) = none :: parts) :
    IllFormed (first :: tail) rest := by
  constructor
  case nonempty => simp
  case unreadable => exact unreadable_of_scan read
  case begins => exact .inl ((lead_of_lead? lead).begins follows)
  case maximal =>
    -- A longer front of a character would have a byte in place of the one that is not admitted.
    rintro longer ⟨behind, whole⟩ ⟨c, others, encoded⟩
    by_contra shorter
    obtain ⟨extra, rfl⟩ : first :: tail <+: longer :=
      List.prefix_of_prefix_length_le (List.prefix_append _ rest) ⟨behind, whole⟩ (by omega)
    rw [List.append_assoc, List.append_cancel_left_eq] at whole
    cases extra with
    | nil => simp at shorter
    | cons byte extra =>
      have refused : missed.admits byte = false := stopped byte (by rw [← whole]; rfl)
      rw [List.append_assoc, List.cons_append] at encoded
      obtain ⟨_, _, found, expected⟩ := lead?_of_encodeChar encoded.symm
      rw [lead] at found
      obtain ⟨rfl, rfl⟩ := Prod.mk.inj (Option.some.inj found)
      have aligned : front.length = tail.length := follows.length_eq
      have left := List.forall₂_drop_append _ _ _ expected
      rw [← aligned, List.drop_left] at left
      cases left with
      | cons admitted _ =>
        rw [refused] at admitted
        cases admitted

/-- Reading takes a character off the front, or a maximal ill-formed part. -/
theorem scan_first {bytes : List UInt8} (nonempty : bytes ≠ []) :
    (∃ c rest, bytes = String.utf8EncodeChar c ++ rest ∧ scan bytes = some c :: scan rest) ∨
    ∃ part rest, bytes = part ++ rest ∧ IllFormed part rest ∧ scan bytes = none :: scan rest := by
  obtain ⟨first, more, rfl⟩ := List.exists_cons_of_ne_nil nonempty
  cases lead : lead? first with
  | none =>
    exact .inr ⟨[first], more, rfl, illFormed_of_lead?_eq_none lead more,
      scan_cons_of_none lead more⟩
  | some found =>
    obtain ⟨value, following⟩ := found
    have read := scan_cons_of_some lead more
    obtain ⟨tail, rest, rfl, ⟨follows, -⟩ | ⟨front, missed, later, rfl, follows, stopped, cut⟩⟩ :=
      resume_scanFrom value following more
    · obtain ⟨c, encoded⟩ := (lead_of_lead? lead).exists_encodeChar follows
      refine .inl ⟨c, rest, by rw [encoded, List.cons_append], ?_⟩
      rw [← List.cons_append, ← encoded, scan_encodeChar_append]
    · rw [cut] at read
      exact .inr ⟨first :: tail, rest, rfl, illFormed_of_missed lead follows stopped read, read⟩

/-- Bytes in which only characters are read are their encoding. -/
theorem eq_encode_of_scan {bytes : List UInt8} {text : List Char}
    (read : scan bytes = text.map some) : bytes = encode text := by
  induction text generalizing bytes with
  | nil => exact scan_eq_nil.1 read
  | cons c text ih =>
    have nonempty : bytes ≠ [] := by
      rintro rfl
      cases read
    obtain ⟨d, rest, rfl, first⟩ | ⟨_, _, -, -, first⟩ := scan_first nonempty
    · rw [first, List.map_cons] at read
      obtain ⟨same, behind⟩ := List.cons.inj read
      rw [Option.some.inj same, ih behind]
      rfl
    · rw [first] at read
      cases read

/-- Strict reading accepts exactly the encodings of texts. -/
theorem decode?_eq_some {bytes : List UInt8} {text : List Char} :
    decode? bytes = some text ↔ bytes = encode text := by
  constructor
  · intro read
    rw [decode?] at read
    split at read
    · next wellFormed =>
      apply eq_encode_of_scan
      have whole : ∀ part ∈ scan bytes, some (part.getD replacement) = part := by
        intro part member
        obtain ⟨c, rfl⟩ := Option.isSome_iff_exists.1 (List.all_eq_true.1 wellFormed part member)
        rfl
      calc
        scan bytes = (scan bytes).map fun part => some (part.getD replacement) :=
          ((List.map_congr_left whole).trans (List.map_id' _)).symm
        _ = (decodeLossy bytes).map some := by rw [decodeLossy, List.map_map]; rfl
        _ = text.map some := by rw [Option.some.inj read]
    · cases read
  · rintro rfl
    exact decode?_encode text

/-- There is only one ill-formed part in front of some bytes. -/
theorem IllFormed.unique {part rest other behind : List UInt8} (broken : IllFormed part rest)
    (also : IllFormed other behind) (same : part ++ rest = other ++ behind) :
    part = other ∧ rest = behind := by
  have le {one two after beyond : List UInt8} (first : IllFormed one after)
      (second : IllFormed two beyond) (equal : one ++ after = two ++ beyond) :
      one.length ≤ two.length := by
    rcases first.begins with begins | single
    · exact second.maximal one (equal ▸ List.prefix_append one after) begins
    · rw [single]
      exact List.length_pos_iff.2 second.nonempty
  have lengths : part.length = other.length :=
    Nat.le_antisymm (le broken also same) (le also broken same.symm)
  exact List.append_inj same lengths

/-- Lenient reading is what replacing each maximal ill-formed part gives, and nothing else is. -/
theorem replaced_iff {bytes : List UInt8} {text : List Char} :
    Replaced bytes text ↔ decodeLossy bytes = text := by
  constructor
  · intro replaced
    induction replaced with
    | nil => rfl
    | character c _ ih => rw [decodeLossy, scan_encodeChar_append, List.map_cons, ← ih]; rfl
    | @illFormed part rest text broken _ ih =>
      have nonempty : part ++ rest ≠ [] := by simp [broken.nonempty]
      obtain ⟨c, behind, whole, -⟩ | ⟨other, behind, whole, also, read⟩ := scan_first nonempty
      · exact absurd ⟨behind, whole.symm⟩ (broken.unreadable c)
      · obtain ⟨rfl, rfl⟩ := broken.unique also whole
        rw [decodeLossy, read, List.map_cons, ← ih]
        rfl
  · rintro rfl
    induction length : bytes.length using Nat.strongRecOn generalizing bytes with
    | ind size ih =>
      by_cases empty : bytes = []
      · subst empty
        exact .nil
      obtain ⟨c, rest, rfl, read⟩ | ⟨part, rest, rfl, broken, read⟩ := scan_first empty
      · have shorter : rest.length < size := by
          have := String.length_utf8EncodeChar c
          have := c.utf8Size_pos
          rw [List.length_append] at length
          omega
        rw [decodeLossy, read]
        exact .character c (ih _ shorter rfl)
      · have shorter : rest.length < size := by
          have := List.length_pos_iff.2 broken.nonempty
          rw [List.length_append] at length
          omega
        rw [decodeLossy, read]
        exact .illFormed broken (ih _ shorter rfl)

/-- An unfinished sequence is one part, and each byte of an encoded surrogate is its own. -/
example : decodeLossy [0xE2, 0x82, 0x41, 0xED, 0xA0, 0x80] =
    ['\uFFFD', 'A', '\uFFFD', '\uFFFD', '\uFFFD'] := by decide

end RowStore.Text.Utf8
