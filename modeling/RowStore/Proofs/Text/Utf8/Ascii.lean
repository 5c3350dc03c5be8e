import RowStore.Proofs.Text.Utf8.Replacement

/-!
# Characters of a single byte

A byte that is a character by itself stands in no longer sequence. So wherever it stands it is
read as that character, no ill-formed part reaches over it, and the bytes in front of it and those
behind it are read on their own.
-/

namespace RowStore.Text.Utf8

variable {c : Char} {byte : UInt8}

/-- A character of a single byte has the value of that byte, which is below 128. -/
theorem toNat_of_encodeChar_eq (alone : String.utf8EncodeChar c = [byte]) :
    byte.toNat = c.toNat ∧ byte.toNat < 128 := by
  have values := @toNat_encodeChar c.toNat c.valid
  rw [Char.ofNat_toNat, alone, List.map_singleton] at values
  split at values
  · next one =>
    rw [List.singleton_inj] at values
    omega
  split at values
  · simp at values
  split at values
  · simp at values
  · simp at values

/-- A byte of a character has the value of the character, or is one of several and at least 128. -/
theorem toNat_of_mem_encodeChar (member : byte ∈ String.utf8EncodeChar c) :
    byte.toNat = c.toNat ∨ 128 ≤ byte.toNat := by
  have values := @toNat_encodeChar c.toNat c.valid
  have among : byte.toNat ∈ (String.utf8EncodeChar c).map UInt8.toNat :=
    List.mem_map_of_mem member
  rw [Char.ofNat_toNat] at values
  rw [values] at among
  split at among
  · exact .inl (List.mem_singleton.1 among)
  split at among
  · simp only [List.mem_cons, List.not_mem_nil, or_false] at among
    omega
  split at among
  · simp only [List.mem_cons, List.not_mem_nil, or_false] at among
    omega
  · simp only [List.mem_cons, List.not_mem_nil, or_false] at among
    omega

/-- The byte of a character of a single byte is in the bytes of no other character. -/
theorem mem_encodeChar_iff (alone : String.utf8EncodeChar c = [byte]) {other : Char} :
    byte ∈ String.utf8EncodeChar other ↔ other = c := by
  constructor
  · intro member
    obtain ⟨own, small⟩ := toNat_of_encodeChar_eq alone
    obtain value | large := toNat_of_mem_encodeChar member
    · rw [← Char.ofNat_toNat other, ← value, own, Char.ofNat_toNat]
    · omega
  · rintro rfl
    rw [alone]
    exact List.mem_singleton_self byte

/-- A character of a single byte is written where it stands in a text, and nowhere else. -/
theorem mem_encode_iff (alone : String.utf8EncodeChar c = [byte]) {text : List Char} :
    byte ∈ encode text ↔ c ∈ text := by
  rw [encode, List.mem_flatMap]
  constructor
  · rintro ⟨other, member, within⟩
    rwa [← (mem_encodeChar_iff alone).1 within]
  · intro member
    exact ⟨c, member, (mem_encodeChar_iff alone).2 rfl⟩

/-- The byte of a character of a single byte is written as often as the character stands in a
text. -/
theorem count_encode (alone : String.utf8EncodeChar c = [byte]) (text : List Char) :
    (encode text).count byte = text.count c := by
  induction text with
  | nil => rfl
  | cons other rest ih =>
    have front : encode (other :: rest) = String.utf8EncodeChar other ++ encode rest :=
      List.flatMap_cons
    rw [front, List.count_append, ih, List.count_cons]
    by_cases same : other = c
    · rw [same, alone]
      simp [Nat.add_comm]
    · have absent : byte ∉ String.utf8EncodeChar other := mt (mem_encodeChar_iff alone).1 same
      simp [List.count_eq_zero.2 absent, same]

/-- Bytes that begin a character include the byte of another one only if they are that byte. -/
theorem Begins.eq_singleton (alone : String.utf8EncodeChar c = [byte]) {part : List UInt8}
    (begins : Begins part) (member : byte ∈ part) : part = [byte] := by
  obtain ⟨other, front⟩ := begins
  rw [(mem_encodeChar_iff alone).1 (front.subset member), alone] at front
  obtain rfl | ⟨rest, rfl, nothing⟩ := List.prefix_cons_iff.1 front
  · cases member
  · rw [List.prefix_nil.1 nothing]

section

variable {part rest : List UInt8}

/-- No ill-formed part contains the byte of a character of a single byte. -/
theorem IllFormed.not_mem (alone : String.utf8EncodeChar c = [byte])
    (broken : IllFormed part rest) : byte ∉ part := by
  intro member
  have single : part = [byte] := by
    rcases broken.begins with begins | single
    · exact begins.eq_singleton alone member
    · obtain ⟨other, rfl⟩ := List.length_eq_one_iff.1 single
      rw [List.mem_singleton.1 member]
  have stands : String.utf8EncodeChar c <+: part ++ rest := by
    rw [alone, single]
    exact List.prefix_append _ _
  exact broken.unreadable c stands

/-- An ill-formed part stays one when a character of a single byte, and anything behind it, is
put behind the bytes that follow the part. -/
theorem IllFormed.append_cons (alone : String.utf8EncodeChar c = [byte])
    (broken : IllFormed part rest) (behind : List UInt8) :
    IllFormed part (rest ++ byte :: behind) := by
  have reaches {front : List UInt8} (stands : front <+: part ++ (rest ++ byte :: behind)) :
      front <+: part ++ rest ∨ byte ∈ front := by
    have through : part ++ rest ++ [byte] <+: part ++ (rest ++ byte :: behind) :=
      ⟨behind, by simp⟩
    obtain within | across := List.prefix_or_prefix_of_prefix stands through
    · obtain same | within := List.prefix_concat_iff.1 within
      · exact .inr (by simp [same])
      · exact .inl within
    · exact .inr (across.subset (by simp))
  constructor
  case nonempty => exact broken.nonempty
  case unreadable =>
    intro other stands
    obtain within | across := reaches stands
    · exact broken.unreadable other within
    · obtain ⟨first, later, rfl⟩ := List.exists_cons_of_ne_nil broken.nonempty
      rw [(mem_encodeChar_iff alone).1 across, alone] at stands
      obtain rfl : byte = first := (List.cons_prefix_cons.1 stands).1
      exact broken.not_mem alone (List.mem_cons_self ..)
  case begins => exact broken.begins
  case maximal =>
    intro longer stands begins
    obtain within | across := reaches stands
    · exact broken.maximal longer within begins
    · rw [begins.eq_singleton alone across]
      exact List.length_pos_iff.2 broken.nonempty

end

/-- A character of a single byte is read from its byte and from no others. -/
theorem Replaced.mem_iff (alone : String.utf8EncodeChar c = [byte]) {bytes : List UInt8}
    {text : List Char} (replaced : Replaced bytes text) : c ∈ text ↔ byte ∈ bytes := by
  induction replaced with
  | nil => simp
  | character d _ ih =>
    rw [List.mem_cons, List.mem_append, mem_encodeChar_iff alone, ih, eq_comm]
  | illFormed broken _ ih =>
    have clean := broken.not_mem alone
    have other : c ≠ '\uFFFD' := by
      rintro rfl
      have several : (String.utf8EncodeChar '\uFFFD').length = 3 := by decide
      rw [alone] at several
      cases several
    rw [List.mem_cons, List.mem_append, ih]
    simp [clean, other]

/-- Bytes in front of a character of a single byte are read on their own, and so are those behind
it. -/
theorem Replaced.append_cons (alone : String.utf8EncodeChar c = [byte])
    {front behind : List UInt8} {text later : List Char} (first : Replaced front text)
    (second : Replaced behind later) :
    Replaced (front ++ byte :: behind) (text ++ c :: later) := by
  induction first with
  | nil =>
    have read := Replaced.character c second
    rwa [alone] at read
  | character d _ ih =>
    rw [List.append_assoc, List.cons_append]
    exact .character d ih
  | illFormed broken _ ih =>
    rw [List.append_assoc, List.cons_append]
    exact .illFormed (broken.append_cons alone behind) ih

/-- Lenient reading keeps a character of a single byte and reads the bytes on both sides of it on
their own. -/
theorem decodeLossy_append_cons (alone : String.utf8EncodeChar c = [byte])
    (front behind : List UInt8) :
    decodeLossy (front ++ byte :: behind) = decodeLossy front ++ c :: decodeLossy behind :=
  replaced_iff.1 ((replaced_iff.2 rfl).append_cons alone (replaced_iff.2 rfl))

/-- Lenient reading gives a character of a single byte where its byte stands, and nowhere else. -/
theorem mem_decodeLossy_iff (alone : String.utf8EncodeChar c = [byte]) {bytes : List UInt8} :
    c ∈ decodeLossy bytes ↔ byte ∈ bytes :=
  (replaced_iff.2 rfl).mem_iff alone

end RowStore.Text.Utf8
