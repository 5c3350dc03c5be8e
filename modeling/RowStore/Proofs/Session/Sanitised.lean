import Mathlib.Data.List.SplitBy
import RowStore.Proofs.Session.Sequence
import RowStore.Proofs.Text.Utf8.Ascii

/-!
# Sanitised input

Input is cut into lines before it is read as text. It could as well be read first: a line feed is
a character of a single byte, so no ill-formed part reaches over it, and the lines of the text are
the texts of the lines. Input whose ill-formed parts were replaced beforehand is therefore taken
as the same statements.
-/

namespace RowStore

section

variable {α : Type} [DecidableEq α] {separator : α}

/-- A list cut behind every separator, without empty pieces. -/
def pieces (separator : α) (entries : List α) : List (List α) :=
  entries.splitBy fun entry _ => entry != separator

/-- What holds of lists without a separator, and of lists with more and more pieces in front, holds
of all lists. -/
theorem separated_induction {motive : List α → Prop} (separator : α)
    (plain : ∀ front, separator ∉ front → motive front)
    (piece : ∀ front rest, separator ∉ front → motive rest →
      motive (front ++ separator :: rest)) (entries : List α) : motive entries := by
  induction length : entries.length using Nat.strongRecOn generalizing entries with
  | ind size ih =>
    by_cases member : separator ∈ entries
    · obtain ⟨front, rest, rfl, clean⟩ := List.eq_append_cons_of_mem member
      have shorter : rest.length < size := by
        rw [List.length_append, List.length_cons] at length
        omega
      exact piece front rest clean (ih _ shorter rest rfl)
    · exact plain entries member

/-- A list without a separator is a piece, unless it is empty. -/
theorem pieces_of_not_mem {front : List α} (clean : separator ∉ front) :
    pieces separator front = if front = [] then [] else [front] := by
  by_cases empty : front = []
  · rw [if_pos empty, empty]
    rfl
  · have chained : front.Pairwise fun entry _ => (entry != separator) = true :=
      List.pairwise_of_forall_mem_list fun entry member _ _ =>
        bne_iff_ne.2 (ne_of_mem_of_not_mem member clean)
    rw [if_neg empty]
    exact List.splitBy_of_isChain empty chained.isChain

/-- The first separator ends the first piece. -/
theorem pieces_append_cons {front : List α} (clean : separator ∉ front) (rest : List α) :
    pieces separator (front ++ separator :: rest) =
      (front ++ [separator]) :: pieces separator rest := by
  have chained : (front ++ [separator]).Pairwise fun entry _ => (entry != separator) = true := by
    have others : ∀ entry ∈ front, (entry != separator) = true := fun entry member =>
      bne_iff_ne.2 (ne_of_mem_of_not_mem member clean)
    rw [List.pairwise_append]
    refine ⟨?_, List.pairwise_singleton .., fun entry member _ _ => others entry member⟩
    exact List.pairwise_of_forall_mem_list fun entry member _ _ => others entry member
  have first : pieces separator (front ++ [separator]) = [front ++ [separator]] :=
    List.splitBy_of_isChain (by simp) chained.isChain
  have apart : pieces separator (front ++ [separator] ++ rest) =
      pieces separator (front ++ [separator]) ++ pieces separator rest :=
    List.splitBy_append (by simp)
  rw [first, List.append_assoc, List.singleton_append] at apart
  exact apart

end

namespace Text.Utf8

/-- Bytes whose ill-formed parts are replaced. -/
def sanitise (bytes : List UInt8) : List UInt8 := encode (decodeLossy bytes)

section

variable {c : Char} {byte : UInt8}

/-- Replacing ill-formed parts leaves a character of a single byte where it was. -/
theorem mem_sanitise_iff (alone : String.utf8EncodeChar c = [byte]) {bytes : List UInt8} :
    byte ∈ sanitise bytes ↔ byte ∈ bytes := by
  rw [sanitise, mem_encode_iff alone, mem_decodeLossy_iff alone]

/-- Ill-formed parts are replaced on both sides of a character of a single byte. -/
theorem sanitise_append_cons (alone : String.utf8EncodeChar c = [byte])
    (front behind : List UInt8) :
    sanitise (front ++ byte :: behind) = sanitise front ++ byte :: sanitise behind := by
  have single : encode [c] = [byte] := by rw [encode, List.flatMap_singleton, alone]
  rw [sanitise, decodeLossy_append_cons alone, ← List.singleton_append, encode_append,
    encode_append, single]
  rfl

end

/-- Bytes are read as the same text when their ill-formed parts have been replaced. -/
theorem decodeLossy_sanitise (bytes : List UInt8) :
    decodeLossy (sanitise bytes) = decodeLossy bytes :=
  decodeLossy_encode _

/-- Bytes are read as no text only if there are none. -/
theorem decodeLossy_eq_nil {bytes : List UInt8} : decodeLossy bytes = [] ↔ bytes = [] := by
  rw [decodeLossy, List.map_eq_nil_iff, scan_eq_nil]

/-- Replacing ill-formed parts leaves bytes where there were some. -/
theorem sanitise_ne_nil {bytes : List UInt8} (some : bytes ≠ []) : sanitise bytes ≠ [] := by
  intro none
  have text : decodeLossy bytes = [] := by rw [← decodeLossy_sanitise, none]; rfl
  exact some (decodeLossy_eq_nil.1 text)

end Text.Utf8

namespace Session

open Text.Utf8

/-- The line feed is a character of a single byte. -/
theorem encodeChar_lineFeed : String.utf8EncodeChar '\n' = [lineFeed] := by decide

/-- Lines are the pieces that end in a line feed, and what is behind the last one. -/
theorem lines_eq_pieces (input : List UInt8) : lines input = pieces lineFeed input := by
  induction input using separated_induction lineFeed with
  | plain front clean =>
    rw [pieces_of_not_mem clean, lines, cut_of_not_mem clean]
    cases front with
    | nil => rfl
    | cons byte rest => rfl
  | piece front rest clean ih =>
    have ended : Ended (front ++ [lineFeed]) := .inr (by simp)
    have first : lines (front ++ [lineFeed]) = [front ++ [lineFeed]] := by
      rw [lines, cut_append_lineFeed clean]
      rfl
    have apart := lines_append ended rest
    rw [first, List.append_assoc, List.singleton_append, ih] at apart
    rw [pieces_append_cons clean]
    exact apart

/-- The texts of the lines are the lines of the text. -/
theorem decodeLossy_lines (input : List UInt8) :
    (lines input).map decodeLossy = pieces '\n' (decodeLossy input) := by
  rw [lines_eq_pieces]
  induction input using separated_induction lineFeed with
  | plain front clean =>
    have text : '\n' ∉ decodeLossy front := by rwa [mem_decodeLossy_iff encodeChar_lineFeed]
    rw [pieces_of_not_mem clean, pieces_of_not_mem text]
    by_cases empty : front = []
    · rw [if_pos empty, if_pos (decodeLossy_eq_nil.2 empty)]
      rfl
    · rw [if_neg empty, if_neg (mt decodeLossy_eq_nil.1 empty)]
      rfl
  | piece front rest clean ih =>
    have text : '\n' ∉ decodeLossy front := by rwa [mem_decodeLossy_iff encodeChar_lineFeed]
    have first : decodeLossy (front ++ [lineFeed]) = decodeLossy front ++ ['\n'] :=
      decodeLossy_append_cons encodeChar_lineFeed front []
    rw [pieces_append_cons clean, List.map_cons, first, ih,
      decodeLossy_append_cons encodeChar_lineFeed, pieces_append_cons text]

/-- Replacing ill-formed parts moves no line feed. -/
theorem cut_sanitise (input : List UInt8) :
    cut (sanitise input) =
      ⟨(cut input).complete.map sanitise, sanitise (cut input).unfinished⟩ := by
  induction input using separated_induction lineFeed with
  | plain front clean =>
    have still : lineFeed ∉ sanitise front := by rwa [mem_sanitise_iff encodeChar_lineFeed]
    rw [cut_of_not_mem clean, cut_of_not_mem still]
    rfl
  | piece front rest clean ih =>
    have still : lineFeed ∉ sanitise front := by rwa [mem_sanitise_iff encodeChar_lineFeed]
    have first : sanitise (front ++ [lineFeed]) = sanitise front ++ [lineFeed] :=
      sanitise_append_cons encodeChar_lineFeed front []
    rw [sanitise_append_cons encodeChar_lineFeed, cut_append_lineFeed clean,
      cut_append_lineFeed still, ih, List.map_cons, first]

/-- The lines of sanitised input are the sanitised lines of the input, however it ends. -/
theorem taken_sanitise (input : List UInt8) (ending : Ending) :
    taken (sanitise input) ending = (taken input ending).map sanitise := by
  cases ending with
  | endOfInput =>
    rw [taken, taken, lines, lines, cut_sanitise]
    obtain ⟨complete, unfinished⟩ := cut input
    cases unfinished with
    | nil => rfl
    | cons byte rest =>
      obtain ⟨first, later, some⟩ :=
        List.exists_cons_of_ne_nil (sanitise_ne_nil (List.cons_ne_nil byte rest))
      simp [some]
  | failure => rw [taken, taken, cut_sanitise]

/-- A line is the same statement when its ill-formed parts have been replaced. -/
theorem ofBytes_sanitise (line : List UInt8) :
    Statement.ofBytes (sanitise line) = Statement.ofBytes line := by
  rw [Statement.ofBytes, Statement.ofBytes, decodeLossy_sanitise]

/-- The lines of sanitised input are the statements of the lines of the input. -/
theorem ofBytes_taken_sanitise (input : List UInt8) (ending : Ending) :
    (taken (sanitise input) ending).map Statement.ofBytes =
      (taken input ending).map Statement.ofBytes := by
  rw [taken_sanitise, List.map_map]
  apply List.map_congr_left
  intro line _
  rw [Function.comp_apply, ofBytes_sanitise]

/-- Sanitising the input first changes nothing. The lines of the input are cut behind its line
feeds, and their texts are the lines of the text of all of the input, in which each maximal
ill-formed part is replaced. The lines of the sanitised input are the sanitised lines and the same
statements. So a session writes the same bytes, comes out the same, leaves the same table and
reports the same events, however the input ends and wherever the sink stops. -/
theorem run_sanitise (console : Console) (table : Table) (input : List UInt8) :
    Replaced input (decodeLossy input) ∧
    lines input = pieces lineFeed input ∧
    (lines input).map decodeLossy = pieces '\n' (decodeLossy input) ∧
    lines (sanitise input) = (lines input).map sanitise ∧
    (lines (sanitise input)).map Statement.ofBytes = (lines input).map Statement.ofBytes ∧
    ∀ ending room, (run console table (sanitise input) ending room).account =
      (run console table input ending room).account := by
  refine ⟨replaced_iff.2 rfl, lines_eq_pieces input, decodeLossy_lines input, ?_, ?_, ?_⟩
  · exact taken_sanitise input .endOfInput
  · exact ofBytes_taken_sanitise input .endOfInput
  · intro ending room
    exact account_run_of_statements rfl table (ofBytes_taken_sanitise input ending) room

/-- A sequence that a line feed breaks off is replaced in front of it, and one that the end of the
input breaks off is a part of the last line. -/
example : (lines [0xF0, 0x9F, 0x98, 10, 0xC3]).map decodeLossy =
    [['\uFFFD', '\n'], ['\uFFFD']] := by decide

end Session

end RowStore
