import RowStore.CommandLine.Error
import RowStore.Proofs.Text.Numeral

/-!
# Page counts

The text of a page limit is read as a count, which may have a plus sign and any zeros in front.
Three things can happen, and the value of the text decides which: it is no count that a size can
hold, or a count out of range, or the page limit.
-/

namespace RowStore.CommandLine

open Text (Count)

/-- The text of a count is read by its value: one that no size can hold is refused as no count,
and one out of range for its range. -/
theorem pageCount_of_count {value : String} {count : Nat} (counted : Count value.toList count) :
    pageCount value =
      if UInt64.size ≤ count then .error .notACount
      else if 1 ≤ count ∧ count ≤ mostPages then .ok count
      else .error .outOfRange := by
  have bound : Layout.largestSize = UInt64.size - 1 := rfl
  have size : 0 < UInt64.size := by decide
  by_cases past : UInt64.size ≤ count
  · have unheld : Text.naturalUpTo? Layout.largestSize value.toList = none := by
      apply Option.eq_none_iff_forall_ne_some.2
      intro other held
      obtain ⟨also, fits⟩ := Text.naturalUpTo?_eq_some.1 held
      obtain rfl := counted.unique also
      omega
    rw [pageCount, unheld, if_pos past]
  · have held : Text.naturalUpTo? Layout.largestSize value.toList = some count :=
      Text.naturalUpTo?_eq_some.2 ⟨counted, by omega⟩
    rw [pageCount, held, if_neg past]

/-- A text that is no count is refused as none. -/
theorem pageCount_of_not_count {value : String} (uncounted : ¬∃ count, Count value.toList count) :
    pageCount value = .error .notACount := by
  have unheld : Text.naturalUpTo? Layout.largestSize value.toList = none := by
    apply Option.eq_none_iff_forall_ne_some.2
    intro count held
    exact uncounted ⟨count, (Text.naturalUpTo?_eq_some.1 held).1⟩
  rw [pageCount, unheld]

/-- All that reading a page count can do: refuse a text that is no count, or one that no size can
hold, refuse a count out of range, or accept a count. -/
theorem pageCount_cases (value : String) :
    (pageCount value = .error .notACount ∧
      ((¬∃ count, Count value.toList count) ∨
        ∃ count, Count value.toList count ∧ UInt64.size ≤ count)) ∨
    (∃ count, pageCount value = .error .outOfRange ∧ Count value.toList count ∧
      (count = 0 ∨ mostPages < count ∧ count < UInt64.size)) ∨
    ∃ count, pageCount value = .ok count ∧ Count value.toList count ∧
      1 ≤ count ∧ count ≤ mostPages := by
  by_cases counted : ∃ count, Count value.toList count
  · obtain ⟨count, counted⟩ := counted
    have read := pageCount_of_count counted
    by_cases past : UInt64.size ≤ count
    · rw [if_pos past] at read
      exact .inl ⟨read, .inr ⟨count, counted, past⟩⟩
    rw [if_neg past] at read
    by_cases within : 1 ≤ count ∧ count ≤ mostPages
    · rw [if_pos within] at read
      exact .inr (.inr ⟨count, read, counted, within⟩)
    · rw [if_neg within] at read
      exact .inr (.inl ⟨count, read, counted, by omega⟩)
  · exact .inl ⟨pageCount_of_not_count counted, .inl counted⟩

/-- Reading accepts exactly the counts in range. -/
theorem pageCount_eq_ok {value : String} {count : Nat} :
    pageCount value = .ok count ↔ Count value.toList count ∧ 1 ≤ count ∧ count ≤ mostPages := by
  constructor
  · intro read
    obtain ⟨refused, -⟩ | ⟨_, refused, -⟩ | ⟨_, accepted, counted⟩ := pageCount_cases value
    · rw [refused] at read
      cases read
    · rw [refused] at read
      cases read
    · rw [accepted] at read
      cases read
      exact counted
  · rintro ⟨counted, within⟩
    have held : mostPages < UInt64.size := by decide
    rw [pageCount_of_count counted, if_neg (by omega), if_pos within]

/-- Reading refuses for the form exactly the texts that are no count, or one that no size can
hold. -/
theorem pageCount_eq_notACount {value : String} :
    pageCount value = .error .notACount ↔
      (¬∃ count, Count value.toList count) ∨
        ∃ count, Count value.toList count ∧ UInt64.size ≤ count := by
  constructor
  · intro read
    obtain ⟨-, unfit⟩ | ⟨_, refused, -⟩ | ⟨_, accepted, -⟩ := pageCount_cases value
    · exact unfit
    · rw [refused] at read
      cases read
    · rw [accepted] at read
      cases read
  · rintro (uncounted | ⟨count, counted, past⟩)
    · exact pageCount_of_not_count uncounted
    · rw [pageCount_of_count counted, if_pos past]

/-- Reading refuses for the range exactly the other counts. -/
theorem pageCount_eq_outOfRange {value : String} :
    pageCount value = .error .outOfRange ↔
      ∃ count, Count value.toList count ∧
        (count = 0 ∨ mostPages < count ∧ count < UInt64.size) := by
  constructor
  · intro read
    obtain ⟨refused, -⟩ | ⟨count, -, outside⟩ | ⟨_, accepted, -⟩ := pageCount_cases value
    · rw [refused] at read
      cases read
    · exact ⟨count, outside⟩
    · rw [accepted] at read
      cases read
  · rintro ⟨count, counted, outside⟩
    have held : 0 < UInt64.size := by decide
    rw [pageCount_of_count counted, if_neg (by omega), if_neg (by omega)]

/-- The reports of the two reasons differ in their first character. -/
theorem PageCountError.message_injective {value : String} {reason other : PageCountError}
    (same : reason.message value = other.message value) : reason = other := by
  have quote : (PageCountError.notACount.message value).toList.head? = some '`' := by
    show ("`" ++ value ++ "` is not a page count").toList.head? = some '`'
    rw [String.toList_append, String.toList_append, List.append_assoc]
    rfl
  have letter : (PageCountError.outOfRange.message value).toList.head? = some 'm' := by
    show ("must be between 1 and " ++ mostPages.repr).toList.head? = some 'm'
    rw [String.toList_append]
    rfl
  have differ : PageCountError.notACount.message value ≠
      PageCountError.outOfRange.message value := by
    intro equal
    rw [equal, letter] at quote
    exact absurd quote (by decide)
  cases reason <;> cases other
  · rfl
  · exact absurd same differ
  · exact absurd same.symm differ
  · rfl

/-- A text is refused with the report of a reason exactly where it is refused for that reason. -/
theorem refused_with_message {value : String} {reason : PageCountError} :
    (∃ other, pageCount value = .error other ∧ other.message value = reason.message value) ↔
      pageCount value = .error reason := by
  constructor
  · rintro ⟨other, refused, same⟩
    rwa [← PageCountError.message_injective same]
  · intro refused
    exact ⟨reason, refused, rfl⟩

/-- A text is a page limit exactly where it is a count from one to a hundred thousand. It is
refused as no page count exactly where it is no count or one that no size can hold, and for its
range in all other cases, which are zero and the larger counts that a size can hold. So any zeros
may stand in front of the decimal form of a page limit. -/
theorem pageCount_exact (value : String) :
    (∀ count, pageCount value = .ok count ↔
      Count value.toList count ∧ 1 ≤ count ∧ count ≤ 100000) ∧
    ((∃ reason, pageCount value = .error reason ∧
        reason.message value = "`" ++ value ++ "` is not a page count") ↔
      (¬∃ count, Count value.toList count) ∨
        ∃ count, Count value.toList count ∧ UInt64.size ≤ count) ∧
    ((∃ reason, pageCount value = .error reason ∧
        reason.message value = "must be between 1 and 100000") ↔
      ∃ count, Count value.toList count ∧
        (count = 0 ∨ 100000 < count ∧ count < UInt64.size)) ∧
    ∀ count zeros, 1 ≤ count → count ≤ 100000 →
      pageCount (.ofList (List.replicate zeros '0' ++ count.repr.toList)) = .ok count := by
  have noCount : "`" ++ value ++ "` is not a page count" = PageCountError.notACount.message value :=
    rfl
  have range : "must be between 1 and 100000" = PageCountError.outOfRange.message value := by
    show "must be between 1 and 100000" = "must be between 1 and " ++ mostPages.repr
    decide
  rw [noCount, range, refused_with_message, refused_with_message]
  refine ⟨fun count => pageCount_eq_ok, pageCount_eq_notACount, pageCount_eq_outOfRange, ?_⟩
  intro count zeros least greatest
  apply pageCount_eq_ok.2
  rw [String.toList_ofList]
  exact ⟨.plain ((Text.digits_repr count).zeros_append zeros), least, greatest⟩

/-- A plus sign and zeros do not count, and past what a size can hold the report is another. -/
example : pageCount "+000042" = .ok 42 ∧
    pageCount "18446744073709551615" = .error .outOfRange ∧
    pageCount "18446744073709551616" = .error .notACount ∧
    pageCount "-0" = .error .notACount := ⟨rfl, rfl, rfl, rfl⟩

end RowStore.CommandLine
