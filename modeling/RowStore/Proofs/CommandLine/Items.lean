import RowStore.Proofs.CommandLine.Arguments
import RowStore.Proofs.CommandLine.Settings

/-!
# Reading by items

The reader that groups arguments into items and checks these in order keeps to the usual syntax of
long options. An option is one item in front of the items of the arguments behind it, so each law
is about the first item.
-/

namespace RowStore.CommandLine

/-- An argument can be a value if it does not begin with a dash or is that alone. -/
theorem isValue_iff {value : Argument} : value.isValue = true ↔ value.Plain := by
  rw [Argument.Plain]
  cases value with
  | nil => simp [Argument.isValue]
  | cons first rest =>
    by_cases begins : first = dash
    · simp [Argument.isValue, begins]
    · have other : ¬dash = first := fun same => begins same.symm
      simp [Argument.isValue, begins, other]

/-- An argument that is a whole item is read as that. -/
theorem items_of_item {argument : Argument} {item : Item} (kind : argument.kind = .item item)
    (rest : List Argument) : items (argument :: rest) = item :: items rest := by
  rw [items, kind]

/-- A parameter is read with the value behind it. -/
theorem items_of_value {parameter : Parameter} {value : Argument} (plain : value.Plain)
    (rest : List Argument) :
    items (parameter.spelled :: value :: rest) =
      .separate parameter (some value) :: items rest := by
  rw [items, kind_spelled]
  exact if_pos (isValue_iff.2 plain)

/-- A parameter is read without a value where none can be one. -/
theorem items_of_no_value {parameter : Parameter} {rest : List Argument}
    (none : ∀ value later, rest = value :: later → ¬value.Plain) :
    items (parameter.spelled :: rest) = .separate parameter .none :: items rest := by
  rw [items, kind_spelled]
  cases rest with
  | nil => rfl
  | cons value later => exact if_neg (mt isValue_iff.1 (none value later rfl))

/-- What sets nothing makes no setting. -/
theorem setting?_of_other {item : Item} (other : item.Other) : item.setting? = none := by
  cases other with
  | @flag flag asks =>
    cases flag with
    | noPrompt => exact absurd rfl asks
    | help => rfl
    | version => rfl
  | flagWithValue => rfl
  | stray => rfl

/-- Arguments that are read as one item and others behind it are accepted if the item makes a
setting that is read in front of these. -/
theorem read_of_items {arguments behind : List Argument} {item : Item}
    (front : items arguments = item :: items behind) {given : List Setting} :
    reader.read arguments = .ok (.run given) ↔
      ∃ setting, item.setting? = some setting ∧ reader.Adds setting behind given := by
  rw [read_eq_run, front, List.map_cons, compatible_iff]
  constructor
  · rintro ⟨make, tolerant⟩
    obtain ⟨setting, others, rfl, made, later⟩ := List.map_eq_cons_iff.1 make.symm
    obtain ⟨first, rest⟩ := List.pairwise_cons.1 tolerant
    have accepted := read_eq_run.2 ⟨later.symm, compatible_iff.2 rest⟩
    exact ⟨setting, made.symm, others, accepted, rfl, first⟩
  · rintro ⟨setting, made, others, accepted, rfl, first⟩
    obtain ⟨later, rest⟩ := read_eq_run.1 accepted
    rw [made, later, List.map_cons]
    exact ⟨rfl, List.pairwise_cons.2 ⟨first, compatible_iff.1 rest⟩⟩

/-- The reader by items keeps to the usual syntax of long options. -/
theorem documented_reader : reader.Documented where
  nothing := rfl
  ended := by
    intro rest given
    cases rest with
    | nil =>
      have read : reader.read [[dash, dash]] = .ok (.run []) := rfl
      rw [read, Except.ok.injEq, Request.run.injEq]
      simp [eq_comm]
    | cons behind later =>
      have stray : items ([dash, dash] :: behind :: later) =
          .stray (Text.Utf8.decodeLossy behind) :: items ([dash, dash] :: later) := rfl
      rw [read_of_items stray]
      simp [Item.setting?]
  flag := by
    rintro flag setting rest given ⟨⟩
    rw [read_of_items (items_of_item kind_noPrompt rest)]
    simp [Item.setting?]
  attached := by
    intro parameter value rest given
    rw [read_of_items (items_of_item (kind_spelledWith parameter value) rest)]
    simp only [Item.setting?, setting?_eq_some]
  separate := by
    intro parameter rest given
    by_cases plain : ∃ value later, rest = value :: later ∧ value.Plain
    · obtain ⟨value, later, rfl, plain⟩ := plain
      rw [read_of_items (items_of_value plain later)]
      simp only [Item.setting?, setting?_eq_some]
      constructor
      · rintro ⟨setting, sets, adds⟩
        exact ⟨value, later, setting, rfl, plain, sets, adds⟩
      · rintro ⟨_, _, setting, same, -, sets, adds⟩
        cases same
        exact ⟨setting, sets, adds⟩
    · rw [read_of_items (items_of_no_value fun value later same looks =>
        plain ⟨value, later, same, looks⟩)]
      constructor
      · rintro ⟨setting, made, -⟩
        cases made
      · rintro ⟨value, later, -, same, looks, -⟩
        exact absurd ⟨value, later, same, looks⟩ plain
  written := by
    intro argument rest given read
    have reads := reads_kind argument
    generalize kind : argument.kind = written at reads
    cases reads with
    | terminator => exact .inl rfl
    | noPrompt => exact .inr (.inl ⟨.noPrompt, .noPrompt, .noPrompt, rfl⟩)
    | awaiting parameter => exact .inr (.inr ⟨parameter, .inl rfl⟩)
    | attached parameter value => exact .inr (.inr ⟨parameter, .inr ⟨value, rfl⟩⟩)
    | other _ idle =>
      obtain ⟨setting, made, -⟩ := (read_of_items (items_of_item kind rest)).1 read
      rw [setting?_of_other idle] at made
      cases made

end RowStore.CommandLine
