import RowStore.Session

/-!
# Sessions line by line

A session takes single bytes, but only whole lines have an effect on it: the bytes of a line
that has not ended are collected and nothing else. What a session does with any input is
therefore what it does with the lines of the input, taken one after the other.
-/

namespace RowStore

/-- The statement of a line of bytes, whose ill-formed parts are replaced. -/
def Statement.ofBytes (line : List UInt8) : Statement :=
  .parse (.ofList (Text.Utf8.decodeLossy line))

namespace Session

/-- Input cut behind every line feed. -/
structure Cut where
  /-- The complete lines, each with its line feed. -/
  complete : List (List UInt8)
  /-- The bytes behind the last line feed. -/
  unfinished : List UInt8

/-- Cut input behind every line feed. -/
def cut : List UInt8 → Cut
  | [] => ⟨[], []⟩
  | byte :: rest =>
    if byte = lineFeed then ⟨[byte] :: (cut rest).complete, (cut rest).unfinished⟩
    else
      match cut rest with
      | ⟨[], unfinished⟩ => ⟨[], byte :: unfinished⟩
      | ⟨line :: later, unfinished⟩ => ⟨(byte :: line) :: later, unfinished⟩

/-- The lines of input that comes to its end: bytes behind the last line feed are a line too. -/
def lines (input : List UInt8) : List (List UInt8) :=
  match cut input with
  | ⟨complete, []⟩ => complete
  | ⟨complete, unfinished⟩ => complete ++ [unfinished]

/-- Bytes without a line feed are no complete line. -/
theorem cut_of_not_mem {front : List UInt8} (clean : lineFeed ∉ front) :
    cut front = ⟨[], front⟩ := by
  induction front with
  | nil => rfl
  | cons byte rest ih =>
    obtain ⟨other, later⟩ := List.ne_and_not_mem_of_not_mem_cons clean
    rw [cut, if_neg (Ne.symm other), ih later]

/-- The first line feed completes the first line. -/
theorem cut_append_lineFeed {front : List UInt8} (clean : lineFeed ∉ front)
    (rest : List UInt8) :
    cut (front ++ lineFeed :: rest) =
      ⟨(front ++ [lineFeed]) :: (cut rest).complete, (cut rest).unfinished⟩ := by
  induction front with
  | nil => rw [List.nil_append, cut, if_pos rfl, List.nil_append]
  | cons byte front ih =>
    obtain ⟨other, later⟩ := List.ne_and_not_mem_of_not_mem_cons clean
    rw [List.cons_append, cut, if_neg (Ne.symm other), ih later, List.cons_append]

/-- Cutting loses nothing and cuts exactly behind the line feeds. -/
theorem cut_exact (input : List UInt8) :
    (cut input).complete.flatten ++ (cut input).unfinished = input ∧
      (∀ line ∈ (cut input).complete, ∃ text, line = text ++ [lineFeed] ∧ lineFeed ∉ text) ∧
      lineFeed ∉ (cut input).unfinished := by
  induction input with
  | nil => simp [cut]
  | cons byte rest ih =>
    obtain ⟨joined, ended, clean⟩ := ih
    by_cases last : byte = lineFeed
    · rw [cut, if_pos last]
      refine ⟨by simp [joined], ?_, clean⟩
      intro line member
      rcases List.mem_cons.1 member with rfl | later
      · exact ⟨[], by simp [last]⟩
      · exact ended line later
    · rw [cut, if_neg last]
      generalize cut rest = parts at joined ended clean ⊢
      obtain ⟨complete, unfinished⟩ := parts
      cases complete with
      | nil =>
        refine ⟨by simpa using joined, by simp, ?_⟩
        exact List.not_mem_cons_of_ne_of_not_mem (Ne.symm last) clean
      | cons first later =>
        refine ⟨by simpa using joined, ?_, clean⟩
        intro line member
        rcases List.mem_cons.1 member with rfl | after
        · obtain ⟨text, rfl, plain⟩ := ended first (List.mem_cons_self ..)
          exact ⟨byte :: text, rfl, List.not_mem_cons_of_ne_of_not_mem (Ne.symm last) plain⟩
        · exact ended line (List.mem_cons_of_mem _ after)

/-- An empty line is a line, and so are bytes behind the last line feed. -/
example : lines [97, 10, 10, 98] = [[97, 10], [10], [98]] := by decide

/-- The session with the bytes of an unfinished line collected, unless it is over. -/
def collect (session : Session) (pending : List UInt8) : Session :=
  match session.phase with
  | .reading => { session with console := { session.console with buffer := pending.toArray } }
  | _ => session

/-- Carry out a whole line, unless the session is over. -/
def takeLine (session : Session) (line : List UInt8) : Session :=
  match session.phase with
  | .reading => (session.collect line).execute
  | _ => session

/-- A session that does not wait takes no line. -/
theorem takeLine_of_stopped {session : Session} (stopped : session.phase ≠ .reading)
    (line : List UInt8) : session.takeLine line = session := by
  rw [takeLine]
  split
  · next reading => exact absurd reading stopped
  · rfl

/-- A session that does not wait takes no lines. -/
theorem foldl_takeLine_of_stopped {session : Session} (stopped : session.phase ≠ .reading)
    (lines : List (List UInt8)) : lines.foldl takeLine session = session := by
  induction lines with
  | nil => rfl
  | cons line later ih => rw [List.foldl_cons, takeLine_of_stopped stopped, ih]

/-- A session that waits for input has no bytes of a line yet. -/
def Fresh (session : Session) : Prop :=
  session.phase = .reading → session.console.buffer = #[]

/-- Prompting forgets the line before. -/
theorem fresh_ask (session : Session) : session.ask.Fresh := by
  intro reading
  rw [ask] at reading ⊢
  split at reading
  · next prompted => rw [prompted]
  · next elsewhere => exact absurd reading elsewhere

/-- A new session has no bytes of a line. -/
theorem fresh_start (console : Console) (table : Table) (room : Option Nat) :
    (start console table room).Fresh :=
  fresh_ask _

/-- A line that was carried out is forgotten before the next one is read. -/
theorem fresh_execute (session : Session) : session.execute.Fresh := by
  rw [execute]
  split
  · exact fresh_ask _
  · intro reading
    cases reading
  · next unasked unended =>
    intro reading
    generalize control : (Statement.execute _ session.table).answer.control = answer at *
    cases answer with
    | proceed => exact absurd rfl (unasked reading)
    | stop => exact absurd rfl (unended reading)

/-- Every line leaves the session without bytes of the next one. -/
theorem fresh_takeLine {session : Session} (fresh : session.Fresh) (line : List UInt8) :
    (session.takeLine line).Fresh := by
  rw [takeLine]
  split
  · exact fresh_execute _
  · exact fresh

/-- No bytes collected, nothing changed. -/
theorem collect_nil {session : Session} (fresh : session.Fresh) :
    session.collect [] = session := by
  rw [collect]
  split
  · next reading => rw [← fresh reading]
  · rfl

/-- A byte joins the unfinished line, and a line feed has the line carried out. -/
theorem feed_collect (session : Session) (pending : List UInt8) (byte : UInt8) :
    (session.collect pending).feed byte =
      if byte = lineFeed then session.takeLine (pending ++ [byte])
      else session.collect (pending ++ [byte]) := by
  cases stands : session.phase with
  | reading => simp [feed, collect, takeLine, stands]
  | done => simp [feed, collect, takeLine, stands]
  | broken fault => simp [feed, collect, takeLine, stands]

/-- Bytes that follow an unfinished line complete it and the lines after it. -/
theorem foldl_feed_collect {session : Session} (fresh : session.Fresh) {pending : List UInt8}
    (clean : lineFeed ∉ pending) (input : List UInt8) :
    input.foldl feed (session.collect pending) =
      ((cut (pending ++ input)).complete.foldl takeLine session).collect
        (cut (pending ++ input)).unfinished := by
  -- The session is the one before the unfinished line, so that line stays a whole one.
  induction input generalizing session pending with
  | nil => rw [List.append_nil, cut_of_not_mem clean, List.foldl_nil, List.foldl_nil]
  | cons byte rest ih =>
    rw [List.foldl_cons, feed_collect]
    by_cases last : byte = lineFeed
    · have taken := fresh_takeLine fresh (pending ++ [byte])
      rw [if_pos last, ← collect_nil taken, ih taken List.not_mem_nil, last,
        cut_append_lineFeed clean, List.foldl_cons, List.nil_append]
    · have longer : lineFeed ∉ pending ++ [byte] := by simp [clean, Ne.symm last]
      rw [if_neg last, ih fresh longer, List.append_assoc, List.singleton_append]

/-- A session on any bytes takes their complete lines and collects the rest. -/
theorem foldl_feed {session : Session} (fresh : session.Fresh) (input : List UInt8) :
    input.foldl feed session =
      ((cut input).complete.foldl takeLine session).collect (cut input).unfinished := by
  have fed := foldl_feed_collect fresh List.not_mem_nil input
  rwa [collect_nil fresh, List.nil_append] at fed

/-- Lines leave the session without bytes of the next one. -/
theorem fresh_foldl_takeLine {session : Session} (fresh : session.Fresh)
    (lines : List (List UInt8)) : (lines.foldl takeLine session).Fresh := by
  induction lines generalizing session with
  | nil => exact fresh
  | cons line later ih => exact ih (fresh_takeLine fresh line)

/-- The end of the input completes an unfinished line. -/
theorem finish_collect {session : Session} (fresh : session.Fresh)
    (unfinished : List UInt8) :
    (session.collect unfinished).finish .endOfInput =
      (if unfinished = [] then session else session.takeLine unfinished).endOfInput := by
  by_cases begun : unfinished = []
  · rw [if_pos begun, begun, collect_nil fresh]
    cases stands : session.phase with
    | reading => simp [finish, stands, fresh stands]
    | done => simp [finish, endOfInput, stands]
    | broken fault => simp [finish, endOfInput, stands]
  · rw [if_neg begun]
    cases stands : session.phase with
    | reading => simp [finish, collect, takeLine, stands, begun]
    | done => simp [finish, collect, takeLine, endOfInput, stands]
    | broken fault => simp [finish, collect, takeLine, endOfInput, stands]

/-- A whole session on input that comes to its end takes the lines of the input. -/
theorem run_endOfInput (console : Console) (table : Table) (input : List UInt8)
    (room : Option Nat) :
    run console table input .endOfInput room =
      ((lines input).foldl takeLine (start console table room)).endOfInput.close := by
  have fresh := fresh_start console table room
  have taken := fresh_foldl_takeLine fresh (cut input).complete
  rw [run, foldl_feed fresh, finish_collect taken, lines]
  obtain ⟨complete, unfinished⟩ := cut input
  cases unfinished with
  | nil => rw [if_pos rfl]
  | cons byte rest =>
    rw [if_neg (List.cons_ne_nil byte rest), List.foldl_append, List.foldl_cons, List.foldl_nil]

/-- The reply to a line. -/
def reply (session : Session) (line : List UInt8) : Reply Table Outcome StorageEvent :=
  (Statement.ofBytes line).execute session.table

/-- The session with a line carried out and not yet answered. -/
def carry (session : Session) (line : List UInt8) : Session :=
  { session with
    console := { session.console with buffer := line.toArray }
    table := (session.reply line).state
    log := session.log.push (.executing (.ofBytes line) session.table.size) ++
      ((session.reply line).events.map Event.storage).toArray }

/-- Behind an answer, prompt for the next line or come to the end. -/
def settle (session : Session) (control : Control) : Session :=
  match session.phase, control with
  | .reading, .proceed => session.ask
  | .reading, .stop => { session with phase := .done }
  | _, _ => session

/-- Behind an answer that was written whole the session prompts. -/
theorem settle_proceed {session : Session} (reading : session.phase = .reading) :
    session.settle .proceed = session.ask := by
  simp only [settle, reading]

/-- Behind the command to leave the session comes to its end. -/
theorem settle_stop {session : Session} (reading : session.phase = .reading) :
    session.settle .stop = { session with phase := .done } := by
  simp only [settle, reading]

/-- A waiting session carries a line out, answers it, and then prompts or comes to its end. -/
theorem takeLine_eq {session : Session} (reading : session.phase = .reading)
    (line : List UInt8) :
    session.takeLine line =
      ((session.carry line).emit (Text.Utf8.encode (session.reply line).answer.chars)).settle
        (session.reply line).answer.control := by
  have parsed : Statement.ofChars (Text.Utf8.decodeLossy line) = Statement.ofBytes line := by
    rw [Statement.ofBytes, Statement.parse, String.toList_ofList]
  have collected : session.collect line =
      { session with console := { session.console with buffer := line.toArray } } := by
    rw [collect, reading]
  rw [takeLine, reading, collected, carry, reply, ← parsed]
  rfl

/-- Behind a prompt the line before is forgotten, unless the prompt was not written whole. -/
theorem ask_cases (session : Session) :
    let prompted := session.emit (Text.Utf8.encode session.console.prompt.toList)
    (prompted.phase = .reading → session.ask =
      { prompted with console := { prompted.console with buffer := #[] } }) ∧
    (prompted.phase ≠ .reading → session.ask = prompted) := by
  intro prompted
  have asked : session.ask =
      match prompted.phase with
      | .reading => { prompted with console := { prompted.console with buffer := #[] } }
      | _ => prompted := rfl
  rw [asked]
  constructor
  · intro reading
    rw [reading]
  · intro stopped
    split
    · next reading => exact absurd reading stopped
    · rfl

/-- Prompting leaves the table and the prompt alone. -/
theorem keeps_ask (session : Session) :
    session.ask.table = session.table ∧
      session.ask.console.prompt = session.console.prompt := by
  obtain ⟨written, refused⟩ := ask_cases session
  by_cases prompted :
      (session.emit (Text.Utf8.encode session.console.prompt.toList)).phase = .reading
  · rw [written prompted]
    exact ⟨rfl, rfl⟩
  · rw [refused prompted]
    exact ⟨rfl, rfl⟩

/-- The table behind a line is that of the reply, whether or not the answer could be written. -/
theorem table_takeLine {session : Session} (reading : session.phase = .reading)
    (line : List UInt8) : (session.takeLine line).table = (session.reply line).state := by
  rw [takeLine_eq reading, settle.eq_def]
  split
  · rw [(keeps_ask _).1]
    rfl
  · rfl
  · rfl

/-- No line changes the prompt. -/
theorem prompt_takeLine (session : Session) (line : List UInt8) :
    (session.takeLine line).console.prompt = session.console.prompt := by
  by_cases reading : session.phase = .reading
  · rw [takeLine_eq reading, settle.eq_def]
    split
    · rw [(keeps_ask _).2]
      rfl
    · rfl
    · rfl
  · rw [takeLine_of_stopped reading]

/-- No lines change the prompt. -/
theorem prompt_foldl_takeLine (session : Session) (lines : List (List UInt8)) :
    (lines.foldl takeLine session).console.prompt = session.console.prompt := by
  induction lines generalizing session with
  | nil => rfl
  | cons line later ih => rw [List.foldl_cons, ih, prompt_takeLine]

end Session

end RowStore
