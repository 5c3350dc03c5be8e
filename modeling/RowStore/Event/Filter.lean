import RowStore.Event

/-!
# Log filters

A filter is a list of directives separated by commas. A directive limits the level of
detail, either of everything or of the targets whose name begins with a given text. Of
the directives that speak about a target the longest name decides, and of two with the
same name the later one; without any, nothing is admitted.
-/

namespace RowStore

/-- The levels a directive admits: none, or all up to one. -/
abbrev LevelLimit := Option Level

/-- Whether a limit admits a level. -/
def LevelLimit.admits (limit : LevelLimit) (level : Level) : Bool :=
  match limit with
  | none => false
  | some most => level.rank ≤ most.rank

/-- A limit on the targets whose name begins with `target`. -/
structure Directive where
  /-- Beginning of the targets spoken about; empty for every target. -/
  target : List Char
  /-- What is admitted of them. -/
  limit : LevelLimit
  deriving DecidableEq, Repr

namespace Directive

/-- Names of the limits, in lower case, and their numbers. -/
def limitNames : List (List Char × LevelLimit) :=
  [("off".toList, none), ("0".toList, none), ("error".toList, some .error),
   ("1".toList, some .error), ("warn".toList, some .warn), ("2".toList, some .warn),
   ("info".toList, some .info), ("3".toList, some .info), ("debug".toList, some .debug),
   ("4".toList, some .debug), ("trace".toList, some .trace), ("5".toList, some .trace)]

/-- The limit of a name, in letters of either case. -/
def limit? (name : List Char) : Option LevelLimit :=
  limitNames.lookup (name.map Char.toLower)

/-- Whether a text can name a target. -/
def isTarget (text : List Char) : Bool :=
  !text.isEmpty && text.all fun c => c.isAlphanum || c == '_' || c == ':' || c == '-'

/-- A directive is a limit, a target with a limit, or a target that is admitted whole. -/
def parse? (text : List Char) : Option Directive :=
  match limit? text with
  | some limit => some ⟨[], limit⟩
  | none =>
    let target := text.takeWhile (· != '=')
    if !isTarget target then none
    else
      match text.dropWhile (· != '=') with
      | [] | ['='] => some ⟨target, some .trace⟩
      | _ :: name => (limit? name).map fun limit => ⟨target, limit⟩

/-- Whether a directive speaks about a target. -/
def concerns (directive : Directive) (target : List Char) : Bool :=
  directive.target.isPrefixOf target

end Directive

/-- Directives in the order given. -/
structure LogFilter where
  /-- The directives. -/
  directives : List Directive
  deriving DecidableEq, Repr

namespace LogFilter

/-- Read a filter; empty directives are passed over. -/
def parse? (text : String) : Option LogFilter :=
  ((text.toList.splitOn ',').filter (! ·.isEmpty)).mapM Directive.parse? |>.map LogFilter.mk

/-- The filter in force when none is given: warnings and errors. -/
def standard : LogFilter := ⟨[⟨[], some .warn⟩]⟩

/-- The better of two directives about one target: the longer name, then the later one. -/
def prefer (best : Option Directive) (candidate : Directive) : Option Directive :=
  match best with
  | none => some candidate
  | some chosen =>
    if chosen.target.length ≤ candidate.target.length then some candidate else some chosen

/-- The directive that decides about a target. -/
def deciding? (filter : LogFilter) (target : String) : Option Directive :=
  (filter.directives.filter (·.concerns target.toList)).foldl prefer none

/-- Whether an event is admitted. -/
def admits (filter : LogFilter) (event : Event) : Bool :=
  match filter.deciding? event.target with
  | none => false
  | some directive => directive.limit.admits event.level

end LogFilter

/-- A way to read log filters: what each text that is a filter admits, and what is admitted
when no filter is given. -/
structure FilterReader where
  /-- What a text admits, if it is a filter. -/
  read? : String → Option (Event → Bool)
  /-- What is admitted when no filter is given. -/
  standard : Event → Bool

/-- Filters are lists of directives. -/
def LogFilter.reader : FilterReader where
  read? := fun text => (parse? text).map admits
  standard := standard.admits

end RowStore
