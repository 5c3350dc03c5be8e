/-!
# Replies

An operation on a state answers, leaves a state behind and reports events. The state
after a refusal is part of the reply, so that what a refusal changes can be stated.
-/

namespace RowStore

/-- The answer of an operation, the state it leaves and the events it reported, in order. -/
structure Reply (σ α ε : Type) where
  /-- What the caller is told. -/
  answer : α
  /-- The state afterwards, also after a refusal. -/
  state : σ
  /-- What was reported on the way. -/
  events : List ε

end RowStore
