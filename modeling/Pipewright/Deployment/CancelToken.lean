/-!
# Cancel tokens

A token belongs to a family: itself, its clones, and theirs. Cancelling any of them cancels the
family, for good and for clones still to come, and no other family notices.
-/
namespace Pipewright

/-- Tokens that are held, and what has become of their families. -/
structure CancelTokens where
  /-- The family of each token that is held, in order. -/
  held : List Nat
  /-- The number of families there have been; they are numbered from zero. -/
  families : Nat
  /-- The families that have been cancelled. -/
  cancelled : List Nat

namespace CancelTokens

/-- One token of a family of its own. -/
def one : CancelTokens := ⟨[0], 1, []⟩

/-- Adds a token of a family of its own. -/
def fresh (tokens : CancelTokens) : CancelTokens :=
  { tokens with held := tokens.held ++ [tokens.families], families := tokens.families + 1 }

/-- Adds a clone of the token at an index. -/
def clone (tokens : CancelTokens) (index : Nat) : CancelTokens :=
  { tokens with held := tokens.held ++ tokens.held[index]?.toList }

/-- Cancels the family of the token at an index. -/
def cancel (tokens : CancelTokens) (index : Nat) : CancelTokens :=
  { tokens with cancelled := tokens.held[index]?.toList ++ tokens.cancelled }

/-- Lets go of the token at an index. -/
def drop (tokens : CancelTokens) (index : Nat) : CancelTokens :=
  { tokens with held := tokens.held.eraseIdx index }

/-- Whether each held token is cancelled. -/
def states (tokens : CancelTokens) : List Bool :=
  tokens.held.map fun family => tokens.cancelled.contains family

/-- Whether the signal of a family is closed, since no token of it is held any more. -/
def isClosed (tokens : CancelTokens) (family : Nat) : Bool := !tokens.held.contains family

/-- Whether waiting for each held token ends at once: a wait looks at the signal of the family, and
gives up where that is closed. -/
def resolved (tokens : CancelTokens) : List Bool :=
  tokens.held.map fun family => tokens.cancelled.contains family || tokens.isClosed family

end CancelTokens

end Pipewright
