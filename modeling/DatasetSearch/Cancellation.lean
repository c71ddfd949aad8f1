/-! Cancellation tokens.

A token stands for one piece of work. Whoever holds it can ask whether the work is still wanted. A
new token is unlike all before it, and a token once cancelled stays cancelled. -/
namespace DatasetSearch

structure Token where
  number : Nat
deriving DecidableEq, Repr

/-- The tokens handed out so far and those of them that are cancelled. -/
structure Tokens where
  issued : Nat := 0
  cancelled : List Token := []
deriving DecidableEq, Repr

namespace Tokens

def next (t : Tokens) : Token := ⟨t.issued⟩

/-- The tokens after the next one has been handed out. -/
def issue (t : Tokens) : Tokens := { t with issued := t.issued + 1 }

def cancel (t : Tokens) (k : Token) : Tokens := { t with cancelled := k :: t.cancelled }

/-- Cancels a token if there is one. -/
def cancelAny (t : Tokens) (k : Option Token) : Tokens :=
  match k with
  | some k => t.cancel k
  | none => t

def isCancelled (t : Tokens) (k : Token) : Bool := t.cancelled.contains k

@[simp] theorem cancelAny_issued (t : Tokens) (k : Option Token) :
    (t.cancelAny k).issued = t.issued := by
  cases k <;> rfl

@[simp] theorem cancelAny_cancelled (t : Tokens) (k : Option Token) :
    (t.cancelAny k).cancelled = k.toList ++ t.cancelled := by
  cases k <;> rfl

theorem isCancelled_iff {t : Tokens} {k : Token} : t.isCancelled k = true ↔ k ∈ t.cancelled :=
  List.contains_iff_mem

theorem isCancelled_eq_false_iff {t : Tokens} {k : Token} :
    t.isCancelled k = false ↔ k ∉ t.cancelled := by
  rw [Bool.eq_false_iff, ne_eq, isCancelled_iff]

end Tokens
end DatasetSearch
