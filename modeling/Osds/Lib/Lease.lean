import Mathlib.Logic.Function.Basic

namespace Lease

-- One row under an optimistic guard. A lease writes a stamp into the row and
-- hands it to its owner as a token; an owner's later write goes through only if
-- the row still bears its token. `latest` is the owner of the lease that was the
-- last write of the row, if a lease was.
structure Cell (Owner Stamp : Type) where
  stamp : Stamp
  tokens : Owner → Option Stamp
  latest : Option Owner

variable {Owner Stamp : Type} {c : Cell Owner Stamp} {p : Owner}

def Sound (c : Cell Owner Stamp) : Prop := ∀ p, c.tokens p = some c.stamp → c.latest = some p

def Fresh (c : Cell Owner Stamp) (excepted : Owner → Prop) (v : Stamp) : Prop :=
  ∀ q, ¬excepted q → c.tokens q ≠ some v

def overwrite (c : Cell Owner Stamp) (v : Stamp) : Cell Owner Stamp := {c with stamp := v,latest := none}

variable [DecidableEq Owner]

def lease (c : Cell Owner Stamp) (p : Owner) (v : Stamp) : Cell Owner Stamp :=
  ⟨v,Function.update c.tokens p (some v),some p⟩

def release (c : Cell Owner Stamp) (p : Owner) : Cell Owner Stamp :=
  {c with tokens := Function.update c.tokens p none}

omit [DecidableEq Owner] in
theorem overwrite_sound (fresh : Fresh c (fun _ => False) v) : Sound (overwrite c v) := by
  intro p held
  exact absurd held (fresh p id)

theorem lease_sound (fresh : Fresh c (· = p) v) : Sound (lease c p v) := by
  intro q held
  by_cases own : q = p
  · rw [own]
    rfl
  · have other : c.tokens q = some v := by simpa [lease,own] using held
    exact absurd other (fresh q own)

theorem rewrite_sound (fresh : Fresh c (· = p) v) : Sound (overwrite (release c p) v) := by
  apply overwrite_sound
  intro q _
  by_cases own : q = p
  · simp [release,own]
  · simpa [release,own] using fresh q own

-- A guarded write that leaves the stamp where it was: no other owner's token is
-- the same, so no guard passes any more.
theorem settle_sound (sound : Sound c) (held : c.tokens p = some c.stamp) :
    Sound (overwrite (release c p) c.stamp) := by
  apply rewrite_sound
  intro q other same
  have first := sound p held
  rw [sound q same,Option.some.injEq] at first
  exact other first

end Lease
