import Osds.Lib.Fallible

-- Postconditions of computations that may refuse, step by step.
namespace Fallible

variable {ε α β : Type}

def Gives (p : α → Prop) (x : Except ε α) : Prop := ∀ a, x = .ok a → p a

section rules

variable {p : α → Prop} {r : β → Prop} {x y : Except ε α}

theorem gives_pure {a : α} (holds : p a) : Gives p (pure a : Except ε α) := by
  intro b same
  exact pure_exact.mp same ▸ holds

theorem gives_error (e : ε) : Gives p (.error e) := nofun

theorem gives_bind {f : α → Except ε β} (next : ∀ a, x = .ok a → Gives r (f a)) : Gives r (x >>= f) := by
  intro b done
  obtain ⟨a,first,later⟩ := bind_exact.mp done
  exact next a first b later

theorem gives_ite {c : Prop} [Decidable c] (yes : c → Gives p x) (no : ¬c → Gives p y) : Gives p (if c then x else y) := by
  split
  · next holds => exact yes holds
  · next fails => exact no fails

end rules

end Fallible
