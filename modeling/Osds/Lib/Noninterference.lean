import Mathlib.Data.List.Basic

namespace Noninterference

variable {Secret View Leak : Type}

-- Two secrets are alike when blanking what is guarded leaves the same. `leak` is
-- all that a view tells of two alike secrets.
def Leaks (view : Secret → View) (blank : Secret → Secret) (leak : Secret → Leak) : Prop :=
  ∀ p q, blank p = blank q → (view p = view q ↔ leak p = leak q)

theorem leaks_mapIdx {view : Nat → Secret → View} {blank : Secret → Secret} {leak : Secret → Leak}
    (each : ∀ n, Leaks (view n) blank leak) :
    Leaks (fun items => items.mapIdx view) (List.map blank) (List.map leak) := by
  intro items others
  induction items generalizing others view with
  | nil =>
      intro alike
      rw [List.map_nil,eq_comm,List.map_eq_nil_iff] at alike
      subst alike
      exact ⟨fun _ => rfl,fun _ => rfl⟩
  | cons item rest ih =>
      intro alike
      cases others with
      | nil => simp at alike
      | cons other more =>
          rw [List.map_cons,List.map_cons,List.cons.injEq] at alike
          have here := each 0 item other alike.1
          have later := ih (fun n => each (n+1)) more alike.2
          simp only [List.mapIdx_cons,List.map_cons,List.cons.injEq]
          exact and_congr here later

end Noninterference
