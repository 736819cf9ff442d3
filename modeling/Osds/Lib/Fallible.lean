namespace Fallible

-- Runs of computations that may refuse, taken apart one bind at a time.
theorem bind_exact {x : Except ε α} {f : α → Except ε β} :
    x >>= f = .ok b ↔ ∃ a, x = .ok a ∧ f a = .ok b := by
  cases x with
  | error e => exact iff_of_false nofun (by rintro ⟨_,absurd,_⟩; cases absurd)
  | ok a =>
      constructor
      · intro accepted
        exact ⟨a,rfl,accepted⟩
      · rintro ⟨_,equal,accepted⟩
        cases equal
        exact accepted

theorem bind_error {x : Except ε α} {f : α → Except ε β} :
    x >>= f = .error e ↔ x = .error e ∨ ∃ a, x = .ok a ∧ f a = .error e := by
  cases x with
  | error first =>
      constructor
      · intro refused
        have equal : first = e := Except.error.inj refused
        exact .inl (congrArg Except.error equal)
      · rintro (refused | ⟨_,absurd,_⟩)
        · cases refused
          rfl
        · cases absurd
  | ok a =>
      constructor
      · intro refused
        exact .inr ⟨a,rfl,refused⟩
      · rintro (absurd | ⟨_,equal,refused⟩)
        · cases absurd
        · cases equal
          exact refused

theorem map_bind {x : Except ε α} {f : α → Except ε β} {g : β → γ} :
    (x >>= f).map g = x >>= fun a => (f a).map g := by
  cases x <;> rfl

theorem pure_exact {a b : α} : (pure a : Except ε α) = .ok b ↔ a = b :=
  ⟨Except.ok.inj,fun equal => congrArg Except.ok equal⟩

theorem of_toOption {x : Except ε α} (found : x.toOption = some a) : x = .ok a := by
  cases x with
  | error e => cases found
  | ok b => exact congrArg Except.ok (Option.some.inj found)

theorem mapM_each {f : α → Except ε β} {xs : List α} {ys : List β} (done : xs.mapM f = .ok ys) :
    ∀ x ∈ xs, ∃ y ∈ ys, f x = .ok y := by
  induction xs generalizing ys with
  | nil =>
      intro x there
      cases there
  | cons a rest ih =>
      rw [List.mapM_cons] at done
      obtain ⟨b,first,later⟩ := bind_exact.mp done
      obtain ⟨bs,others,whole⟩ := bind_exact.mp later
      cases whole
      intro x there
      rcases List.mem_cons.mp there with rfl | below
      · exact ⟨b,List.mem_cons_self ..,first⟩
      · obtain ⟨y,present,computed⟩ := ih others x below
        exact ⟨y,List.mem_cons_of_mem _ present,computed⟩

def Related (r : α → β → Prop) : Except ε α → Except ε β → Prop
  | .ok a,.ok b => r a b
  | .error e,.error f => e = f
  | _,_ => False

theorem related_refl {r : α → α → Prop} (same : ∀ a, r a a) (x : Except ε α) : Related r x x := by
  cases x with
  | error e => rfl
  | ok a => exact same a

theorem related_bind {x : Except ε α} {y : Except ε β} {f : α → Except ε γ} {g : β → Except ε δ}
    {r : α → β → Prop} {q : γ → δ → Prop} (first : Related r x y)
    (next : ∀ a b, r a b → Related q (f a) (g b)) : Related q (x >>= f) (y >>= g) := by
  cases x with
  | error e =>
      cases y with
      | error e' => exact first
      | ok b => exact first.elim
  | ok a =>
      cases y with
      | error e => exact first.elim
      | ok b => exact next a b first

-- A computation that refuses, with errors of one kind, exactly where `refuses` holds,
-- and returns a value with a property where it does not.
inductive Reads (refuses : Prop) (kind : ε → Prop) (returns : α → Prop) : Except ε α → Prop where
  | refused (why : refuses) (error : kind e) : Reads refuses kind returns (.error e)
  | returned (fine : ¬refuses) (holds : returns a) : Reads refuses kind returns (.ok a)

theorem reads_bind {x : Except ε α} {f : α → Except ε β} {good : α → Prop} {fine : β → Prop} (first : Reads r kind good x)
    (next : ∀ a, good a → Reads q kind fine (f a)) : Reads (r ∨ q) kind fine (x >>= f) := by
  cases first with
  | refused why error => exact .refused (.inl why) error
  | @returned a sound holds =>
      change Reads (r ∨ q) kind fine (f a)
      have second := next a holds
      generalize f a = y at second ⊢
      cases second with
      | refused why error => exact .refused (.inr why) error
      | returned sound' holds' => exact .returned (fun why => why.elim sound sound') holds'

theorem reads_congr {good : α → Prop} (same : r ↔ q) (reads : Reads r kind good x) : Reads q kind good x := by
  cases reads with
  | refused why error => exact .refused (same.mp why) error
  | returned sound holds => exact .returned (fun why => sound (same.mpr why)) holds

end Fallible
