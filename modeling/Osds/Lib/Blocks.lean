namespace Blocks

-- A block of statements. What it has written stays in the state it leaves, also
-- when a later statement raises.
structure Block (State Error α : Type) where
  run : State → Except Error α × State

section blocks

variable {State Error α β : Type}

def follow (x : Block State Error α) (f : α → Block State Error β) : Block State Error β :=
  ⟨fun s =>
    match x.run s with
    | (.ok a,s') => (f a).run s'
    | (.error e,s') => (.error e,s')⟩

instance : Monad (Block State Error) where
  pure a := ⟨fun s => (.ok a,s)⟩
  bind := follow

def reads (f : State → α) : Block State Error α := ⟨fun s => (.ok (f s),s)⟩

def writes (f : State → State) : Block State Error Unit := ⟨fun s => (.ok (),f s)⟩

def lift (x : Except Error α) : Block State Error α := ⟨fun s => (x,s)⟩

def atomic (x : Block State Error α) : Block State Error α :=
  ⟨fun s =>
    match x.run s with
    | (.ok a,s') => (.ok a,s')
    | (.error e,_) => (.error e,s)⟩

-- The block does what the outcome says, up to what it wrote before it raised.
def Performs (x : Block State Error α) (s : State) : Except Error (α × State) → Prop
  | .ok (a,s') => x.run s = (.ok a,s')
  | .error e => ∃ left, x.run s = (.error e,left)

def committed (s : State) : Except Error (α × State) → Except Error α × State
  | .ok (a,s') => (.ok a,s')
  | .error e => (.error e,s)

@[simp] theorem run_pure (a : α) (s : State) : (pure a : Block State Error α).run s = (.ok a,s) := rfl

theorem bind_ok {x : Block State Error α} {f : α → Block State Error β} (ran : x.run s = (.ok a,s')) :
    (x >>= f).run s = (f a).run s' := by
  change (follow x f).run s = (f a).run s'
  unfold follow
  dsimp only
  rw [ran]

theorem bind_raised {x : Block State Error α} {f : α → Block State Error β} (ran : x.run s = (.error e,s')) :
    (x >>= f).run s = (.error e,s') := by
  change (follow x f).run s = _
  unfold follow
  dsimp only
  rw [ran]

theorem performs_as {x : Block State Error α} {outcome outcome' : Except Error (α × State)}
    (performs : Performs x s outcome) (same : outcome = outcome') : Performs x s outcome' := by
  rw [← same]
  exact performs

theorem performs_bind {x : Block State Error α} {f : α → Block State Error β}
    {outcome : Except Error (β × State)} (ran : x.run s = (.ok a,s')) (rest : Performs (f a) s' outcome) :
    Performs (x >>= f) s outcome := by
  unfold Performs
  rw [bind_ok ran]
  exact rest

theorem performs_lift {x : Except Error α} {f : α → Block State Error β} {g : α → Except Error (β × State)}
    (rest : ∀ a, x = .ok a → Performs (f a) s (g a)) : Performs (lift x >>= f) s (x >>= g) := by
  cases x with
  | ok a => exact performs_bind rfl (rest a rfl)
  | error e => exact ⟨s,bind_raised rfl⟩

theorem performs_map {x : Block State Error α} {outcome : Except Error (α × State)} (f : α → β)
    (performs : Performs x s outcome) :
    Performs (x >>= fun a => pure (f a)) s (outcome.map (fun done => (f done.1,done.2))) := by
  cases outcome with
  | ok done =>
      have ran : x.run s = (.ok done.1,done.2) := performs
      exact performs_bind ran rfl
  | error e =>
      obtain ⟨left,ran⟩ := performs
      exact ⟨left,bind_raised ran⟩

theorem atomic_performs {x : Block State Error α} {outcome : Except Error (α × State)}
    (performs : Performs x s outcome) : (atomic x).run s = committed s outcome := by
  unfold atomic committed
  dsimp only
  cases outcome with
  | ok done =>
      have ran : x.run s = (.ok done.1,done.2) := performs
      rw [ran]
  | error e =>
      obtain ⟨left,ran⟩ := performs
      rw [ran]

end blocks

end Blocks
