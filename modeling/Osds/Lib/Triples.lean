import Osds.Lib.Blocks

-- Pre- and postconditions of blocks of statements, with a postcondition for a raise.
namespace Blocks

variable {State Error α β : Type}

def raise (e : Error) : Block State Error α := ⟨fun s => (.error e,s)⟩

def handle (x : Block State Error α) (recover : Error → Block State Error α) : Block State Error α :=
  ⟨fun s =>
    match x.run s with
    | (.ok a,s') => (.ok a,s')
    | (.error e,s') => (recover e).run s'⟩

-- `with`: the exit runs whether the block has raised or not, and what it raises takes the
-- place of the outcome.
def closing (x : Block State Error α) (leave : Block State Error Unit) : Block State Error α :=
  ⟨fun s =>
    match x.run s with
    | (outcome,s') =>
        match leave.run s' with
        | (.ok _,s'') => (outcome,s'')
        | (.error e,s'') => (.error e,s'')⟩

def Meets (ends : α → State → Prop) (raises : Error → State → Prop) : Except Error α × State → Prop
  | (.ok a,s) => ends a s
  | (.error e,s) => raises e s

def Triple (before : State → Prop) (x : Block State Error α) (ends : α → State → Prop) (raises : Error → State → Prop) : Prop :=
  ∀ s, before s → Meets ends raises (x.run s)

def Keeps (moves : State → State → Prop) (x : Block State Error α) : Prop := ∀ s, moves s (x.run s).2

section triples

variable {before between : State → Prop} {x : Block State Error α} {f : α → Block State Error β} {ends middle : α → State → Prop}
  {finish : β → State → Prop} {raises caught : Error → State → Prop}

theorem triple_pure {a : α} (there : ∀ s, before s → ends a s) : Triple before (pure a : Block State Error α) ends raises := there

theorem triple_raise {e : Error} (there : ∀ s, before s → raises e s) : Triple before (raise e : Block State Error α) ends raises := there

theorem triple_writes {f : State → State} {ends : Unit → State → Prop} (there : ∀ s, before s → ends () (f s)) :
    Triple before (writes f : Block State Error Unit) ends raises := there

theorem triple_reads {f : State → α} (there : ∀ s, before s → ends (f s) s) :
    Triple before (reads f : Block State Error α) ends raises := there

theorem triple_bind (first : Triple before x middle raises) (rest : ∀ a, Triple (middle a) (f a) finish raises) :
    Triple before (x >>= f) finish raises := by
  intro s holds
  have met := first s holds
  match ran : x.run s with
  | (.ok a,s') =>
      rw [ran] at met
      rw [bind_ok ran]
      exact rest a s' met
  | (.error e,s') =>
      rw [ran] at met
      rw [bind_raised ran]
      exact met

theorem triple_reading {g : State → α} (rest : ∀ a, Triple before (f a) finish raises) : Triple before (reads g >>= f) finish raises := by
  have first : Triple before (reads g : Block State Error α) (fun _ => before) raises := triple_reads fun _ holds => holds
  exact triple_bind first rest

theorem triple_handle {recover : Error → Block State Error α} (first : Triple before x ends caught)
    (rest : ∀ e, Triple (caught e) (recover e) ends raises) : Triple before (handle x recover) ends raises := by
  intro s holds
  have met := first s holds
  unfold handle
  match ran : x.run s with
  | (.ok a,s') =>
      rw [ran] at met
      dsimp only
      rw [ran]
      exact met
  | (.error e,s') =>
      rw [ran] at met
      dsimp only
      rw [ran]
      exact rest e s' met

theorem closing_run {leave : Block State Error Unit} {outcome : Except Error α} {left : Except Error Unit} {s s' s'' : State}
    (ran : x.run s = (outcome,s')) (parted : leave.run s' = (left,s'')) :
    (closing x leave).run s = (left.bind fun _ => outcome,s'') := by
  unfold closing
  simp only [ran,parted]
  cases left <;> rfl

theorem triple_closing {leave : Block State Error Unit} {ends' : α → State → Prop} {raises' : Error → State → Prop}
    (body : Triple before x ends raises) (ended : ∀ a, Triple (ends a) leave (fun _ => ends' a) raises')
    (raised : ∀ e, Triple (raises e) leave (fun _ => raises' e) raises') : Triple before (closing x leave) ends' raises' := by
  intro s holds
  have met := body s holds
  match ran : x.run s with
  | (.ok a,s') =>
      rw [ran] at met
      have left := ended a s' met
      match parted : leave.run s' with
      | (.ok _,s'') | (.error e,s'') =>
          rw [parted] at left
          rw [closing_run ran parted]
          exact left
  | (.error e,s') =>
      rw [ran] at met
      have left := raised e s' met
      match parted : leave.run s' with
      | (.ok _,s'') | (.error e,s'') =>
          rw [parted] at left
          rw [closing_run ran parted]
          exact left

theorem triple_weaken {before' : State → Prop} {ends' : α → State → Prop} {raises' : Error → State → Prop}
    (triple : Triple before x ends raises) (earlier : ∀ s, before' s → before s) (later : ∀ a s, ends a s → ends' a s)
    (raised : ∀ e s, raises e s → raises' e s) : Triple before' x ends' raises' := by
  intro s holds
  have met := triple s (earlier s holds)
  match ran : x.run s with
  | (.ok a,s') =>
      rw [ran] at met
      exact later a s' met
  | (.error e,s') =>
      rw [ran] at met
      exact raised e s' met

theorem triple_outcome (what : Except Error α → State → Prop) {s : State}
    (triple : Triple before x (fun a => what (.ok a)) (fun e => what (.error e))) (holds : before s) : what (x.run s).1 (x.run s).2 := by
  have met := triple s holds
  match ran : x.run s with
  | (.ok a,s') | (.error e,s') =>
      rw [ran] at met
      exact met

theorem triple_run {after : State → Prop} {s : State} (triple : Triple before x (fun _ => after) (fun _ => after)) (holds : before s) :
    after (x.run s).2 := triple_outcome (fun _ => after) triple holds

end triples

section keeps

variable {moves : State → State → Prop} {x : Block State Error α} {f : α → Block State Error β}

theorem keeps_triple {before after : State → Prop} (keeps : Keeps moves x) (there : ∀ s t, before s → moves s t → after t) :
    Triple before x (fun _ => after) (fun _ => after) := by
  intro s holds
  have moved := there s _ holds (keeps s)
  match ran : x.run s with
  | (.ok a,s') | (.error e,s') =>
      rw [ran] at moved
      exact moved

theorem keeps_bind (trans : ∀ {s t u}, moves s t → moves t u → moves s u) (first : Keeps moves x) (rest : ∀ a, Keeps moves (f a)) :
    Keeps moves (x >>= f) := by
  intro s
  have moved := first s
  match ran : x.run s with
  | (.ok a,s') =>
      rw [ran] at moved
      rw [bind_ok ran]
      exact trans moved (rest a s')
  | (.error e,s') =>
      rw [ran] at moved
      rw [bind_raised ran]
      exact moved

theorem keeps_handle {recover : Error → Block State Error α} (trans : ∀ {s t u}, moves s t → moves t u → moves s u)
    (first : Keeps moves x) (rest : ∀ e, Keeps moves (recover e)) : Keeps moves (handle x recover) := by
  intro s
  have moved := first s
  unfold handle
  match ran : x.run s with
  | (.ok a,s') =>
      rw [ran] at moved
      dsimp only
      rw [ran]
      exact moved
  | (.error e,s') =>
      rw [ran] at moved
      dsimp only
      rw [ran]
      exact trans moved (rest e s')

theorem keeps_closing {leave : Block State Error Unit} (trans : ∀ {s t u}, moves s t → moves t u → moves s u)
    (first : Keeps moves x) (last : Keeps moves leave) : Keeps moves (closing x leave) := by
  intro s
  have moved := trans (first s) (last (x.run s).2)
  unfold closing
  dsimp only
  split
  · next same => exact (congrArg Prod.snd same) ▸ moved
  · next same => exact (congrArg Prod.snd same) ▸ moved

end keeps

end Blocks
