import Osds.Lib.Runs

namespace Idempotent

-- A consumer that answers messages, and may be sent one more than once. Messages
-- of one key are the same to it; a final answer is one it does not take back.
variable {State Message Key Answer : Type}
  (receive : State → Message → State × Answer) (key : Message → Key) (final : Answer → Bool)

def receiveAll (s : State) (messages : List Message) : State :=
  Runs.run (fun s message => (receive s message).1) s messages

def unanswered [DecidableEq Key] : State → List Key → List Message → List Message
  | _,_,[] => []
  | s,done,message :: rest =>
      let (next,answer) := receive s message
      if key message ∈ done then unanswered next done rest
      else message :: unanswered next (if final answer then key message :: done else done) rest

def firsts [DecidableEq Key] : List Key → List Message → List Message
  | _,[] => []
  | seen,message :: rest =>
      if key message ∈ seen then firsts seen rest else message :: firsts (key message :: seen) rest

-- What makes a consumer idempotent: it does not see what `same` forgets, it
-- remembers what it answered, and a message it remembers changes nothing.
structure Consumer (same : State → State → Prop) (settled : State → Key → Prop) : Prop where
  equivalence : Equivalence same
  congr : same a b → (receive a message).2 = (receive b message).2 ∧ same (receive a message).1 (receive b message).1
  settles : final (receive s message).2 = true → settled (receive s message).1 (key message)
  stays : settled s k → settled (receive s message).1 k
  inert : settled s (key message) → same s (receive s message).1

section once

variable {same : State → State → Prop} {settled : State → Key → Prop}

theorem settled_receiveAll (consumer : Consumer receive key final same settled) (valid : settled s k)
    (messages : List Message) : settled (receiveAll receive s messages) k := by
  have preserved : ∀ s message, settled s k → settled (receive s message).1 k := fun _ _ => consumer.stays
  exact Runs.run_invariant (fun s message => (receive s message).1) preserved valid messages

theorem receiveAll_unanswered [DecidableEq Key] (consumer : Consumer receive key final same settled) (valid : ∀ k ∈ done, settled s k)
    (start : same s t) (messages : List Message) :
    same (receiveAll receive s messages) (receiveAll receive t (unanswered receive key final s done messages)) := by
  induction messages generalizing s t done with
  | nil => exact start
  | cons message rest ih =>
      have kept : ∀ k ∈ done, settled (receive s message).1 k := fun k present => consumer.stays (valid k present)
      unfold unanswered
      dsimp only
      by_cases again : key message ∈ done
      · rw [if_pos again]
        have inert := consumer.inert (valid _ again)
        exact ih kept (consumer.equivalence.trans (consumer.equivalence.symm inert) start)
      · rw [if_neg again]
        refine ih ?_ (consumer.congr start).2
        intro k present
        split at present
        · rename_i answered
          rcases List.mem_cons.mp present with equal | prior
          · rw [equal]
            exact consumer.settles answered
          · exact kept k prior
        · exact kept k present

-- With final answers only, the first message of each key is the one that counts.
theorem unanswered_firsts [DecidableEq Key] (answered : Runs.Along (fun s message => (receive s message).1)
    (fun s message => final (receive s message).2 = true) s messages) :
    unanswered receive key final s done messages = firsts key done messages := by
  induction messages generalizing s done with
  | nil => rfl
  | cons message rest ih =>
      unfold unanswered firsts
      dsimp only
      rw [answered.1,if_pos rfl,ih answered.2,ih answered.2]

end once

end Idempotent
