import Osds.Adapters.SmtpSender

-- The mail drain, with the SMTP sender as its provider.
namespace Osds.Adapters.MailAttempts
open Audit (TenantId)
open Audit.MailDrain hiding step
open Directory (Time)
open Smtplib (Exchange Accepted RecipientsRefused DataRefused Torn Parted)
open SmtpSender (World MailMessage send send_cases delivered delivered_told concluded_told succeeded refused)
open WebhookEndpoint (Context)

def messageOf (m : OutboundMessage) : MailMessage :=
  ⟨m.messageId,m.kind,m.toAddress.getD "",m.subject,m.bodyText.getD ""⟩

-- A call of the sender, and what there was for it.
structure Attempt where
  pk : Nat
  loaded : OutboundMessage
  world : World
  ctx : Context

def Attempt.answer (a : Attempt) : Answer := (send a.world a.ctx (messageOf a.loaded)).1

def Attempt.log (a : Attempt) : List Exchange := (send a.world a.ctx (messageOf a.loaded)).2

structure Outbox where
  mail : Mail
  attempts : List Attempt

inductive Move where
  | act (action : Action)
  | call (p : Nat) (world : World) (ctx : Context) (draw : Nat)

def calls : Action → Bool
  | .send _ (some _) _ => true
  | _ => false

def step (s : Outbox) : Move → Outbox
  | .act action => if calls action then s else {s with mail := Audit.MailDrain.step s.mail action}
  | .call p world ctx draw =>
      match s.mail.passes p with
      | some ⟨now,_,.sending pk loaded _⟩ =>
          if loaded.expiresAt ≤ now then {s with mail := Audit.MailDrain.step s.mail (.send p none draw)}
          else
            let a : Attempt := ⟨pk,loaded,world,ctx⟩
            ⟨Audit.MailDrain.step s.mail (.send p (some a.answer) draw),s.attempts ++ [a]⟩
      | _ => s

def Outbox.start : Outbox := ⟨Mail.start,[]⟩

structure Letter where
  messageId : String
  tenant : TenantId
  kind : String
  toAddress : Option String
  subject : String

def letter (m : OutboundMessage) : Letter := ⟨m.messageId,m.tenant,m.kind,m.toAddress,m.subject⟩

structure Settles (attempts : List Attempt) (pk : Nat) (what : Letter) (status : MailStatus) : Prop where
  sent : status = .sent → ∃ a ∈ attempts, a.pk = pk ∧ letter a.loaded = what ∧ Accepted a.log ∧ Parted a.log
  dead : status = .dead → ∃ a ∈ attempts, a.pk = pk ∧ letter a.loaded = what ∧ (RecipientsRefused a.log ∨ DataRefused a.log)

section settling

variable {s : Mail} {pk q : Nat}

inductive Comes (s : Mail) (next pk : Nat) (m' : OutboundMessage) : Prop where
  | new (pending : m'.status = .pending) (drawn : pk = s.nextMessage) (counted : pk < next)
  | kept (row : s.messages pk = some m) (same : letter m' = letter m) (status : m'.status = m.status)
  | settled (row : s.messages pk = some m) (same : letter m' = letter m) (recording : s.passes p = some ⟨now,begun,.recording pk l o rest⟩)
      (status : m'.status = o.status)

theorem put_messages {m m' : OutboundMessage} {k : Nat} (row : (s.put k m).messages pk = some m') :
    pk = k ∧ m' = m ∨ s.messages pk = some m' := by
  unfold Mail.put at row
  dsimp only at row
  by_cases own : pk = k
  · rw [own,Function.update_self] at row
    exact .inl ⟨own,(Option.some.inj row).symm⟩
  · rw [Function.update_of_ne own] at row
    exact .inr row

theorem record_messages {p k : Nat} {now : Time} {begun : Nat → Option Time} {l m' : OutboundMessage} {o : Outcome} {rest : List Nat}
    (recording : s.passes p = some ⟨now,begun,.recording k l o rest⟩) (row : (s.record now k l o).messages pk = some m') (next : Nat) :
    Comes s next pk m' := by
  unfold Mail.record at row
  split at row
  · exact .kept row rfl rfl
  · next m there =>
      split at row
      · rcases put_messages row with ⟨rfl,rfl⟩ | still
        · exact .settled there rfl recording rfl
        · exact .kept still rfl rfl
      · exact .kept row rfl rfl

theorem step_messages (action : Action) {m' : OutboundMessage} (row : (Audit.MailDrain.step s action).messages pk = some m') :
    Comes s (Audit.MailDrain.step s action).nextMessage pk m' := by
  cases action with
  | enqueue messageId tenant kind toAddress subject bodyText expiresAt now =>
      rcases put_messages row with ⟨rfl,rfl⟩ | still
      · exact .new rfl rfl (Nat.lt_succ_self _)
      · exact .kept still rfl rfl
  | start now => exact .kept row rfl rfl
  | claim p batch locked =>
      simp only [Audit.MailDrain.step] at row
      split at row
      · simp only [Mail.goto,Mail.stampAll] at row
        split at row
        · obtain ⟨m,there,rfl⟩ := Option.map_eq_some_iff.mp row
          exact .kept there rfl rfl
        · exact .kept row rfl rfl
      · exact .kept row rfl rfl
  | load p =>
      simp only [Audit.MailDrain.step] at row
      split at row
      · split at row <;> exact .kept row rfl rfl
      · exact .kept row rfl rfl
  | send p provider draw =>
      simp only [Audit.MailDrain.step] at row
      split at row <;> exact .kept row rfl rfl
  | record p =>
      simp only [Audit.MailDrain.step] at row
      split at row
      · next recording => exact record_messages recording row _
      · exact .kept row rfl rfl
  | crash p => exact .kept row rfl rfl
  | look e k now => exact .kept row rfl rfl
  | save e =>
      simp only [Audit.MailDrain.step] at row
      split at row
      · exact .kept row rfl rfl
      · split at row
        · exact .kept row rfl rfl
        · next m there =>
            rcases put_messages row with ⟨rfl,rfl⟩ | still
            · exact .kept there rfl rfl
            · exact .kept still rfl rfl

theorem record_next {now : Time} {l : OutboundMessage} {o : Outcome} : (s.record now pk l o).nextMessage = s.nextMessage := by
  unfold Mail.record
  split
  · rfl
  · split <;> rfl

theorem step_next (action : Action) : s.nextMessage ≤ (Audit.MailDrain.step s action).nextMessage := by
  cases action with
  | enqueue messageId tenant kind toAddress subject bodyText expiresAt now => exact Nat.le_succ _
  | record p =>
      simp only [Audit.MailDrain.step]
      split
      · exact record_next.ge
      · exact Nat.le_refl _
  | load p =>
      simp only [Audit.MailDrain.step]
      split
      · split <;> exact Nat.le_refl _
      · exact Nat.le_refl _
  | save e =>
      simp only [Audit.MailDrain.step]
      split
      · exact Nat.le_refl _
      · split <;> exact Nat.le_refl _
  | claim p batch locked | send p provider draw =>
      simp only [Audit.MailDrain.step]
      split <;> exact Nat.le_refl _
  | _ => exact Nat.le_refl _

inductive Goes (s : Mail) (action : Action) (q : Nat) (pass : Pass) : Prop where
  | free (none_ : pass.phase.loaded = none)
  | kept (still : s.passes q = some pass)
  | read (phase : pass.phase = .sending k l rest) (row : s.messages k = some l)
  | tried (is : action = .send q provider draw) (sending : s.passes q = some ⟨pass.now,pass.begun,.sending k l rest⟩)
      (phase : pass.phase = .recording k l (attempted l pass.now provider draw) rest)

theorem step_passes (action : Action) {pass : Pass} (here : (Audit.MailDrain.step s action).passes q = some pass) : Goes s action q pass := by
  cases action with
  | start now =>
      rcases goto_passes here with ⟨_,rfl⟩ | ⟨_,still⟩
      · exact .free rfl
      · exact .kept still
  | claim p batch locked =>
      simp only [Audit.MailDrain.step] at here
      split at here
      · rcases goto_passes here with ⟨_,rfl⟩ | ⟨_,still⟩
        · exact .free rfl
        · exact .kept still
      · exact .kept here
  | load p =>
      simp only [Audit.MailDrain.step] at here
      split at here
      · split at here
        · exact .kept here
        · next m row =>
            rcases goto_passes here with ⟨_,rfl⟩ | ⟨_,still⟩
            · exact .read rfl row
            · exact .kept still
      · exact .kept here
  | send p provider draw =>
      simp only [Audit.MailDrain.step] at here
      split at here
      · next sending =>
          rcases goto_passes here with ⟨rfl,rfl⟩ | ⟨_,still⟩
          · exact .tried rfl sending rfl
          · exact .kept still
      · exact .kept here
  | record p =>
      simp only [Audit.MailDrain.step] at here
      split at here
      · rcases goto_passes here with ⟨_,rfl⟩ | ⟨_,still⟩
        · exact .free rfl
        · refine .kept ?_
          unfold Mail.record at still
          split at still
          · exact still
          · split at still <;> exact still
      · exact .kept here
  | crash p =>
      simp only [Audit.MailDrain.step] at here
      by_cases own : q = p
      · rw [own,Function.update_self] at here
        cases here
      · rw [Function.update_of_ne own] at here
        exact .kept here
  | save e =>
      simp only [Audit.MailDrain.step] at here
      split at here
      · exact .kept here
      · split at here <;> exact .kept here
  | _ => exact .kept here

end settling

-- A message that a pass has loaded keeps its letter; what it is about to record is what
-- some attempt came to.
structure Sound (s : Outbox) : Prop where
  numbered : ∀ pk m, s.mail.messages pk = some m → pk < s.mail.nextMessage
  held : ∀ q pass pk l, s.mail.passes q = some pass → pass.phase.loaded = some (pk,l) →
    pk < s.mail.nextMessage ∧ ∀ m, s.mail.messages pk = some m → letter m = letter l
  waiting : ∀ q now begun pk l o rest, s.mail.passes q = some ⟨now,begun,.recording pk l o rest⟩ →
    Settles s.attempts pk (letter l) o.status
  rows : ∀ pk m, s.mail.messages pk = some m → Settles s.attempts pk (letter m) m.status

section soundness

variable {s : Outbox} {attempts more : List Attempt} {pk : Nat} {what : Letter} {status : MailStatus}

theorem start_sound : Sound Outbox.start := by
  have noMessage : ∀ pk m, Mail.start.messages pk ≠ some m := fun _ _ => nofun
  have noPass : ∀ q pass, Mail.start.passes q ≠ some pass := fun _ _ => nofun
  exact ⟨fun pk m row => absurd row (noMessage pk m),fun q pass _ _ here => absurd here (noPass q pass),
    fun q _ _ _ _ _ _ here => absurd here (noPass q _),fun pk m row => absurd row (noMessage pk m)⟩

theorem settles_pending (pending : status = .pending) : Settles attempts pk what status := by
  subst pending
  exact ⟨nofun,nofun⟩

theorem settles_append (settles : Settles attempts pk what status) : Settles (attempts ++ more) pk what status := by
  refine ⟨fun sent => ?_,fun dead => ?_⟩
  · obtain ⟨a,listed,told⟩ := settles.sent sent
    exact ⟨a,List.mem_append_left _ listed,told⟩
  · obtain ⟨a,listed,told⟩ := settles.dead dead
    exact ⟨a,List.mem_append_left _ listed,told⟩

theorem advance_sound (sound : Sound s) (action : Action)
    (backed : ∀ q now begun pk l rest provider draw, action = .send q provider draw →
      s.mail.passes q = some ⟨now,begun,.sending pk l rest⟩ →
        Settles (s.attempts ++ more) pk (letter l) (attempted l now provider draw).status) :
    Sound ⟨Audit.MailDrain.step s.mail action,s.attempts ++ more⟩ := by
  refine ⟨?_,?_,?_,?_⟩
  · intro pk m row
    cases step_messages action row with
    | new _ _ counted => exact counted
    | kept old _ _ => exact Nat.lt_of_lt_of_le (sound.numbered pk _ old) (step_next action)
    | settled old _ _ _ => exact Nat.lt_of_lt_of_le (sound.numbered pk _ old) (step_next action)
  · have keeps : ∀ pk l, pk < s.mail.nextMessage → (∀ m, s.mail.messages pk = some m → letter m = letter l) →
        pk < (Audit.MailDrain.step s.mail action).nextMessage ∧
          ∀ m, (Audit.MailDrain.step s.mail action).messages pk = some m → letter m = letter l := by
      intro pk l known same
      refine ⟨Nat.lt_of_lt_of_le known (step_next action),fun m row => ?_⟩
      cases step_messages action row with
      | new _ drawn _ => exact absurd drawn (Nat.ne_of_lt known)
      | kept old alike _ => exact alike.trans (same _ old)
      | settled old alike _ _ => exact alike.trans (same _ old)
    intro q pass pk l here loaded
    cases step_passes action here with
    | free none_ => simp [none_] at loaded
    | kept still =>
        obtain ⟨known,same⟩ := sound.held q pass pk l still loaded
        exact keeps pk l known same
    | read phase row =>
        rw [phase] at loaded
        cases loaded
        exact keeps pk l (sound.numbered pk l row) fun m there => by rw [Option.some.inj (there.symm.trans row)]
    | tried is sending phase =>
        rw [phase] at loaded
        cases loaded
        obtain ⟨known,same⟩ := sound.held q _ pk l sending rfl
        exact keeps pk l known same
  · intro q now begun pk l o rest here
    cases step_passes action here with
    | free none_ => cases none_
    | kept still => exact settles_append (sound.waiting q now begun pk l o rest still)
    | read phase row => cases phase
    | tried is sending phase =>
        simp only [Phase.recording.injEq] at phase
        obtain ⟨rfl,rfl,rfl,rfl⟩ := phase
        exact backed q now begun pk l rest _ _ is sending
  · intro pk m row
    cases step_messages action row with
    | new pending _ _ => exact settles_pending pending
    | kept old same status =>
        rw [same,status]
        exact settles_append (sound.rows pk _ old)
    | settled old same recording status =>
        rw [status,same,(sound.held _ _ pk _ recording rfl).2 _ old]
        exact settles_append (sound.waiting _ _ _ pk _ _ _ recording)

theorem attempted_status (l : OutboundMessage) (now : Time) (draw : Nat) (provider : Option Answer) :
    ((attempted l now provider draw).status = .sent → provider.any succeeded = true) ∧
      ((attempted l now provider draw).status = .dead → provider.any refused = true) := by
  unfold attempted
  split
  · exact ⟨nofun,nofun⟩
  · cases provider with
    | none => exact ⟨nofun,nofun⟩
    | some answer =>
        cases answer with
        | unconfigured text => exact ⟨nofun,nofun⟩
        | returned result =>
            dsimp only
            split
            · next ok =>
                cases result with
                | error name => cases ok
                | ok result => exact ⟨fun _ => decide_eq_true ok,nofun⟩
            · split
              · next gone =>
                  cases result with
                  | error name => cases gone
                  | ok result => exact ⟨nofun,fun _ => gone⟩
              · exact ⟨nofun,nofun⟩

theorem answer_told (a : Attempt) : (succeeded a.answer = true → Accepted a.log ∧ Parted a.log) ∧
    (refused a.answer = true → RecipientsRefused a.log ∨ DataRefused a.log) := by
  unfold Attempt.answer Attempt.log
  rcases send_cases a.world a.ctx (messageOf a.loaded) with ⟨_,failed,passing⟩ | ⟨email,is⟩
  · simp [failed,passing]
  · have told := delivered_told a.world a.ctx email
    obtain ⟨taken,passed⟩ := concluded_told (delivered a.world a.ctx email).1
    rw [is]
    exact ⟨fun said => told.accepted.mp (taken.mp said),fun said => (told.permanent.mp (passed.mp said)).1⟩

theorem step_sound (s : Outbox) (move : Move) (sound : Sound s) : Sound (step s move) := by
  have backless : ∀ action, calls action = false → Sound ⟨Audit.MailDrain.step s.mail action,s.attempts ++ []⟩ := by
    intro action plain
    refine advance_sound sound action ?_
    rintro q now begun pk l rest provider draw rfl _
    cases provider with
    | some answer => cases plain
    | none =>
        obtain ⟨sent,dead⟩ := attempted_status l now draw none
        exact ⟨fun is => absurd (sent is) nofun,fun is => absurd (dead is) nofun⟩
  simp only [List.append_nil] at backless
  cases move with
  | act action =>
      unfold step
      dsimp only
      cases plain : calls action with
      | true => exact sound
      | false => exact backless action plain
  | call p world ctx draw =>
      unfold step
      dsimp only
      split
      · next now begun pk loaded rest sending =>
          split
          · exact backless _ rfl
          · refine advance_sound sound _ ?_
            rintro q now' begun' pk' l rest' provider draw' is sending'
            cases is
            cases Option.some.inj (sending.symm.trans sending')
            let a : Attempt := ⟨pk,loaded,world,ctx⟩
            have listed : a ∈ s.attempts ++ [a] := List.mem_append_right _ (List.mem_singleton.mpr rfl)
            obtain ⟨sent,dead⟩ := attempted_status loaded now draw (some a.answer)
            obtain ⟨taken,passed⟩ := answer_told a
            exact ⟨fun is => ⟨a,listed,rfl,rfl,taken (sent is)⟩,fun is => ⟨a,listed,rfl,rfl,passed (dead is)⟩⟩
      · exact sound

end soundness

-- Whatever the servers answer, and however the passes interleave and die.
theorem mail_settled (moves : List Move) (pk : Nat) (m : OutboundMessage)
    (row : (Runs.run step Outbox.start moves).mail.messages pk = some m) :
    Settles (Runs.run step Outbox.start moves).attempts pk (letter m) m.status := by
  have sound : Sound (Runs.run step Outbox.start moves) :=
    Runs.run_invariant step (fun s move (sound : Sound s) => step_sound s move sound) start_sound moves
  exact sound.rows pk m row

def handed : List Move :=
  [.act (.enqueue "m" 1 "code" "b@example" "Hello" "Hi" 100 0),.act (.start 0),.act (.claim 0 10 []),.act (.load 0),
    .call 0 SmtpSender.welcoming SmtpSender.mailbox 0,.act (.record 0)]

theorem mail_settled_handed : ∃ a ∈ (Runs.run step Outbox.start handed).attempts, a.pk = 0 ∧
    letter a.loaded = ⟨"m",1,"code",some "b@example","Hello"⟩ ∧ Accepted a.log ∧ Parted a.log := by
  obtain ⟨m,row,status,same⟩ : ∃ m, (Runs.run step Outbox.start handed).mail.messages 0 = some m ∧ m.status = .sent ∧
      letter m = ⟨"m",1,"code",some "b@example","Hello"⟩ := ⟨_,rfl,by decide,rfl⟩
  obtain ⟨a,listed,own,alike,told⟩ := (mail_settled handed 0 m row).sent status
  exact ⟨a,listed,own,alike.trans same,told⟩

end Osds.Adapters.MailAttempts
