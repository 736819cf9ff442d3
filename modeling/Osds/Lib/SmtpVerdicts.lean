import Osds.Lib.SmtpTranscripts

-- What the outcome of a mail says of the replies to it.
namespace Smtplib
open Blocks

def Line.mailing : Line → Bool
  | .mail _ _ => true
  | .rcpt _ => true
  | .data => true
  | .body _ => true
  | .rset => true
  | .quit => true
  | _ => false

def mailed (log : List Exchange) : List Exchange := log.filter (·.line.mailing)

def Accepted (log : List Exchange) : Prop := ∃ x ∈ log, (∃ message, x.line = .body message) ∧ ∃ text, x.reply = .line 250 text

def DataRefused (log : List Exchange) : Prop :=
  ∃ x ∈ log, (x.line = .data ∨ ∃ message, x.line = .body message) ∧ ∃ code text, x.reply = .line code text ∧ 500 ≤ code ∧ code < 600

-- A reply to RCPT that takes no recipient: also one that asks to try again later.
def Refusing (x : Exchange) : Prop :=
  (∃ recipient, x.line = .rcpt recipient) ∧ ∃ code text, x.reply = .line code text ∧ code ≠ 250 ∧ code ≠ 251

def SenderTaken (log : List Exchange) : Prop :=
  ∃ x ∈ log, (∃ sender options, x.line = .mail sender options) ∧ ∃ text, x.reply = .line 250 text

def RecipientLast (log : List Exchange) : Prop := ∃ x ∈ log, (∃ recipient, x.line = .rcpt recipient) ∧ ∃ text, x.reply = .line 421 text

def NoneTaken (log : List Exchange) : Prop := ∀ x ∈ log, x.line ≠ .data ∧ ((∃ recipient, x.line = .rcpt recipient) → Refusing x)

def RecipientsRefused (log : List Exchange) : Prop := RecipientLast log ∨ SenderTaken log ∧ NoneTaken log

def Torn (log : List Exchange) : Prop := ∃ x ∈ log, x.line = .rset ∧ x.reply = .overlong

def Parted (log : List Exchange) : Prop := ∀ x ∈ log, x.line = .quit → x.reply = .dropped ∨ ∃ text, x.reply = .line 221 text

section mailed

variable {log more : List Exchange}

theorem mem_mailed {x : Exchange} : x ∈ mailed log ↔ x ∈ log ∧ x.line.mailing = true := List.mem_filter

theorem exists_mailed {what : Exchange → Prop} (mailing : ∀ x, what x → x.line.mailing = true) :
    (∃ x ∈ mailed log, what x) ↔ ∃ x ∈ log, what x := by
  constructor
  · rintro ⟨x,listed,holds⟩
    exact ⟨x,(mem_mailed.mp listed).1,holds⟩
  · rintro ⟨x,listed,holds⟩
    exact ⟨x,mem_mailed.mpr ⟨listed,mailing x holds⟩,holds⟩

theorem forall_mailed {what : Exchange → Prop} (mailing : ∀ x, x.line.mailing = false → what x) :
    (∀ x ∈ mailed log, what x) ↔ ∀ x ∈ log, what x := by
  constructor
  · intro each x listed
    cases which : x.line.mailing with
    | false => exact mailing x which
    | true => exact each x (mem_mailed.mpr ⟨listed,which⟩)
  · intro each x listed
    exact each x (mem_mailed.mp listed).1

theorem accepted_mailed : Accepted (mailed log) ↔ Accepted log := by
  refine exists_mailed ?_
  rintro x ⟨⟨message,line⟩,_⟩
  simp [line,Line.mailing]

theorem dataRefused_mailed : DataRefused (mailed log) ↔ DataRefused log := by
  refine exists_mailed ?_
  rintro x ⟨line | ⟨message,line⟩,_⟩ <;> simp [line,Line.mailing]

theorem recipientsRefused_mailed : RecipientsRefused (mailed log) ↔ RecipientsRefused log := by
  refine or_congr (exists_mailed ?_) (and_congr (exists_mailed ?_) (forall_mailed ?_))
  · rintro x ⟨⟨recipient,line⟩,_⟩
    simp [line,Line.mailing]
  · rintro x ⟨⟨sender,options,line⟩,_⟩
    simp [line,Line.mailing]
  · intro x other
    refine ⟨?_,?_⟩
    · intro line
      simp [line,Line.mailing] at other
    · rintro ⟨recipient,line⟩
      simp [line,Line.mailing] at other

theorem torn_mailed : Torn (mailed log) ↔ Torn log := by
  refine exists_mailed ?_
  rintro x ⟨line,_⟩
  simp [line,Line.mailing]

theorem parted_mailed : Parted (mailed log) ↔ Parted log := by
  refine forall_mailed ?_
  intro x other line
  simp [line,Line.mailing] at other

theorem mailed_append (other : ∀ x ∈ more, x.line.mailing = false) : mailed (log ++ more) = mailed log := by
  have none_ : more.filter (·.line.mailing) = [] := List.filter_eq_nil_iff.mpr fun x listed => by simp [other x listed]
  unfold mailed
  rw [List.filter_append,none_,List.append_nil]

theorem mailed_push {x : Exchange} (mailing : x.line.mailing = true) : mailed (log ++ [x]) = mailed log ++ [x] := by
  simp [mailed,mailing]

end mailed

section courses

def Heard (x : Exchange) : Prop := (∃ recipient, x.line = .rcpt recipient) ∧ ∃ code text, x.reply = .line code text ∧ code ≠ 421

def Cut (line : Line) (x : Exchange) : Prop := x.line = line ∧ ∀ code text, x.reply ≠ .line code text

-- An error is raised after what is done before: a reset may raise another.
inductive Ended (e : Error) : Error → List Exchange → Prop where
  | closed : Ended e e []
  | reset (line : x.line = .rset) (read : x.reply ≠ .overlong) : Ended e e [x]
  | torn (line : x.line = .rset) (overlong : x.reply = .overlong) (plain : e'.refuses = false) : Ended e e' [x]

inductive Course : Except Error Unit → List Exchange → Prop where
  | early (plain : e.refuses = false) : Course (.error e) []
  | mailCut (plain : e.refuses = false) (cut : Cut (.mail sender options) x) : Course (.error e) [x]
  | senderRefused (refused : code ≠ 250) (ended : Ended .senderRefused e rest) :
      Course (.error e) (⟨.mail sender options,sealed,.line code text⟩ :: rest)
  | rcptCut (plain : e.refuses = false) (heard : ∀ x ∈ asked, Heard x) (cut : Cut (.rcpt recipient) x) :
      Course (.error e) (⟨.mail sender options,sealed,.line 250 text⟩ :: (asked ++ [x]))
  | rcptLast (heard : ∀ x ∈ asked, Heard x) :
      Course (.error .recipientsRefused)
        (⟨.mail sender options,sealed,.line 250 text⟩ :: (asked ++ [⟨.rcpt recipient,sealed',.line 421 text'⟩]))
  | allRefused (heard : ∀ x ∈ asked, Heard x) (refused : ∀ x ∈ asked, Refusing x) (ended : Ended .recipientsRefused e rest) :
      Course (.error e) (⟨.mail sender options,sealed,.line 250 text⟩ :: (asked ++ rest))
  | dataCut (plain : e.refuses = false) (heard : ∀ x ∈ asked, Heard x) (cut : Cut .data x) :
      Course (.error e) (⟨.mail sender options,sealed,.line 250 text⟩ :: (asked ++ [x]))
  | dataRefused (heard : ∀ x ∈ asked, Heard x) (refused : code ≠ 354) :
      Course (.error (.dataError code))
        (⟨.mail sender options,sealed,.line 250 text⟩ :: (asked ++ [⟨.data,sealed',.line code text'⟩]))
  | bodyCut (plain : e.refuses = false) (heard : ∀ x ∈ asked, Heard x) (cut : Cut (.body message) x) :
      Course (.error e) (⟨.mail sender options,sealed,.line 250 text⟩ :: (asked ++ [⟨.data,sealed',.line 354 text'⟩,x]))
  | bodyRefused (heard : ∀ x ∈ asked, Heard x) (refused : code ≠ 250) (ended : Ended (.dataError code) e rest) :
      Course (.error e) (⟨.mail sender options,sealed,.line 250 text⟩ ::
        (asked ++ ⟨.data,sealed',.line 354 text'⟩ :: ⟨.body message,sealed'',.line code text''⟩ :: rest))
  | accepted (heard : ∀ x ∈ asked, Heard x) :
      Course (.ok ()) (⟨.mail sender options,sealed,.line 250 text⟩ ::
        (asked ++ [⟨.data,sealed',.line 354 text'⟩,⟨.body message,sealed'',.line 250 text''⟩]))

def permanent : Except Error Unit → Bool
  | .error .recipientsRefused => true
  | .error (.dataError code) => 500 ≤ code && code < 600
  | _ => false

structure Judged (outcome : Except Error Unit) (log : List Exchange) : Prop where
  accepted : outcome = .ok () ↔ Accepted log
  permanent : permanent outcome = true ↔ (RecipientsRefused log ∨ DataRefused log) ∧ ¬Torn log

theorem plain_passing {e : Error} (plain : e.refuses = false) : permanent (.error e) = false := by
  cases e <;> first | rfl | cases plain

variable {x : Exchange} {asked rest log more : List Exchange} {e e' : Error}

section splits

@[simp] theorem accepted_cons : Accepted (x :: log) ↔
    ((∃ message, x.line = .body message) ∧ ∃ text, x.reply = .line 250 text) ∨ Accepted log := by simp [Accepted]

@[simp] theorem accepted_append : Accepted (log ++ more) ↔ Accepted log ∨ Accepted more := by
  simp [Accepted,or_and_right,exists_or]

@[simp] theorem dataRefused_cons : DataRefused (x :: log) ↔
    ((x.line = .data ∨ ∃ message, x.line = .body message) ∧ ∃ code text, x.reply = .line code text ∧ 500 ≤ code ∧ code < 600) ∨
      DataRefused log := by simp [DataRefused]

@[simp] theorem dataRefused_append : DataRefused (log ++ more) ↔ DataRefused log ∨ DataRefused more := by
  simp [DataRefused,or_and_right,exists_or]

@[simp] theorem senderTaken_cons : SenderTaken (x :: log) ↔
    ((∃ sender options, x.line = .mail sender options) ∧ ∃ text, x.reply = .line 250 text) ∨ SenderTaken log := by simp [SenderTaken]

@[simp] theorem senderTaken_append : SenderTaken (log ++ more) ↔ SenderTaken log ∨ SenderTaken more := by
  simp [SenderTaken,or_and_right,exists_or]

@[simp] theorem recipientLast_cons : RecipientLast (x :: log) ↔
    ((∃ recipient, x.line = .rcpt recipient) ∧ ∃ text, x.reply = .line 421 text) ∨ RecipientLast log := by simp [RecipientLast]

@[simp] theorem recipientLast_append : RecipientLast (log ++ more) ↔ RecipientLast log ∨ RecipientLast more := by
  simp [RecipientLast,or_and_right,exists_or]

@[simp] theorem noneTaken_cons : NoneTaken (x :: log) ↔
    (x.line ≠ .data ∧ ((∃ recipient, x.line = .rcpt recipient) → Refusing x)) ∧ NoneTaken log := List.forall_mem_cons

@[simp] theorem noneTaken_append : NoneTaken (log ++ more) ↔ NoneTaken log ∧ NoneTaken more := List.forall_mem_append

@[simp] theorem torn_cons : Torn (x :: log) ↔ (x.line = .rset ∧ x.reply = .overlong) ∨ Torn log := by simp [Torn]

@[simp] theorem torn_append : Torn (log ++ more) ↔ Torn log ∨ Torn more := by
  simp [Torn,or_and_right,exists_or]

@[simp] theorem parted_cons : Parted (x :: log) ↔ (x.line = .quit → x.reply = .dropped ∨ ∃ text, x.reply = .line 221 text) ∧ Parted log :=
  List.forall_mem_cons

@[simp] theorem parted_append : Parted (log ++ more) ↔ Parted log ∧ Parted more := List.forall_mem_append

end splits

structure Quiet (log : List Exchange) : Prop where
  accepted : ¬Accepted log
  dataRefused : ¬DataRefused log
  senderTaken : ¬SenderTaken log
  recipientLast : ¬RecipientLast log
  parted : Parted log

theorem quiet_nil : Quiet [] := by
  refine ⟨?_,?_,?_,?_,?_⟩ <;> simp [Accepted,DataRefused,SenderTaken,RecipientLast,Parted]

theorem quiet_heard (heard : ∀ x ∈ asked, Heard x) : Quiet asked ∧ ¬Torn asked := by
  refine ⟨⟨?_,?_,?_,?_,?_⟩,?_⟩
  · rintro ⟨x,listed,⟨_,line⟩,_⟩
    obtain ⟨⟨_,line'⟩,_⟩ := heard x listed
    simp [line] at line'
  · rintro ⟨x,listed,line | ⟨_,line⟩,_⟩ <;>
    · obtain ⟨⟨_,line'⟩,_⟩ := heard x listed
      simp [line] at line'
  · rintro ⟨x,listed,⟨_,_,line⟩,_⟩
    obtain ⟨⟨_,line'⟩,_⟩ := heard x listed
    simp [line] at line'
  · rintro ⟨x,listed,_,text,reply⟩
    obtain ⟨_,code,text',reply',other⟩ := heard x listed
    rw [reply] at reply'
    cases reply'
    exact other rfl
  · intro x listed line
    obtain ⟨⟨_,line'⟩,_⟩ := heard x listed
    simp [line] at line'
  · rintro ⟨x,listed,line,_⟩
    obtain ⟨⟨_,line'⟩,_⟩ := heard x listed
    simp [line] at line'

theorem quiet_ended (ended : Ended e e' rest) : Quiet rest ∧ NoneTaken rest ∧ (e' = e ∧ ¬Torn rest ∨ e'.refuses = false ∧ Torn rest) := by
  have alone : ∀ x : Exchange, x.line = .rset → Quiet [x] ∧ NoneTaken [x] := by
    intro x line
    refine ⟨⟨?_,?_,?_,?_,?_⟩,?_⟩ <;>
      simp [line,quiet_nil.accepted,quiet_nil.dataRefused,quiet_nil.senderTaken,quiet_nil.recipientLast,quiet_nil.parted,NoneTaken]
  cases ended with
  | closed => exact ⟨quiet_nil,List.forall_mem_nil _,.inl ⟨rfl,by simp [Torn]⟩⟩
  | reset line read =>
      refine ⟨(alone _ line).1,(alone _ line).2,.inl ⟨rfl,?_⟩⟩
      rintro ⟨y,_ | ⟨_,⟨⟩⟩,_,overlong⟩
      exact read overlong
  | torn line overlong plain => exact ⟨(alone _ line).1,(alone _ line).2,.inr ⟨plain,_,List.mem_cons_self,line,overlong⟩⟩

theorem ended_plain {done : Prop} (which : e' = e ∧ ¬done ∨ e'.refuses = false ∧ done) (plain : e.refuses = false) : e'.refuses = false := by
  rcases which with ⟨is,_⟩ | ⟨plain',_⟩
  · rw [is]
    exact plain
  · exact plain'

theorem refusing_noneTaken (refused : ∀ x ∈ asked, Refusing x) : NoneTaken asked := by
  intro x listed
  obtain ⟨⟨recipient,line⟩,_⟩ := refused x listed
  exact ⟨by simp [line],fun _ => refused x listed⟩

theorem course_judged {outcome : Except Error Unit} {log : List Exchange} (course : Course outcome log) : Judged outcome log := by
  have empty := quiet_nil
  have untorn : ¬Torn [] := by simp [Torn]
  cases course with
  | early plain =>
      refine ⟨?_,?_⟩
      · simp [empty.accepted]
      · simp [plain_passing plain,RecipientsRefused,empty.recipientLast,empty.senderTaken,empty.dataRefused]
  | mailCut plain cut =>
      refine ⟨?_,?_⟩
      · simp [cut.1,empty.accepted]
      · simp [plain_passing plain,RecipientsRefused,cut.1,cut.2,empty.recipientLast,empty.senderTaken,empty.dataRefused]
  | senderRefused refused ended =>
      obtain ⟨quiet,_,which⟩ := quiet_ended ended
      have plain := ended_plain which rfl
      refine ⟨?_,?_⟩
      · simp [quiet.accepted]
      · simp [plain_passing plain,RecipientsRefused,refused,quiet.recipientLast,quiet.senderTaken,quiet.dataRefused]
  | rcptCut plain heard cut =>
      obtain ⟨quiet,_⟩ := quiet_heard heard
      refine ⟨?_,?_⟩
      · simp [quiet.accepted,cut.1,empty.accepted]
      · simp [plain_passing plain,RecipientsRefused,cut.1,cut.2,Refusing,quiet.recipientLast,quiet.dataRefused,empty.recipientLast,
          empty.dataRefused]
  | rcptLast heard =>
      obtain ⟨quiet,whole⟩ := quiet_heard heard
      refine ⟨?_,?_⟩
      · simp [quiet.accepted,empty.accepted]
      · simp [permanent,RecipientsRefused,whole,untorn]
  | allRefused heard refused ended =>
      obtain ⟨quiet,whole⟩ := quiet_heard heard
      obtain ⟨quiet',none_,which⟩ := quiet_ended ended
      refine ⟨?_,?_⟩
      · simp [quiet.accepted,quiet'.accepted]
      · rcases which with ⟨is,untorn'⟩ | ⟨plain,torn⟩
        · simp [is,permanent,RecipientsRefused,whole,untorn',none_,refusing_noneTaken refused]
        · simp [plain_passing plain,torn]
  | dataCut plain heard cut =>
      obtain ⟨quiet,_⟩ := quiet_heard heard
      refine ⟨?_,?_⟩
      · simp [quiet.accepted,cut.1,empty.accepted]
      · simp [plain_passing plain,RecipientsRefused,cut.1,cut.2,quiet.recipientLast,quiet.dataRefused,empty.recipientLast,empty.dataRefused]
  | dataRefused heard refused =>
      obtain ⟨quiet,whole⟩ := quiet_heard heard
      refine ⟨?_,?_⟩
      · simp [quiet.accepted,empty.accepted]
      · simp [permanent,RecipientsRefused,quiet.recipientLast,quiet.dataRefused,empty.recipientLast,empty.dataRefused,whole,untorn]
  | bodyCut plain heard cut =>
      obtain ⟨quiet,_⟩ := quiet_heard heard
      refine ⟨?_,?_⟩
      · simp [quiet.accepted,cut.1,cut.2,empty.accepted]
      · simp [plain_passing plain,RecipientsRefused,cut.1,cut.2,quiet.recipientLast,quiet.dataRefused,empty.recipientLast,empty.dataRefused]
  | bodyRefused heard refused ended =>
      obtain ⟨quiet,whole⟩ := quiet_heard heard
      obtain ⟨quiet',_,which⟩ := quiet_ended ended
      refine ⟨?_,?_⟩
      · simp [quiet.accepted,quiet'.accepted,refused]
      · rcases which with ⟨is,untorn'⟩ | ⟨plain,torn⟩
        · simp [is,permanent,RecipientsRefused,quiet.recipientLast,quiet.dataRefused,quiet'.recipientLast,quiet'.dataRefused,whole,untorn']
        · simp [plain_passing plain,torn]
  | accepted heard =>
      obtain ⟨quiet,_⟩ := quiet_heard heard
      refine ⟨?_,?_⟩
      · simp
      · simp [permanent,RecipientsRefused,quiet.recipientLast,quiet.dataRefused,empty.recipientLast,empty.dataRefused]

theorem course_parted {outcome : Except Error Unit} {log : List Exchange} (course : Course outcome log) : Parted log := by
  have empty := quiet_nil
  cases course with
  | early plain => exact empty.parted
  | mailCut plain cut => simp [cut.1,empty.parted]
  | senderRefused refused ended => simp [(quiet_ended ended).1.parted]
  | rcptCut plain heard cut | dataCut plain heard cut | bodyCut plain heard cut => simp [(quiet_heard heard).1.parted,cut.1,empty.parted]
  | rcptLast heard | dataRefused heard _ | accepted heard => simp [(quiet_heard heard).1.parted,empty.parted]
  | allRefused heard _ ended | bodyRefused heard _ ended => simp [(quiet_heard heard).1.parted,(quiet_ended ended).1.parted]

end courses

end Smtplib
