import Osds.Lib.SmtpVerdicts

-- Which way a session goes.
namespace Smtplib
open Blocks

def At (past : List Exchange) (s : Smtp) : Prop := s.sock = true ∧ mailed s.log = past

def Went (outcome : Except Error Unit) (s : Smtp) : Prop := Course outcome (mailed s.log)

theorem went_said {outcome : Except Error Unit} {log : List Exchange} {s : Smtp} (said : mailed s.log = log) (course : Course outcome log) :
    Went outcome s := by
  unfold Went
  rw [said]
  exact course

section steps

variable {peer : Peer} {past : List Exchange} {line : Line} {α : Type} {x : Client α}

theorem modest_at (modest : Modest (·.mailing = false) x) :
    Triple (At past) x (fun _ => At past) (fun e s => e.refuses = false ∧ mailed s.log = past) := by
  have apart : ∀ {s t : Smtp}, Adds (·.mailing = false) s t → mailed t.log = mailed s.log := by
    rintro s t ⟨_,more,log,other⟩
    rw [log]
    exact mailed_append fun x listed => (other x listed).2
  rintro s ⟨there,said⟩
  refine triple_weaken (modest s) (fun t same => same) ?_ ?_ s rfl
  · rintro a t ⟨added,kept⟩
    exact ⟨kept there,(apart added).trans said⟩
  · rintro e t ⟨added,plain,_⟩
    exact ⟨plain,(apart added).trans said⟩

def Unanswered (past : List Exchange) (line : Line) (e : Error) (s : Smtp) : Prop :=
  ∃ x, mailed s.log = past ++ [x] ∧ x.line = line ∧
    (x.reply = .dropped ∧ e = .serverDisconnected ∨ x.reply = .overlong ∧ e = .responseException 500)

theorem unanswered_cut {e : Error} {s : Smtp} (unanswered : Unanswered past line e s) :
    e.refuses = false ∧ ∃ x, Cut line x ∧ mailed s.log = past ++ [x] := by
  obtain ⟨x,said,is,⟨reply,rfl⟩ | ⟨reply,rfl⟩⟩ := unanswered
  · exact ⟨rfl,x,⟨is,by simp [reply]⟩,said⟩
  · exact ⟨rfl,x,⟨is,by simp [reply]⟩,said⟩

theorem docmd_at (mailing : line.mailing = true) : Triple (At past) (docmd peer line)
    (fun reply s => ∃ sealed, At (past ++ [⟨line,sealed,.line reply.1 reply.2⟩]) s) (Unanswered past line) := by
  rintro s ⟨there,said⟩
  have pushed : ∀ reply, mailed (s.log ++ [⟨line,s.sealed,reply⟩]) = past ++ [⟨line,s.sealed,reply⟩] := by
    intro reply
    rw [mailed_push mailing,said]
  unfold docmd
  dsimp only
  rw [if_pos there]
  cases peer.reply s.log line s.sealed with
  | line code text => exact ⟨s.sealed,there,pushed _⟩
  | overlong => exact ⟨_,pushed _,rfl,.inr ⟨rfl,rfl⟩⟩
  | dropped => exact ⟨_,pushed _,rfl,.inl ⟨rfl,rfl⟩⟩

theorem rset_at : Triple (At past) (rset peer) (fun _ s => ∃ x, mailed s.log = past ++ [x] ∧ x.line = .rset ∧ x.reply ≠ .overlong)
    (fun e s => ∃ x, mailed s.log = past ++ [x] ∧ x.line = .rset ∧ x.reply = .overlong ∧ e.refuses = false) := by
  have asks : Triple (At past) (docmd peer .rset) _ (Unanswered past .rset) := docmd_at rfl
  have answered : Triple (At past) (docmd peer .rset >>= fun _ => pure ())
      (fun _ s => ∃ x, mailed s.log = past ++ [x] ∧ x.line = .rset ∧ x.reply ≠ .overlong) (Unanswered past .rset) := by
    refine triple_bind asks fun reply => triple_pure ?_
    rintro s ⟨sealed,_,said⟩
    exact ⟨_,said,rfl,nofun⟩
  refine triple_handle answered fun e => ?_
  · split
    · next gone =>
        refine triple_pure ?_
        rintro s ⟨x,said,line,⟨reply,_⟩ | ⟨_,other⟩⟩
        · exact ⟨x,said,line,by simp [reply]⟩
        · exact absurd (gone.symm.trans other) nofun
    · next other =>
        refine triple_raise ?_
        rintro s ⟨x,said,line,⟨_,gone⟩ | ⟨reply,is⟩⟩
        · exact absurd gone other
        · exact ⟨x,said,line,reply,by rw [is]; rfl⟩

theorem giveUp_at (code : Int) (e : Error) : Triple (At past) (giveUp peer code e) (fun _ _ => False)
    (fun e' s => ∃ rest, Ended e e' rest ∧ mailed s.log = past ++ rest) := by
  have first : Triple (At past) (if code = 421 then close else rset peer) (fun _ s => ∃ rest, Ended e e rest ∧ mailed s.log = past ++ rest)
      (fun e' s => ∃ rest, Ended e e' rest ∧ mailed s.log = past ++ rest) := by
    split
    · refine triple_writes ?_
      rintro s ⟨_,said⟩
      exact ⟨[],.closed,by rw [List.append_nil]; exact said⟩
    · refine triple_weaken rset_at (fun _ at_ => at_) ?_ ?_
      · rintro _ s ⟨x,said,line,read⟩
        exact ⟨[x],.reset line read,said⟩
      · rintro e' s ⟨x,said,line,overlong,plain⟩
        exact ⟨[x],.torn line overlong plain,said⟩
  exact triple_bind first fun _ => triple_raise fun _ ended => ended

theorem rcptEach_at (recipients : List String) : Triple (At past) (rcptEach peer recipients)
    (fun refused s => ∃ asked, At (past ++ asked) s ∧ (∀ x ∈ asked, Heard x) ∧ refused.length ≤ recipients.length ∧
      (refused.length = recipients.length → ∀ x ∈ asked, Refusing x))
    (fun e s => ∃ asked, (∀ x ∈ asked, Heard x) ∧
      ((e = .recipientsRefused ∧ ∃ recipient sealed text, mailed s.log = past ++ asked ++ [⟨.rcpt recipient,sealed,.line 421 text⟩]) ∨
        ∃ recipient, Unanswered (past ++ asked) (.rcpt recipient) e s)) := by
  induction recipients generalizing past with
  | nil =>
      refine triple_pure fun s at_ => ⟨[],?_,List.forall_mem_nil _,Nat.le_refl 0,fun _ => List.forall_mem_nil _⟩
      rw [List.append_nil]
      exact at_
  | cons recipient rest ih =>
      have asks : Triple (At past) (docmd peer (.rcpt recipient)) _ _ := docmd_at rfl
      refine triple_bind (triple_weaken asks (fun _ at_ => at_) (fun _ _ said => said) ?_) ?_
      · intro e s unanswered
        refine ⟨[],List.forall_mem_nil _,.inr ⟨recipient,?_⟩⟩
        rw [List.append_nil]
        exact unanswered
      · rintro ⟨code,text⟩ s ⟨sealed,at_⟩
        dsimp only
        by_cases parting : code = 421
        · subst parting
          exact ⟨[],List.forall_mem_nil _,.inl ⟨rfl,recipient,sealed,text,by rw [List.append_nil]; exact at_.2⟩⟩
        · have heard : Heard ⟨.rcpt recipient,sealed,.line code text⟩ := ⟨⟨recipient,rfl⟩,code,text,rfl,parting⟩
          rw [if_neg parting]
          refine triple_bind (triple_weaken ih (fun _ at_ => at_) (fun _ _ said => said) ?_) ?_ s at_
          · rintro e t ⟨asked,each,ended⟩
            refine ⟨⟨.rcpt recipient,sealed,.line code text⟩ :: asked,List.forall_mem_cons.mpr ⟨heard,each⟩,?_⟩
            simpa using ended
          · rintro refused
            refine triple_pure ?_
            rintro t ⟨asked,at_',each,few,all⟩
            refine ⟨⟨.rcpt recipient,sealed,.line code text⟩ :: asked,by simpa using at_',List.forall_mem_cons.mpr ⟨heard,each⟩,?_,?_⟩
            · split
              · simpa using few
              · simp only [List.length_cons]
                omega
            · split
              · next no =>
                  intro same
                  refine List.forall_mem_cons.mpr ⟨⟨⟨recipient,rfl⟩,code,text,rfl,no⟩,all ?_⟩
                  simpa using same
              · intro same
                simp only [List.length_cons] at same
                omega

theorem data_at (message : String) : Triple (At past) (data peer message)
    (fun code s => ∃ sealed sealed' text text', At (past ++ [⟨.data,sealed,.line 354 text⟩,⟨.body message,sealed',.line code text'⟩]) s)
    (fun e s => Unanswered past .data e s ∨
      (∃ code sealed text, code ≠ 354 ∧ e = .dataError code ∧ mailed s.log = past ++ [⟨.data,sealed,.line code text⟩]) ∨
      ∃ sealed text, Unanswered (past ++ [⟨.data,sealed,.line 354 text⟩]) (.body message) e s) := by
  have asks : Triple (At past) (docmd peer .data) _ _ := docmd_at rfl
  refine triple_bind (triple_weaken asks (fun _ at_ => at_) (fun _ _ said => said) fun _ _ unanswered => .inl unanswered) ?_
  rintro ⟨code,text⟩ s ⟨sealed,at_⟩
  dsimp only
  by_cases go : code = 354
  · subst go
    have sends : Triple (At (past ++ [⟨.data,sealed,.line 354 text⟩])) (docmd peer (.body message)) _ _ := docmd_at rfl
    refine triple_bind (triple_weaken sends (fun _ at_ => at_) (fun _ _ said => said)
      fun _ _ unanswered => .inr (.inr ⟨sealed,text,unanswered⟩)) ?_ s at_
    rintro ⟨code',text'⟩
    refine triple_pure ?_
    rintro t ⟨sealed',at_'⟩
    exact ⟨sealed,sealed',text,text',by simpa using at_'⟩
  · rw [if_pos go]
    exact .inr (.inl ⟨code,sealed,text,go,rfl,at_.2⟩)

theorem greeting_at : Triple (At past) (ehloOrHeloIfNeeded peer) (fun _ => At past) (fun e s => e.refuses = false ∧ mailed s.log = past) :=
  modest_at (modest_greeting rfl rfl)

theorem mail_at (sender : String) (options : List String) : Triple (At []) (mail peer sender options)
    (fun code s => ∃ options' sealed text, At [⟨.mail sender options',sealed,.line code text⟩] s) (fun e => Went (.error e)) := by
  refine triple_reading fun esmtp => triple_reading fun utf8 => ?_
  split
  · exact triple_raise fun _ at_ => went_said at_.2 (.early rfl)
  · generalize (if esmtp = true then options else []) = options'
    have asks : Triple (At []) (docmd peer (.mail sender options')) _ _ := docmd_at rfl
    refine triple_bind (triple_weaken asks (fun _ at_ => at_) (fun _ _ said => said) ?_) ?_
    · intro e s unanswered
      obtain ⟨plain,x,cut,said⟩ := unanswered_cut unanswered
      exact went_said said (.mailCut plain cut)
    · rintro ⟨code,text⟩
      refine triple_pure ?_
      rintro s ⟨sealed,at_⟩
      exact ⟨options',sealed,text,at_⟩

theorem sendmail_went (sender : String) (recipients : List String) (message : String) (options : List String) :
    Triple (At []) (sendmail peer sender recipients message options) (fun _ => Went (.ok ())) (fun e => Went (.error e)) := by
  refine triple_bind (triple_weaken greeting_at (fun _ at_ => at_) (fun _ _ at_ => at_) ?_) fun _ => ?_
  · rintro e s ⟨plain,said⟩
    exact went_said said (.early plain)
  refine triple_reading fun esmtp => triple_reading fun sized => ?_
  refine triple_bind (mail_at _ _) fun code => ?_
  rintro s ⟨options',sealed,text,at_⟩
  by_cases taken : code = 250
  · subst taken
    rw [if_neg (by decide)]
    refine triple_bind (triple_weaken (rcptEach_at recipients) (fun _ at_ => at_) (fun _ _ said => said) ?_) (fun refused => ?_) s at_
    · rintro e t ⟨asked,heard,⟨rfl,recipient,sealed',text',said⟩ | ⟨recipient,unanswered⟩⟩
      · exact went_said said (.rcptLast heard)
      · obtain ⟨plain,x,cut,said⟩ := unanswered_cut unanswered
        exact went_said said (.rcptCut plain heard cut)
    · rintro t ⟨asked,at_',heard,few,all⟩
      split
      · next none_ =>
          have full : refused.length = recipients.length := Nat.le_antisymm few (none_ ▸ (List.dedup_sublist refused).length_le)
          refine triple_bind (triple_weaken rset_at (fun _ at_ => at_) (fun _ _ said => said) ?_) (fun _ => ?_) t at_'
          · rintro e u ⟨x,said,line,overlong,plain⟩
            exact went_said said (.allRefused heard (all full) (.torn line overlong plain))
          · refine triple_raise ?_
            rintro u ⟨x,said,line,read⟩
            exact went_said said (.allRefused heard (all full) (.reset line read))
      · refine triple_bind (triple_weaken (data_at message) (fun _ at_ => at_) (fun _ _ said => said) ?_) (fun code => ?_) t at_'
        · rintro e u (unanswered | ⟨code,sealed',text',refused',rfl,said⟩ | ⟨sealed',text',unanswered⟩)
          · obtain ⟨plain,x,cut,said⟩ := unanswered_cut unanswered
            exact went_said said (.dataCut plain heard cut)
          · exact went_said said (.dataRefused heard refused')
          · obtain ⟨plain,x,cut,said⟩ := unanswered_cut unanswered
            exact went_said (said.trans (List.append_assoc _ _ _)) (.bodyCut plain heard cut)
        · rintro u ⟨sealed',sealed'',text',text'',at_''⟩
          by_cases taken : code = 250
          · subst taken
            exact went_said at_''.2 (.accepted heard)
          · rw [if_pos taken]
            refine triple_weaken (giveUp_at code (.dataError code)) (fun _ at_ => at_) (fun _ _ none_ => none_.elim) ?_ u at_''
            rintro e v ⟨rest,ended,said⟩
            exact went_said (said.trans (List.append_assoc _ _ _)) (.bodyRefused heard taken ended)
  · rw [if_pos taken]
    refine triple_weaken (giveUp_at code .senderRefused) (fun _ at_ => at_) (fun _ _ none_ => none_.elim) ?_ s at_
    rintro e t ⟨rest,ended,said⟩
    exact went_said said (.senderRefused taken ended)

theorem sendMessage_went (email : Email) : Triple (At []) (sendMessage peer email) (fun _ => Went (.ok ())) (fun e => Went (.error e)) := by
  refine triple_bind (triple_weaken greeting_at (fun _ at_ => at_) (fun _ _ at_ => at_) ?_) fun _ => ?_
  · rintro e s ⟨plain,said⟩
    exact went_said said (.early plain)
  refine triple_reading fun utf8 => ?_
  split
  · exact triple_raise fun _ at_ => went_said at_.2 (.early rfl)
  · split
    · exact triple_raise fun _ at_ => went_said at_.2 (.early rfl)
    · exact sendmail_went _ _ _ _

theorem quit_at {log : List Exchange} : Triple (mailed ·.log = log) (docmd peer .quit)
    (fun reply s => ∃ sealed, mailed s.log = log ++ [⟨.quit,sealed,.line reply.1 reply.2⟩])
    (fun e s => e = .serverDisconnected ∧ mailed s.log = log ∨ Unanswered log .quit e s) := by
  intro s said
  cases there : s.sock with
  | false =>
      unfold docmd
      simp only [there,Bool.false_eq_true,if_false]
      exact .inl ⟨rfl,said⟩
  | true =>
      refine triple_weaken (docmd_at rfl) (fun _ at_ => at_) ?_ (fun _ _ unanswered => .inr unanswered) s ⟨there,said⟩
      rintro reply t ⟨sealed,at_⟩
      exact ⟨sealed,at_.2⟩

def Left (log : List Exchange) (well : Prop) (s : Smtp) : Prop :=
  ∃ more, mailed s.log = log ++ more ∧ (∀ x ∈ more, x.line = .quit) ∧ (Parted more ↔ well)

theorem left_one {log : List Exchange} {x : Exchange} {well : Prop} {s : Smtp} (said : mailed s.log = log ++ [x]) (line : x.line = .quit)
    (reply : (x.reply = .dropped ∨ ∃ text, x.reply = .line 221 text) ↔ well) : Left log well s :=
  ⟨[x],said,by simp [line],by simp [Parted,line,reply]⟩

theorem leave_at {log : List Exchange} : Triple (mailed ·.log = log) (leave peer) (fun _ => Left log True)
    (fun e s => e.refuses = false ∧ Left log False s) := by
  have said : Triple (mailed ·.log = log)
      (docmd peer .quit >>= fun reply => if reply.1 = 221 then pure () else raise (.responseException reply.1)) (fun _ => Left log True)
      (fun e s => e = .serverDisconnected ∧ Left log True s ∨ e ≠ .serverDisconnected ∧ e.refuses = false ∧ Left log False s) := by
    refine triple_bind (triple_weaken quit_at (fun _ said => said) (fun _ _ said => said) ?_) ?_
    · rintro e s (⟨gone,said⟩ | ⟨x,said,line,⟨reply,gone⟩ | ⟨reply,rfl⟩⟩)
      · exact .inl ⟨gone,[],by rw [List.append_nil]; exact said,List.forall_mem_nil _,iff_of_true (List.forall_mem_nil _) trivial⟩
      · exact .inl ⟨gone,left_one said line (by simp [reply])⟩
      · exact .inr ⟨nofun,rfl,left_one said line (by simp [reply])⟩
    · rintro ⟨code,text⟩ s ⟨sealed,said⟩
      dsimp only
      by_cases taken : code = 221
      · rw [if_pos taken]
        exact left_one said rfl (by simp [taken])
      · rw [if_neg taken]
        exact .inr ⟨nofun,rfl,left_one said rfl (by simp [taken])⟩
  have parts : Triple (mailed ·.log = log)
      (handle (docmd peer .quit >>= fun reply => if reply.1 = 221 then pure () else raise (.responseException reply.1))
        fun e => if e = .serverDisconnected then pure () else raise e)
      (fun _ => Left log True) (fun e s => e.refuses = false ∧ Left log False s) := by
    refine triple_handle said fun e => ?_
    split
    · next gone =>
        refine triple_pure ?_
        rintro s (⟨_,left⟩ | ⟨other,_⟩)
        · exact left
        · exact absurd gone other
    · next other =>
        refine triple_raise ?_
        rintro s (⟨gone,_⟩ | ⟨_,left⟩)
        · exact absurd gone other
        · exact left
  exact triple_closing parts (fun _ => triple_writes fun _ left => left) (fun _ => triple_writes fun _ left => left)

structure Told (outcome : Except Error Unit) (log : List Exchange) : Prop where
  accepted : outcome = .ok () ↔ Accepted log ∧ Parted log
  permanent : permanent outcome = true ↔ (RecipientsRefused log ∨ DataRefused log) ∧ ¬Torn log ∧ Parted log

theorem quiet_left {more : List Exchange} (quits : ∀ x ∈ more, x.line = .quit) :
    ¬Accepted more ∧ ¬DataRefused more ∧ ¬SenderTaken more ∧ ¬RecipientLast more ∧ NoneTaken more ∧ ¬Torn more := by
  refine ⟨?_,?_,?_,?_,?_,?_⟩
  · rintro ⟨x,listed,⟨_,line⟩,_⟩
    simp [quits x listed] at line
  · rintro ⟨x,listed,line | ⟨_,line⟩,_⟩ <;> simp [quits x listed] at line
  · rintro ⟨x,listed,⟨_,_,line⟩,_⟩
    simp [quits x listed] at line
  · rintro ⟨x,listed,⟨_,line⟩,_⟩
    simp [quits x listed] at line
  · exact fun x listed => by simp [quits x listed]
  · rintro ⟨x,listed,line,_⟩
    simp [quits x listed] at line

theorem left_told {outcome : Except Error Unit} {log : List Exchange} {well : Prop} {s : Smtp} (course : Course outcome log)
    (left : Left log well s) : (outcome = .ok () ∧ well ↔ Accepted s.log ∧ Parted s.log) ∧
      (permanent outcome = true ∧ well ↔ (RecipientsRefused s.log ∨ DataRefused s.log) ∧ ¬Torn s.log ∧ Parted s.log) := by
  obtain ⟨more,said,quits,parted⟩ := left
  obtain ⟨accepted,dataRefused,senderTaken,recipientLast,noneTaken,whole⟩ := quiet_left quits
  have judged := course_judged course
  rw [← accepted_mailed,← parted_mailed,← recipientsRefused_mailed,← dataRefused_mailed,← torn_mailed,said,judged.accepted,judged.permanent]
  simp [RecipientsRefused,accepted,dataRefused,senderTaken,recipientLast,noneTaken,whole,parted,course_parted course,and_assoc]

theorem told_left {x : Client Unit} {before : Smtp → Prop} (went : Triple before x (fun _ => Went (.ok ())) (fun e => Went (.error e))) :
    Triple before (closing x (leave peer)) (fun _ s => Told (.ok ()) s.log) (fun e s => Told (.error e) s.log) := by
  have failed : ∀ {e : Error} {outcome : Except Error Unit} {log : List Exchange} {s : Smtp}, Course outcome log → e.refuses = false →
      Left log False s → Told (.error e) s.log := by
    intro e outcome log s course plain left
    obtain ⟨accepted,refused⟩ := left_told course left
    simp only [and_false,false_iff] at accepted refused
    exact ⟨iff_of_false nofun accepted,iff_of_false (by simp [plain_passing plain]) refused⟩
  have told : ∀ {outcome : Except Error Unit} {log : List Exchange} {s : Smtp}, Course outcome log → Left log True s → Told outcome s.log := by
    intro outcome log s course left
    obtain ⟨accepted,refused⟩ := left_told course left
    rw [and_true] at accepted refused
    exact ⟨accepted,refused⟩
  refine triple_closing went (fun _ => ?_) fun e => ?_
  · intro s course
    exact triple_weaken leave_at (fun _ said => said) (fun _ _ left => told course left)
      (fun e _ left => failed course left.1 left.2) s rfl
  · intro s course
    exact triple_weaken leave_at (fun _ said => said) (fun _ _ left => told course left)
      (fun e _ left => failed course left.1 left.2) s rfl

end steps

end Smtplib
