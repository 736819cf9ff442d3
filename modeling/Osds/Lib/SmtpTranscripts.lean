import Osds.Lib.Smtplib

-- What a client sends, and what the replies to it come to.
namespace Smtplib
open Blocks

section adds

def Adds (allowed : Line → Prop) (s t : Smtp) : Prop :=
  t.sealed = s.sealed ∧ ∃ more, t.log = s.log ++ more ∧ ∀ x ∈ more, x.sealed = s.sealed ∧ allowed x.line

variable {allowed : Line → Prop} {s t u : Smtp} {peer : Peer} {library : Library} {user password : String}

theorem adds_refl (s : Smtp) : Adds allowed s s := ⟨rfl,[],(List.append_nil _).symm,List.forall_mem_nil _⟩

theorem adds_same (sealed : t.sealed = s.sealed) (log : t.log = s.log) : Adds allowed s t :=
  ⟨sealed,[],by rw [log,List.append_nil],List.forall_mem_nil _⟩

theorem adds_trans (first : Adds allowed s t) (second : Adds allowed t u) : Adds allowed s u := by
  obtain ⟨sealed,more,log,sent⟩ := first
  obtain ⟨sealed',more',log',sent'⟩ := second
  refine ⟨sealed'.trans sealed,more ++ more',by rw [log',log,List.append_assoc],?_⟩
  intro x listed
  rcases List.mem_append.mp listed with old | new
  · exact sent x old
  · exact ⟨(sent' x new).1.trans sealed,(sent' x new).2⟩

theorem adds_push {x : Exchange} (sealed : x.sealed = s.sealed) (kind : allowed x.line) {sock : Bool} :
    Adds allowed s {s with log := s.log ++ [x],sock := sock} := by
  refine ⟨rfl,[x],rfl,?_⟩
  intro y listed
  cases List.mem_singleton.mp listed
  exact ⟨sealed,kind⟩

theorem adds_docmd {line : Line} (kind : allowed line) : Keeps (Adds allowed) (docmd peer line) := by
  intro s
  unfold docmd
  dsimp only
  split
  · cases peer.reply s.log line s.sealed with
    | line code text => exact adds_push rfl kind
    | overlong => exact adds_push rfl kind
    | dropped => exact adds_push rfl kind
  · exact adds_refl s

theorem adds_close : Keeps (Adds allowed) close := fun _ => adds_same rfl rfl

theorem adds_bind {α β : Type} {x : Client α} {f : α → Client β} (first : Keeps (Adds allowed) x) (rest : ∀ a, Keeps (Adds allowed) (f a)) :
    Keeps (Adds allowed) (x >>= f) := keeps_bind adds_trans first rest

theorem adds_pure {α : Type} (a : α) : Keeps (Adds allowed) (pure a : Client α) := adds_refl

theorem adds_raise {α : Type} (e : Error) : Keeps (Adds allowed) (raise e : Client α) := adds_refl

theorem adds_reads {α : Type} (f : Smtp → α) : Keeps (Adds allowed) (reads f : Client α) := adds_refl

end adds

def Error.refuses : Error → Bool
  | .recipientsRefused => true
  | .dataError _ => true
  | _ => false

-- Besides, it raises no refusal, and the connection is there still unless it raises
-- something other than a failed login.
def Modest (allowed : Line → Prop) {α : Type} (x : Client α) : Prop :=
  ∀ before : Smtp, Triple (· = before) x (fun _ s => Adds allowed before s ∧ (before.sock = true → s.sock = true))
    (fun e s => Adds allowed before s ∧ e.refuses = false ∧ (e = .authenticationError → before.sock = true → s.sock = true))

section modest

variable {allowed : Line → Prop} {peer : Peer} {library : Library} {user password : String} {α β : Type} {x : Client α}
  {f : α → Client β}

theorem Modest.adds (modest : Modest allowed x) : Keeps (Adds allowed) x := by
  intro s
  have met := modest s s rfl
  match ran : x.run s with
  | (.ok a,s') =>
      rw [ran] at met
      exact met.1
  | (.error e,s') =>
      rw [ran] at met
      exact met.1

theorem modest_pure (a : α) : Modest allowed (pure a : Client α) := by
  rintro before s rfl
  exact ⟨adds_refl s,id⟩

theorem modest_reads (f : Smtp → α) : Modest allowed (reads f : Client α) := by
  rintro before s rfl
  exact ⟨adds_refl s,id⟩

theorem modest_writes {f : Smtp → Smtp} (sealed : ∀ s, (f s).sealed = s.sealed) (log : ∀ s, (f s).log = s.log)
    (sock : ∀ s, (f s).sock = s.sock) : Modest allowed (writes f : Client Unit) := by
  rintro before s rfl
  exact ⟨adds_same (sealed s) (log s),fun there => (sock s).trans there⟩

theorem modest_raise {e : Error} (plain : e.refuses = false) : Modest allowed (raise e : Client α) := by
  rintro before s rfl
  exact ⟨adds_refl s,plain,fun _ => id⟩

theorem modest_closed {e : Error} (plain : e.refuses = false) (other : e ≠ .authenticationError) :
    Modest allowed (close >>= fun _ => (raise e : Client α)) := by
  rintro before s rfl
  exact ⟨adds_same rfl rfl,plain,fun same => absurd same other⟩

theorem modest_docmd {line : Line} (kind : allowed line) : Modest allowed (docmd peer line) := by
  rintro before s rfl
  unfold docmd
  dsimp only
  split
  · cases peer.reply s.log line s.sealed with
    | line code text => exact ⟨adds_push rfl kind,id⟩
    | overlong => exact ⟨adds_push rfl kind,rfl,nofun⟩
    | dropped => exact ⟨adds_push rfl kind,rfl,nofun⟩
  · exact ⟨adds_refl s,rfl,nofun⟩

theorem modest_bind (first : Modest allowed x) (rest : ∀ a, Modest allowed (f a)) : Modest allowed (x >>= f) := by
  intro before
  refine triple_bind (first before) fun a => ?_
  rintro s ⟨added,kept⟩
  refine triple_weaken (rest a s) (fun t same => same) ?_ ?_ s rfl
  · rintro b t ⟨more,still⟩
    exact ⟨adds_trans added more,fun there => still (kept there)⟩
  · rintro e t ⟨more,plain,still⟩
    exact ⟨adds_trans added more,plain,fun failed there => still failed (kept there)⟩

theorem modest_encoded (text : String) : Modest allowed (encoded text) := by
  unfold encoded
  split
  · exact modest_pure _
  · exact modest_raise rfl

theorem modest_greeting (ehlo_ : allowed .ehlo) (helo_ : allowed .helo) : Modest allowed (ehloOrHeloIfNeeded peer) := by
  have marks : ∀ f : Smtp → Smtp, (∀ s, (f s).sealed = s.sealed ∧ (f s).log = s.log ∧ (f s).sock = s.sock) →
      Modest allowed (writes f : Client Unit) :=
    fun f same => modest_writes (fun s => (same s).1) (fun s => (same s).2.1) (fun s => (same s).2.2)
  have greets : Modest allowed (ehlo peer) := by
    refine modest_bind (marks _ fun _ => ⟨rfl,rfl,rfl⟩) fun _ => modest_bind (modest_docmd ehlo_) fun reply => ?_
    dsimp only
    split
    · exact modest_closed rfl nofun
    · split
      · exact modest_bind (marks _ fun _ => ⟨rfl,rfl,rfl⟩) fun _ => modest_pure _
      · exact modest_bind (marks _ fun _ => ⟨rfl,rfl,rfl⟩) fun _ => modest_pure _
  have falls : Modest allowed (helo peer) :=
    modest_bind (modest_docmd helo_) fun _ => modest_bind (marks _ fun _ => ⟨rfl,rfl,rfl⟩) fun _ => modest_pure _
  refine modest_bind (modest_reads _) fun greeted => ?_
  split
  · exact modest_pure _
  · refine modest_bind greets fun code => ?_
    split
    · exact modest_pure _
    · refine modest_bind falls fun code => ?_
      split
      · exact modest_pure _
      · exact modest_raise rfl

theorem modest_respond (answers : ∀ text, allowed (.answer text)) (mechanism : Mechanism) (remaining : Nat) (text : List String) :
    Modest allowed (respond library peer user password mechanism remaining text) := by
  unfold respond
  split
  · exact modest_raise rfl
  · exact modest_bind (modest_encoded _) fun _ => modest_bind (modest_encoded _) fun response => modest_docmd (answers response)

theorem modest_challenged (answers : ∀ text, allowed (.answer text)) (mechanism : Mechanism) (remaining : Nat) (text : List String) :
    Modest allowed (challenged library peer user password mechanism remaining text) := by
  induction remaining generalizing text with
  | zero => exact modest_bind (modest_respond answers _ _ _) fun _ => modest_raise rfl
  | succ remaining ih =>
      refine modest_bind (modest_respond answers _ _ _) fun reply => ?_
      dsimp only
      split
      · exact ih _
      · exact modest_pure _

theorem modest_auth (auths : ∀ mechanism initial, allowed (.auth mechanism initial)) (answers : ∀ text, allowed (.answer text))
    (mechanism : Mechanism) : Modest allowed (auth library peer user password mechanism) := by
  have said : ∀ initial remaining, Modest allowed (docmd peer (.auth mechanism initial) >>= fun reply =>
      if reply.1 = 334 then challenged library peer user password mechanism remaining reply.2 else pure reply.1) := by
    intro initial remaining
    refine modest_bind (modest_docmd (auths _ _)) fun reply => ?_
    split
    · exact modest_challenged answers _ _ _
    · exact modest_pure _
  refine modest_bind ?_ fun code => ?_
  · unfold converse
    split
    · exact modest_bind (modest_encoded _) fun response => said _ _
    · exact said _ _
  · split
    · exact modest_pure _
    · exact modest_raise rfl

theorem modest_login (ehlo_ : allowed .ehlo) (helo_ : allowed .helo) (auths : ∀ mechanism initial, allowed (.auth mechanism initial))
    (answers : ∀ text, allowed (.answer text)) : Modest allowed (login library peer user password) := by
  have each : ∀ mechanisms, Modest allowed (tryEach library peer user password mechanisms) := by
    intro mechanisms before
    induction mechanisms generalizing before with
    | nil => exact modest_raise rfl before
    | cons mechanism rest ih =>
        refine triple_handle (modest_auth auths answers mechanism before) fun e => ?_
        rintro s ⟨added,plain,still⟩
        split
        · next failed =>
            refine triple_weaken (ih s) (fun t same => same) ?_ ?_ s rfl
            · rintro a t ⟨more,kept⟩
              exact ⟨adds_trans added more,fun there => kept (still failed there)⟩
            · rintro e t ⟨more,plain',still'⟩
              exact ⟨adds_trans added more,plain',fun again there => still' again (still failed there)⟩
        · exact ⟨added,plain,still⟩
  refine modest_bind (modest_greeting ehlo_ helo_) fun _ => modest_bind (modest_reads _) fun features => ?_
  split
  · exact modest_raise rfl
  · split
    · exact modest_raise rfl
    · exact each _

end modest

def Line.about (email : Email) : Line → Prop
  | .mail sender _ => sender = email.sender
  | .rcpt recipient => recipient ∈ email.recipients
  | .body message => ∃ international, email.flat international = .ok message
  | .auth _ _ => False
  | .answer _ => False
  | _ => True

section adds

variable {allowed : Line → Prop} {peer : Peer}

theorem adds_rset (rset_ : allowed .rset) : Keeps (Adds allowed) (rset peer) := by
  refine keeps_handle adds_trans (adds_bind (adds_docmd rset_) fun _ => adds_pure _) fun e => ?_
  split
  · exact adds_pure _
  · exact adds_raise _

theorem adds_giveUp (rset_ : allowed .rset) (code : Int) (e : Error) : Keeps (Adds allowed) (giveUp peer code e) := by
  refine adds_bind ?_ fun _ => adds_raise _
  split
  · exact adds_close
  · exact adds_rset rset_

theorem adds_mail {sender : String} (mail_ : ∀ options, allowed (.mail sender options)) (options : List String) :
    Keeps (Adds allowed) (mail peer sender options) := by
  refine adds_bind (adds_reads _) fun esmtp => adds_bind (adds_reads _) fun utf8 => ?_
  split
  · exact adds_raise _
  · exact adds_bind (adds_docmd (mail_ _)) fun _ => adds_pure _

theorem adds_rcptEach {recipients : List String} (rcpt_ : ∀ recipient ∈ recipients, allowed (.rcpt recipient)) :
    Keeps (Adds allowed) (rcptEach peer recipients) := by
  induction recipients with
  | nil => exact adds_pure _
  | cons recipient rest ih =>
      refine adds_bind (adds_docmd (rcpt_ _ List.mem_cons_self)) fun reply => ?_
      dsimp only
      split
      · exact adds_bind adds_close fun _ => adds_raise _
      · exact adds_bind (ih fun other listed => rcpt_ other (List.mem_cons_of_mem _ listed)) fun _ => adds_pure _

theorem adds_data {message : String} (data_ : allowed .data) (body_ : allowed (.body message)) :
    Keeps (Adds allowed) (data peer message) := by
  refine adds_bind (adds_docmd data_) fun reply => ?_
  dsimp only
  split
  · exact adds_raise _
  · exact adds_bind (adds_docmd body_) fun _ => adds_pure _

theorem adds_sendMessage {email : Email} (all : ∀ line, line.about email → allowed line) : Keeps (Adds allowed) (sendMessage peer email) := by
  have greeting : Keeps (Adds allowed) (ehloOrHeloIfNeeded peer) := (modest_greeting (all _ trivial) (all _ trivial)).adds
  refine adds_bind greeting fun _ => adds_bind (adds_reads _) fun utf8 => ?_
  split
  · exact adds_raise _
  · split
    · exact adds_raise _
    · next message flat =>
        refine adds_bind greeting fun _ => adds_bind (adds_reads _) fun esmtp => adds_bind (adds_reads _) fun sized => ?_
        refine adds_bind (adds_mail (fun _ => all _ rfl) _) fun code => ?_
        split
        · exact adds_giveUp (all _ trivial) _ _
        · refine adds_bind (adds_rcptEach fun recipient listed => all _ listed) fun refused => ?_
          split
          · exact adds_bind (adds_rset (all _ trivial)) fun _ => adds_raise _
          · refine adds_bind (adds_data (all _ trivial) (all _ ⟨_,flat⟩)) fun code => ?_
            split
            · exact adds_giveUp (all _ trivial) _ _
            · exact adds_pure _

theorem adds_leave (quit_ : allowed .quit) : Keeps (Adds allowed) (leave peer) := by
  refine keeps_closing adds_trans (keeps_handle adds_trans ?_ fun e => ?_) adds_close
  · refine adds_bind (adds_docmd quit_) fun reply => ?_
    dsimp only
    split
    · exact adds_pure _
    · exact adds_raise _
  · split
    · exact adds_pure _
    · exact adds_raise _

theorem adds_all {what : Exchange → Prop} {s t : Smtp} (added : Adds allowed s t) (before : ∀ x ∈ s.log, what x)
    (each : ∀ x, x.sealed = s.sealed → allowed x.line → what x) : ∀ x ∈ t.log, what x := by
  obtain ⟨_,more,log,sent⟩ := added
  rw [log]
  exact List.forall_mem_append.mpr ⟨before,fun x listed => each x (sent x listed).1 (sent x listed).2⟩

end adds

section connections

variable {peer : Peer}

theorem connect_at (sealed : Bool) : Triple (· = Smtp.new) (connect peer sealed)
    (fun _ s => s.log = [] ∧ s.sock = true ∧ s.sealed = sealed) (fun e s => e.refuses = false ∧ s.log = []) := by
  rintro s rfl
  unfold connect
  split
  · exact ⟨rfl,rfl⟩
  · split
    · exact ⟨rfl,rfl⟩
    · cases peer.banner with
      | dropped => exact ⟨rfl,rfl⟩
      | overlong => exact ⟨rfl,rfl⟩
      | line code text =>
          by_cases ready : code = 220
          · subst ready
            exact ⟨rfl,rfl,rfl⟩
          · change Meets _ _ ((if code = 220 then pure () else close >>= fun _ => raise .connectError : Client Unit).run
              {Smtp.new with sock := true,sealed := sealed})
            rw [if_neg ready]
            exact ⟨rfl,rfl⟩

def Line.opening : Line → Bool
  | .ehlo => true
  | .helo => true
  | .starttls => true
  | _ => false

theorem starttls_at : Triple (fun s => s.log = [] ∧ s.sock = true ∧ s.sealed = false) (starttls peer)
    (fun _ s => s.sock = true ∧ s.sealed = true ∧ ∀ x ∈ s.log, x.line.opening = true)
    (fun e s => e.refuses = false ∧ s.sealed = false ∧ ∀ x ∈ s.log, x.line.opening = true) := by
  have steps : ∀ {α : Type} {x : Client α}, Modest (·.opening = true) x →
      Triple (fun s => s.sock = true ∧ s.sealed = false ∧ ∀ x ∈ s.log, x.line.opening = true) x
        (fun _ s => s.sock = true ∧ s.sealed = false ∧ ∀ x ∈ s.log, x.line.opening = true)
        (fun e s => e.refuses = false ∧ s.sealed = false ∧ ∀ x ∈ s.log, x.line.opening = true) := by
    rintro α x modest s ⟨there,plain,opening⟩
    refine triple_weaken (modest s) (fun _ is => is) ?_ ?_ s rfl
    · rintro a t ⟨added,kept⟩
      exact ⟨kept there,added.1.trans plain,adds_all added opening fun _ _ kind => kind⟩
    · rintro e t ⟨added,calm,_⟩
      exact ⟨calm,added.1.trans plain,adds_all added opening fun _ _ kind => kind⟩
  refine triple_bind (triple_weaken (steps (modest_greeting rfl rfl)) ?_ (fun _ _ kept => kept) fun _ _ failed => failed) fun _ => ?_
  · rintro s ⟨log,there,plain⟩
    exact ⟨there,plain,by rw [log]; exact List.forall_mem_nil _⟩
  refine triple_bind (steps (modest_reads _)) fun offered => ?_
  split
  · refine triple_bind (steps (modest_docmd rfl)) fun reply => ?_
    dsimp only
    split
    · refine triple_bind (steps (modest_reads _)) fun log => ?_
      split
      · rintro s ⟨_,kept⟩
        exact ⟨rfl,kept⟩
      · exact triple_writes fun _ kept => ⟨kept.1,rfl,kept.2.2⟩
    · exact triple_raise fun _ kept => ⟨rfl,kept.2⟩
  · exact triple_raise fun _ kept => ⟨rfl,kept.2⟩

end connections

end Smtplib
