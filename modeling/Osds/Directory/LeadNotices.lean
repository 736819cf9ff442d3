import Osds.Claims.Models
import Osds.Lib.Lists
import Osds.Lib.Runs
import Mathlib.Data.List.Pairwise

namespace Osds.Directory.LeadNotices
open Claims (minute hour days)

def OWNER_NOTICE_TTL : Time := days 7
def OPERATOR_NOTICE_TTL : Time := 48 * hour
def NOTICE_THROTTLE : Time := 15 * minute
def DUPLICATE_WINDOW : Time := 1 * hour
def LEAD_FLUSH_LIMIT : Nat := 200

inductive Recipient where
  | owner (address : String)
  | staff (address : String)
  deriving DecidableEq, Repr

-- Who owns what and who is told. Addresses are stripped and in lower case, the
-- users' and the memberships' (active, from EDITOR up) in the order of their ids.
structure Audience where
  name : String
  users : List String
  owner : ListingId → Option String
  memberships : List String
  known : ∀ l address, owner l = some address → address ∈ users

def Audience.recipients (a : Audience) : List String :=
  a.memberships.foldl (fun found address => if address ≠ "" && !found.contains address then found ++ [address] else found) []

def Audience.toldOf (a : Audience) (l : ListingId) : List Recipient :=
  match a.owner l with
  | some address => if address ≠ "" then [.owner address] else a.recipients.map .staff
  | none => a.recipients.map .staff

def Audience.concerns (a : Audience) : Recipient → ListingId → Bool
  | .owner address,l => a.owner l = some address
  | .staff _,l => (a.owner l).isNone

def lifetime : Recipient → Time
  | .owner _ => OWNER_NOTICE_TTL
  | .staff _ => OPERATOR_NOTICE_TTL

def Recipient.address : Recipient → String
  | .owner address => address
  | .staff address => address

def noun (count : Nat) : String := if count = 1 then "inquiry" else "inquiries"

def subject (a : Audience) (count : Nat) : Recipient → String
  | .owner _ => "New " ++ noun count ++ " on " ++ a.name
  | .staff _ => "New " ++ noun count ++ " on unclaimed listings at " ++ a.name

-- `writer` is the transaction that wrote the row, while it is open, and `stamp` the
-- number of its commit then, for the statements.
structure Lead where
  pk : Nat
  listing : ListingId
  email : String
  message : String
  markedSpam : Bool
  createdAt : Time
  writer : Option Nat
  stamp : Nat
  deriving DecidableEq, Repr

structure Notice where
  recipient : Recipient
  subject : String
  expiresAt : Time
  createdAt : Time
  writer : Option Nat
  stamp : Nat
  since : Time
  counted : List Nat
  deriving DecidableEq, Repr

structure Inquiry where
  listing : ListingId
  email : String
  message : String
  spam : Bool
  deriving DecidableEq, Repr

-- The statement a transaction runs next. `left` is what a flush may still queue while
-- it goes through the owners.
inductive Phase where
  | inserting (inquiry : Inquiry)
  | listing (limit : Nat)
  | telling (rest : List Recipient) (left : Option Nat)
  | counting (r : Recipient) (last : Option Time) (rest : List Recipient) (left : Option Nat)
  | enqueueing (r : Recipient) (last : Option Time) (counted : List Nat) (rest : List Recipient) (left : Option Nat)
  | staffing
  | finished
  deriving DecidableEq, Repr

-- `lock` is the listing row held, `owed` what the statements ask of the transaction:
-- the leads there were in the lifetime of each recipient it found out of the window.
structure Txn where
  now : Time
  lock : Option ListingId
  phase : Phase
  owed : List (Recipient × List Nat)
  deriving DecidableEq, Repr

-- `commits` numbers the commits; `asked` and `tallied` are how many there were when a
-- transaction read a recipient's last notice and when it counted their leads.
structure Desk where
  clock : Time
  leads : List Lead
  notices : List Notice
  txns : Nat → Option Txn
  nextPk : Nat
  nextTxn : Nat
  commits : Nat
  asked : Nat → Nat
  tallied : Nat → Nat

inductive Action where
  | wait (time : Nat)
  | createLead (inquiry : Inquiry)
  -- the worker's `now`, and what the job's limit leaves
  | flush (now : Time) (limit : Nat)
  | next (p : Nat)
  | commit (p : Nat)
  | abort (p : Nat)

def sees (p : Nat) (writer : Option Nat) : Bool := writer.all (· = p)

namespace Desk

def start (clock : Time) : Desk := ⟨clock,[],[],fun _ => none,0,0,0,fun _ => 0,fun _ => 0⟩

def set (s : Desk) (p : Nat) (t : Option Txn) : Desk := {s with txns := fun q => if q = p then t else s.txns q}

def begin (s : Desk) (t : Txn) : Desk := {s.set s.nextTxn (some t) with nextTxn := s.nextTxn + 1}

def locked (s : Desk) (l : ListingId) : Bool := (List.range s.nextTxn).any fun q => (s.txns q).any (·.lock = some l)

def lastNotice (s : Desk) (p : Nat) (r : Recipient) : Option Time :=
  ((s.notices.filter fun n => sees p n.writer && n.recipient = r).map (·.createdAt)).max?

def reports (a : Audience) (r : Recipient) (since : Time) (x : Lead) : Bool :=
  a.concerns r x.listing && !x.markedSpam && decide (since < x.createdAt)

def leadsSince (a : Audience) (s : Desk) (p : Nat) (r : Recipient) (since : Time) : List Nat :=
  (s.leads.filter fun x => sees p x.writer && reports a r since x).map (·.pk)

def duplicate (s : Desk) (p : Nat) (now : Time) (i : Inquiry) : Bool :=
  s.leads.any fun x => sees p x.writer && x.listing = i.listing && x.email = i.email && x.message = i.message &&
    decide (now - DUPLICATE_WINDOW < x.createdAt)

def settle (p : Nat) (writer : Option Nat) : Option Nat := if writer = some p then none else writer

def stampOf (p number : Nat) (writer : Option Nat) (stamp : Nat) : Nat := if writer = some p then number else stamp

def commit (s : Desk) (p : Nat) : Desk :=
  {s.set p none with
    leads := s.leads.map fun x => {x with writer := settle p x.writer,stamp := stampOf p (s.commits + 1) x.writer x.stamp}
    notices := s.notices.map fun n => {n with writer := settle p n.writer,stamp := stampOf p (s.commits + 1) n.writer n.stamp}
    commits := s.commits + 1}

def abort (s : Desk) (p : Nat) : Desk :=
  {s.set p none with
    leads := s.leads.filter fun x => x.writer ≠ some p
    notices := s.notices.filter fun n => n.writer ≠ some p}

def insert (s : Desk) (p : Nat) (i : Inquiry) : Desk :=
  {s with
    leads := s.leads ++ [⟨s.nextPk,i.listing,i.email,i.message,i.spam,s.clock,some p,0⟩]
    nextPk := s.nextPk + 1}

def enqueue (a : Audience) (s : Desk) (p : Nat) (now : Time) (r : Recipient) (since : Time) (counted : List Nat) : Desk :=
  {s with notices := s.notices ++ [⟨r,subject a counted.length r,now + lifetime r,s.clock,some p,0,since,counted⟩]}

def fits (a : Audience) (r : Recipient) (counted : List Nat) : Bool :=
  (subject a counted.length r).length ≤ 200 && r.address.length ≤ 254

def sinceOf (now : Time) (r : Recipient) (last : Option Time) : Time := last.getD (now - lifetime r)

def advance (a : Audience) (s : Desk) (p : Nat) (t : Txn) : Desk :=
  match t.phase with
  | .inserting i =>
      if s.duplicate p t.now i then s.set p (some {t with phase := .finished})
      else (s.insert p i).set p (some {t with phase := if i.spam then .finished else .telling (a.toldOf i.listing) none})
  | .listing limit =>
      let owners := a.users.filter fun address => !(leadsSince a s p (.owner address) (t.now - OWNER_NOTICE_TTL)).isEmpty
      s.set p (some {t with phase := .telling (owners.map .owner) (some limit)})
  | .telling [] none => s.set p (some {t with phase := .finished})
  | .telling [] (some _) => s.set p (some {t with phase := .staffing})
  | .telling (r :: rest) left =>
      if left = some 0 then s.set p (some {t with phase := .finished})
      else if (s.lastNotice p r).any (t.now - NOTICE_THROTTLE < ·) then s.set p (some {t with phase := .telling rest left})
      else {s.set p (some {t with
          phase := .counting r (s.lastNotice p r) rest left
          owed := (r,leadsSince a s p r (t.now - lifetime r)) :: t.owed}) with
        asked := fun q => if q = p then s.commits else s.asked q}
  | .counting r last rest left =>
      let counted := leadsSince a s p r (sinceOf t.now r last)
      {s.set p (some {t with phase := if counted.isEmpty then .telling rest left else .enqueueing r last counted rest left}) with
        tallied := fun q => if q = p then s.commits else s.tallied q}
  | .enqueueing r last counted rest left =>
      if fits a r counted then
        (enqueue a s p t.now r (sinceOf t.now r last) counted).set p (some {t with phase := .telling rest (left.map (· - 1))})
      else s.abort p
  | .staffing =>
      let unclaimed := s.leads.any fun x => sees p x.writer && (a.owner x.listing).isNone && !x.markedSpam &&
        decide (t.now - OPERATOR_NOTICE_TTL < x.createdAt)
      s.set p (some {t with phase := if unclaimed then .telling (a.recipients.map .staff) none else .finished})
  | .finished => s

def step (a : Audience) (s : Desk) : Action → Desk
  | .wait time => {s with clock := s.clock + time}
  | .createLead i => if s.locked i.listing then s else s.begin ⟨s.clock,some i.listing,.inserting i,[]⟩
  | .flush now limit => if now ≤ s.clock then s.begin ⟨now,none,.listing limit,[]⟩ else s
  | .next p => match s.txns p with
      | some t => advance a s p t
      | none => s
  | .commit p => if (s.txns p).any (·.phase = .finished) then s.commit p else s
  | .abort p => s.abort p

end Desk
open Desk

def knew (p number : Nat) (writer : Option Nat) (stamp : Nat) : Bool := writer = some p || (writer = none && decide (stamp ≤ number))

-- Nothing of the recipient's was committed since the transaction read it, none is open
-- elsewhere, and the notice can be stored.
structure Stands (a : Audience) (s : Desk) (p : Nat) (r : Recipient) (counted : List Nat) : Prop where
  notices : ∀ n ∈ s.notices, n.recipient = r → knew p (s.asked p) n.writer n.stamp
  leads : ∀ x ∈ s.leads, a.concerns r x.listing → x.markedSpam = false → knew p (s.tallied p) x.writer x.stamp
  fits : fits a r counted

-- Each notice is written so, and no lead in the microsecond of an earlier notice.
def Alone (a : Audience) (s : Desk) : Action → Prop
  | .next p => match s.txns p with
      | some ⟨_,_,.inserting i,_⟩ => i.spam = false → ∀ n ∈ s.notices, a.concerns n.recipient i.listing → n.createdAt < s.clock
      | some ⟨_,_,.enqueueing r _ counted _ _,_⟩ => Stands a s p r counted
      | _ => True
  | _ => True

def Counted (s : Desk) (visible : Option Nat → Bool) (r : Recipient) (pk : Nat) : Prop :=
  ∃ n ∈ s.notices, visible n.writer ∧ n.recipient = r ∧ pk ∈ n.counted

def Tells (a : Audience) (l : ListingId) : Recipient → Prop
  | .owner address => a.owner l = some address ∧ address ≠ ""
  | .staff address => (∀ owner, a.owner l = some owner → owner = "") ∧ address ∈ a.memberships ∧ address ≠ ""

def Phase.rest : Phase → List Recipient
  | .telling rest _ => rest
  | .counting _ _ rest _ => rest
  | .enqueueing _ _ _ rest _ => rest
  | _ => []

-- A flush stops at its limit; else no recipient but the next is out of the way, and what
-- is owed stays so.
def Passes (t t' : Txn) : Prop :=
  (∀ e ∈ t.owed, e ∈ t'.owed) ∧ match t.phase with
    | .telling (_ :: rest) left => left ≠ some 0 → ∀ r ∈ rest, r ∈ t'.phase.rest
    | .telling [] (some _) => t'.phase = .staffing
    | phase => ∀ r ∈ phase.rest, r ∈ t'.phase.rest

-- No committed notice counts a lead that another to the same recipient counts. An inquiry
-- goes over those it tells, and a flush over every owner, and the staff, with a lead in the
-- lifetime. A pass over a recipient whose notices are all out of the window owes them each
-- lead in the lifetime, and once it is committed a notice counts it. A notice is stored.
structure Keeps (a : Audience) (s : Desk) (action : Action) : Prop where
  once : ∀ r pk, ((step a s action).notices.filter fun n => n.writer.isNone && n.recipient = r && n.counted.contains pk).length ≤ 1
  asks : ∀ p t i, action = .next p → s.txns p = some t → t.phase = .inserting i → i.spam = false →
    (∀ x ∈ s.leads, sees p x.writer → x.listing = i.listing → x.email = i.email → x.message = i.message →
      x.createdAt ≤ t.now - DUPLICATE_WINDOW) →
    ∃ rest, (∀ r, Tells a i.listing r → r ∈ rest) ∧ (step a s action).txns p = some {t with phase := .telling rest none} ∧
      ∃ x ∈ (step a s action).leads, x.writer = some p ∧ x.listing = i.listing ∧ x.email = i.email ∧ x.message = i.message ∧
        x.markedSpam = false ∧ x.createdAt = s.clock
  owes : ∀ p t r rest left, action = .next p → s.txns p = some t → t.phase = .telling (r :: rest) left → left ≠ some 0 →
    (∀ n ∈ s.notices, sees p n.writer → n.recipient = r → n.createdAt ≤ t.now - NOTICE_THROTTLE) →
    ∃ t' pks, (step a s action).txns p = some t' ∧ (r,pks) ∈ t'.owed ∧ ∀ x ∈ s.leads, sees p x.writer →
      a.concerns r x.listing → x.markedSpam = false → t.now - lifetime r < x.createdAt → x.pk ∈ pks
  passes : ∀ p t, action = .next p → s.txns p = some t → ∃ t', (step a s action).txns p = some t' ∧ Passes t t'
  told : ∀ p t, action = .commit p → s.txns p = some t → t.phase = .finished → ∀ r pks, (r,pks) ∈ t.owed → ∀ pk ∈ pks,
    Counted (step a s action) Option.isNone r pk
  listed : ∀ p t limit, action = .next p → s.txns p = some t → t.phase = .listing limit →
    ∀ x ∈ s.leads, sees p x.writer → x.markedSpam = false → t.now - OWNER_NOTICE_TTL < x.createdAt →
      ∀ address, a.owner x.listing = some address → ∃ rest, .owner address ∈ rest ∧
        (step a s action).txns p = some {t with phase := .telling rest (some limit)}
  staffed : ∀ p t, action = .next p → s.txns p = some t → t.phase = .staffing →
    ∀ x ∈ s.leads, sees p x.writer → x.markedSpam = false → t.now - OPERATOR_NOTICE_TTL < x.createdAt → a.owner x.listing = none →
      ∃ rest, (∀ address ∈ a.memberships, address ≠ "" → .staff address ∈ rest) ∧
        (step a s action).txns p = some {t with phase := .telling rest none}

def Under (w w' : Option Nat) : Prop := w = none ∨ w = w'

def Follows (n n' : Notice) : Prop := n.recipient = n'.recipient → n.createdAt ≤ n'.since

-- The notices to a recipient cover the time from one to the next: `counted` says which
-- leads are in a notice's stretch of it, `based` where the stretch begins.
structure Rows (a : Audience) (s : Desk) : Prop where
  pks : ∀ x ∈ s.leads, x.pk < s.nextPk
  unique : s.leads.Pairwise fun x y => x.pk ≠ y.pk
  leadStamps : ∀ x ∈ s.leads, x.createdAt ≤ s.clock
  noticeStamps : ∀ n ∈ s.notices, n.createdAt ≤ s.clock
  ordered : s.notices.Pairwise Follows
  forward : ∀ n ∈ s.notices, n.since < n.createdAt
  based : ∀ n ∈ s.notices, n.since ≤ n.createdAt - lifetime n.recipient ∨
    ∃ m ∈ s.notices, m.recipient = n.recipient ∧ m.createdAt = n.since ∧ Under m.writer n.writer
  counted : ∀ n ∈ s.notices, ∀ x ∈ s.leads, x.pk ∈ n.counted ↔ reports a n.recipient n.since x ∧ x.createdAt ≤ n.createdAt
  written : ∀ n ∈ s.notices, ∀ pk ∈ n.counted, ∃ x ∈ s.leads, x.pk = pk ∧ Under x.writer n.writer

-- The count that a transaction in the middle of a recipient will come to.
def Awaits (a : Audience) (s : Desk) (p : Nat) (t : Txn) (r : Recipient) (pk : Nat) : Prop :=
  match t.phase with
  | .counting of last _ _ => of = r ∧ pk ∈ leadsSince a s p r (sinceOf t.now r last)
  | .enqueueing of _ counted _ _ => of = r ∧ pk ∈ counted
  | _ => False

def Owed (a : Audience) (s : Desk) (p : Nat) (t : Txn) : Prop :=
  ∀ r pks, (r,pks) ∈ t.owed → ∀ pk ∈ pks, Counted s (sees p) r pk ∨ Awaits a s p t r pk

def Counts : Phase → Prop
  | .enqueueing _ _ counted _ _ => counted ≠ []
  | _ => True

structure Sound (a : Audience) (s : Desk) (p : Nat) (t : Txn) : Prop where
  now : t.now ≤ s.clock
  counts : Counts t.phase
  owed : Owed a s p t

structure Valid (a : Audience) (s : Desk) : Prop where
  rows : Rows a s
  txns : ∀ p t, s.txns p = some t → Sound a s p t

structure Grows (visible visible' : Option Nat → Bool) (s s' : Desk) : Prop where
  leads : ∀ x ∈ s.leads, visible x.writer → ∃ w k, visible' w ∧ {x with writer := w,stamp := k} ∈ s'.leads
  notices : ∀ n ∈ s.notices, visible n.writer → ∃ w k, visible' w ∧ {n with writer := w,stamp := k} ∈ s'.notices

section rows
variable {a : Audience} {s s' : Desk} {p q : Nat} {r : Recipient} {since now : Time} {pk : Nat} {t : Txn}

theorem sees_iff {w : Option Nat} : sees p w ↔ w = none ∨ w = some p := by
  cases w with
  | none => simp [sees]
  | some q => simp [sees]

theorem sees_under {w w' : Option Nat} (under : Under w w') (seen : sees p w') : sees p w := by
  rcases under with none_ | same
  · exact sees_iff.mpr (.inl none_)
  · exact same ▸ seen

theorem mem_leadsSince : pk ∈ leadsSince a s p r since ↔
    ∃ x ∈ s.leads, sees p x.writer ∧ reports a r since x ∧ x.pk = pk := by
  simp only [leadsSince,List.mem_map,List.mem_filter,Bool.and_eq_true]
  constructor
  · intro ⟨x,⟨mem,seen,reported⟩,same⟩
    exact ⟨x,mem,seen,reported,same⟩
  · intro ⟨x,mem,seen,reported,same⟩
    exact ⟨x,⟨mem,seen,reported⟩,same⟩

theorem reports_iff {x : Lead} : reports a r since x ↔ a.concerns r x.listing ∧ x.markedSpam = false ∧ since < x.createdAt := by
  simp [reports,and_assoc]

theorem lastNotice_none (none_ : s.lastNotice p r = none) (mem : n ∈ s.notices) (seen : sees p n.writer) : n.recipient ≠ r := by
  intro whom
  have empty := List.map_eq_nil_iff.mp (List.max?_eq_none_iff.mp none_)
  exact absurd (List.mem_filter.mpr ⟨mem,by simp [seen,whom]⟩) (empty ▸ List.not_mem_nil)

theorem lastNotice_some {last : Time} (some_ : s.lastNotice p r = some last) :
    (∃ n ∈ s.notices, sees p n.writer ∧ n.recipient = r ∧ n.createdAt = last) ∧
      ∀ n ∈ s.notices, sees p n.writer → n.recipient = r → n.createdAt ≤ last := by
  obtain ⟨there,most⟩ := List.max?_eq_some_iff.mp some_
  constructor
  · obtain ⟨n,kept,stamp⟩ := List.mem_map.mp there
    obtain ⟨mem,both⟩ := List.mem_filter.mp kept
    obtain ⟨seen,whom⟩ := Bool.and_eq_true .. ▸ both
    exact ⟨n,mem,seen,of_decide_eq_true whom,stamp⟩
  · intro n mem seen whom
    exact most _ (List.mem_map.mpr ⟨n,List.mem_filter.mpr ⟨mem,by simp [seen,whom]⟩,rfl⟩)

theorem unique_lead (rows : Rows a s) {x y : Lead} (xmem : x ∈ s.leads) (ymem : y ∈ s.leads) (same : x.pk = y.pk) : x = y := by
  by_contra apart
  have : Std.Symm fun x y : Lead => x.pk ≠ y.pk := ⟨fun _ _ differ => differ.symm⟩
  exact rows.unique.forall xmem ymem apart same

theorem told_before (rows : Rows a s) {n : Notice} (mem : n ∈ s.notices) (seen : sees p n.writer) (whom : n.recipient = r)
    {x : Lead} (there : x ∈ s.leads) (concerned : a.concerns r x.listing) (clean : x.markedSpam = false)
    (before : x.createdAt ≤ n.createdAt) (fresh : n.createdAt - lifetime r < x.createdAt) : Counted s (sees p) r x.pk := by
  by_cases since : n.since < x.createdAt
  · have counted := (rows.counted n mem x there).mpr ⟨reports_iff.mpr ⟨whom ▸ concerned,clean,since⟩,before⟩
    exact ⟨n,mem,seen,whom,counted⟩
  · rcases rows.based n mem with floor | ⟨m,earlier,same,stamp,under⟩
    · rw [whom] at floor
      exact absurd (Int.lt_of_le_of_lt floor fresh) since
    · have forward := rows.forward n mem
      have atMost : x.createdAt ≤ m.createdAt := stamp ▸ Int.not_lt.mp since
      have still : m.createdAt - lifetime r < x.createdAt := by
        rw [stamp]
        exact Int.lt_trans (Int.sub_lt_sub_right forward _) fresh
      have shorter : (m.createdAt - x.createdAt).toNat < (n.createdAt - x.createdAt).toNat := by
        rw [stamp] at atMost ⊢
        have bound : (0 : Int) < n.createdAt - x.createdAt := Int.sub_pos_of_lt (Int.lt_of_le_of_lt atMost forward)
        exact (Int.toNat_lt_toNat bound).mpr (Int.sub_lt_sub_right forward _)
      exact told_before rows earlier (sees_under under seen) (same.trans whom) there concerned clean atMost still
termination_by (n.createdAt - x.createdAt).toNat

theorem grows_refl (visible : Option Nat → Bool) (s : Desk) : Grows visible visible s s where
  leads x mem seen := ⟨x.writer,x.stamp,seen,mem⟩
  notices n mem seen := ⟨n.writer,n.stamp,seen,mem⟩

theorem counted_grows {visible visible' : Option Nat → Bool} (grows : Grows visible visible' s s')
    (counted : Counted s visible r pk) : Counted s' visible' r pk := by
  obtain ⟨n,mem,seen,whom,within⟩ := counted
  obtain ⟨w,_,still,there⟩ := grows.notices n mem seen
  exact ⟨_,there,still,whom,within⟩

theorem leadsSince_grows (grows : Grows (sees p) (sees p) s s') (there : pk ∈ leadsSince a s p r since) :
    pk ∈ leadsSince a s' p r since := by
  obtain ⟨x,mem,seen,reported,same⟩ := mem_leadsSince.mp there
  obtain ⟨w,_,still,kept⟩ := grows.leads x mem seen
  exact mem_leadsSince.mpr ⟨_,kept,still,reported,same⟩

theorem owed_grows (grows : Grows (sees p) (sees p) s s') (owed : Owed a s p t) : Owed a s' p t := by
  intro r pks listed pk mem
  rcases owed r pks listed pk mem with counted | awaits
  · exact .inl (counted_grows grows counted)
  · refine .inr ?_
    unfold Awaits at awaits ⊢
    split at awaits
    · exact ⟨awaits.1,leadsSince_grows grows awaits.2⟩
    · exact awaits
    · exact awaits

theorem grows_insert (i : Inquiry) : Grows (sees q) (sees q) s (s.insert p i) where
  leads x mem seen := ⟨x.writer,x.stamp,seen,List.mem_append_left _ mem⟩
  notices n mem seen := ⟨n.writer,n.stamp,seen,mem⟩

theorem grows_enqueue (since : Time) (counted : List Nat) : Grows (sees q) (sees q) s (enqueue a s p now r since counted) where
  leads x mem seen := ⟨x.writer,x.stamp,seen,mem⟩
  notices n mem seen := ⟨n.writer,n.stamp,seen,List.mem_append_left _ mem⟩

theorem sees_settle {w : Option Nat} (seen : sees q w) : sees q (settle p w) := by
  unfold settle
  split
  · rfl
  · exact seen

theorem under_settle {w w' : Option Nat} (under : Under w w') : Under (settle p w) (settle p w') := by
  rcases under with rfl | rfl
  · exact .inl rfl
  · exact .inr rfl

theorem grows_commit : Grows (sees q) (sees q) s (s.commit p) where
  leads x mem seen := ⟨settle p x.writer,_,sees_settle seen,List.mem_map.mpr ⟨x,mem,rfl⟩⟩
  notices n mem seen := ⟨settle p n.writer,_,sees_settle seen,List.mem_map.mpr ⟨n,mem,rfl⟩⟩

theorem commits_seen : Grows (sees p) Option.isNone s (s.commit p) := by
  have commits : ∀ w, sees p w → (settle p w).isNone := by
    intro w seen
    rcases sees_iff.mp seen with rfl | rfl
    · rfl
    · simp [settle]
  constructor
  · intro x mem seen
    exact ⟨settle p x.writer,_,commits _ seen,List.mem_map.mpr ⟨x,mem,rfl⟩⟩
  · intro n mem seen
    exact ⟨settle p n.writer,_,commits _ seen,List.mem_map.mpr ⟨n,mem,rfl⟩⟩

theorem grows_abort (other : q ≠ p) : Grows (sees q) (sees q) s (s.abort p) := by
  have kept : ∀ w, sees q w → w ≠ some p := by
    intro w seen
    rcases sees_iff.mp seen with rfl | rfl
    · exact nofun
    · exact fun same => other (Option.some.inj same)
  constructor
  · intro x mem seen
    exact ⟨x.writer,x.stamp,seen,List.mem_filter.mpr ⟨mem,decide_eq_true (kept _ seen)⟩⟩
  · intro n mem seen
    exact ⟨n.writer,n.stamp,seen,List.mem_filter.mpr ⟨mem,decide_eq_true (kept _ seen)⟩⟩

theorem rows_txns (rows : Rows a s) (txns : Nat → Option Txn) (nextTxn : Nat) : Rows a {s with txns := txns,nextTxn := nextTxn} :=
  ⟨rows.pks,rows.unique,rows.leadStamps,rows.noticeStamps,rows.ordered,rows.forward,rows.based,rows.counted,rows.written⟩

theorem rows_wait (rows : Rows a s) (time : Nat) : Rows a {s with clock := s.clock + time} := by
  have later : s.clock ≤ s.clock + time := Int.le_add_of_nonneg_right (Int.natCast_nonneg time)
  refine ⟨rows.pks,rows.unique,?_,?_,rows.ordered,rows.forward,rows.based,rows.counted,rows.written⟩
  · exact fun x mem => Int.le_trans (rows.leadStamps x mem) later
  · exact fun n mem => Int.le_trans (rows.noticeStamps n mem) later

theorem rows_insert (rows : Rows a s) (p : Nat) (i : Inquiry)
    (apart : i.spam = false → ∀ n ∈ s.notices, a.concerns n.recipient i.listing → n.createdAt < s.clock) : Rows a (s.insert p i) := by
  refine ⟨?_,?_,?_,rows.noticeStamps,rows.ordered,rows.forward,rows.based,?_,?_⟩
  · intro x mem
    rcases List.mem_append.mp mem with old | new
    · exact Nat.lt_succ_of_lt (rows.pks x old)
    · rw [List.mem_singleton.mp new]
      exact Nat.lt_succ_self _
  · refine List.pairwise_append.mpr ⟨rows.unique,List.pairwise_singleton ..,?_⟩
    intro x old y new
    rw [List.mem_singleton.mp new]
    exact Nat.ne_of_lt (rows.pks x old)
  · intro x mem
    rcases List.mem_append.mp mem with old | new
    · exact rows.leadStamps x old
    · rw [List.mem_singleton.mp new]
      exact Int.le_refl _
  · intro n nmem x mem
    rcases List.mem_append.mp mem with old | new
    · exact rows.counted n nmem x old
    · rw [List.mem_singleton.mp new]
      constructor
      · intro counted
        obtain ⟨y,there,same,_⟩ := rows.written n nmem _ counted
        exact absurd same (Nat.ne_of_lt (rows.pks y there))
      · intro ⟨reported,before⟩
        obtain ⟨concerned,clean,_⟩ := reports_iff.mp reported
        exact absurd before (Int.not_le.mpr (apart clean n nmem concerned))
  · intro n nmem pk counted
    obtain ⟨x,there,same,under⟩ := rows.written n nmem pk counted
    exact ⟨x,List.mem_append_left _ there,same,under⟩

theorem rows_commit (rows : Rows a s) (p : Nat) : Rows a (s.commit p) := by
  refine ⟨?_,?_,?_,?_,?_,?_,?_,?_,?_⟩
  · intro x mem
    obtain ⟨y,there,rfl⟩ := List.mem_map.mp mem
    exact rows.pks y there
  · exact List.pairwise_map.mpr rows.unique
  · intro x mem
    obtain ⟨y,there,rfl⟩ := List.mem_map.mp mem
    exact rows.leadStamps y there
  · intro n mem
    obtain ⟨m,there,rfl⟩ := List.mem_map.mp mem
    exact rows.noticeStamps m there
  · exact List.pairwise_map.mpr rows.ordered
  · intro n mem
    obtain ⟨m,there,rfl⟩ := List.mem_map.mp mem
    exact rows.forward m there
  · intro n mem
    obtain ⟨m,there,rfl⟩ := List.mem_map.mp mem
    rcases rows.based m there with floor | ⟨k,earlier,same,stamp,under⟩
    · exact .inl floor
    · exact .inr ⟨_,List.mem_map.mpr ⟨k,earlier,rfl⟩,same,stamp,under_settle under⟩
  · intro n mem x xmem
    obtain ⟨m,there,rfl⟩ := List.mem_map.mp mem
    obtain ⟨y,ythere,rfl⟩ := List.mem_map.mp xmem
    exact rows.counted m there y ythere
  · intro n mem pk counted
    obtain ⟨m,there,rfl⟩ := List.mem_map.mp mem
    obtain ⟨x,xthere,same,under⟩ := rows.written m there pk counted
    exact ⟨_,List.mem_map.mpr ⟨x,xthere,rfl⟩,same,under_settle under⟩

theorem under_kept {w w' : Option Nat} (under : Under w w') (kept : w' ≠ some p) : w ≠ some p := by
  rcases under with rfl | rfl
  · exact nofun
  · exact kept

theorem rows_abort (rows : Rows a s) (p : Nat) : Rows a (s.abort p) := by
  refine ⟨?_,rows.unique.filter _,?_,?_,rows.ordered.filter _,?_,?_,?_,?_⟩
  · exact fun x mem => rows.pks x (List.mem_of_mem_filter mem)
  · exact fun x mem => rows.leadStamps x (List.mem_of_mem_filter mem)
  · exact fun n mem => rows.noticeStamps n (List.mem_of_mem_filter mem)
  · exact fun n mem => rows.forward n (List.mem_of_mem_filter mem)
  · intro n mem
    obtain ⟨there,kept⟩ := List.mem_filter.mp mem
    rcases rows.based n there with floor | ⟨m,earlier,same,stamp,under⟩
    · exact .inl floor
    · have also_ := under_kept under (of_decide_eq_true kept)
      exact .inr ⟨m,List.mem_filter.mpr ⟨earlier,decide_eq_true also_⟩,same,stamp,under⟩
  · exact fun n mem x xmem => rows.counted n (List.mem_of_mem_filter mem) x (List.mem_of_mem_filter xmem)
  · intro n mem pk counted
    obtain ⟨there,kept⟩ := List.mem_filter.mp mem
    obtain ⟨x,xthere,same,under⟩ := rows.written n there pk counted
    have also_ := under_kept under (of_decide_eq_true kept)
    exact ⟨x,List.mem_filter.mpr ⟨xthere,decide_eq_true also_⟩,same,under⟩

theorem since_le_floor (none_ : last = none) (early : now ≤ s.clock) : sinceOf now r last ≤ s.clock - lifetime r := by
  rw [none_]
  exact Int.sub_le_sub_right early _

structure Current (a : Audience) (s : Desk) (p : Nat) (now : Time) (r : Recipient) (last : Option Time) (counted : List Nat) :
    Prop where
  same : s.lastNotice p r = last
  again : leadsSince a s p r (sinceOf now r last) = counted
  leads : ∀ x ∈ s.leads, a.concerns r x.listing → x.markedSpam = false → sees p x.writer
  notices : ∀ n ∈ s.notices, n.recipient = r → sees p n.writer

theorem rows_enqueue (rows : Rows a s) {last : Option Time} {counted : List Nat} (current : Current a s p now r last counted)
    (early : now ≤ s.clock) (some_ : counted ≠ []) : Rows a (enqueue a s p now r (sinceOf now r last) counted) := by
  obtain ⟨same,again,leads,notices⟩ := current
  have within : ∀ x ∈ s.leads, x.pk ∈ counted ↔ reports a r (sinceOf now r last) x ∧ x.createdAt ≤ s.clock := by
    intro x mem
    rw [← again,mem_leadsSince]
    constructor
    · intro ⟨y,there,_,reported,equal⟩
      obtain rfl := unique_lead rows there mem equal
      exact ⟨reported,rows.leadStamps y mem⟩
    · intro ⟨reported,_⟩
      obtain ⟨concerned,clean,_⟩ := reports_iff.mp reported
      exact ⟨x,mem,leads x mem concerned clean,reported,rfl⟩
  refine ⟨rows.pks,rows.unique,rows.leadStamps,?_,?_,?_,?_,?_,?_⟩
  · intro n mem
    rcases List.mem_append.mp mem with old | new
    · exact rows.noticeStamps n old
    · rw [List.mem_singleton.mp new]
      exact Int.le_refl _
  · refine List.pairwise_append.mpr ⟨rows.ordered,List.pairwise_singleton ..,?_⟩
    intro n old m new whom
    rw [List.mem_singleton.mp new] at whom ⊢
    cases known : s.lastNotice p r with
    | none => exact absurd whom (lastNotice_none known old (notices n old whom))
    | some stamp =>
        rw [known] at same
        rw [← same]
        exact (lastNotice_some known).2 n old (notices n old whom) whom
  · intro n mem
    rcases List.mem_append.mp mem with old | new
    · exact rows.forward n old
    · rw [List.mem_singleton.mp new]
      obtain ⟨pk,counts⟩ := List.exists_mem_of_ne_nil _ some_
      rw [← again] at counts
      obtain ⟨x,there,_,reported,_⟩ := mem_leadsSince.mp counts
      exact Int.lt_of_lt_of_le (reports_iff.mp reported).2.2 (rows.leadStamps x there)
  · intro n mem
    rcases List.mem_append.mp mem with old | new
    · rcases rows.based n old with floor | ⟨m,earlier,rest⟩
      · exact .inl floor
      · exact .inr ⟨m,List.mem_append_left _ earlier,rest⟩
    · rw [List.mem_singleton.mp new]
      cases known : s.lastNotice p r with
      | none => exact .inl (since_le_floor (same.symm.trans known) early)
      | some stamp =>
          obtain ⟨m,there,seen,whom,stamped⟩ := (lastNotice_some known).1
          rw [known] at same
          rw [← same]
          exact .inr ⟨m,List.mem_append_left _ there,whom,stamped,sees_iff.mp seen⟩
  · intro n mem x xmem
    rcases List.mem_append.mp mem with old | new
    · exact rows.counted n old x xmem
    · rw [List.mem_singleton.mp new]
      exact within x xmem
  · intro n mem pk counts
    rcases List.mem_append.mp mem with old | new
    · exact rows.written n old pk counts
    · rw [List.mem_singleton.mp new] at counts ⊢
      rw [← again] at counts
      obtain ⟨x,there,seen,_,equal⟩ := mem_leadsSince.mp counts
      exact ⟨x,there,equal,sees_iff.mp seen⟩

end rows

section reads
variable {a : Audience} {s s' : Desk} {p q : Nat} {t : Txn} {r : Recipient}

def knownNotices (s : Desk) (p number : Nat) : List Notice := s.notices.filter fun n => knew p number n.writer n.stamp

def knownLeads (s : Desk) (p number : Nat) : List Lead := s.leads.filter fun x => knew p number x.writer x.stamp

def Phase.asks : Phase → Option (Recipient × Option Time)
  | .counting r last _ _ => some (r,last)
  | .enqueueing r last _ _ _ => some (r,last)
  | _ => none

def Phase.tallies : Phase → Option (Recipient × Option Time × List Nat)
  | .enqueueing r last counted _ _ => some (r,last,counted)
  | _ => none

structure Reads (a : Audience) (s : Desk) : Prop where
  leads : ∀ x ∈ s.leads, x.writer = none → x.stamp ≤ s.commits
  notices : ∀ n ∈ s.notices, n.writer = none → n.stamp ≤ s.commits
  asked : ∀ p, s.asked p ≤ s.commits
  tallied : ∀ p, s.tallied p ≤ s.commits
  last : ∀ p t, s.txns p = some t → ∀ x ∈ t.phase.asks,
    (((knownNotices s p (s.asked p)).filter (·.recipient = x.1)).map (·.createdAt)).max? = x.2
  counted : ∀ p t, s.txns p = some t → ∀ x ∈ t.phase.tallies,
    ((knownLeads s p (s.tallied p)).filter (reports a x.1 (sinceOf t.now x.1 x.2.1))).map (·.pk) = x.2.2

structure Apart (q : Nat) (s s' : Desk) : Prop where
  txns : ∀ p ≠ q, s'.txns p = s.txns p ∧ s'.asked p = s.asked p ∧ s'.tallied p = s.tallied p
  commits : s.commits ≤ s'.commits
  leads : ∀ p ≠ q, ∀ number ≤ s.commits, knownLeads s' p number = knownLeads s p number
  notices : ∀ p ≠ q, ∀ number ≤ s.commits, knownNotices s' p number = knownNotices s p number

theorem Reads.apart (reads : Reads a s) (apart : Apart q s s') (leads : ∀ x ∈ s'.leads, x.writer = none → x.stamp ≤ s'.commits)
    (notices : ∀ n ∈ s'.notices, n.writer = none → n.stamp ≤ s'.commits) (asked : s'.asked q ≤ s'.commits)
    (tallied : s'.tallied q ≤ s'.commits)
    (last : ∀ t, s'.txns q = some t → ∀ x ∈ t.phase.asks,
      (((knownNotices s' q (s'.asked q)).filter (·.recipient = x.1)).map (·.createdAt)).max? = x.2)
    (counted : ∀ t, s'.txns q = some t → ∀ x ∈ t.phase.tallies,
      ((knownLeads s' q (s'.tallied q)).filter (reports a x.1 (sinceOf t.now x.1 x.2.1))).map (·.pk) = x.2.2) : Reads a s' := by
  refine ⟨leads,notices,?_,?_,?_,?_⟩
  · intro p
    by_cases mine : p = q
    · exact mine ▸ asked
    · exact (apart.txns p mine).2.1 ▸ Nat.le_trans (reads.asked p) apart.commits
  · intro p
    by_cases mine : p = q
    · exact mine ▸ tallied
    · exact (apart.txns p mine).2.2 ▸ Nat.le_trans (reads.tallied p) apart.commits
  · intro p t known x asks
    by_cases mine : p = q
    · subst mine
      exact last t known x asks
    · obtain ⟨same,stamp,_⟩ := apart.txns p mine
      rw [stamp,apart.notices p mine _ (reads.asked p)]
      exact reads.last p t (same.symm.trans known) x asks
  · intro p t known x tallies
    by_cases mine : p = q
    · subst mine
      exact counted t known x tallies
    · obtain ⟨same,_,stamp⟩ := apart.txns p mine
      rw [stamp,apart.leads p mine _ (reads.tallied p)]
      exact reads.counted p t (same.symm.trans known) x tallies

theorem set_self (s : Desk) (p : Nat) (t : Option Txn) : (s.set p t).txns p = t := if_pos rfl

theorem set_other (t : Option Txn) (other : q ≠ p) : (s.set p t).txns q = s.txns q := if_neg other

theorem knew_mine {writer : Option Nat} {number stamp : Nat} (known : knew p number writer stamp) (wrote : writer = some q) : q = p := by
  unfold knew at known
  subst wrote
  simpa using known

theorem knew_now {writer : Option Nat} {number stamp : Nat} (bound : writer = none → stamp ≤ number) :
    knew p number writer stamp = sees p writer := by
  unfold knew sees
  cases writer with
  | none => simp [bound rfl]
  | some q => simp

theorem lastNotice_now (reads : Reads a s) : s.lastNotice p r =
    (((knownNotices s p s.commits).filter (·.recipient = r)).map (·.createdAt)).max? := by
  unfold Desk.lastNotice knownNotices
  rw [List.filter_filter]
  refine congrArg (fun notices : List Notice => (notices.map (·.createdAt)).max?) (List.filter_congr fun n mem => ?_)
  rw [knew_now (reads.notices n mem),Bool.and_comm]

theorem leadsSince_now (reads : Reads a s) {since : Time} : leadsSince a s p r since =
    ((knownLeads s p s.commits).filter (reports a r since)).map (·.pk) := by
  unfold Desk.leadsSince knownLeads
  rw [List.filter_filter]
  refine congrArg (List.map _) (List.filter_congr fun x mem => ?_)
  rw [knew_now (reads.leads x mem),Bool.and_comm]

theorem stands_current (reads : Reads a s) (known : s.txns p = some ⟨now,lock,.enqueueing r last counted rest left,owed⟩)
    (stands : Stands a s p r counted) : Current a s p now r last counted := by
  have shown : ∀ number writer stamp, knew p number writer stamp → sees p writer := by
    intro number writer stamp known
    cases writer with
    | none => rfl
    | some q => exact decide_eq_true (knew_mine known rfl)
  refine ⟨?_,?_,fun x mem concerned clean => shown _ _ _ (stands.leads x mem concerned clean),
    fun n mem whom => shown _ _ _ (stands.notices n mem whom)⟩
  · refine Eq.trans ?_ (reads.last p _ known (r,last) rfl)
    unfold Desk.lastNotice knownNotices
    rw [List.filter_filter]
    refine congrArg (fun notices : List Notice => (notices.map (·.createdAt)).max?) (List.filter_congr fun n mem => ?_)
    by_cases whom : n.recipient = r
    · have told := stands.notices n mem whom
      rw [told,shown _ _ _ told,Bool.and_comm]
    · simp [whom]
  · refine Eq.trans ?_ (reads.counted p _ known (r,last,counted) rfl)
    unfold Desk.leadsSince knownLeads
    rw [List.filter_filter]
    refine congrArg (List.map _) (List.filter_congr fun x mem => ?_)
    cases reported : reports a r (sinceOf now r last) x with
    | false => rw [Bool.and_false,Bool.false_and]
    | true =>
        obtain ⟨concerned,clean,_⟩ := reports_iff.mp reported
        have told := stands.leads x mem concerned clean
        rw [told,shown _ _ _ told]

theorem Reads.goes (reads : Reads a s) (asked tallied : Nat) (askedThen : asked ≤ s.commits) (talliedThen : tallied ≤ s.commits)
    (last : ∀ x ∈ t.phase.asks, (((knownNotices s p asked).filter (·.recipient = x.1)).map (·.createdAt)).max? = x.2)
    (counted : ∀ x ∈ t.phase.tallies, ((knownLeads s p tallied).filter (reports a x.1 (sinceOf t.now x.1 x.2.1))).map (·.pk) = x.2.2) :
    Reads a {s.set p (some t) with
      asked := fun q => if q = p then asked else s.asked q
      tallied := fun q => if q = p then tallied else s.tallied q} := by
  refine reads.apart (q := p) ⟨fun q other => ⟨set_other _ other,if_neg other,if_neg other⟩,Nat.le_refl _,fun _ _ _ _ => rfl,
    fun _ _ _ _ => rfl⟩ reads.leads reads.notices ?_ ?_ ?_ ?_
  · exact Nat.le_trans (Nat.le_of_eq (if_pos rfl)) askedThen
  · exact Nat.le_trans (Nat.le_of_eq (if_pos rfl)) talliedThen
  · intro u known x asks
    cases (set_self ..).symm.trans known
    dsimp only
    rw [if_pos rfl]
    exact last x asks
  · intro u known x tallies
    cases (set_self ..).symm.trans known
    dsimp only
    rw [if_pos rfl]
    exact counted x tallies

theorem same_stamp (stamps : Nat → Nat) (p : Nat) : (fun q => if q = p then stamps p else stamps q) = stamps := by
  funext q
  split
  · next same => rw [same]
  · rfl

theorem Reads.set (reads : Reads a s) (asks : t.phase.asks = none) (tallies : t.phase.tallies = none) : Reads a (s.set p (some t)) := by
  have moved := reads.goes (p := p) (t := t) (s.asked p) (s.tallied p) (reads.asked p) (reads.tallied p)
  rw [asks,tallies,same_stamp,same_stamp] at moved
  exact moved (fun _ absurd => (Option.not_mem_none _ absurd).elim) (fun _ absurd => (Option.not_mem_none _ absurd).elim)

theorem Reads.left (reads : Reads a s) (apart : Apart p s s') (leads : ∀ x ∈ s'.leads, x.writer = none → x.stamp ≤ s'.commits)
    (notices : ∀ n ∈ s'.notices, n.writer = none → n.stamp ≤ s'.commits) (asked : s'.asked p = s.asked p)
    (tallied : s'.tallied p = s.tallied p) (idle : ∀ t, s'.txns p = some t → t.phase.asks = none ∧ t.phase.tallies = none) : Reads a s' := by
  refine reads.apart apart leads notices ?_ ?_ ?_ ?_
  · exact asked ▸ Nat.le_trans (reads.asked p) apart.commits
  · exact tallied ▸ Nat.le_trans (reads.tallied p) apart.commits
  · intro t known x asks
    rw [(idle t known).1] at asks
    cases asks
  · intro t known x tallies
    rw [(idle t known).2] at tallies
    cases tallies

theorem filter_unknown {α : Type} {xs : List α} {known : α → Bool} {x : α} (unknown : known x = false) :
    (xs ++ [x]).filter known = xs.filter known := by
  rw [List.filter_append,List.filter_cons_of_neg (by rw [unknown]; exact Bool.false_ne_true),List.filter_nil,List.append_nil]

theorem unknown_other {number stamp : Nat} (other : q ≠ p) : knew q number (some p) stamp = false :=
  Bool.eq_false_iff.mpr fun known => other (knew_mine known rfl).symm

theorem reads_insert {i : Inquiry} (reads : Reads a s) (asks : t.phase.asks = none) (tallies : t.phase.tallies = none) :
    Reads a ((s.insert p i).set p (some t)) := by
  refine reads.left (p := p) ⟨fun q other => ⟨set_other _ other,rfl,rfl⟩,Nat.le_refl _,?_,fun _ _ _ _ => rfl⟩ ?_ reads.notices rfl rfl ?_
  · exact fun q other number _ => filter_unknown (unknown_other other)
  · intro x mem none_
    rcases List.mem_append.mp mem with old | new
    · exact reads.leads x old none_
    · rw [List.mem_singleton.mp new] at none_
      cases none_
  · intro u known
    cases (set_self ..).symm.trans known
    exact ⟨asks,tallies⟩

theorem reads_enqueue (reads : Reads a s) (asks : t.phase.asks = none) (tallies : t.phase.tallies = none) :
    Reads a ((enqueue a s p now r since counted).set p (some t)) := by
  refine reads.left (p := p) ⟨fun q other => ⟨set_other _ other,rfl,rfl⟩,Nat.le_refl _,fun _ _ _ _ => rfl,?_⟩ reads.leads ?_ rfl rfl ?_
  · exact fun q other number _ => filter_unknown (unknown_other other)
  · intro n mem none_
    rcases List.mem_append.mp mem with old | new
    · exact reads.notices n old none_
    · rw [List.mem_singleton.mp new] at none_
      cases none_
  · intro u known
    cases (set_self ..).symm.trans known
    exact ⟨asks,tallies⟩

theorem known_settle {number stamp commits : Nat} {writer : Option Nat} (other : q ≠ p) (early : number ≤ commits) :
    knew q number (settle p writer) (stampOf p (commits + 1) writer stamp) = knew q number writer stamp := by
  unfold settle stampOf
  split
  · next mine =>
      rw [mine,unknown_other other]
      exact Bool.eq_false_iff.mpr fun known => absurd (Nat.le_trans (by simpa [knew] using known) early) (Nat.not_succ_le_self _)
  · rfl

theorem reads_commit (reads : Reads a s) (p : Nat) : Reads a (s.commit p) := by
  have bound : ∀ (writer : Option Nat) stamp, (writer = none → stamp ≤ s.commits) → settle p writer = none →
      stampOf p (s.commits + 1) writer stamp ≤ s.commits + 1 := by
    intro writer stamp before none_
    unfold settle at none_
    unfold stampOf
    split
    · exact Nat.le_refl _
    · next other =>
        rw [if_neg other] at none_
        exact Nat.le_succ_of_le (before none_)
  have fixed : ∀ {q number : Nat} {writer : Option Nat} {stamp : Nat}, q ≠ p → knew q number writer stamp = true →
      settle p writer = writer ∧ stampOf p (s.commits + 1) writer stamp = stamp := by
    intro q number writer stamp other known
    have apart : writer ≠ some p := fun mine => other (knew_mine known mine).symm
    exact ⟨if_neg apart,if_neg apart⟩
  refine reads.left (p := p) ⟨fun q other => ⟨set_other _ other,rfl,rfl⟩,Nat.le_succ _,?_,?_⟩ ?_ ?_ rfl rfl ?_
  · intro q other number early
    refine Lists.filter_map_fixed (fun x _ => known_settle other early) fun x _ known => ?_
    obtain ⟨writer,stamp⟩ := fixed other known
    rw [writer,stamp]
  · intro q other number early
    refine Lists.filter_map_fixed (fun n _ => known_settle other early) fun n _ known => ?_
    obtain ⟨writer,stamp⟩ := fixed other known
    rw [writer,stamp]
  · intro x mem
    obtain ⟨y,there,rfl⟩ := List.mem_map.mp mem
    exact bound y.writer y.stamp (reads.leads y there)
  · intro n mem
    obtain ⟨m,there,rfl⟩ := List.mem_map.mp mem
    exact bound m.writer m.stamp (reads.notices m there)
  · intro t known
    cases (set_self ..).symm.trans known

theorem reads_abort (reads : Reads a s) (p : Nat) : Reads a (s.abort p) := by
  refine reads.left (p := p) ⟨fun q other => ⟨set_other _ other,rfl,rfl⟩,Nat.le_refl _,?_,?_⟩ ?_ ?_ rfl rfl ?_
  · exact fun q other number _ => Lists.filter_filter_out fun x _ known => decide_eq_true fun mine => other (knew_mine known mine).symm
  · exact fun q other number _ => Lists.filter_filter_out fun n _ known => decide_eq_true fun mine => other (knew_mine known mine).symm
  · exact fun x mem => reads.leads x (List.mem_of_mem_filter mem)
  · exact fun n mem => reads.notices n (List.mem_of_mem_filter mem)
  · intro t known
    cases (set_self ..).symm.trans known

theorem reads_telling {rest : List Recipient} {left : Option Nat} (reads : Reads a s) :
    Reads a (advance a s p ⟨now,lock,.telling rest left,owed⟩) := by
  cases rest with
  | nil => cases left <;> exact reads.set rfl rfl
  | cons r rest =>
      unfold advance
      dsimp only
      split
      · exact reads.set rfl rfl
      · split
        · exact reads.set rfl rfl
        · have moved := reads.goes (p := p) (t := ⟨now,lock,.counting r (s.lastNotice p r) rest left,
            (r,leadsSince a s p r (now - lifetime r)) :: owed⟩) s.commits (s.tallied p) (Nat.le_refl _) (reads.tallied p)
          rw [same_stamp] at moved
          refine moved ?_ (fun _ absurd => (Option.not_mem_none _ absurd).elim)
          rintro _ ⟨⟩
          exact (lastNotice_now reads).symm

theorem reads_counting {last : Option Time} {rest : List Recipient} {left : Option Nat} (reads : Reads a s)
    (known : s.txns p = some ⟨now,lock,.counting r last rest left,owed⟩) :
    Reads a (advance a s p ⟨now,lock,.counting r last rest left,owed⟩) := by
  have moved := fun after => reads.goes (p := p) (t := after) (s.asked p) s.commits (reads.asked p) (Nat.le_refl _)
  rw [same_stamp] at moved
  unfold advance
  dsimp only
  refine moved _ ?_ ?_
  · dsimp only
    split
    · exact fun _ absurd => (Option.not_mem_none _ absurd).elim
    · exact reads.last p _ known
  · dsimp only
    split
    · exact fun _ absurd => (Option.not_mem_none _ absurd).elim
    · rintro _ ⟨⟩
      exact (leadsSince_now reads).symm

theorem reads_next (reads : Reads a s) (known : s.txns p = some t) : Reads a (advance a s p t) := by
  obtain ⟨now,lock,phase,owed⟩ := t
  cases phase with
  | inserting i =>
      unfold advance
      dsimp only
      split
      · exact reads.set rfl rfl
      · split <;> exact reads_insert reads rfl rfl
  | listing limit => exact reads.set rfl rfl
  | telling rest left => exact reads_telling reads
  | counting r last rest left => exact reads_counting reads known
  | enqueueing r last counted rest left =>
      unfold advance
      dsimp only
      split
      · exact reads_enqueue reads rfl rfl
      · exact reads_abort reads p
  | staffing =>
      unfold advance
      dsimp only
      split <;> exact reads.set rfl rfl
  | finished => exact reads

theorem reads_begin (reads : Reads a s) (asks : t.phase.asks = none) (tallies : t.phase.tallies = none) : Reads a (s.begin t) := by
  have set := reads.set (p := s.nextTxn) asks tallies
  exact ⟨set.leads,set.notices,set.asked,set.tallied,set.last,set.counted⟩

theorem step_reads (reads : Reads a s) (action : Action) : Reads a (step a s action) := by
  cases action with
  | wait time => exact ⟨reads.leads,reads.notices,reads.asked,reads.tallied,reads.last,reads.counted⟩
  | createLead i =>
      unfold step
      dsimp only
      split
      · exact reads
      · exact reads_begin reads rfl rfl
  | flush now limit =>
      unfold step
      dsimp only
      split
      · exact reads_begin reads rfl rfl
      · exact reads
  | next p =>
      unfold step
      dsimp only
      split
      next t known => exact reads_next reads known
      next => exact reads
  | commit p =>
      unfold step
      dsimp only
      split
      · exact reads_commit reads p
      · exact reads
  | abort p => exact reads_abort reads p

end reads

section steps
variable {a : Audience} {s s' : Desk} {p : Nat} {t t' : Txn} {now : Time} {lock : Option ListingId} {owed : List (Recipient × List Nat)}

theorem sound_grows (sound : Sound a s p t) (grows : Grows (sees p) (sees p) s s') (later : s.clock ≤ s'.clock) : Sound a s' p t :=
  ⟨Int.le_trans sound.now later,sound.counts,owed_grows grows sound.owed⟩

theorem sound_txns (sound : Sound a s p t) (txns : Nat → Option Txn) (nextTxn : Nat) :
    Sound a {s with txns := txns,nextTxn := nextTxn} p t := sound_grows sound ⟨(grows_refl _ s).leads,(grows_refl _ s).notices⟩ (Int.le_refl _)

theorem valid_set {after : Option Txn} (valid : Valid a s) (rows : Rows a s') (same : s'.txns = s.txns) (later : s.clock ≤ s'.clock)
    (grows : ∀ q, q ≠ p → Grows (sees q) (sees q) s s') (new : ∀ t, after = some t → Sound a s' p t) : Valid a (s'.set p after) := by
  refine ⟨rows_txns rows _ _,?_⟩
  intro q t known
  refine sound_txns ?_ _ _
  by_cases this : q = p
  · exact this ▸ new t ((if_pos this).symm.trans known)
  · have known : s'.txns q = some t := (if_neg this).symm.trans known
    exact sound_grows (valid.txns q t (same ▸ known)) (grows q this) later

theorem valid_stamped (valid : Valid a s) (commits : Nat) (asked tallied : Nat → Nat) :
    Valid a {s with commits := commits,asked := asked,tallied := tallied} := by
  have rows := valid.rows
  refine ⟨⟨rows.pks,rows.unique,rows.leadStamps,rows.noticeStamps,rows.ordered,rows.forward,rows.based,rows.counted,rows.written⟩,?_⟩
  exact fun p t known => sound_grows (valid.txns p t known) ⟨(grows_refl _ s).leads,(grows_refl _ s).notices⟩ (Int.le_refl _)

theorem valid_wait (valid : Valid a s) (time : Nat) : Valid a {s with clock := s.clock + time} where
  rows := rows_wait valid.rows time
  txns p t known := sound_grows (valid.txns p t known) ⟨(grows_refl _ s).leads,(grows_refl _ s).notices⟩
    (Int.le_add_of_nonneg_right (Int.natCast_nonneg time))

theorem valid_begin (valid : Valid a s) (early : t.now ≤ s.clock) (idle : Counts t.phase) (new : t.owed = []) :
    Valid a (s.begin t) := by
  have nothing : Owed a s s.nextTxn t := by
    intro r pks listed
    rw [new] at listed
    exact nomatch listed
  have set : Valid a (s.set s.nextTxn (some t)) := valid_set valid valid.rows rfl (Int.le_refl _) (fun q _ => grows_refl (sees q) s)
    (fun _ equal => Option.some.inj equal ▸ ⟨early,idle,nothing⟩)
  exact ⟨rows_txns valid.rows _ _,fun q u known => sound_txns (set.txns q u known) _ _⟩

theorem valid_commit (valid : Valid a s) (p : Nat) : Valid a (s.commit p) :=
  valid_set valid (rows_txns (rows_commit valid.rows p) s.txns s.nextTxn) rfl (Int.le_refl _)
    (fun _ _ => ⟨grows_commit.leads,grows_commit.notices⟩) (by simp)

theorem valid_abort (valid : Valid a s) (p : Nat) : Valid a (s.abort p) :=
  valid_set valid (rows_txns (rows_abort valid.rows p) s.txns s.nextTxn) rfl (Int.le_refl _)
    (fun _ other => ⟨(grows_abort other).leads,(grows_abort other).notices⟩) (by simp)

-- A transaction between two recipients has had everything counted that it owes.
theorem owed_idle (before : Owed a s p t) (idle : ∀ r pk, ¬Awaits a s p t r pk) (grows : Grows (sees p) (sees p) s s')
    (same : t'.owed = t.owed) : Owed a s' p t' := by
  intro r pks listed pk mem
  rcases before r pks (same ▸ listed) pk mem with counted | awaits
  · exact .inl (counted_grows grows counted)
  · exact absurd awaits (idle r pk)

theorem valid_idle (valid : Valid a s) (known : s.txns p = some t) (idle : ∀ r pk, ¬Awaits a s p t r pk)
    (now : t'.now = t.now) (same : t'.owed = t.owed) (counts : Counts t'.phase) : Valid a (s.set p (some t')) := by
  refine valid_set valid valid.rows rfl (Int.le_refl _) (fun q _ => grows_refl (sees q) s) ?_
  intro _ equal
  obtain rfl := Option.some.inj equal
  obtain ⟨early,_,before⟩ := valid.txns p t known
  exact ⟨now ▸ early,counts,owed_idle before idle (grows_refl (sees p) s) same⟩

theorem valid_inserting {i : Inquiry} (valid : Valid a s) (known : s.txns p = some ⟨now,lock,.inserting i,owed⟩)
    (apart : i.spam = false → ∀ n ∈ s.notices, a.concerns n.recipient i.listing → n.createdAt < s.clock) :
    Valid a (advance a s p ⟨now,lock,.inserting i,owed⟩) := by
  obtain ⟨early,_,before⟩ := valid.txns p _ known
  unfold advance
  dsimp only
  split
  · exact valid_idle valid known (fun _ _ => id) rfl rfl trivial
  · refine valid_set valid (rows_insert valid.rows p i apart) rfl (Int.le_refl _) (fun _ _ => grows_insert i) ?_
    intro _ equal
    obtain rfl := Option.some.inj equal
    refine ⟨early,?_,owed_idle before (fun _ _ => id) (grows_insert i) rfl⟩
    dsimp only
    split <;> trivial

theorem owed_telling {r : Recipient} {rest : List Recipient} {left : Option Nat} (valid : Valid a s)
    (known : s.txns p = some ⟨now,lock,.telling (r :: rest) left,owed⟩)
    (out : (s.lastNotice p r).any (now - NOTICE_THROTTLE < ·) = false) :
    Owed a s p ⟨now,lock,.counting r (s.lastNotice p r) rest left,(r,leadsSince a s p r (now - lifetime r)) :: owed⟩ := by
  intro of pks listed pk mem
  rcases List.mem_cons.mp listed with head | tail
  · obtain ⟨rfl,rfl⟩ := Prod.mk.inj head
    obtain ⟨x,there,seen,reported,rfl⟩ := mem_leadsSince.mp mem
    obtain ⟨concerned,clean,fresh⟩ := reports_iff.mp reported
    by_cases after : sinceOf now of (s.lastNotice p of) < x.createdAt
    · exact .inr ⟨rfl,mem_leadsSince.mpr ⟨x,there,seen,reports_iff.mpr ⟨concerned,clean,after⟩,rfl⟩⟩
    · cases last : s.lastNotice p of with
      | none =>
          rw [last] at after
          exact absurd fresh after
      | some stamp =>
          rw [last] at after out
          obtain ⟨n,nmem,nseen,whom,stamped⟩ := (lastNotice_some last).1
          have past : stamp ≤ now - NOTICE_THROTTLE := Int.not_lt.mp (of_decide_eq_false out)
          have early : stamp ≤ now := Int.le_trans past (Int.sub_le_self _ (by decide))
          have before : x.createdAt ≤ n.createdAt := stamped ▸ Int.not_lt.mp after
          have within : n.createdAt - lifetime of < x.createdAt :=
            Int.lt_of_le_of_lt (stamped ▸ Int.sub_le_sub_right early _) fresh
          exact .inl (told_before valid.rows nmem nseen whom there concerned clean before within)
  · rcases (valid.txns p _ known).owed of pks tail pk mem with counted | awaits
    · exact .inl counted
    · exact awaits.elim

theorem valid_telling {rest : List Recipient} {left : Option Nat} (valid : Valid a s)
    (known : s.txns p = some ⟨now,lock,.telling rest left,owed⟩) : Valid a (advance a s p ⟨now,lock,.telling rest left,owed⟩) := by
  cases rest with
  | nil => cases left with
    | none => exact valid_idle valid known (fun _ _ => id) rfl rfl trivial
    | some n => exact valid_idle valid known (fun _ _ => id) rfl rfl trivial
  | cons r rest =>
      unfold advance
      dsimp only
      split
      · exact valid_idle valid known (fun _ _ => id) rfl rfl trivial
      · split
        next => exact valid_idle valid known (fun _ _ => id) rfl rfl trivial
        next out =>
          refine valid_stamped (valid_set (p := p) valid valid.rows rfl (Int.le_refl _) (fun q _ => grows_refl (sees q) s) ?_)
            s.commits _ s.tallied
          intro _ equal
          obtain rfl := Option.some.inj equal
          exact ⟨(valid.txns p _ known).now,trivial,owed_telling valid known (Bool.eq_false_iff.mpr out)⟩

theorem valid_counting {r : Recipient} {last : Option Time} {rest : List Recipient} {left : Option Nat} (valid : Valid a s)
    (known : s.txns p = some ⟨now,lock,.counting r last rest left,owed⟩) :
    Valid a (advance a s p ⟨now,lock,.counting r last rest left,owed⟩) := by
  obtain ⟨early,_,before⟩ := valid.txns p _ known
  refine valid_stamped (valid_set (p := p) valid valid.rows rfl (Int.le_refl _) (fun q _ => grows_refl (sees q) s) ?_)
    s.commits s.asked _
  intro _ equal
  obtain rfl := Option.some.inj equal
  refine ⟨early,?_,?_⟩
  · dsimp only
    split
    · trivial
    · next some_ => exact fun none_ => some_ (List.isEmpty_iff.mpr none_)
  · intro of pks listed pk mem
    rcases before of pks listed pk mem with counted | ⟨rfl,awaits⟩
    · exact .inl counted
    · refine .inr ?_
      have some_ : (leadsSince a s p r (sinceOf now r last)).isEmpty = false := List.isEmpty_eq_false_iff_exists_mem.mpr ⟨pk,awaits⟩
      unfold Awaits
      dsimp only
      rw [some_]
      exact ⟨rfl,awaits⟩

theorem valid_enqueueing {r : Recipient} {last : Option Time} {counted : List Nat} {rest : List Recipient} {left : Option Nat}
    (valid : Valid a s) (known : s.txns p = some ⟨now,lock,.enqueueing r last counted rest left,owed⟩)
    (current : Current a s p now r last counted) (fits : fits a r counted) : Valid a (advance a s p ⟨now,lock,.enqueueing r last counted rest left,owed⟩) := by
  obtain ⟨early,some_,before⟩ := valid.txns p _ known
  unfold advance
  dsimp only
  rw [if_pos fits]
  refine valid_set valid (rows_enqueue valid.rows current early some_) rfl (Int.le_refl _) (fun _ _ => grows_enqueue _ _) ?_
  intro _ equal
  obtain rfl := Option.some.inj equal
  refine ⟨early,trivial,?_⟩
  intro of pks listed pk mem
  refine .inl ?_
  rcases before of pks listed pk mem with counts | ⟨rfl,within⟩
  · exact counted_grows (grows_enqueue _ _) counts
  · exact ⟨_,List.mem_append_right _ (List.mem_singleton_self _),sees_iff.mpr (.inr rfl),rfl,within⟩

theorem valid_next (valid : Valid a s) (reads : Reads a s) (known : s.txns p = some t) (alone : Alone a s (.next p)) :
    Valid a (advance a s p t) := by
  unfold Alone at alone
  dsimp only at alone
  rw [known] at alone
  obtain ⟨now,lock,phase,owed⟩ := t
  cases phase with
  | inserting i => exact valid_inserting valid known alone
  | listing limit => exact valid_idle valid known (fun _ _ => id) rfl rfl trivial
  | telling rest left => exact valid_telling valid known
  | counting r last rest left => exact valid_counting valid known
  | enqueueing r last counted rest left => exact valid_enqueueing valid known (stands_current reads known alone) alone.fits
  | staffing =>
      refine valid_idle valid known (fun _ _ => id) rfl rfl ?_
      dsimp only
      split <;> trivial
  | finished => exact valid

theorem step_valid (valid : Valid a s) (reads : Reads a s) (alone : Alone a s action) : Valid a (step a s action) := by
  cases action with
  | wait time => exact valid_wait valid time
  | createLead i =>
      unfold step
      dsimp only
      split
      · exact valid
      · exact valid_begin valid (Int.le_refl _) trivial rfl
  | flush now limit =>
      unfold step
      dsimp only
      split
      next early => exact valid_begin valid early trivial rfl
      next => exact valid
  | next p =>
      unfold step
      dsimp only
      split
      next t known => exact valid_next valid reads known alone
      next => exact valid
  | commit p =>
      unfold step
      dsimp only
      split
      · exact valid_commit valid p
      · exact valid
  | abort p => exact valid_abort valid p

end steps

section counting
variable {a : Audience} {s : Desk} {p : Nat} {t : Txn}

theorem counted_once (rows : Rows a s) (r : Recipient) (pk : Nat) :
    (s.notices.filter fun n => n.writer.isNone && n.recipient = r && n.counted.contains pk).length ≤ 1 := by
  refine Lists.filter_at_most_one (rows.ordered.imp_of_mem ?_)
  intro n m nmem mmem follows ⟨first,second⟩
  obtain ⟨⟨_,whom⟩,counts⟩ : (n.writer.isNone ∧ n.recipient = r) ∧ n.counted.contains pk := by simpa using first
  obtain ⟨⟨_,also_⟩,again⟩ : (m.writer.isNone ∧ m.recipient = r) ∧ m.counted.contains pk := by simpa using second
  obtain ⟨x,there,rfl,_⟩ := rows.written n nmem pk (List.contains_iff_mem.mp counts)
  have before := ((rows.counted n nmem x there).mp (List.contains_iff_mem.mp counts)).2
  have after := (reports_iff.mp ((rows.counted m mmem x there).mp (List.contains_iff_mem.mp again)).1).2.2
  exact absurd (Int.lt_of_le_of_lt (follows (whom.trans also_.symm)) after) (Int.not_lt.mpr before)

theorem commit_tells (valid : Valid a s) (known : s.txns p = some t) (done : t.phase = .finished) (listed : (r,pks) ∈ t.owed)
    (mem : pk ∈ pks) : Counted (s.commit p) Option.isNone r pk := by
  rcases (valid.txns p t known).owed r pks listed pk mem with counted | awaits
  · exact counted_grows commits_seen counted
  · unfold Awaits at awaits
    rw [done] at awaits
    exact awaits.elim

theorem next_passes (known : s.txns p = some t) (alone : Alone a s (.next p)) :
    ∃ t', (advance a s p t).txns p = some t' ∧ Passes t t' := by
  unfold Alone at alone
  dsimp only at alone
  rw [known] at alone
  obtain ⟨now,lock,phase,owed⟩ := t
  have same : ∀ e ∈ owed, e ∈ owed := fun _ there => there
  cases phase with
  | inserting i =>
      unfold advance
      dsimp only
      split <;> exact ⟨_,set_self ..,same,List.forall_mem_nil _⟩
  | listing limit => exact ⟨_,set_self ..,same,List.forall_mem_nil _⟩
  | telling rest left =>
      cases rest with
      | nil =>
          cases left with
          | none => exact ⟨_,set_self ..,same,List.forall_mem_nil _⟩
          | some n => exact ⟨_,set_self ..,same,rfl⟩
      | cons r rest =>
          unfold advance
          dsimp only
          split
          next limited => exact ⟨_,set_self ..,same,fun under => (under limited).elim⟩
          next =>
            split
            · exact ⟨_,set_self ..,same,fun _ _ there => there⟩
            · exact ⟨_,set_self ..,fun _ there => List.mem_cons_of_mem _ there,fun _ _ there => there⟩
  | counting r last rest left =>
      refine ⟨_,set_self ..,same,?_⟩
      dsimp only
      split <;> exact fun _ there => there
  | enqueueing r last counted rest left =>
      unfold advance
      dsimp only
      rw [if_pos alone.fits]
      exact ⟨_,set_self ..,same,fun _ there => there⟩
  | staffing => exact ⟨_,set_self ..,same,List.forall_mem_nil _⟩
  | finished => exact ⟨_,known,same,List.forall_mem_nil _⟩

theorem mem_recipients (there : address ∈ a.memberships) (some_ : address ≠ "") : address ∈ a.recipients := by
  have grown : ∀ (addresses found : List String), address ∈ addresses ∨ address ∈ found →
      address ∈ addresses.foldl (fun found address => if address ≠ "" && !found.contains address then found ++ [address] else found) found := by
    intro addresses
    induction addresses with
    | nil => exact fun found either => either.resolve_left List.not_mem_nil
    | cons head addresses ih =>
        intro found either
        refine ih _ ?_
        rcases either with listed | kept
        · rcases List.mem_cons.mp listed with rfl | later
          · refine .inr ?_
            dsimp only
            split
            · exact List.mem_append_right _ (List.mem_singleton_self _)
            · next out => simpa [some_] using out
          · exact .inl later
        · refine .inr ?_
          dsimp only
          split
          · exact List.mem_append_left _ kept
          · exact kept
  exact grown a.memberships [] (.inl there)

theorem tells_told (tells : Tells a l r) : r ∈ a.toldOf l := by
  unfold Audience.toldOf
  cases r with
  | owner address =>
      rw [tells.1]
      dsimp only
      rw [if_pos tells.2]
      exact List.mem_singleton_self _
  | staff address =>
      obtain ⟨blank,there,some_⟩ := tells
      have listed : Recipient.staff address ∈ a.recipients.map .staff := List.mem_map_of_mem (mem_recipients there some_)
      split
      · next owner owned =>
          rw [if_neg (not_not.mpr (blank owner owned))]
          exact listed
      · exact listed

theorem inquiry_asks (phase : t.phase = .inserting i) (clean : i.spam = false)
    (fresh : ∀ x ∈ s.leads, sees p x.writer → x.listing = i.listing → x.email = i.email → x.message = i.message →
      x.createdAt ≤ t.now - DUPLICATE_WINDOW) :
    ∃ rest, (∀ r, Tells a i.listing r → r ∈ rest) ∧ (advance a s p t).txns p = some {t with phase := .telling rest none} ∧
      ∃ x ∈ (advance a s p t).leads, x.writer = some p ∧ x.listing = i.listing ∧ x.email = i.email ∧ x.message = i.message ∧
        x.markedSpam = false ∧ x.createdAt = s.clock := by
  have new : s.duplicate p t.now i = false := by
    refine List.any_eq_false.mpr fun x there same => ?_
    simp only [Bool.and_eq_true,decide_eq_true_eq] at same
    obtain ⟨⟨⟨⟨seen,listing⟩,email⟩,message⟩,recent⟩ := same
    exact absurd recent (Int.not_lt.mpr (fresh x there seen listing email message))
  unfold advance
  rw [phase]
  dsimp only
  rw [if_neg (Bool.eq_false_iff.mp new),if_neg (Bool.eq_false_iff.mp clean)]
  refine ⟨a.toldOf i.listing,fun r tells => tells_told tells,set_self ..,_,
    List.mem_append_right _ (List.mem_singleton_self _),rfl,rfl,rfl,rfl,clean,rfl⟩

theorem pass_owes (phase : t.phase = .telling (r :: rest) left) (under : left ≠ some 0)
    (out : ∀ n ∈ s.notices, sees p n.writer → n.recipient = r → n.createdAt ≤ t.now - NOTICE_THROTTLE) :
    ∃ t' pks, (advance a s p t).txns p = some t' ∧ (r,pks) ∈ t'.owed ∧ ∀ x ∈ s.leads, sees p x.writer →
      a.concerns r x.listing → x.markedSpam = false → t.now - lifetime r < x.createdAt → x.pk ∈ pks := by
  have past : (s.lastNotice p r).any (t.now - NOTICE_THROTTLE < ·) = false := by
    cases last : s.lastNotice p r with
    | none => rfl
    | some stamp =>
        obtain ⟨n,there,seen,whom,stamped⟩ := (lastNotice_some last).1
        exact decide_eq_false (Int.not_lt.mpr (stamped ▸ out n there seen whom))
  unfold advance
  rw [phase]
  dsimp only
  rw [if_neg under,past]
  refine ⟨_,leadsSince a s p r (t.now - lifetime r),set_self ..,List.mem_cons_self ..,?_⟩
  intro x there seen concerned clean fresh
  exact mem_leadsSince.mpr ⟨x,there,seen,reports_iff.mpr ⟨concerned,clean,fresh⟩,rfl⟩

theorem flush_lists (phase : t.phase = .listing limit) (there : x ∈ s.leads) (seen : sees p x.writer)
    (clean : x.markedSpam = false) (fresh : t.now - OWNER_NOTICE_TTL < x.createdAt) (owned : a.owner x.listing = some address) :
    ∃ rest, .owner address ∈ rest ∧ (advance a s p t).txns p = some {t with phase := .telling rest (some limit)} := by
  unfold advance
  rw [phase]
  dsimp only
  refine ⟨_,?_,set_self ..⟩
  have concerned : reports a (.owner address) (t.now - OWNER_NOTICE_TTL) x :=
    reports_iff.mpr ⟨decide_eq_true owned,clean,fresh⟩
  have some_ : x.pk ∈ leadsSince a s p (.owner address) (t.now - OWNER_NOTICE_TTL) := mem_leadsSince.mpr ⟨x,there,seen,concerned,rfl⟩
  have kept : (leadsSince a s p (.owner address) (t.now - OWNER_NOTICE_TTL)).isEmpty = false :=
    List.isEmpty_eq_false_iff_exists_mem.mpr ⟨_,some_⟩
  exact List.mem_map.mpr ⟨address,List.mem_filter.mpr ⟨a.known _ _ owned,by rw [kept]; rfl⟩,rfl⟩

theorem flush_staffs (phase : t.phase = .staffing) (there : x ∈ s.leads) (seen : sees p x.writer)
    (clean : x.markedSpam = false) (fresh : t.now - OPERATOR_NOTICE_TTL < x.createdAt) (unclaimed : a.owner x.listing = none) :
    ∃ rest, (∀ address ∈ a.memberships, address ≠ "" → .staff address ∈ rest) ∧
      (advance a s p t).txns p = some {t with phase := .telling rest none} := by
  refine ⟨a.recipients.map .staff,fun address there some_ => List.mem_map_of_mem (mem_recipients there some_),?_⟩
  unfold advance
  rw [phase]
  dsimp only
  have found : (s.leads.any fun x => sees p x.writer && (a.owner x.listing).isNone && !x.markedSpam &&
      decide (t.now - OPERATOR_NOTICE_TTL < x.createdAt)) = true :=
    List.any_eq_true.mpr ⟨x,there,by simp [seen,clean,fresh,unclaimed]⟩
  rw [found]
  exact set_self ..

theorem step_next (known : s.txns p = some t) : step a s (.next p) = advance a s p t := by
  unfold step
  dsimp only
  rw [known]

theorem step_keeps (valid : Valid a s) (reads : Reads a s) (alone : Alone a s action) : Keeps a s action := by
  refine ⟨counted_once (step_valid valid reads alone).rows,?_,?_,?_,?_,?_,?_⟩
  · rintro p t i rfl known phase clean fresh
    rw [step_next known]
    exact inquiry_asks phase clean fresh
  · rintro p t r rest left rfl known phase under out
    rw [step_next known]
    exact pass_owes phase under out
  · rintro p t rfl known
    rw [step_next known]
    exact next_passes known alone
  · intro p t same known done r pks listed pk mem
    subst same
    have finished : (s.txns p).any (·.phase = .finished) := by
      rw [known]
      exact decide_eq_true done
    unfold step
    dsimp only
    rw [if_pos finished]
    exact commit_tells valid known done listed mem
  · intro p t limit same known phase x there seen clean fresh address owned
    subst same
    rw [step_next known]
    exact flush_lists phase there seen clean fresh owned
  · intro p t same known phase x there seen clean fresh unclaimed
    subst same
    rw [step_next known]
    exact flush_staffs phase there seen clean fresh unclaimed

structure Steady (a : Audience) (s : Desk) : Prop where
  valid : Valid a s
  reads : Reads a s

theorem start_steady (a : Audience) (clock : Time) : Steady a (start clock) := by
  have none_ : ∀ p t, (start clock).txns p = some t → False := fun _ _ known => Option.some_ne_none _ known.symm
  refine ⟨⟨⟨?_,.nil,?_,?_,.nil,?_,?_,?_,?_⟩,fun p t known => (none_ p t known).elim⟩,?_,?_,fun _ => Nat.le_refl _,
    fun _ => Nat.le_refl _,fun p t known => (none_ p t known).elim,fun p t known => (none_ p t known).elim⟩
  all_goals exact List.forall_mem_nil _

end counting

-- In every run of inquiries and flushes that do not get in each other's way each lead is
-- counted by exactly one notice to each recipient that is passed over out of their
-- throttle window while the lead is within the notice lifetime.
theorem leads_told_once (a : Audience) (clock : Time) (actions : List Action)
    (alone : Runs.Along (step a) (Alone a) (start clock) actions) : Runs.Along (step a) (Keeps a) (start clock) actions :=
  Runs.along_keeps (step a) (fun _ action steady alone => ⟨step_valid steady.valid steady.reads alone,step_reads steady.reads action⟩)
    (fun _ _ steady => step_keeps steady.valid steady.reads) (start_steady a clock) alone

def directory : Audience where
  name := "Directory"
  users := ["owner@example.org"]
  owner l := if l = "lst_1" ∨ l = "lst_2" then some "owner@example.org" else none
  memberships := ["editor@example.org"]
  known l address owned := by
    split at owned
    · exact Option.some.inj owned ▸ List.mem_cons_self ..
    · exact nomatch owned

def passOver (p : Nat) : List Action := [.next p,.wait 1,.next p,.next p,.wait 1]

def inquiry (l : ListingId) : Inquiry := ⟨l,"visitor@example.org","Are you open on Sundays?",false⟩

def oneAfterAnother : List Action :=
  ([.createLead (inquiry "lst_1"),.next 0] : List Action) ++ passOver 0 ++
    ([.next 0,.commit 0,.createLead (inquiry "lst_2"),.next 1,.next 1,.next 1,.commit 1] : List Action) ++
    ([.wait 1200000000,.flush 1200000000 LEAD_FLUSH_LIMIT,.next 2] : List Action) ++ passOver 2 ++ [.next 2,.next 2,.commit 2]

instance decidableStands (a : Audience) (s : Desk) (p : Nat) (r : Recipient) (counted : List Nat) : Decidable (Stands a s p r counted) :=
  decidable_of_iff ((∀ n ∈ s.notices, n.recipient = r → knew p (s.asked p) n.writer n.stamp) ∧
      (∀ x ∈ s.leads, a.concerns r x.listing → x.markedSpam = false → knew p (s.tallied p) x.writer x.stamp) ∧ fits a r counted)
    ⟨fun ⟨notices,leads,fits⟩ => ⟨notices,leads,fits⟩,fun stands => ⟨stands.notices,stands.leads,stands.fits⟩⟩

instance decidableAlone (a : Audience) (s : Desk) : (action : Action) → Decidable (Alone a s action)
  | .next p => match known : s.txns p with
      | some ⟨_,_,.inserting i,_⟩ => decidable_of_iff
          (i.spam = false → ∀ n ∈ s.notices, a.concerns n.recipient i.listing → n.createdAt < s.clock) (by simp only [Alone,known])
      | some ⟨_,_,.enqueueing r _ counted _ _,_⟩ => decidable_of_iff (Stands a s p r counted) (by simp only [Alone,known])
      | some ⟨_,_,.listing _,_⟩ | some ⟨_,_,.telling _ _,_⟩ | some ⟨_,_,.counting _ _ _ _,_⟩ | some ⟨_,_,.staffing,_⟩
      | some ⟨_,_,.finished,_⟩ | none => .isTrue (by simp only [Alone,known])
  | .wait _ | .createLead _ | .flush _ _ | .commit _ | .abort _ => .isTrue trivial

theorem leads_told_one_after_another : Runs.Along (step directory) (Keeps directory) (start 0) oneAfterAnother :=
  leads_told_once directory 0 oneAfterAnother (by decide +kernel)

-- An inquiry commits after a notice to the same owner that does not count it.
def overlapping : List Action :=
  ([.createLead (inquiry "lst_1"),.next 0,.wait 1,.createLead (inquiry "lst_2"),.next 1] : List Action) ++ passOver 1 ++
    ([.next 1,.commit 1,.next 0,.next 0,.commit 0] : List Action) ++
    ([.wait 1200000000,.flush 1200000000 LEAD_FLUSH_LIMIT,.next 2,.next 2,.next 2,.next 2,.next 2] : List Action)

theorem late_inquiry_lost : ¬Runs.Along (step directory) (Keeps directory) (start 0) (overlapping ++ [.commit 2]) := by
  intro all
  obtain ⟨_,keeps,_⟩ := (Runs.along_append ..).mp all
  have told := keeps.told 2 ⟨1200000000,none,.finished,[(.owner "owner@example.org",[0,1])]⟩ rfl (by decide +kernel) rfl
    (.owner "owner@example.org") [0,1] (List.mem_cons_self ..) 0 (List.mem_cons_self ..)
  revert told
  unfold Counted
  decide +kernel

end Osds.Directory.LeadNotices
