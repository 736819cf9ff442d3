import Osds.Audit.MailDrain
import Osds.Lib.Json
import Osds.Worker.SweepJobs

namespace Osds.Worker
open Directory Audit Sweeps

def minutes (n : Int) : Time := n * 60 * second
def hours (n : Int) : Time := n * 3600 * second
def days (n : Int) : Time := n * 86400 * second

def RETENTION : Time := days 90
def RETENTION_CHUNK : Nat := 1000
def RATE_LIMIT_KEEP : Time := hours 48
def ACCESS_LOG_KEEP : Time := days 730
def PRE_IMAGE_TTL : Time := days 90
def PRE_IMAGE_CHUNK : Nat := 500

section sweeps

structure MessageRow extends MailDrain.OutboundMessage where
  id : Nat
  createdAt : Time

def MessageRow.terminal (m : MessageRow) : Bool := m.status = .sent || m.status = .dead || m.status = .expired

def outboundAddresses : Sweep MessageRow Time where
  key := (·.id)
  due now m := m.createdAt < now - RETENTION && m.toAddress.isSome && m.terminal
  still m := m.toAddress.isSome && m.terminal
  blank _ m := some {m with toAddress := none}

structure CommandRow where
  id : Nat
  command : String
  receivedAt : Time
  payload : Option Json
  outcome : Option String
  problem : Option Json
  concludedAt : Option Time

def commandPayloads : Sweep CommandRow Time where
  key := (·.id)
  due now row := row.receivedAt < now - RETENTION && row.payload.isSome
  still row := row.payload.isSome
  blank _ row := some {row with payload := none}

structure AccessRow where
  id : Nat
  action : String
  resourceType : String
  resourceId : String
  occurredAt : Time

def accessLog : Sweep AccessRow Time where
  key := (·.id)
  due now row := row.occurredAt < now - ACCESS_LOG_KEEP
  still _ := true
  blank _ _ := none

structure CounterRow where
  id : Nat
  rule : String
  subject : String
  windowStart : Time
  hits : Nat

def rateLimitCounters : Sweep CounterRow Time where
  key := (·.id)
  due now row := row.windowStart < now - RATE_LIMIT_KEEP
  still _ := true
  blank _ _ := none

structure PreImageRow where
  id : Nat
  batchCompletedAt : Option Time
  preImage : Option Json
  preImageNulledAt : Option Time

def importPreImages : Sweep PreImageRow Time where
  key := (·.id)
  due now row := row.preImageNulledAt.isNone && row.batchCompletedAt.any (· < now - PRE_IMAGE_TTL)
  still _ := true
  blank now row := some {row with preImage := none,preImageNulledAt := some now}

theorem past_later {t now later keep : Time} (order : now ≤ later) (past : t < now - keep) : t < later - keep :=
  Int.lt_of_lt_of_le past (Int.sub_le_sub_right order _)

theorem outboundAddresses_settles : Settles outboundAddresses where
  later order due := by
    simp only [outboundAddresses,Bool.and_eq_true,decide_eq_true_eq] at due ⊢
    exact ⟨⟨past_later order due.1.1,due.1.2⟩,due.2⟩
  still due := by
    simp only [outboundAddresses,Bool.and_eq_true] at due ⊢
    exact ⟨due.1.2,due.2⟩
  settled blanked := by
    cases blanked
    simp [outboundAddresses]
  key blanked := by
    cases blanked
    rfl

theorem commandPayloads_settles : Settles commandPayloads where
  later order due := by
    simp only [commandPayloads,Bool.and_eq_true,decide_eq_true_eq] at due ⊢
    exact ⟨past_later order due.1,due.2⟩
  still due := by
    simp only [commandPayloads,Bool.and_eq_true] at due ⊢
    exact due.2
  settled blanked := by
    cases blanked
    simp [commandPayloads]
  key blanked := by
    cases blanked
    rfl

theorem accessLog_settles : Settles accessLog where
  later order due := by
    simp only [accessLog,decide_eq_true_eq] at due ⊢
    exact past_later order due
  still _ := rfl
  settled := nofun
  key := nofun

theorem rateLimitCounters_settles : Settles rateLimitCounters where
  later order due := by
    simp only [rateLimitCounters,decide_eq_true_eq] at due ⊢
    exact past_later order due
  still _ := rfl
  settled := nofun
  key := nofun

theorem importPreImages_settles : Settles importPreImages where
  later order due := by
    simp only [importPreImages,Bool.and_eq_true,Option.any_eq_true,decide_eq_true_eq] at due ⊢
    obtain ⟨fresh,completed,known,before⟩ := due
    exact ⟨fresh,completed,known,past_later order before⟩
  still _ := rfl
  settled blanked := by
    cases blanked
    simp [importPreImages]
  key blanked := by
    cases blanked
    rfl

end sweeps

structure Database (Rest : Type) where
  messages : Table outboundAddresses.key
  commands : Table commandPayloads.key
  accesses : Table accessLog.key
  counters : Table rateLimitCounters.key
  imported : Table importPreImages.key
  rest : Rest

-- A retention job of the registry.
structure RetentionSweep (World : Type) where
  Row : Type
  sweep : Sweep Row Time
  settles : Settles sweep
  place : Place World sweep.key
  name : String
  every : Time
  limit : Nat

def RetentionSweep.job (spec : RetentionSweep World) : TickJob World :=
  sweepJob spec.name spec.every spec.settles spec.limit spec.place

def TICK_PERIOD : Time := 60 * second
def REINDEX_EVERY : Time := 30 * second
def RETENTION_EVERY : Time := hours 24
def RATE_LIMIT_PRUNE_EVERY : Time := hours 1
def OWNER_AUTH_PRUNE_EVERY : Time := hours 1
def ENTITLEMENT_TRANSITIONS_EVERY : Time := minutes 5
def RENEWAL_NOTICES_EVERY : Time := hours 1

section registry

variable {Rest : Type}

def importSweep : RetentionSweep (Database Rest) where
  Row := PreImageRow
  sweep := importPreImages
  settles := importPreImages_settles
  place := ⟨(·.imported),fun world rows => {world with imported := rows},fun _ _ => rfl⟩
  name := "import_pre_image_retention"
  every := RETENTION_EVERY
  limit := PRE_IMAGE_CHUNK

def addressSweep : RetentionSweep (Database Rest) where
  Row := MessageRow
  sweep := outboundAddresses
  settles := outboundAddresses_settles
  place := ⟨(·.messages),fun world rows => {world with messages := rows},fun _ _ => rfl⟩
  name := "outbound_address_retention"
  every := RETENTION_EVERY
  limit := RETENTION_CHUNK

def commandSweep : RetentionSweep (Database Rest) where
  Row := CommandRow
  sweep := commandPayloads
  settles := commandPayloads_settles
  place := ⟨(·.commands),fun world rows => {world with commands := rows},fun _ _ => rfl⟩
  name := "command_payload_retention"
  every := RETENTION_EVERY
  limit := RETENTION_CHUNK

def accessSweep : RetentionSweep (Database Rest) where
  Row := AccessRow
  sweep := accessLog
  settles := accessLog_settles
  place := ⟨(·.accesses),fun world rows => {world with accesses := rows},fun _ _ => rfl⟩
  name := "access_log_retention"
  every := RETENTION_EVERY
  limit := RETENTION_CHUNK

def counterSweep : RetentionSweep (Database Rest) where
  Row := CounterRow
  sweep := rateLimitCounters
  settles := rateLimitCounters_settles
  place := ⟨(·.counters),fun world rows => {world with counters := rows},fun _ _ => rfl⟩
  name := "rate_limit_prune"
  every := RATE_LIMIT_PRUNE_EVERY
  limit := RETENTION_CHUNK

def retentionSweeps : List (RetentionSweep (Database Rest)) := [importSweep,addressSweep,commandSweep,accessSweep,counterSweep]

structure OtherJobs (World : Type) where
  heartbeat : Time → World → Outcome × World
  searchReindex : Time → World → Outcome × World
  sitemapRegeneration : Time → World → Outcome × World
  leadNoticeFlush : Time → World → Outcome × World
  claimNoticeFlush : Time → World → Outcome × World
  nullEventPayloads : Time → World → Outcome × World
  ownerAuthPrune : Time → World → Outcome × World
  entitlementTransitions : Time → World → Outcome × World
  renewalNotices : Time → World → Outcome × World

def OtherJobs.all (others : OtherJobs World) : List (Time → World → Outcome × World) :=
  [others.heartbeat,others.searchReindex,others.sitemapRegeneration,others.leadNoticeFlush,others.claimNoticeFlush,
    others.nullEventPayloads,others.ownerAuthPrune,others.entitlementTransitions,others.renewalNotices]

def tickJobs (others : OtherJobs (Database Rest)) : List (TickJob (Database Rest)) :=
  [⟨"heartbeat",others.heartbeat,TICK_PERIOD⟩,
    ⟨"search_reindex",others.searchReindex,REINDEX_EVERY⟩,
    ⟨"sitemaps",others.sitemapRegeneration,TICK_PERIOD⟩,
    ⟨"lead_notice_flush",others.leadNoticeFlush,TICK_PERIOD⟩,
    ⟨"claim_notice_flush",others.claimNoticeFlush,TICK_PERIOD⟩,
    importSweep.job,
    addressSweep.job,
    ⟨"event_payload_retention",others.nullEventPayloads,RETENTION_EVERY⟩,
    commandSweep.job,
    accessSweep.job,
    counterSweep.job,
    ⟨"owner_auth_prune",others.ownerAuthPrune,OWNER_AUTH_PRUNE_EVERY⟩,
    ⟨"entitlement_transitions",others.entitlementTransitions,ENTITLEMENT_TRANSITIONS_EVERY⟩,
    ⟨"entitlement_renewal_notices",others.renewalNotices,RENEWAL_NOTICES_EVERY⟩]

def registerAll (jobs : List (TickJob World)) (r : TickRegistry World) : Except RegisterError (TickRegistry World) :=
  jobs.foldlM (fun r job => r.register job.name job.fn job.every) r

def buildTickRegistry (others : OtherJobs (Database Rest)) : Except RegisterError (TickRegistry (Database Rest)) :=
  registerAll (tickJobs others) .empty

theorem registerAll_ok (jobs : List (TickJob World)) (r : TickRegistry World) (distinct : ((r.jobs ++ jobs).map (·.name)).Nodup)
    (positive : ∀ job ∈ jobs, 0 < job.every) : ∃ r', registerAll jobs r = .ok r' ∧ r'.jobs = r.jobs ++ jobs := by
  induction jobs generalizing r with
  | nil => exact ⟨r,rfl,(List.append_nil _).symm⟩
  | cons job rest ih =>
      have apart : job.name ∉ r.jobs.map (·.name) := by
        rw [List.map_append,List.map_cons] at distinct
        exact fun there => (List.nodup_append.mp distinct).2.2 _ there _ List.mem_cons_self rfl
      have regular : ¬job.every ≤ 0 := Int.not_le.mpr (positive job List.mem_cons_self)
      have added : ∃ r', r.register job.name job.fn job.every = .ok r' ∧ r'.jobs = r.jobs ++ [job] := by
        unfold TickRegistry.register
        rw [dif_neg apart,dif_neg regular]
        exact ⟨_,rfl,rfl⟩
      obtain ⟨r',registered,jobs⟩ := added
      obtain ⟨final,ok,all⟩ := ih r' (by simpa [jobs] using distinct) fun other there => positive other (List.mem_cons_of_mem _ there)
      refine ⟨final,?_,by simp [all,jobs]⟩
      unfold registerAll at ok ⊢
      rw [List.foldlM_cons,registered]
      exact ok

theorem buildTickRegistry_ok (others : OtherJobs (Database Rest)) :
    ∃ r, buildTickRegistry others = .ok r ∧ r.jobs = tickJobs others := by
  refine registerAll_ok (tickJobs others) .empty ?_ ?_
  · have names : (([] : List (TickJob (Database Rest))) ++ tickJobs others).map (·.name) = ["heartbeat","search_reindex","sitemaps",
        "lead_notice_flush","claim_notice_flush","import_pre_image_retention","outbound_address_retention",
        "event_payload_retention","command_payload_retention","access_log_retention","rate_limit_prune","owner_auth_prune",
        "entitlement_transitions","entitlement_renewal_notices"] := rfl
    exact names ▸ by decide
  · have daily : 0 < RETENTION_EVERY := by decide
    have hourly : 0 < RATE_LIMIT_PRUNE_EVERY := by decide
    simp only [tickJobs,List.forall_mem_cons]
    exact ⟨by decide,by decide,by decide,by decide,by decide,daily,daily,by decide,daily,daily,hourly,by decide,by decide,
      by decide,nofun⟩

def Calm (horizon : Time) (f : Database Rest → Database Rest) : Prop :=
  ∀ spec ∈ retentionSweeps, Quiet spec.place horizon f

theorem sweep_listed (others : OtherJobs (Database Rest)) (listed : spec ∈ retentionSweeps) : spec.job ∈ tickJobs others := by
  simp only [retentionSweeps,List.mem_cons,List.not_mem_nil,or_false] at listed
  rcases listed with rfl | rfl | rfl | rfl | rfl <;> simp [tickJobs]

theorem tickJobs_parted {others : OtherJobs (Database Rest)} (listed : job ∈ tickJobs others) :
    job.fn ∈ others.all ∨ ∃ spec ∈ retentionSweeps, job = spec.job := by
  simp only [tickJobs,List.mem_cons,List.not_mem_nil,or_false] at listed
  rcases listed with rfl | rfl | rfl | rfl | rfl | rfl | rfl | rfl | rfl | rfl | rfl | rfl | rfl | rfl <;>
    first
    | (refine .inr ⟨_,?_,rfl⟩; simp [retentionSweeps])
    | (left; simp [OtherJobs.all])

theorem sweeps_apart {spec other : RetentionSweep (Database Rest)} (listed : spec ∈ retentionSweeps) (listed' : other ∈ retentionSweeps)
    (apart : other.name ≠ spec.name) (world : Database Rest) (rows : Table other.sweep.key) :
    spec.place.table (other.place.put world rows) = spec.place.table world := by
  simp only [retentionSweeps,List.mem_cons,List.not_mem_nil,or_false] at listed listed'
  rcases listed with rfl | rfl | rfl | rfl | rfl <;> rcases listed' with rfl | rfl | rfl | rfl | rfl <;>
    first
    | rfl
    | exact absurd rfl apart

theorem others_quiet {others : OtherJobs (Database Rest)} (calm : ∀ fn ∈ others.all, ∀ now, Calm horizon fun world => (fn now world).2)
    (listed : spec ∈ retentionSweeps) (there : job ∈ tickJobs others) (apart : job.name ≠ spec.name) (now : Time) :
    Quiet spec.place horizon fun world => (job.fn now world).2 := by
  rcases tickJobs_parted there with other | ⟨other,listed',rfl⟩
  · exact calm job.fn other now spec listed
  · intro world t _
    unfold backlog
    exact Nat.le_of_eq (congrArg (fun rows : Table spec.sweep.key => rows.rows.countP (spec.sweep.due t))
      (sweeps_apart listed listed' apart world _))

-- Whatever the worker has been doing: a sweep that comes due is done after at most as
-- many passes as there are chunks, and one, and the worker does not wait in between.
theorem retention_clears {others : OtherJobs (Database Rest)} {drains : Drains (Database Rest)} {r : TickRegistry (Database Rest)}
    (built : buildTickRegistry others = .ok r) (calm : ∀ fn ∈ others.all, ∀ now, Calm horizon fun world => (fn now world).2)
    (calmDrains : ∀ now, Calm horizon fun world => (drained drains now world).2.2.2) (world : Database Rest) (past times : List Time)
    (spec : RetentionSweep (Database Rest)) (listed : spec ∈ retentionSweeps) :
    let w := (Process.start r world).run drains past
    (∀ now ∈ times.head?, dueAfter w.calls spec.job now = true) → (∀ now ∈ times, now ≤ horizon) →
    (w.run drains times).stopped = false → backlog spec.place horizon w.world < spec.limit * times.length →
    ∃ before now after, times = before ++ now :: after ∧ backlog spec.place now (w.run drains (before ++ [now])).world = 0 ∧
      ∃ passes, (w.run drains before).passes = w.passes ++ passes ∧ passes.length = before.length ∧ ∀ pass ∈ passes, pass.waited = false := by
  intro w due early finished enough
  obtain ⟨r',built',jobs⟩ := buildTickRegistry_ok others
  cases Except.ok.inj (built.symm.trans built')
  have sound : w.Sound r := run_sound drains start_sound past
  have all : w.registry.jobs = tickJobs others := (congrArg (·.jobs) sound.registry).trans jobs
  refine sweep_clears (all ▸ sweep_listed others listed) ?_ (fun now => calmDrains now spec listed) ?_ early finished enough
  · exact fun job there apart now => others_quiet calm listed (all ▸ there) apart now
  · intro now first
    rw [due_exact sound.tracks]
    exact due now first

section example_retention

def idle : Time → Database Unit → Outcome × Database Unit := fun _ world => (.returned none,world)

def idleJobs : OtherJobs (Database Unit) := ⟨idle,idle,idle,idle,idle,idle,idle,idle,idle⟩

def idleDrains : Drains (Database Unit) where
  drainOnce _ world := (⟨0,0⟩,world)
  mailDrainOnce _ world := (⟨0,0,0,0⟩,world)
  importOnce _ _ world := (⟨0⟩,world)

def oldAccess : Table accessLog.key := ⟨[⟨1,"viewed","lead","lead_1",0⟩,⟨2,"viewed","lead","lead_2",days 700⟩],by decide⟩

def oneOld : Database Unit := ⟨⟨[],.nil⟩,⟨[],.nil⟩,oldAccess,⟨[],.nil⟩,⟨[],.nil⟩,()⟩

theorem retention_clears_access : ∃ r, buildTickRegistry idleJobs = .ok r ∧
    backlog accessSweep.place (days 731) ((Process.start r oneOld).run idleDrains [days 731]).world = 0 := by
  obtain ⟨r,built,jobs⟩ := buildTickRegistry_ok idleJobs
  refine ⟨r,built,?_⟩
  have calm : ∀ fn ∈ idleJobs.all, ∀ now, Calm (days 731) fun world => (fn now world).2 := by
    intro fn there now spec _ world t _
    have same : fn = idle := by simpa [OtherJobs.all,idleJobs] using there
    rw [same]
    exact Nat.le_refl _
  have calmDrains : ∀ now, Calm (days 731) fun world => (drained idleDrains now world).2.2.2 :=
    fun now spec _ world t _ => Nat.le_refl _
  have few : backlog accessSweep.place (days 731) oneOld < RETENTION_CHUNK * [days 731].length := by decide
  have finished : ((Process.start r oneOld).run idleDrains [days 731]).stopped = false := by
    change (runDue (days 731) r.jobs ⟨.fresh,oneOld,{},[],false⟩).stopped = false
    rw [jobs]
    rfl
  obtain ⟨before,now,after,split,clear,_⟩ := retention_clears built calm calmDrains oneOld [] [days 731] accessSweep
    (by simp [retentionSweeps]) (fun _ _ => rfl) (by simp) finished few
  cases before with
  | nil =>
      cases split
      exact clear
  | cons first rest =>
      simp at split

end example_retention

end registry

end Osds.Worker
