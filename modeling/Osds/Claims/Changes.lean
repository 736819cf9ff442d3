import Osds.Claims.Commands

namespace Osds.Claims
open Directory Audit

inductive Cause where
  | dispute (claim : ClaimId)
  | lock (listing : ListingId) (claimant : String)
  | block (listing : ListingId) (claimant : String)
  deriving DecidableEq, Repr

def ModerationItem.cause (i : ModerationItem) : Cause :=
  match i.itemType with
  | .claimDispute => .dispute i.claim
  | .verificationLock => .lock i.listing i.claimant.id
  | .claimBlock => .block i.listing i.claimant.id

-- What a committed command is made of. Each change leaves the rows consistent by
-- itself: a flag of a claim or a pair moves together with its item, and an owner
-- with the claims it comes from.
inductive Change where
  | mint (u : DirectoryUser)
  | submit (c : Claim)
  | amend (id : ClaimId) (f : Claim → Claim)
  | issue (id : ClaimId) (f : Claim → Claim) (code : String) (expiresAt : Time)
  | count (listing : ListingId) (claimant : String) (f : Guard → Guard)
  | guess (listing : ListingId) (claimant : String) (now : Time) (opened : List ModerationItem)
  | dispute (id : ClaimId) (f : Claim → Claim) (opened : ModerationItem)
  -- a dispute decided, its claim pending again
  | settle (i : ModerationItem) (decided : ModerationItem → ModerationItem)
  | approve (c : Claim) (f : Claim → Claim) (olds : List ClaimId)
  | block (listing : ListingId) (claimant : String) (f : Guard → Guard) (opened : ModerationItem)
  | rule (i : ModerationItem) (f : Guard → Guard) (decided : ModerationItem → ModerationItem)
  | write (id : ListingId) (w : ListingWrite)

def mapClaims (r : Rows) (f : Claim → Claim) : Rows := {r with claims := r.claims.map f}

def pending (c : Claim) : Claim := {c with status := .pendingVerification}

def superseded (c : Claim) : Claim := {c with status := .superseded}

def approving (id : ClaimId) (f : Claim → Claim) (olds : List ClaimId) (c : Claim) : Claim :=
  if c.publicId = id then f c else if c.publicId ∈ olds then superseded c else c

def owning (listings : ListingId → Option Listing) (id : ListingId) (user : DirectoryUser) (l : ListingId) : Option Listing :=
  if l = id then (listings l).map fun row => {row with owner := some user,status := .claimed} else listings l

def apply (r : Rows) : Change → Rows
  | .mint u => {r with users := r.users ++ [u]}
  | .submit c => {r with claims := r.claims ++ [c]}
  | .amend id f => r.updateClaim id f
  | .issue id f code expiresAt => {r.updateClaim id f with codes := ⟨id,code,expiresAt⟩ :: r.codes}
  | .count l u f => r.updateGuard l u f
  | .guess l u now opened => {r.updateGuard l u (wrongGuard · now) with items := r.items ++ opened}
  | .dispute id f opened => {r.updateClaim id f with items := r.items ++ [opened]}
  | .settle i decided => (r.updateClaim i.claim pending).updateItem i.publicId decided
  | .approve c f olds =>
      {mapClaims r (approving c.publicId f olds) with listings := owning r.listings c.listing c.claimant}
  | .block l u f opened => {r.updateGuard l u f with items := r.items ++ [opened]}
  | .rule i f decided => (r.updateGuard i.listing i.claimant.id f).updateItem i.publicId decided
  | .write id w => {r with listings := fun l => if l = id then some (w.apply (r.listings l)) else r.listings l}

-- The rows a command must hold for the change.
def Change.keys : Change → List LockKey
  | .mint u => [.user u.email]
  | .submit c => [.claim c.publicId]
  | .amend id _ => [.claim id]
  | .issue id .. => [.claim id]
  | .count l u _ => [.guard l u]
  | .guess l u _ opened => .guard l u :: opened.map (.item ·.publicId)
  | .dispute id _ opened => [.claim id,.item opened.publicId]
  | .settle i _ => [.claim i.claim,.item i.publicId]
  | .approve c _ olds => .claim c.publicId :: .listing c.listing :: olds.map .claim
  | .block l u _ opened => [.guard l u,.item opened.publicId]
  | .rule i .. => [.guard i.listing i.claimant.id,.item i.publicId]
  | .write id _ => [.listing id]

structure SameClaim (c c' : Claim) : Prop where
  publicId : c'.publicId = c.publicId
  listing : c'.listing = c.listing
  claimant : c'.claimant = c.claimant

structure SameItem (i i' : ModerationItem) : Prop where
  publicId : i'.publicId = i.publicId
  itemType : i'.itemType = i.itemType
  listing : i'.listing = i.listing
  claimant : i'.claimant = i.claimant
  claim : i'.claim = i.claim

def CodeKept (c c' : Claim) : Prop := c'.codeHash = none ∨ c'.codeHash = c.codeHash ∧ c'.expiresAt = c.expiresAt

structure Amends (c c' : Claim) : Prop extends SameClaim c c' where
  code : CodeKept c c'
  approved : c'.status = .approved ↔ c.status = .approved
  disputed : c'.status = .disputed ↔ c.status = .disputed

structure Calm (g g' : Guard) : Prop where
  wrongEntries : g'.wrongEntries = g.wrongEntries
  cooldowns : g'.cooldowns = g.cooldowns
  locked : g'.verificationLockedAt = g.verificationLockedAt
  blocked : g'.claimBlockedAt = g.claimBlockedAt

structure Opens (r : Rows) (i : ModerationItem) (cause : Cause) : Prop where
  fresh : ∀ j ∈ r.items, j.publicId ≠ i.publicId
  isOpen : i.isOpen = true
  cause : i.cause = cause

structure Decides (r : Rows) (i : ModerationItem) (decided : ModerationItem → ModerationItem) : Prop where
  present : i ∈ r.items
  isOpen : i.isOpen = true
  same : SameItem i (decided i)
  closed : (decided i).isOpen = false

def Allowed (p : Platform) (r : Rows) : Change → Prop
  | .mint u => u.email.length ≤ 254
  | .submit c => r.claim c.publicId = none ∧ c.status = .pendingVerification ∧ c.codeHash = none ∧ c.claimant.email.length ≤ 254
  | .amend id f => ∃ c, r.claim id = some c ∧ Amends c (f c)
  | .issue id f code expiresAt => ∃ c, r.claim id = some c ∧ SameClaim c (f c) ∧ (f c).status = c.status ∧
      (f c).codeHash = some (p.hashCode id code) ∧ (f c).expiresAt = some expiresAt
  | .count l u f => Calm (r.guards l u) (f (r.guards l u))
  | .guess l u _ opened => (r.guards l u).verificationLockedAt = none ∧
      if wrongReason (r.guards l u) = "locked" then ∃ i, opened = [i] ∧ Opens r i (.lock l u) else opened = []
  | .dispute id f opened => ∃ c, r.claim id = some c ∧ c.status = .pendingVerification ∧ SameClaim c (f c) ∧
      (f c).status = .disputed ∧ CodeKept c (f c) ∧ Opens r opened (.dispute id)
  | .settle i decided => i.itemType = .claimDispute ∧ Decides r i decided ∧ ∃ c, r.claim i.claim = some c ∧ c.status = .disputed
  | .approve c f olds => (r.listings c.listing).isSome ∧ r.claim c.publicId = some c ∧ c.status = .pendingVerification ∧
      SameClaim c (f c) ∧ (f c).status = .approved ∧ CodeKept c (f c) ∧
      olds = (approvedClaims r c.listing).map (·.publicId)
  | .block l u f opened => (r.guards l u).claimBlockedAt = none ∧
      (f (r.guards l u)).claimBlockedAt.isSome ∧
      Calm (r.guards l u) {f (r.guards l u) with claimBlockedAt := none} ∧ Opens r opened (.block l u)
  | .rule i f decided => Decides r i decided ∧
      (i.itemType = .verificationLock ∧ f = unlockedGuard ∨ i.itemType = .claimBlock ∧ f = unblockedGuard)
  | .write .. => True

inductive Changes (p : Platform) : Rows → List Change → Rows → Prop where
  | nil : Changes p r [] r
  | cons : Allowed p r x → Changes p (apply r x) rest r' → Changes p r (x :: rest) r'

theorem changes_append (first : Changes p r xs r') (second : Changes p r' ys r'') : Changes p r (xs ++ ys) r'' := by
  induction first with
  | nil => exact second
  | cons allowed _ ih => exact .cons allowed (ih second)

theorem changes_one (allowed : Allowed p r x) : Changes p r [x] (apply r x) := .cons allowed .nil

theorem changes_invariant {invariant : Rows → Prop}
    (preserved : ∀ r x, Allowed p r x → invariant r → invariant (apply r x)) (changes : Changes p r xs r')
    (valid : invariant r) : invariant r' := by
  induction changes with
  | nil => exact valid
  | cons allowed _ ih => exact ih (preserved _ _ allowed valid)

end Osds.Claims
