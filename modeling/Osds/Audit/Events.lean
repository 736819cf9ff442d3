import Osds.Directory.Projection

namespace Osds.Audit
open Directory

abbrev TenantId := Nat

-- The registry of event types. `unregistered` is any other text: the envelope
-- carries the type as a string and the registry is checked only at `emit`.
inductive EventType where
  | listingCreated | listingUpdated | listingPublished | listingUnpublished
  | listingMerged | listingDeleted | listingOwnerAssigned | listingTierChanged
  | listingExpiringSoon | listingExpired
  | claimSubmitted | claimVerificationStarted | claimVerificationFailed
  | claimApproved | claimRejected | claimAbandoned
  | claimNotifiedExistingContacts | claimDisputed
  | userCreated
  | staffInvited | staffAccepted | staffRoleChanged | staffRemoved
  | billingCheckoutStarted | billingSubscriptionStarted | billingSubscriptionChanged
  | billingPaymentSucceeded | billingPaymentFailed | billingSubscriptionCanceled
  | billingRefundIssued
  | entitlementStarted | entitlementTrialConverted | entitlementDunningStarted
  | entitlementRecovered | entitlementDowngraded | entitlementRestored
  | entitlementRenewalDue | entitlementExpired | entitlementCanceled
  | entitlementOverridden
  | slotHeld | slotHoldReleased | slotOccupied | slotReleased | slotWaitlistJoined
  | slotWaitlistNotified | slotWaitlistCleared | slotCapacityChanged
  | leadCaptured | leadDelivered | leadDeliveryFailed | leadMarkedSpam | callTracked
  | reviewSubmitted | reviewPublished | reviewFlagged | reviewRemoved | reviewResponded
  | moderationQueued | moderationDecided
  | complianceRemovalRequested | complianceRemovalCompleted | complianceDataExported
  | complianceConsentChanged
  | agentActionTaken | agentEscalationRequested | agentEscalationResolved | agentBlocked
  | tenantCreated | tenantDomainVerified | tenantSettingsChanged | tenantSuspended
  | importStarted | importCompleted | importRolledBack
  | postalDispatched | postalFailed
  | unregistered (name : String)
  deriving DecidableEq, Repr

structure Actor where
  type : String
  id : Option String
  deriving DecidableEq, Repr

structure ClaimRef where
  id : String
  listingId : String
  status : String
  method : String

structure ConsentEntry where
  channel : String
  granted : Bool
  grantedAt : Option Time
  ip : Option String
  textVersion : String

inductive Approval where
  | manual (methodUsed verifiedBy : String) (verifiedAt : Time) (notes : String)
      (evidenceRef : Option String)
  | verified (method : String) (verifiedAt : Option Time)

-- The payloads the emit sites build, one constructor for each shape. Billing's
-- first, then the directory's, then the installation's.
inductive Payload where
  | entitlementStarted (entitlementId listingId tier billingMode : String)
      (periodEnd trialEndsAt : Option Time)
  | entitlementTrialConverted (entitlementId listingId tier : String) (periodEnd : Option Time)
  | entitlementDunningStarted (entitlementId listingId : String) (attempt : Int)
      (dunningEndsAt : Time) (failureCode : String)
  | entitlementRecovered (entitlementId listingId : String) (daysInDunning : Int)
  | entitlementDowngraded (entitlementId listingId fromTier : String) (toTier : Option String)
      (graceEndsAt : Time)
  | entitlementRestored (entitlementId listingId tier : String) (daysInGrace : Int)
  | entitlementRenewalDue (entitlementId listingId : String) (daysRemaining : Int)
      (termDays : Option Int)
  | entitlementExpired (entitlementId listingId fromTier cause : String)
  | entitlementCanceled (entitlementId listingId : String) (atPeriodEnd : Bool)
      (reason canceledBy : String)
  | entitlementOverridden (entitlementId listingId adminId reason prior to_ : String)
  | listingTierChanged (fromTier toTier : Option String) (effectiveAt : Time) (cause : String)
  | billingCheckoutStarted (planId listingId : String) (amount : Option Nat) (currency : String)
  | billingSubscriptionStarted (listingId subscription plan : String) (currentPeriodEnd : Time)
  | billingSubscriptionChanged (listingId : String) (fromPlan : Option String) (toPlan : String)
  | billingPaymentSucceeded (listingId : String) (amount : Option Int) (currency invoiceRef : String)
  | billingPaymentFailed (listingId : String) (attempt : Option Int) (failureCode : String)
      (nextRetryAt : Option Time)
  | billingSubscriptionCanceled (listingId : String) (atPeriodEnd : Bool)
      (reason canceledBy : String)
  | billingRefundIssued (listingId : String) (amount : Option Int) (currency reason : String)
  | listingCreated (projection : Projection) (type : String)
  | listingUpdated (changes : List PatchOp) (type : String)
  | listingPublished (before type : String) (projection : Projection)
  | listingUnpublished (before to_ reason type : String)
  | listingOwnerAssigned (listingId ownerId claimId : String) (previousOwnerId : Option String)
  | claimSubmitted (claim : ClaimRef) (claimantId name email phoneE164 roleClaimed : String)
      (consent : List ConsentEntry)
  | claimVerificationStarted (claim : ClaimRef) (expiresAt : Time) (destination : String)
  | claimVerificationFailed (claim : ClaimRef) (reason : String) (attempt cooldowns : Option Nat)
  | claimApproved (claimId listingId method : String) (transfer existingContactsNotified : Bool)
      (approval : Approval)
  | claimRejected (claim : ClaimRef) (reason decidedBy : String)
  | claimDisputed (claimId listingId : String)
  | claimNotifiedExistingContacts (claimId listingId : String) (destinations : List String)
  | userCreated (userId email name phoneE164 createdBy : String)
  | leadCaptured (leadId kind name email phoneE164 message : String) (spamScore : Rat)
      (listingId sourcePage : String) (consent : List ConsentEntry)
  | leadMarkedSpam (leadId markedBy : String) (signals : List String)
  | moderationQueued (itemType itemId : String) (claimId : Option String) (listingId : String)
      (rulesTriggered : List String) (priority : String)
  | moderationDecided (itemType itemId : String) (claimId : Option String)
      (decision rationale : String)
  | importStarted (batchId source : String) (rowCount : Nat) (startedBy : Option String)
  | importCompleted (batchId status : String) (created updated skipped suppressed : Nat)
      (errors : List Json)
  | importRolledBack (batchId : String) (listingsRemoved listingsRestored : Nat)
      (rolledBackBy : String)
  | staffInvited (operatorId role status email : String) (existing : Bool) (grantedBy : String)
  | staffAccepted (operatorId role status : String)
  | tenantCreated (slug mode createdBy : String)
  | tenantDomainVerified (domain method : String)
  | tenantSettingsChanged (changes : List PatchOp) (changedBy : String)

def Payload.type : Payload → EventType
  | .entitlementStarted .. => .entitlementStarted
  | .entitlementTrialConverted .. => .entitlementTrialConverted
  | .entitlementDunningStarted .. => .entitlementDunningStarted
  | .entitlementRecovered .. => .entitlementRecovered
  | .entitlementDowngraded .. => .entitlementDowngraded
  | .entitlementRestored .. => .entitlementRestored
  | .entitlementRenewalDue .. => .entitlementRenewalDue
  | .entitlementExpired .. => .entitlementExpired
  | .entitlementCanceled .. => .entitlementCanceled
  | .entitlementOverridden .. => .entitlementOverridden
  | .listingTierChanged .. => .listingTierChanged
  | .billingCheckoutStarted .. => .billingCheckoutStarted
  | .billingSubscriptionStarted .. => .billingSubscriptionStarted
  | .billingSubscriptionChanged .. => .billingSubscriptionChanged
  | .billingPaymentSucceeded .. => .billingPaymentSucceeded
  | .billingPaymentFailed .. => .billingPaymentFailed
  | .billingSubscriptionCanceled .. => .billingSubscriptionCanceled
  | .billingRefundIssued .. => .billingRefundIssued
  | .listingCreated .. => .listingCreated
  | .listingUpdated .. => .listingUpdated
  | .listingPublished .. => .listingPublished
  | .listingUnpublished .. => .listingUnpublished
  | .listingOwnerAssigned .. => .listingOwnerAssigned
  | .claimSubmitted .. => .claimSubmitted
  | .claimVerificationStarted .. => .claimVerificationStarted
  | .claimVerificationFailed .. => .claimVerificationFailed
  | .claimApproved .. => .claimApproved
  | .claimRejected .. => .claimRejected
  | .claimDisputed .. => .claimDisputed
  | .claimNotifiedExistingContacts .. => .claimNotifiedExistingContacts
  | .userCreated .. => .userCreated
  | .leadCaptured .. => .leadCaptured
  | .leadMarkedSpam .. => .leadMarkedSpam
  | .moderationQueued .. => .moderationQueued
  | .moderationDecided .. => .moderationDecided
  | .importStarted .. => .importStarted
  | .importCompleted .. => .importCompleted
  | .importRolledBack .. => .importRolledBack
  | .staffInvited .. => .staffInvited
  | .staffAccepted .. => .staffAccepted
  | .tenantCreated .. => .tenantCreated
  | .tenantDomainVerified .. => .tenantDomainVerified
  | .tenantSettingsChanged .. => .tenantSettingsChanged

structure OutboxEvent where
  tenant : TenantId
  subject : String
  actor : Actor
  origin : String
  payload : Payload

def OutboxEvent.type (e : OutboxEvent) : EventType := e.payload.type

end Osds.Audit
