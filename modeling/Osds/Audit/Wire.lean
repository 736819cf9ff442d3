import Osds.Audit.Events

namespace Osds.Audit
open Directory

def EventType.value : EventType → String
  | .listingCreated => "listing.created"
  | .listingUpdated => "listing.updated"
  | .listingPublished => "listing.published"
  | .listingUnpublished => "listing.unpublished"
  | .listingMerged => "listing.merged"
  | .listingDeleted => "listing.deleted"
  | .listingOwnerAssigned => "listing.owner_assigned"
  | .listingTierChanged => "listing.tier_changed"
  | .listingExpiringSoon => "listing.expiring_soon"
  | .listingExpired => "listing.expired"
  | .claimSubmitted => "claim.submitted"
  | .claimVerificationStarted => "claim.verification_started"
  | .claimVerificationFailed => "claim.verification_failed"
  | .claimApproved => "claim.approved"
  | .claimRejected => "claim.rejected"
  | .claimAbandoned => "claim.abandoned"
  | .claimNotifiedExistingContacts => "claim.notified_existing_contacts"
  | .claimDisputed => "claim.disputed"
  | .userCreated => "user.created"
  | .staffInvited => "staff.invited"
  | .staffAccepted => "staff.accepted"
  | .staffRoleChanged => "staff.role_changed"
  | .staffRemoved => "staff.removed"
  | .billingCheckoutStarted => "billing.checkout_started"
  | .billingSubscriptionStarted => "billing.subscription_started"
  | .billingSubscriptionChanged => "billing.subscription_changed"
  | .billingPaymentSucceeded => "billing.payment_succeeded"
  | .billingPaymentFailed => "billing.payment_failed"
  | .billingSubscriptionCanceled => "billing.subscription_canceled"
  | .billingRefundIssued => "billing.refund_issued"
  | .entitlementStarted => "entitlement.started"
  | .entitlementTrialConverted => "entitlement.trial_converted"
  | .entitlementDunningStarted => "entitlement.dunning_started"
  | .entitlementRecovered => "entitlement.recovered"
  | .entitlementDowngraded => "entitlement.downgraded"
  | .entitlementRestored => "entitlement.restored"
  | .entitlementRenewalDue => "entitlement.renewal_due"
  | .entitlementExpired => "entitlement.expired"
  | .entitlementCanceled => "entitlement.canceled"
  | .entitlementOverridden => "entitlement.overridden"
  | .slotHeld => "slot.held"
  | .slotHoldReleased => "slot.hold_released"
  | .slotOccupied => "slot.occupied"
  | .slotReleased => "slot.released"
  | .slotWaitlistJoined => "slot.waitlist_joined"
  | .slotWaitlistNotified => "slot.waitlist_notified"
  | .slotWaitlistCleared => "slot.waitlist_cleared"
  | .slotCapacityChanged => "slot.capacity_changed"
  | .leadCaptured => "lead.captured"
  | .leadDelivered => "lead.delivered"
  | .leadDeliveryFailed => "lead.delivery_failed"
  | .leadMarkedSpam => "lead.marked_spam"
  | .callTracked => "call.tracked"
  | .reviewSubmitted => "review.submitted"
  | .reviewPublished => "review.published"
  | .reviewFlagged => "review.flagged"
  | .reviewRemoved => "review.removed"
  | .reviewResponded => "review.responded"
  | .moderationQueued => "moderation.queued"
  | .moderationDecided => "moderation.decided"
  | .complianceRemovalRequested => "compliance.removal_requested"
  | .complianceRemovalCompleted => "compliance.removal_completed"
  | .complianceDataExported => "compliance.data_exported"
  | .complianceConsentChanged => "compliance.consent_changed"
  | .agentActionTaken => "agent.action_taken"
  | .agentEscalationRequested => "agent.escalation_requested"
  | .agentEscalationResolved => "agent.escalation_resolved"
  | .agentBlocked => "agent.blocked"
  | .tenantCreated => "tenant.created"
  | .tenantDomainVerified => "tenant.domain_verified"
  | .tenantSettingsChanged => "tenant.settings_changed"
  | .tenantSuspended => "tenant.suspended"
  | .importStarted => "import.started"
  | .importCompleted => "import.completed"
  | .importRolledBack => "import.rolled_back"
  | .postalDispatched => "postal.dispatched"
  | .postalFailed => "postal.failed"
  | .unregistered name => name

def Actor.json (a : Actor) : Json :=
  .obj (("type",.str a.type) :: a.id.toList.map fun text => ("id",.str text))

def ClaimRef.json (c : ClaimRef) : Json :=
  .obj [("id",.str c.id),("listing_id",.str c.listingId),("status",.str c.status),("method",.str c.method)]

def ConsentEntry.json (c : ConsentEntry) : Json :=
  .obj [("granted",.bool c.granted),
    ("at",.ofOption .instant c.grantedAt),
    ("ip",.ofOption .str c.ip),
    ("text_version",.str c.textVersion)]

def consentJson (consent : List ConsentEntry) : Json := .obj (consent.map fun c => (c.channel,c.json))

def opJson : PatchOp → Json
  | .add path value => .obj [("op",.str "add"),("path",.str path),("value",value)]
  | .replace path value => .obj [("op",.str "replace"),("path",.str path),("value",value)]
  | .remove path => .obj [("op",.str "remove"),("path",.str path)]
  | .removed path value => .obj [("op",.str "remove"),("path",.str path),("value",value)]

def patchJson (changes : List PatchOp) : Json := .arr (changes.map opJson)

def membership (operatorId role status : String) : Json :=
  .obj [("operator_id",.str operatorId),("role",.str role),("status",.str status)]

def Approval.fields : Approval → List (String × Json)
  | .manual methodUsed verifiedBy verifiedAt notes evidenceRef =>
      [("manual_verification",.obj [("method_used",.str methodUsed),
        ("verified_by",.str verifiedBy),
        ("verified_at",.instant verifiedAt),
        ("notes",.str notes),
        ("evidence_ref",.ofOption .str evidenceRef)])]
  | .verified method verifiedAt =>
      [("verification",.obj [("method",.str method),("verified_at",.ofOption .instant verifiedAt)])]

def entitlementBase (entitlementId listingId : String) : List (String × Json) :=
  [("entitlement_id",.str entitlementId),("listing_id",.str listingId)]

def Payload.data : Payload → List (String × Json)
  | .entitlementStarted entitlementId listingId tier billingMode periodEnd trialEndsAt =>
      entitlementBase entitlementId listingId ++ [("tier",.str tier),("billing_mode",.str billingMode),
        ("period_end",.ofOption .instant periodEnd),("trial_ends_at",.ofOption .instant trialEndsAt)]
  | .entitlementTrialConverted entitlementId listingId tier periodEnd =>
      entitlementBase entitlementId listingId ++ [("tier",.str tier),("period_end",.ofOption .instant periodEnd)]
  | .entitlementDunningStarted entitlementId listingId attempt dunningEndsAt failureCode =>
      entitlementBase entitlementId listingId ++ [("attempt",.int attempt),
        ("dunning_ends_at",.instant dunningEndsAt),("failure_code",.str failureCode)]
  | .entitlementRecovered entitlementId listingId daysInDunning =>
      entitlementBase entitlementId listingId ++ [("days_in_dunning",.int daysInDunning)]
  | .entitlementDowngraded entitlementId listingId fromTier toTier graceEndsAt =>
      entitlementBase entitlementId listingId ++ [("from_tier",.str fromTier),
        ("to_tier",.ofOption .str toTier),("grace_ends_at",.instant graceEndsAt)]
  | .entitlementRestored entitlementId listingId tier daysInGrace =>
      entitlementBase entitlementId listingId ++ [("tier",.str tier),("days_in_grace",.int daysInGrace)]
  | .entitlementRenewalDue entitlementId listingId daysRemaining termDays =>
      entitlementBase entitlementId listingId ++ [("days_remaining",.int daysRemaining),
        ("term_days",.ofOption .int termDays)]
  | .entitlementExpired entitlementId listingId fromTier cause =>
      entitlementBase entitlementId listingId ++ [("from_tier",.str fromTier),("cause",.str cause)]
  | .entitlementCanceled entitlementId listingId atPeriodEnd reason canceledBy =>
      entitlementBase entitlementId listingId ++ [("at_period_end",.bool atPeriodEnd),("reason",.str reason),
        ("canceled_by",.str canceledBy)]
  | .entitlementOverridden entitlementId listingId adminId reason prior to_ =>
      entitlementBase entitlementId listingId ++ [("admin_id",.str adminId),("reason",.str reason),
        ("from",.str prior),("to",.str to_)]
  | .listingTierChanged fromTier toTier effectiveAt cause =>
      [("from_tier",.ofOption .str fromTier),("to_tier",.ofOption .str toTier),
        ("effective_at",.instant effectiveAt),("cause",.str cause)]
  | .billingCheckoutStarted planId listingId amount currency =>
      [("plan_id",.str planId),("listing_id",.str listingId),
        ("amount",.ofOption (fun n : Nat => .int n) amount),("currency",.str currency)]
  | .billingSubscriptionStarted listingId subscription plan currentPeriodEnd =>
      [("listing_id",.str listingId),("subscription",.str subscription),("plan",.str plan),
        ("current_period_end",.instant currentPeriodEnd)]
  | .billingSubscriptionChanged listingId fromPlan toPlan =>
      [("listing_id",.str listingId),("from_plan",.ofOption .str fromPlan),("to_plan",.str toPlan),
        ("proration",.null)]
  | .billingPaymentSucceeded listingId amount currency invoiceRef =>
      [("listing_id",.str listingId),("amount",.ofOption .int amount),("currency",.str currency),
        ("invoice_ref",.str invoiceRef)]
  | .billingPaymentFailed listingId attempt failureCode nextRetryAt =>
      [("listing_id",.str listingId),("attempt",.ofOption .int attempt),("failure_code",.str failureCode),
        ("next_retry_at",.ofOption .instant nextRetryAt)]
  | .billingSubscriptionCanceled listingId atPeriodEnd reason canceledBy =>
      [("listing_id",.str listingId),("at_period_end",.bool atPeriodEnd),("reason",.str reason),
        ("canceled_by",.str canceledBy)]
  | .billingRefundIssued listingId amount currency reason =>
      [("listing_id",.str listingId),("amount",.ofOption .int amount),("currency",.str currency),
        ("reason",.str reason),("issued_by",.str "provider")]
  | .listingCreated projection type => projection.fields ++ [("type",.str type)]
  | .listingUpdated changes type => [("changes",patchJson changes),("type",.str type)]
  | .listingPublished before type projection => [("from",.str before),("type",.str type)] ++ projection.fields
  | .listingUnpublished before to_ reason type =>
      [("from",.str before),("to",.str to_),("reason",.str reason),("type",.str type)]
  | .listingOwnerAssigned listingId ownerId claimId previousOwnerId =>
      [("listing_id",.str listingId),("owner",.obj [("id",.str ownerId)]),("claim_id",.str claimId),
        ("previous_owner_id",.ofOption .str previousOwnerId)]
  | .claimSubmitted claim claimantId name email phoneE164 roleClaimed consent =>
      [("claim",claim.json),
        ("claimant",.obj [("id",.str claimantId),("name",.str name),("email",.str email),
          ("phone_e164",.str phoneE164),("role_claimed",.str roleClaimed)]),
        ("consent",consentJson consent)]
  | .claimVerificationStarted claim expiresAt destination =>
      [("claim",claim.json),("method",.str "domain_email"),("expires_at",.instant expiresAt),
        ("destination",.str destination)]
  | .claimVerificationFailed claim reason attempt cooldowns =>
      [("claim",claim.json),("method",.str "domain_email"),("reason",.str reason),
        ("attempt",.ofOption (fun n : Nat => .int n) attempt),
        ("cooldowns",.ofOption (fun n : Nat => .int n) cooldowns)]
  | .claimApproved claimId listingId method transfer existingContactsNotified approval =>
      [("claim",.obj [("id",.str claimId),("listing_id",.str listingId),("method",.str method)]),
        ("transfer",.bool transfer),
        ("existing_contacts_notified",.bool existingContactsNotified)] ++ approval.fields
  | .claimRejected claim reason decidedBy =>
      [("claim",claim.json),("reason",.str reason),("decided_by",.str decidedBy)]
  | .claimDisputed claimId listingId =>
      [("claim",.obj [("id",.str claimId),("listing_id",.str listingId)])]
  | .claimNotifiedExistingContacts claimId listingId destinations =>
      [("claim_id",.str claimId),("listing_id",.str listingId),
        ("channels",.arr (destinations.map fun text =>
          .obj [("channel",.str "email"),("destination",.str text)]))]
  | .userCreated userId email name phoneE164 createdBy =>
      [("user",.obj [("id",.str userId),("email",.str email),("name",.str name),
        ("phone_e164",.str phoneE164)]),("created_by",.str createdBy)]
  | .leadCaptured leadId kind name email phoneE164 message spamScore listingId sourcePage consent =>
      [("lead",.obj [("id",.str leadId),("kind",.str kind),("name",.str name),("email",.str email),
          ("phone_e164",.str phoneE164),("message",.str message),("spam_score",.num spamScore)]),
        ("listing_id",.str listingId),("source_page",.str sourcePage),("consent",consentJson consent)]
  | .leadMarkedSpam leadId markedBy signals =>
      [("lead_id",.str leadId),("by",.str markedBy),("signals",.arr (signals.map .str))]
  | .moderationQueued itemType itemId claimId listingId rulesTriggered priority =>
      [("item_type",.str itemType),("item_id",.str itemId),("claim_id",.ofOption .str claimId),
        ("listing_id",.str listingId),("rules_triggered",.arr (rulesTriggered.map .str)),
        ("priority",.str priority)]
  | .moderationDecided itemType itemId claimId decision rationale =>
      [("item_type",.str itemType),("item_id",.str itemId),("claim_id",.ofOption .str claimId),
        ("decision",.str decision),("decided_by",.str "human"),("rationale",.str rationale)]
  | .importStarted batchId source rowCount startedBy =>
      [("batch_id",.str batchId),("source",.str source),("row_count",.int rowCount),
        ("started_by",.ofOption .str startedBy)]
  | .importCompleted batchId status created updated skipped suppressed errors =>
      [("batch_id",.str batchId),("status",.str status),("created",.int created),("updated",.int updated),
        ("skipped",.int skipped),("suppressed",.int suppressed),("errors",.arr errors)]
  | .importRolledBack batchId listingsRemoved listingsRestored rolledBackBy =>
      [("batch_id",.str batchId),("listings_removed",.int listingsRemoved),
        ("listings_restored",.int listingsRestored),("rolled_back_by",.str rolledBackBy)]
  | .staffInvited operatorId role status email existing grantedBy =>
      [("membership",membership operatorId role status),
        ("operator",.obj [("email",.str email),("existing",.bool existing)]),("granted_by",.str grantedBy)]
  | .staffAccepted operatorId role status => [("membership",membership operatorId role status)]
  | .tenantCreated slug mode createdBy =>
      [("slug",.str slug),("mode",.str mode),("created_by",.str createdBy)]
  | .tenantDomainVerified domain method => [("domain",.str domain),("method",.str method)]
  | .tenantSettingsChanged changes changedBy =>
      [("changes",patchJson changes),("changed_by",.str changedBy)]

-- A stored event with its row's own columns and what the wire form reads of
-- its tenant.
structure OutboxRow extends OutboxEvent where
  eventId : String
  version : Nat
  occurredAt : Time
  traceId : String
  tenantId : String
  tenantSlug : String
  tenantDomain : Option String

def tenantPrefix (type : EventType) : Bool := "tenant.".toList.isPrefixOf type.value.toList

def toWire (e : OutboxRow) : List (String × Json) :=
  [("id",.str e.eventId),
    ("type",.str e.type.value),
    ("version",.int e.version),
    ("occurred_at",.instant e.occurredAt),
    ("subject",.str e.subject),
    ("actor",e.actor.json),
    ("origin",if e.origin = "" then .null else .str e.origin),
    ("trace_id",.str (if e.traceId = "" then e.eventId else e.traceId)),
    ("data",.obj e.payload.data)] ++
  if tenantPrefix e.type then []
  else [("tenant",.obj [("id",.str e.tenantId),("slug",.str e.tenantSlug),
    ("domain",.ofOption .str e.tenantDomain)])]

end Osds.Audit
