import Osds.Audit.Events

namespace Osds.Directory
open Audit

abbrev ListingId := String
abbrev TierId := Nat

inductive ListingStatus where
  | unclaimed | claimed | suspended
  deriving DecidableEq, Repr

inductive Visibility where
  | draft | published | hidden
  deriving DecidableEq, Repr

def Visibility.value : Visibility → String
  | .draft => "draft"
  | .published => "published"
  | .hidden => "hidden"

-- A path of the tenant has no absolute form until the domain is verified.
def absoluteUrl (domain : Option String) (path : String) : String :=
  match domain with
  | some domain => "https://" ++ domain ++ path
  | none => path

structure DirectoryUser where
  id : String
  email : String
  deriving DecidableEq, Repr

structure Listing where
  tenant : TenantId
  typeKey : String
  projection : Projection
  status : ListingStatus
  visibility : Visibility
  currentTier : Option TierId
  owner : Option DirectoryUser

def Listing.name (l : Listing) : String := l.projection.name

-- The rows `set_listing_visibility` writes and the events it emits. Moving
-- between draft and hidden crosses no publication boundary.
def setListingVisibility (publicId : ListingId) (l : Listing) (to_ : Visibility) (actor : Actor)
    (reason : String) : Listing × List OutboxEvent :=
  if l.visibility = to_ then (l,[])
  else
    let event := fun payload => [{tenant := l.tenant,subject := publicId,actor := actor,origin := "",payload := payload}]
    ({l with visibility := to_},
      if to_ = .published then event (.listingPublished l.visibility.value l.typeKey l.projection)
      else if l.visibility = .published then
        event (.listingUnpublished l.visibility.value to_.value reason l.typeKey)
      else [])

@[simp] theorem setListingVisibility_tier :
    (setListingVisibility publicId l to_ actor reason).1.currentTier = l.currentTier := by
  unfold setListingVisibility
  split <;> rfl

@[simp] theorem setListingVisibility_tenant :
    (setListingVisibility publicId l to_ actor reason).1.tenant = l.tenant := by
  unfold setListingVisibility
  split <;> rfl

theorem setListingVisibility_events (present : e ∈ (setListingVisibility publicId l to_ actor reason).2) :
    e.type = .listingPublished ∨ e.type = .listingUnpublished := by
  unfold setListingVisibility at present
  split at present
  · cases present
  · dsimp only at present
    split at present
    · rw [List.mem_singleton] at present
      subst present
      exact .inl rfl
    · split at present
      · rw [List.mem_singleton] at present
        subst present
        exact .inr rfl
      · cases present

end Osds.Directory
