import Osds.Claims.CodeMail
import Osds.Lib.Hosts
import Mathlib.Data.List.Infix
import Mathlib.Data.List.TakeWhile

namespace Osds.Claims.DomainEmail
open Directory Audit RowLocks Hosts

-- lower(), urlsplit(...).hostname, which refuses some addresses, and the `idna` codec,
-- none where it raises.
structure Library where
  lower : String → String
  hostname : String → Except String (Option String)
  idna : String → Option String
  empty : idna "" = some ""

def PLATFORM_HOSTS : List String :=
  ["facebook.com","instagram.com","x.com","twitter.com","linkedin.com","yelp.com","youtube.com","tiktok.com","pinterest.com",
    "etsy.com","amazon.com","ebay.com","wixsite.com","squarespace.com","weebly.com","godaddysites.com","business.site",
    "wordpress.com","blogspot.com","carrd.co","linktr.ee","google.com","g.page","square.site"]

def dropWww (host : String) : String := if "www.".toList <+: host.toList then String.ofList (host.toList.drop 4) else host

section eligibility

variable (v : Library)

def ascii (host : String) : String := (v.idna host).getD host

def cutPort (host : String) : String := (Text.partition ':' host).1

def normalizeHost (host : String) (stripWww : Bool) : String :=
  let host := v.lower (Text.strip host)
  if host = "" then host
  else
    let host := ascii v (stripDots (cutPort host))
    if stripWww then dropWww host else host

def websiteHost (website : Option String) : Except String (Option String) :=
  let website := Text.strip (website.getD "")
  if website = "" then .ok none
  else do
    let host ← v.hostname (if "//".toList <:+: website.toList then website else "//" ++ website)
    pure (host.filter (· ≠ ""))

def domainEmailHost (website : Option String) : Except String (Option String) := do
  match ← websiteHost v website with
  | none => pure none
  | some host =>
      let host := normalizeHost v host true
      if host ∈ PLATFORM_HOSTS then pure none
      else if (parents host).any (· ∈ PLATFORM_HOSTS) then pure none
      else pure (some host)

def domainEmailIneligibility (website : Option String) (locked emailAvailable : Bool) (email : String) :
    Except String (Option String) := do
  match ← domainEmailHost v website with
  | none => pure (some "no_website")
  | some host =>
      if locked then pure (some "locked")
      else if ¬emailAvailable then pure (some "mail_unavailable")
      else
        let domain := afterLast '@' email
        if domain = "" ∨ normalizeHost v domain false ≠ host then pure (some "address_mismatch")
        else pure none

def platform (hashCode : ClaimId → String → String) : Platform where
  lower := v.lower
  hashCode := hashCode
  domainEmailHost := fun l => (domainEmailHost v l.projection.contact.website).mapError .valueError
  addressHost := fun email =>
    let domain := afterLast '@' email
    if domain = "" then none else some (normalizeHost v domain false)

-- What the claim commands ask of an address is this.
theorem platform_exact (hashCode : ClaimId → String → String) (o : Office) (l : Listing) (locked : Bool) (email : String) :
    Claims.domainEmailIneligibility (platform v hashCode) o l locked email =
      (domainEmailIneligibility v l.projection.contact.website locked o.emailAvailable email).mapError .valueError := by
  unfold Claims.domainEmailIneligibility domainEmailIneligibility platform
  dsimp only
  cases domainEmailHost v l.projection.contact.website with
  | error refused => rfl
  | ok found =>
      cases found with
      | none => rfl
      | some host =>
          have address : (if afterLast '@' email = "" then none else some (normalizeHost v (afterLast '@' email) false)) = some host ↔
              ¬(afterLast '@' email = "" ∨ normalizeHost v (afterLast '@' email) false ≠ host) := by
            split <;> simp [*]
          dsimp only [Except.mapError,bind,Except.bind]
          split
          · rfl
          · split
            · rfl
            · by_cases same : afterLast '@' email = "" ∨ normalizeHost v (afterLast '@' email) false ≠ host
              · rw [if_pos same,if_neg fun there => address.mp there same]
                rfl
              · rw [if_neg same,if_pos (address.mpr same)]
                rfl

theorem platform_admits {hashCode : ClaimId → String → String} {o : Office} {l : Listing} {locked : Bool} {email : String}
    (eligible : Claims.domainEmailIneligibility (platform v hashCode) o l locked email = .ok none) :
    domainEmailIneligibility v l.projection.contact.website locked o.emailAvailable email = .ok none := by
  rw [platform_exact] at eligible
  cases answer : domainEmailIneligibility v l.projection.contact.website locked o.emailAvailable email with
  | error refused =>
      rw [answer] at eligible
      cases eligible
  | ok found =>
      rw [answer] at eligible
      exact congrArg Except.ok (Except.ok.inj eligible)

def form (host : String) : String := stripDots (ascii v (stripDots host))

def siteHost (host : String) : String := dropWww (form v (v.lower (Text.strip host)))

def OffPlatforms (host : String) : Prop := ∀ domain ∈ PLATFORM_HOSTS, host ≠ domain ∧ ¬Subdomain host domain

-- The address has one at sign, and what follows it is the website's host.
def ExactlyAt (host email : String) : Prop :=
  ∃ name domain, email = name ++ "@" ++ domain ∧ '@' ∉ name.toList ∧ '@' ∉ domain.toList ∧ form v (v.lower domain) = siteHost v host

def At (host email : String) : Prop :=
  ∃ name domain, email = name ++ "@" ++ domain ∧ '@' ∉ domain.toList ∧
    form v (cutPort (v.lower (Text.strip domain))) = siteHost v host

-- No IPv6 literal, and the codec leaves no dot at the end.
def Regular (host : String) : Prop :=
  ':' ∉ (v.lower (Text.strip host)).toList ∧ endsInDot (ascii v (stripDots (v.lower (Text.strip host)))) = false

theorem cutPort_plain {host : String} (plain : ':' ∉ host.toList) : cutPort host = host := by
  unfold cutPort Text.partition
  have kept : host.toList.takeWhile (· ≠ ':') = host.toList :=
    List.takeWhile_eq_self_iff.mpr fun c there => decide_eq_true fun same => plain (same ▸ there)
  rw [kept]
  exact String.ofList_toList

theorem normalizeHost_plain (host : String) : normalizeHost v host false = ascii v (stripDots (cutPort (v.lower (Text.strip host)))) := by
  unfold normalizeHost
  by_cases blank : v.lower (Text.strip host) = ""
  · rw [if_pos blank,blank]
    unfold ascii
    have none_ : stripDots (cutPort "") = "" := rfl
    rw [none_,v.empty]
    rfl
  · rw [if_neg blank]
    exact if_neg Bool.false_ne_true

theorem dropWww_plain {host : String} (plain : endsInDot host = false) : endsInDot (dropWww host) = false := by
  unfold dropWww
  split
  · next starts =>
      obtain ⟨rest,whole⟩ := starts
      have left : host.toList.drop 4 = rest := by
        rw [← whole]
        rfl
      unfold endsInDot at plain ⊢
      rw [left,String.toList_ofList]
      rw [← whole] at plain
      cases rest with
      | nil => cases plain
      | cons c more =>
          rw [List.getLast?_append_cons] at plain
          exact plain
  · exact plain

theorem normalizeHost_site {host : String} (regular : Regular v host) : normalizeHost v host true = siteHost v host := by
  obtain ⟨colonless,plain⟩ := regular
  have site : siteHost v host = dropWww (ascii v (stripDots (v.lower (Text.strip host)))) := by
    unfold siteHost form
    rw [stripDots_plain plain]
  rw [site]
  unfold normalizeHost
  by_cases blank : v.lower (Text.strip host) = ""
  · rw [if_pos blank,blank]
    unfold ascii
    have none_ : stripDots "" = "" := rfl
    rw [none_,v.empty]
    rfl
  · rw [if_neg blank,cutPort_plain colonless]
    exact if_pos rfl

theorem domainEmailHost_off {website : Option String} {host : String} (found : domainEmailHost v website = .ok (some host)) :
    ∃ seen, websiteHost v website = .ok (some seen) ∧ host = normalizeHost v seen true ∧ OffPlatforms host := by
  obtain ⟨read,there,rest⟩ := Fallible.bind_exact.mp found
  cases read with
  | none => cases rest
  | some seen =>
      dsimp only at rest
      split at rest
      · cases rest
      · next other =>
          split at rest
          · cases rest
          · next apart =>
              cases rest
              refine ⟨seen,there,rfl,fun domain listed => ⟨fun same => other (same ▸ listed),fun below => apart ?_⟩⟩
              exact List.any_eq_true.mpr ⟨domain,(mem_parents _ _).mpr below,decide_eq_true listed⟩

def Admitted (website : Option String) (email : String) : Prop :=
  ∃ host, websiteHost v website = .ok (some host) ∧
    (Regular v host → OffPlatforms (siteHost v host) ∧ ('@' ∈ email.toList → At v host email))

theorem eligible_admitted {website : Option String} {locked available : Bool} {email : String}
    (eligible : domainEmailIneligibility v website locked available email = .ok none) : Admitted v website email := by
  obtain ⟨found,there,rest⟩ := Fallible.bind_exact.mp eligible
  cases found with
  | none => cases rest
  | some host =>
      dsimp only at rest
      split at rest
      · cases rest
      split at rest
      · cases rest
      split at rest
      · cases rest
      next same =>
        have equal : normalizeHost v (afterLast '@' email) false = host :=
          Decidable.byContradiction fun differs => same (.inr differs)
        obtain ⟨seen,read,is,off⟩ := domainEmailHost_off v there
        refine ⟨seen,read,fun regular => ?_⟩
        rw [is,normalizeHost_site v regular] at equal off
        refine ⟨off,fun signed => ?_⟩
        obtain ⟨name,whole⟩ := afterLast_append signed
        refine ⟨name,afterLast '@' email,whole,afterLast_plain '@' email,?_⟩
        have plain : endsInDot (siteHost v seen) = false := by
          unfold siteHost form
          rw [stripDots_plain regular.2]
          exact dropWww_plain regular.2
        unfold form
        rw [← normalizeHost_plain,equal,stripDots_plain plain]

theorem at_exact {host name domain : String} (single : '@' ∉ name.toList) (plain : '@' ∉ domain.toList)
    (solid : Text.strip domain = domain) (portless : ':' ∉ (v.lower domain).toList) :
    At v host (name ++ "@" ++ domain) ↔ ExactlyAt v host (name ++ "@" ++ domain) := by
  have domains : ∀ name' domain', '@' ∉ domain'.toList → name ++ "@" ++ domain = name' ++ "@" ++ domain' → domain' = domain := by
    intro name' domain' plain' same
    have mine := afterLast_join name plain
    rw [same] at mine
    exact (afterLast_join name' plain').symm.trans mine
  constructor
  · intro at_
    obtain ⟨name',domain',same,plain',equal⟩ := at_
    rw [domains name' domain' plain' same,solid,cutPort_plain portless] at equal
    exact ⟨name,domain,rfl,single,plain,equal⟩
  · intro exactly
    obtain ⟨name',domain',same,_,plain',equal⟩ := exactly
    rw [domains name' domain' plain' same] at equal
    refine ⟨name,domain,rfl,plain,?_⟩
    rw [solid,cutPort_plain portless]
    exact equal

-- The website has a host that is no platform's, and the address is at it and has one at sign.
def SoundlyAt (website : Option String) (email : String) : Prop :=
  ∃ host, websiteHost v website = .ok (some host) ∧ OffPlatforms (siteHost v host) ∧ ExactlyAt v host email

theorem eligible_soundly {website : Option String} {locked available : Bool} {host name domain : String}
    (read : websiteHost v website = .ok (some host)) (regular : Regular v host) (single : '@' ∉ name.toList)
    (plain : '@' ∉ domain.toList) (solid : Text.strip domain = domain) (portless : ':' ∉ (v.lower domain).toList)
    (eligible : domainEmailIneligibility v website locked available (name ++ "@" ++ domain) = .ok none) :
    SoundlyAt v website (name ++ "@" ++ domain) := by
  obtain ⟨host',read',admits⟩ := eligible_admitted v eligible
  cases Option.some.inj (Except.ok.inj (read.symm.trans read'))
  obtain ⟨off,at_⟩ := admits regular
  refine ⟨host,read,off,(at_exact v single plain solid portless).mp (at_ ?_)⟩
  rw [String.toList_append,String.toList_append]
  exact List.mem_append_left _ (List.mem_append_right _ (List.mem_singleton.mpr rfl))

end eligibility

section runs

variable (v : Library) (hashCode : ClaimId → String → String) (t : Tables)

def reach (actions : List (Action Command)) : State := Runs.run (step (platform v hashCode)) (RowLocks.start t) actions

def SendsAdmitted (actions : List (Action Command)) (action : Action Command) : Prop :=
  let before := CodeMail.sent (reach v hashCode t actions).store
  let after := step (platform v hashCode) (reach v hashCode t actions) action
  CodeMail.sent after.store = before ∨
    ∃ c ∈ after.store.claims, ∃ code expiresAt l earlier, earlier <+: actions ∧
      (reach v hashCode t earlier).store.listings c.listing = some l ∧
      Admitted v l.projection.contact.website c.claimant.email ∧
      CodeMail.sent after.store = (⟨c.publicId,code,expiresAt⟩ :: before.1,before.2 ++ [c.claimant.email])

def SentFirst (s : State) : Prop :=
  ∀ c ∈ s.store.claims, ∀ h, c.codeHash = some h → ∃ k ∈ (CodeMail.sent s.store).1, k.claim = c.publicId ∧ h = hashCode c.publicId k.code

theorem domain_email_sound :
    (∀ website locked available email, domainEmailIneligibility v website locked available email = .ok none →
      Admitted v website email) ∧
    (∀ website locked available host name domain, websiteHost v website = .ok (some host) → Regular v host →
      '@' ∉ name.toList → '@' ∉ domain.toList → Text.strip domain = domain → ':' ∉ (v.lower domain).toList →
      domainEmailIneligibility v website locked available (name ++ "@" ++ domain) = .ok none →
      SoundlyAt v website (name ++ "@" ++ domain)) ∧
    ∀ t, Fresh t → ∀ actions, SentFirst hashCode (reach v hashCode t actions) ∧ ∀ action, SendsAdmitted v hashCode t actions action := by
  refine ⟨fun _ _ _ _ => eligible_admitted v,fun _ _ _ _ _ _ read regular => eligible_soundly v read regular,
    fun t fresh actions => ⟨?_,fun action => ?_⟩⟩
  · intro c present h hashed
    have sound := Runs.run_invariant (step (platform v hashCode)) step_sound
      (start_valid t (fresh_consistent (platform v hashCode) fresh)) actions
    obtain ⟨k,newest,matches_,_⟩ := sound.store.live c present h hashed
    unfold newestCode at newest
    have named := List.find?_some newest
    exact ⟨k,List.mem_of_find?_eq_some newest,of_decide_eq_true named,matches_⟩
  · refine (CodeMail.run_posts (platform v hashCode) fresh actions action).imp_right fun posts => ?_
    obtain ⟨c,present,code,expiresAt,o,l,earlier,start,row,eligible,shown⟩ := posts
    exact ⟨c,present,code,expiresAt,l,earlier,start,row,eligible_admitted v (platform_admits v eligible),shown⟩

end runs

section example_addresses

def exampleLibrary : Library where
  lower := fun text => text
  hostname := fun url => .ok (some (String.ofList (url.toList.drop 8)))
  idna := some
  empty := rfl

def exampleSite : Option String := some "https://example.com"

theorem example_host : websiteHost exampleLibrary exampleSite = .ok (some "example.com") := Fallible.of_toOption (by decide +kernel)

def Slips (email : String) : Prop :=
  domainEmailIneligibility exampleLibrary exampleSite false true email = .ok none ∧ ¬SoundlyAt exampleLibrary exampleSite email

-- A quoted at sign, a port, a blank: all are taken for an address at the host.
theorem address_forms_fail : Slips "\"dana@home\"@example.com" ∧ Slips "dana@example.com:25" ∧ Slips "dana@ example.com" := by
  have misses : ∀ name domain, '@' ∉ domain.toList → afterLast '@' (name ++ "@" ++ domain) = domain :=
    fun name domain plain => afterLast_join name plain
  refine ⟨⟨Fallible.of_toOption (by decide +kernel),fun sound => ?_⟩,⟨Fallible.of_toOption (by decide +kernel),fun sound => ?_⟩,
    ⟨Fallible.of_toOption (by decide +kernel),fun sound => ?_⟩⟩
  · obtain ⟨_,_,_,name,domain,same,single,plain,_⟩ := sound
    have signs := congrArg (fun text => text.toList.count '@') same
    simp only [String.toList_append,List.count_append,List.count_eq_zero_of_not_mem single,List.count_eq_zero_of_not_mem plain] at signs
    exact absurd signs (by decide)
  · obtain ⟨seen,read,_,name,domain,same,_,plain,equal⟩ := sound
    cases Option.some.inj (Except.ok.inj (example_host.symm.trans read))
    rw [← misses name domain plain,← same] at equal
    exact absurd equal (by decide)
  · obtain ⟨seen,read,_,name,domain,same,_,plain,equal⟩ := sound
    cases Option.some.inj (Except.ok.inj (example_host.symm.trans read))
    rw [← misses name domain plain,← same] at equal
    exact absurd equal (by decide)

theorem dana_sound : SoundlyAt exampleLibrary exampleSite "dana@example.com" :=
  (domain_email_sound exampleLibrary fun _ code => code).2.1 exampleSite false true "example.com" "dana" "example.com" example_host
    ⟨by decide +kernel,by decide +kernel⟩ (by decide) (by decide) (by decide +kernel) (by decide) (Fallible.of_toOption (by decide +kernel))

end example_addresses

end Osds.Claims.DomainEmail
