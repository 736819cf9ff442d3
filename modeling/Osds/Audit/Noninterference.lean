import Osds.Audit.PersonalData
import Osds.Lib.Lists

namespace Osds.Audit
open Directory

variable {types : List ListingType} {granted : Granted} {marked : List String}

-- Event types whose payload holds nothing that the classification overlooks.
section sealed_

theorem nullPath_consent (trail : String) (consent : List ConsentEntry) (m : Bool) :
    nullPath ["*","ip"] trail (consentJson consent) =
      nullPath ["*","ip"] trail (consentJson (consent.map (blankConsent ⟨false,m⟩))) := by
  unfold consentJson
  rw [nullPath,nullPath]
  simp only [List.map_map,Function.comp_def]
  rfl

theorem map_blankConsent (consent : List ConsentEntry) (m : Bool) : consent.map (blankConsent ⟨true,m⟩) = consent :=
  List.map_id' consent

theorem claimSubmitted_view (m : Bool) (claim claimantId role : Json) : ∃ view : Withheld → Withheld,
    ∀ name email phone consent, redactData ⟨false,m⟩ marked .claimSubmitted
      [("claim",claim),("claimant",.obj [("id",claimantId),("name",name),("email",email),("phone_e164",phone),
        ("role_claimed",role)]),("consent",consent)] =
      view (nullPath ["*","ip"] ("" ++ "consent" ++ ".") consent) :=
  ⟨fun w => (.obj [("claim",claim),("claimant",.obj [("id",claimantId),("name",.null),("email",.null),
      ("phone_e164",.null),("role_claimed",role)]),("consent",w.1)],
    ["" ++ "claimant" ++ "." ++ "name","" ++ "claimant" ++ "." ++ "email","" ++ "claimant" ++ "." ++ "phone_e164"] ++
      (w.2 ++ [])),fun _ _ _ _ => rfl⟩

theorem claimSubmitted_sealed :
    redactData granted marked .claimSubmitted (Payload.claimSubmitted claim claimantId name email phone role consent).data =
      redactData granted marked .claimSubmitted
        (blank types granted (.claimSubmitted claim claimantId name email phone role consent)).data := by
  obtain ⟨c,m⟩ := granted
  cases c with
  | true =>
      have same := map_blankConsent consent m
      rw [blank,same]
      rfl
  | false =>
      obtain ⟨view,shape⟩ := claimSubmitted_view m claim.json (.str claimantId) (.str role)
      have read := nullPath_consent ("" ++ "consent" ++ ".") consent m
      exact (shape ..).trans ((congrArg view read).trans (shape ..).symm)

theorem leadCaptured_view (m : Bool) (leadId kind score listingId page : Json) : ∃ view : Json → Withheld → Withheld,
    ∀ name email phone message consent, redactData ⟨false,m⟩ marked .leadCaptured
      [("lead",.obj [("id",leadId),("kind",kind),("name",name),("email",email),("phone_e164",phone),
        ("message",message),("spam_score",score)]),("listing_id",listingId),("source_page",page),("consent",consent)] =
      view (if m then message else .null) (nullPath ["*","ip"] ("" ++ "consent" ++ ".") consent) := by
  let named := ["" ++ "lead" ++ "." ++ "name","" ++ "lead" ++ "." ++ "email","" ++ "lead" ++ "." ++ "phone_e164"]
  refine ⟨fun message w => (.obj [("lead",.obj [("id",leadId),("kind",kind),("name",.null),("email",.null),
      ("phone_e164",.null),("message",message),("spam_score",score)]),("listing_id",listingId),("source_page",page),
      ("consent",w.1)],named ++ (if m then [] else ["" ++ "lead" ++ "." ++ "message"]) ++ (w.2 ++ [])),?_⟩
  intro name email phone message consent
  cases m <;> rfl

theorem leadCaptured_sealed : redactData granted marked .leadCaptured
      (Payload.leadCaptured leadId kind name email phone message score listingId page consent).data =
    redactData granted marked .leadCaptured
      (blank types granted (.leadCaptured leadId kind name email phone message score listingId page consent)).data := by
  obtain ⟨c,m⟩ := granted
  cases c with
  | true =>
      have same := map_blankConsent consent m
      rw [blank,same]
      cases m <;> rfl
  | false =>
      obtain ⟨view,shape⟩ := leadCaptured_view m (.str leadId) (.str kind) (.num score) (.str listingId) (.str page)
      have read := nullPath_consent ("" ++ "consent" ++ ".") consent m
      refine (shape ..).trans (Eq.trans ?_ (shape ..).symm)
      rw [read]
      cases m <;> rfl

theorem claimApproved_sealed : redactData granted marked .claimApproved
      (Payload.claimApproved claimId listingId method transfer notified approval).data =
    redactData granted marked .claimApproved
      (blank types granted (.claimApproved claimId listingId method transfer notified approval)).data := by
  obtain ⟨c,m⟩ := granted
  cases approval with
  | manual => cases m <;> rfl
  | verified => cases m <;> rfl

end sealed_

section ops

theorem opJson_cases (op : PatchOp) : (∀ f, mapValue f op = op) ∧ opJson op = .obj [("op",.str "remove"),("path",.str (opPath op))] ∨
    ∃ kind value, opJson op = .obj [("op",kind),("path",.str (opPath op)),("value",value)] ∧
      ∀ f, opJson (mapValue f op) = .obj [("op",kind),("path",.str (opPath op)),("value",f value)] := by
  cases op with
  | remove path => exact .inl ⟨fun _ => rfl,rfl⟩
  | add path value => exact .inr ⟨.str "add",value,rfl,fun _ => rfl⟩
  | replace path value => exact .inr ⟨.str "replace",value,rfl,fun _ => rfl⟩
  | removed path value => exact .inr ⟨.str "remove",value,rfl,fun _ => rfl⟩

theorem opPath_mapValue (f : Json → Json) (op : PatchOp) : opPath (mapValue f op) = opPath op := by
  cases op <;> rfl

theorem opPath_blank : opPath (blankOp granted marked op) = opPath op := by
  unfold blankOp
  split
  · exact opPath_mapValue _ op
  · split
    · exact opPath_mapValue _ op
    · split
      · exact opPath_mapValue _ op
      · rfl

theorem setNull_idem (keys : List String) (fields : Fields) : setNull keys (setNull keys fields) = setNull keys fields := by
  unfold setNull
  rw [List.map_map]
  apply List.map_congr_left
  intro field _
  by_cases marked : field.1 ∈ keys
  · simp [marked]
  · simp [marked]

theorem held_setNull (keys : List String) (fields : Fields) : held keys (setNull keys fields) = held keys fields := by
  have names : (setNull keys fields).map (·.1) = fields.map (·.1) := by
    unfold setNull
    rw [List.map_map]
    apply List.map_congr_left
    intro field _
    dsimp only [Function.comp_apply]
    split <;> rfl
  unfold held
  rw [names]

variable (rules : List (String × Scope)) (n : Nat)

theorem redactOp_withheld (kind value : Json) (withheld : opWithheld rules granted marked path = true) :
    redactOp rules granted marked n (.obj [("op",kind),("path",.str path),("value",value)]) =
      (.obj [("op",kind),("path",.str path),("value",.null)],["changes[" ++ toString n ++ "].value"]) := by
  simp [redactOp,opText,List.lookup_cons,withheld,setField]

theorem redactOp_inside (kind value : Json) (kept : opWithheld rules granted marked "/custom_fields" = false)
    (hides : granted.contact = false) :
    redactOp rules granted marked n (.obj [("op",kind),("path",.str "/custom_fields"),("value",nullInside marked value)]) =
      redactOp rules granted marked n (.obj [("op",kind),("path",.str "/custom_fields"),("value",value)]) := by
  cases value with
  | obj custom => simp [redactOp,opText,List.lookup_cons,kept,hides,setField,nullInside,setNull_idem,held_setNull]
  | _ => rfl

theorem redactOp_untouched (op : PatchOp) (kept : opWithheld rules granted marked (opPath op) = false)
    (elsewhere : opPath op ≠ "/custom_fields") : redactOp rules granted marked n (opJson op) = (opJson op,[]) := by
  rcases opJson_cases op with ⟨_,removed⟩ | ⟨kind,value,shape,_⟩
  · rw [removed]
    rfl
  · rw [shape]
    simp [redactOp,opText,List.lookup_cons,kept,elsewhere]

end ops

-- The pointers whose values the rules of `listing.updated` withhold.
section pointers

theorem notes_kept : opWithheld [("/contact",.contact)] granted marked notesPointer = false := by
  have contact : under notesPointer "/contact" = false := by decide
  have custom : "/custom_fields/".toList.isPrefixOf notesPointer.toList = false := by decide
  simp only [opWithheld,List.any_cons,List.any_nil,contact,custom,Bool.false_and,Bool.and_false,Bool.or_false]

theorem thirdPart_custom {key : String} (plain : '/' ∉ key.toList) : thirdPart ("/custom_fields/" ++ key) = some key := by
  have parts : ("/custom_fields/" ++ key).toList.splitOn '/' = [[],"custom_fields".toList,key.toList] := by
    have whole : ("/custom_fields/" ++ key).toList = [] ++ '/' :: ("custom_fields".toList ++ '/' :: key.toList) := by
      simp [String.toList_append]
    rw [whole,List.splitOn_append_cons_self_of_not_mem (by simp),List.splitOn_append_cons_self_of_not_mem (by decide),
      List.splitOn_eq_singleton plain]
  unfold thirdPart
  rw [parts]
  simp

theorem guarded_withheld (safe : ∀ key ∈ marked, '/' ∉ key.toList) (hides : granted.contact = false)
    (guarded : (inContact path || inPrivateField marked path) = true) :
    opWithheld [("/contact",.contact)] granted marked path = true := by
  rcases Bool.or_eq_true _ _ |>.mp guarded with contact | private_
  · have below : under path "/contact" = true := by
      have joined : "/contact" ++ "/" = "/contact/" := by decide
      unfold inContact at contact
      unfold under
      rw [joined]
      simpa using contact
    simp [opWithheld,below,Granted.has,hides]
  · obtain ⟨key,member,pointer⟩ := List.any_eq_true.mp private_
    have path_ : path = "/custom_fields/" ++ key := of_decide_eq_true pointer
    have third := thirdPart_custom (safe key member)
    have prefixed : "/custom_fields/".toList.isPrefixOf ("/custom_fields/" ++ key).toList = true := by
      rw [String.toList_append]
      exact List.isPrefixOf_iff_prefix.mpr (List.prefix_append ..)
    rw [path_]
    simp only [opWithheld,third,prefixed,hides]
    simp [member]

end pointers

-- The operations of `listing.updated`.
section listingUpdated

def seenOp (granted : Granted) (marked : List String) (n : Nat) (op : PatchOp) : Withheld :=
  redactOp [("/contact",.contact)] granted marked n (opJson op)

def leakedOp (op : PatchOp) : Json := if opPath op = notesPointer then opJson op else .null

theorem seenOp_notes (notes : opPath op = notesPointer) : seenOp granted marked n op = (opJson op,[]) := by
  have kept : opWithheld [("/contact",.contact)] granted marked (opPath op) = false := notes ▸ notes_kept
  refine redactOp_untouched _ n op kept ?_
  rw [notes]
  decide

theorem seenOp_blank (safe : ∀ key ∈ marked, '/' ∉ key.toList) (other : opPath op ≠ notesPointer) :
    seenOp granted marked n op = seenOp granted marked n (blankOp granted marked op) := by
  unfold blankOp
  split
  · next guarded =>
      rw [Bool.and_eq_true,Bool.not_eq_true'] at guarded
      have withheld := guarded_withheld safe guarded.1 guarded.2
      rcases opJson_cases op with ⟨same,_⟩ | ⟨kind,value,shape,mapped⟩
      · rw [same]
      · unfold seenOp
        rw [shape,mapped,redactOp_withheld _ n kind value withheld,redactOp_withheld _ n kind .null withheld]
  · split
    · next inside =>
        simp only [Bool.and_eq_true,Bool.not_eq_true',decide_eq_true_eq] at inside
        rcases opJson_cases op with ⟨same,_⟩ | ⟨kind,value,shape,mapped⟩
        · rw [same]
        · unfold seenOp
          rw [shape,mapped,inside.2]
          cases kept : opWithheld [("/contact",.contact)] granted marked "/custom_fields" with
          | true => rw [redactOp_withheld _ n kind value kept,redactOp_withheld _ n kind _ kept]
          | false => exact (redactOp_inside _ n kind value kept inside.1).symm
    · split
      · next notes =>
          simp only [Bool.and_eq_true,decide_eq_true_eq] at notes
          exact absurd notes.2 other
      · rfl

theorem seenOp_leaks (safe : ∀ key ∈ marked, '/' ∉ key.toList) (n : Nat) :
    Noninterference.Leaks (fun op => (seenOp granted marked n op).1) (blankOp granted marked) leakedOp := by
  intro one two alike
  have path : opPath one = opPath two := by
    rw [← @opPath_blank granted marked one,← @opPath_blank granted marked two,alike]
  by_cases notes : opPath one = notesPointer
  · have notesToo : opPath two = notesPointer := path ▸ notes
    simp only [seenOp_notes notes,seenOp_notes notesToo,leakedOp,if_pos notes,if_pos notesToo]
  · have notesNot : opPath two ≠ notesPointer := path ▸ notes
    simp only [leakedOp,if_neg notes,if_neg notesNot,iff_true]
    rw [seenOp_blank safe notes,seenOp_blank safe notesNot,alike]

theorem seenOp_trail (safe : ∀ key ∈ marked, '/' ∉ key.toList) (n : Nat) (op : PatchOp) :
    (seenOp granted marked n op).2 = (seenOp granted marked n (blankOp granted marked op)).2 := by
  by_cases notes : opPath op = notesPointer
  · have still : opPath (blankOp granted marked op) = notesPointer := opPath_blank.trans notes
    rw [seenOp_notes notes,seenOp_notes still]
  · rw [seenOp_blank safe notes]

theorem listingUpdated_view (changes : List PatchOp) (type : String) :
    redactData granted marked .listingUpdated (Payload.listingUpdated changes type).data =
      (.obj [("changes",.arr (changes.mapIdx fun n op => (seenOp granted marked n op).1)),("type",.str type)],
        (changes.mapIdx fun n op => (seenOp granted marked n op).2).flatten) := by
  have visited := Lists.mapIdx_map changes opJson (redactOp [("/contact",.contact)] granted marked)
  have values := Lists.map_mapIdx changes (seenOp granted marked) (·.1)
  have trails := Lists.map_mapIdx changes (seenOp granted marked) (·.2)
  unfold seenOp at values trails ⊢
  rw [← values,← trails,← visited]
  obtain ⟨c,m⟩ := granted
  cases c <;> rfl

theorem listingUpdated_leaks (safe : ∀ key ∈ marked, '/' ∉ key.toList)
    (alike : changes.map (blankOp granted marked) = others.map (blankOp granted marked)) :
    ((redactData granted marked .listingUpdated (Payload.listingUpdated changes type).data).1 =
      (redactData granted marked .listingUpdated (Payload.listingUpdated others type).data).1 ↔
        changes.map leakedOp = others.map leakedOp) ∧
      (redactData granted marked .listingUpdated (Payload.listingUpdated changes type).data).2 =
        (redactData granted marked .listingUpdated (Payload.listingUpdated others type).data).2 := by
  have exact_ := Noninterference.leaks_mapIdx (seenOp_leaks safe) changes others alike
  have trails : ∀ ops : List PatchOp, (ops.mapIdx fun n op => (seenOp granted marked n op).2) =
      (ops.map (blankOp granted marked)).mapIdx fun n op => (seenOp granted marked n op).2 := by
    intro ops
    rw [Lists.mapIdx_map]
    exact congrArg (fun view => ops.mapIdx view) (funext fun n => funext fun op => seenOp_trail safe n op)
  rw [listingUpdated_view,listingUpdated_view]
  constructor
  · rw [← exact_]
    simp
  · dsimp only
    rw [trails changes,trails others,alike]

end listingUpdated

-- The events that carry a listing's projection.
section projection

theorem ofOption_str_injective (same : Json.ofOption .str a = Json.ofOption .str b) : a = b := by
  cases a with
  | none =>
      cases b with
      | none => rfl
      | some text => cases same
  | some text =>
      cases b with
      | none => cases same
      | some other =>
          cases same
          rfl

def lookupField (key : String) : Json → Option Json
  | .obj fields => fields.lookup key
  | _ => none

theorem listingCreated_withheld (m : Bool) (p : Projection) (type : String) :
    redactData ⟨false,m⟩ marked .listingCreated (Payload.listingCreated p type).data =
      (.obj [("slug",.str p.slug),
        ("name",.str p.name),
        ("description",.ofOption .str p.description),
        ("categories",.arr (p.categories.map .str)),
        ("location",p.location.json),
        ("contact",.null),
        ("external_profiles",.obj p.externalProfiles),
        ("attributes",.obj p.attributes),
        ("media",p.media),
        ("reviews_disabled",.bool p.reviewsDisabled),
        ("custom_fields",.obj (setNull marked p.customFields)),
        ("provenance",.obj [("source",.str p.source),("notes",.ofOption .str p.provenanceNotes)]),
        ("type",.str type)],
        ["" ++ "contact"] ++ (held marked p.customFields).map fun key => "custom_fields." ++ key) := rfl

theorem listingCreated_contactless (p : Projection) (type : String) :
    redactData granted marked .listingCreated (Payload.listingCreated p type).data =
      redactData granted marked .listingCreated (Payload.listingCreated (contactless granted marked p) type).data := by
  obtain ⟨c,m⟩ := granted
  cases c with
  | true => rfl
  | false =>
      rw [listingCreated_withheld,listingCreated_withheld]
      simp [contactless,setNull_idem,held_setNull]

theorem listingCreated_provenance (p : Projection) (type : String) :
    lookupField "provenance" (redactData granted marked .listingCreated (Payload.listingCreated p type).data).1 =
      some (.obj [("source",.str p.source),("notes",.ofOption .str p.provenanceNotes)]) := by
  obtain ⟨c,m⟩ := granted
  cases c <;> rfl

theorem contactless_notes (p : Projection) : (contactless granted marked p).provenanceNotes = p.provenanceNotes := by
  unfold contactless
  split <;> rfl

theorem contactless_alike (alike : blankProjection granted marked p = blankProjection granted marked q)
    (notes : p.provenanceNotes = q.provenanceNotes) : contactless granted marked p = contactless granted marked q := by
  have kept : ∀ r : Projection, contactless granted marked r =
      {blankProjection granted marked r with provenanceNotes := r.provenanceNotes} := by
    intro r
    unfold blankProjection
    rw [← @contactless_notes granted marked r]
  rw [kept p,kept q,alike,notes]

theorem listingCreated_leaks (alike : blankProjection granted marked p = blankProjection granted marked q) :
    ((redactData granted marked .listingCreated (Payload.listingCreated p type).data).1 =
      (redactData granted marked .listingCreated (Payload.listingCreated q type).data).1 ↔
        overlooked (.listingCreated p type) = overlooked (.listingCreated q type)) ∧
      (redactData granted marked .listingCreated (Payload.listingCreated p type).data).2 =
        (redactData granted marked .listingCreated (Payload.listingCreated q type).data).2 := by
  refine ⟨⟨?_,?_⟩,?_⟩
  · intro seen
    have provenance := congrArg (lookupField "provenance") seen
    rw [listingCreated_provenance,listingCreated_provenance] at provenance
    simp only [Option.some.injEq,Json.obj.injEq,List.cons.injEq,Prod.mk.injEq,true_and,and_true] at provenance
    simp [overlooked,provenance.2]
  · intro same
    have notes : p.provenanceNotes = q.provenanceNotes := ofOption_str_injective (by simpa [overlooked] using same)
    rw [listingCreated_contactless p,listingCreated_contactless q,contactless_alike alike notes]
  · obtain ⟨c,m⟩ := granted
    cases c with
    | true => rfl
    | false =>
        have fields : setNull marked p.customFields = setNull marked q.customFields :=
          congrArg Projection.customFields alike
        rw [listingCreated_withheld,listingCreated_withheld]
        dsimp only
        rw [← held_setNull marked p.customFields,fields,held_setNull]

def bare (p : Projection) : Projection :=
  {p with contact := ⟨none,none,none,[]⟩,customFields := [],provenanceNotes := none}

theorem bare_blank (granted : Granted) (marked : List String) (p : Projection) :
    bare p = bare (blankProjection granted marked p) := by
  unfold blankProjection contactless
  split <;> rfl

theorem listingPublished_leaks (alike : blankProjection granted marked p = blankProjection granted marked q) :
    (redactData granted other .listingPublished (Payload.listingPublished before type p).data).1 =
      (redactData granted other .listingPublished (Payload.listingPublished before type q).data).1 ↔
        overlooked (.listingPublished before type p) = overlooked (.listingPublished before type q) := by
  have view : ∀ r : Projection, (redactData granted other .listingPublished (Payload.listingPublished before type r).data).1 =
      .obj (Payload.listingPublished before type r).data := fun r => rfl
  rw [view p,view q]
  constructor
  · intro seen
    have contact : some p.contact.json = some q.contact.json := congrArg (lookupField "contact") seen
    have custom : some (Json.obj p.customFields) = some (.obj q.customFields) := congrArg (lookupField "custom_fields") seen
    have provenance : some (Json.obj [("source",.str p.source),("notes",.ofOption .str p.provenanceNotes)]) =
      some (.obj [("source",.str q.source),("notes",.ofOption .str q.provenanceNotes)]) :=
        congrArg (lookupField "provenance") seen
    simp only [Option.some.injEq,Json.obj.injEq,List.cons.injEq,Prod.mk.injEq,true_and,and_true] at contact custom provenance
    simp [overlooked,contact,custom,provenance.2]
  · intro same
    simp only [overlooked,List.cons.injEq,Json.obj.injEq,and_true] at same
    obtain ⟨contact,custom,notes⟩ := same
    have whole : ∀ r : Projection, r.fields = setField "contact" r.contact.json (setField "custom_fields"
        (.obj r.customFields) (setField "provenance" (.obj [("source",.str (bare r).source),
          ("notes",.ofOption .str r.provenanceNotes)]) (bare r).fields)) := fun r => rfl
    have bares : bare p = bare q := by rw [bare_blank granted marked p,bare_blank granted marked q,alike]
    have fields : p.fields = q.fields := by
      rw [whole p,whole q,contact,custom,ofOption_str_injective notes,bares]
    exact congrArg (fun fields => Json.obj ([("from",.str before),("type",.str type)] ++ fields)) fields

end projection

theorem billingRefundIssued_leaks :
    (redactData granted marked .billingRefundIssued (Payload.billingRefundIssued listingId amount currency reason).data).1 =
      (redactData granted marked .billingRefundIssued (Payload.billingRefundIssued listingId amount currency reason').data).1 ↔
        reason = reason' := by
  constructor
  · intro seen
    have field : some (Json.str reason) = some (.str reason') := congrArg (lookupField "reason") seen
    cases field
    rfl
  · intro same
    rw [same]

def drainMarks (types : List ListingType) : Payload → List String
  | .listingCreated _ type => privateKeys types type
  | .listingUpdated _ type => privateKeys types type
  | _ => []

theorem field_named (f : FieldDescriptor) : f.key ≠ "" := by
  intro empty
  have keyed := f.keyed
  rw [empty] at keyed
  cases keyed

theorem markedPrivate_exact (types : List ListingType) (type : String) : markedPrivate types type = privateKeys types type := by
  unfold markedPrivate privateKeys
  by_cases named : type = ""
  · have none_ : types.find? (fun t => type ≠ "" && t.key = type) = none := by
      refine List.find?_eq_none.mpr fun t _ => ?_
      rw [named]
      exact Bool.false_ne_true
    rw [if_pos named,none_]
    rfl
  · have same : (fun t : ListingType => decide (type ≠ "") && decide (t.key = type)) = fun t => decide (t.key = type) := by
      funext t
      rw [decide_eq_true named,Bool.true_and]
    rw [if_neg named,same]
    cases types.find? (·.key = type) with
    | none => rfl
    | some t =>
        have each : t.fields.filter (fun f => f.key ≠ "" && !f.isPublic) = t.fields.filter (!·.isPublic) :=
          List.filter_congr fun f _ => by rw [decide_eq_true (field_named f),Bool.true_and]
        exact congrArg (List.map (·.key)) each

theorem privateCustomFields_exact (types : List ListingType) (e : OutboxRow) :
    privateCustomFields types e = drainMarks types e.payload := by
  unfold privateCustomFields OutboxEvent.type
  cases e.payload with
  | listingCreated _ type | listingUpdated _ type => exact markedPrivate_exact types type
  | _ => rfl

theorem drainMarks_blank (types : List ListingType) (granted : Granted) (p : Payload) :
    drainMarks types (blank types granted p) = drainMarks types p := by
  cases p <;> rfl

theorem isFieldKey_plain {text : List Char} (keyed : isFieldKey text = true) : '/' ∉ text := by
  unfold isFieldKey at keyed
  intro slash
  have body : '/' ∈ (if text.getLast? = some '\n' then text.dropLast else text) := by
    split
    · next newline =>
        rw [← List.dropLast_append_getLast? _ newline,List.mem_append] at slash
        exact slash.resolve_right (by decide)
    · exact slash
  split at keyed
  · cases keyed
  · next first rest shape =>
      rw [shape] at body
      rw [Bool.and_eq_true] at keyed
      rcases List.mem_cons.mp body with same | later
      · rw [← same] at keyed
        exact absurd keyed.1 (by decide)
      · exact absurd (List.all_eq_true.mp keyed.2 _ later) (by decide)

theorem drainMarks_safe (types : List ListingType) (p : Payload) : ∀ key ∈ drainMarks types p, '/' ∉ key.toList := by
  have marked : ∀ type, ∀ key ∈ privateKeys types type, '/' ∉ key.toList := by
    intro type key member
    rw [← markedPrivate_exact] at member
    unfold markedPrivate at member
    split at member
    · cases member
    · split at member
      · cases member
      · obtain ⟨field,_,same⟩ := List.mem_map.mp member
        exact same ▸ isFieldKey_plain field.keyed
  cases p with
  | listingCreated projection type => exact marked type
  | listingUpdated changes type => exact marked type
  | _ => nofun

theorem tenantSettingsChanged_sealed (changes : List PatchOp) (changedBy : String) :
    redactData granted marked .tenantSettingsChanged (Payload.tenantSettingsChanged changes changedBy).data =
      redactData granted marked .tenantSettingsChanged
        (blank types granted (.tenantSettingsChanged changes changedBy)).data := by
  obtain ⟨c,m⟩ := granted
  cases c with
  | true => rfl
  | false =>
      have view : ∀ ops : List PatchOp, redactData ⟨false,m⟩ marked .tenantSettingsChanged
          (Payload.tenantSettingsChanged ops changedBy).data =
          (.obj [("changes",.arr (((ops.map opJson).mapIdx (redactOp [("/",.contact)] ⟨false,m⟩ marked)).map (·.1))),
            ("changed_by",.str changedBy)],
            [] ++ ((ops.map opJson).mapIdx (redactOp [("/",.contact)] ⟨false,m⟩ marked)).flatMap (·.2)) := fun ops => rfl
      have each : ∀ n op, redactOp [("/",.contact)] ⟨false,m⟩ marked n (opJson op) =
          redactOp [("/",.contact)] ⟨false,m⟩ marked n (opJson (mapValue (fun _ => .null) op)) := by
        intro n op
        cases op <;> rfl
      have visited : (changes.map opJson).mapIdx (redactOp [("/",.contact)] ⟨false,m⟩ marked) =
          ((changes.map (mapValue fun _ => .null)).map opJson).mapIdx (redactOp [("/",.contact)] ⟨false,m⟩ marked) := by
        rw [Lists.mapIdx_map,List.map_map,Lists.mapIdx_map]
        exact congrArg (fun seen => changes.mapIdx seen) (funext fun n => funext fun op => each n op)
      exact (view changes).trans (visited ▸ (view (changes.map (mapValue fun _ => .null))).symm)

theorem redactData_sealed (types : List ListingType) (clear : p.type ∉ Overlooking) :
    redactData granted marked p.type p.data = redactData granted marked p.type (blank types granted p).data := by
  cases p with
  | entitlementCanceled =>
      cases granted with
      | mk c m => cases m <;> rfl
  | entitlementOverridden =>
      cases granted with
      | mk c m => cases m <;> rfl
  | billingSubscriptionCanceled =>
      cases granted with
      | mk c m => cases m <;> rfl
  | billingRefundIssued => simp [Overlooking,Payload.type] at clear
  | listingCreated => simp [Overlooking,Payload.type] at clear
  | listingUpdated => simp [Overlooking,Payload.type] at clear
  | listingPublished => simp [Overlooking,Payload.type] at clear
  | claimSubmitted => exact claimSubmitted_sealed
  | claimApproved => exact claimApproved_sealed
  | claimRejected =>
      cases granted with
      | mk c m => cases m <;> rfl
  | userCreated =>
      cases granted with
      | mk c m => cases c <;> rfl
  | leadCaptured => exact leadCaptured_sealed
  | moderationDecided =>
      cases granted with
      | mk c m => cases m <;> rfl
  | importCompleted =>
      cases granted with
      | mk c m => cases c <;> rfl
  | staffInvited =>
      cases granted with
      | mk c m => cases c <;> rfl
  | tenantSettingsChanged changes changedBy => exact tenantSettingsChanged_sealed changes changedBy
  | _ => rfl

def attemptMarks (types : List ListingType) (granted : Granted) (p : Payload) : List String :=
  if granted.contact then [] else drainMarks types p

theorem attemptMarks_blank (types : List ListingType) (granted : Granted) (p : Payload) :
    attemptMarks types granted (blank types granted p) = attemptMarks types granted p := by
  unfold attemptMarks
  rw [drainMarks_blank]

theorem blankProjection_marks (p : Projection) :
    blankProjection granted (if granted.contact then [] else marked) p = blankProjection granted marked p := by
  obtain ⟨c,m⟩ := granted
  cases c <;> rfl

theorem blankOp_marks : blankOp granted (if granted.contact then [] else marked) = blankOp granted marked := by
  obtain ⟨c,m⟩ := granted
  cases c <;> rfl

theorem overlooked_clear (clear : p.type ∉ Overlooking) : overlooked p = [] := by
  cases p with
  | billingRefundIssued => simp [Overlooking,Payload.type] at clear
  | listingCreated => simp [Overlooking,Payload.type] at clear
  | listingUpdated => simp [Overlooking,Payload.type] at clear
  | listingPublished => simp [Overlooking,Payload.type] at clear
  | _ => rfl

section attempt

variable {p q : Payload}

def attemptData (types : List ListingType) (granted : Granted) (p : Payload) : Withheld :=
  redactData granted (attemptMarks types granted p) p.type p.data

theorem attemptData_sealed (clear : p.type ∉ Overlooking) :
    attemptData types granted p = attemptData types granted (blank types granted p) := by
  unfold attemptData
  rw [attemptMarks_blank,blank_type]
  exact redactData_sealed types clear

theorem attemptData_leaks (alike : blank types granted p = blank types granted q) :
    ((attemptData types granted p).1 = (attemptData types granted q).1 ↔ overlooked p = overlooked q) ∧
      (attemptData types granted p).2 = (attemptData types granted q).2 := by
  have sameType : p.type = q.type := by
    rw [← @blank_type types granted p,← @blank_type types granted q,alike]
  by_cases clear : p.type ∈ Overlooking
  · cases p with
    | billingRefundIssued listingId amount currency reason =>
        cases q with
        | billingRefundIssued _ _ _ other =>
            rw [blank,blank,Payload.billingRefundIssued.injEq] at alike
            obtain ⟨rfl,rfl,rfl,_⟩ := alike
            refine ⟨billingRefundIssued_leaks.trans ?_,rfl⟩
            simp [overlooked]
        | _ => cases sameType
    | listingPublished before type projection =>
        cases q with
        | listingPublished _ _ other =>
            rw [blank,blank,Payload.listingPublished.injEq] at alike
            obtain ⟨rfl,rfl,alike⟩ := alike
            exact ⟨listingPublished_leaks alike,rfl⟩
        | _ => cases sameType
    | listingCreated projection type =>
        cases q with
        | listingCreated other _ =>
            rw [blank,blank,Payload.listingCreated.injEq] at alike
            obtain ⟨alike,rfl⟩ := alike
            rw [← blankProjection_marks projection,← blankProjection_marks other] at alike
            exact listingCreated_leaks alike
        | _ => cases sameType
    | listingUpdated changes type =>
        cases q with
        | listingUpdated others _ =>
            rw [blank,blank,Payload.listingUpdated.injEq] at alike
            obtain ⟨alike,rfl⟩ := alike
            rw [← blankOp_marks] at alike
            refine listingUpdated_leaks ?_ alike
            intro key member
            unfold attemptMarks at member
            split at member
            · cases member
            · exact drainMarks_safe types (.listingUpdated changes type) key member
        | _ => cases sameType
    | _ => simp [Overlooking,Payload.type] at clear
  · have clearToo : q.type ∉ Overlooking := sameType ▸ clear
    rw [attemptData_sealed clear,attemptData_sealed clearToo,alike,overlooked_clear clear,overlooked_clear clearToo]
    exact ⟨⟨fun _ => rfl,fun _ => rfl⟩,rfl⟩

def frame (e : OutboxRow) : Fields := setField "data" .null (toWire e)

theorem frame_payload (e : OutboxRow) (sameType : p.type = q.type) :
    frame {e with payload := p} = frame {e with payload := q} := by
  have types : OutboxEvent.type {e with payload := p}.toOutboxEvent = OutboxEvent.type {e with payload := q}.toOutboxEvent :=
    sameType
  unfold frame toWire
  rw [types]
  split <;> rfl

theorem attemptEnvelope_frame (e : OutboxRow) : attemptEnvelope types granted {e with payload := p} =
    .obj (setField "data" (attemptData types granted p).1 (frame {e with payload := p}) ++
      [("redacted",.arr ((sortedSet (attemptData types granted p).2).map .str))]) := by
  unfold attemptEnvelope redact
  rw [privateCustomFields_exact]
  have refilled : ∀ (value : Json) (fields : Fields), setField "data" value (setField "data" .null fields) =
      setField "data" value fields := by
    intro value fields
    unfold setField
    rw [List.map_map]
    apply List.map_congr_left
    intro field _
    by_cases named : field.1 = "data" <;> simp [named]
  unfold frame
  rw [refilled]
  rfl

theorem attemptEnvelope_data (e : OutboxRow) : lookupField "data" (attemptEnvelope types granted {e with payload := p}) =
    some (attemptData types granted p).1 := by
  rw [attemptEnvelope_frame]
  rfl

-- One subscriber, one envelope, two payloads that differ only in personal data
-- outside its scopes.
theorem redaction_noninterference (types : List ListingType) (granted : Granted) (e : OutboxRow) (p q : Payload)
    (alike : blank types granted p = blank types granted q) :
    attemptEnvelope types granted {e with payload := p} = attemptEnvelope types granted {e with payload := q} ↔
      overlooked p = overlooked q := by
  have sameType : p.type = q.type := by
    rw [← @blank_type types granted p,← @blank_type types granted q,alike]
  have leaks := attemptData_leaks alike
  constructor
  · intro seen
    have data := congrArg (lookupField "data") seen
    rw [attemptEnvelope_data,attemptEnvelope_data,Option.some.injEq] at data
    exact leaks.1.mp data
  · intro same
    rw [attemptEnvelope_frame,attemptEnvelope_frame,frame_payload e sameType,leaks.1.mpr same,leaks.2]

end attempt

def cafe (phone : String) : Listing where
  tenant := 1
  typeKey := "business"
  projection := {
    slug := "cafe-uno",name := "Cafe Uno",description := none,categories := []
    location := ⟨none,none,some "Madrid",none,none,some "ES",none,none,"none"⟩
    contact := ⟨some phone,none,none,[]⟩
    externalProfiles := [],attributes := [],media := .arr [],reviewsDisabled := false,customFields := []
    source := "operator",provenanceNotes := none}
  status := .unclaimed
  visibility := .draft
  currentTier := none
  owner := none

def cafeRow (payload : Payload) : OutboxRow where
  tenant := 1
  subject := "lst_cafe"
  actor := ⟨"operator",some "opr_1"⟩
  origin := ""
  payload := payload
  eventId := "evt_1"
  version := 1
  occurredAt := 0
  traceId := ""
  tenantId := "tnt_1"
  tenantSlug := "guide"
  tenantDomain := none

theorem redaction_noninterference_created :
    attemptEnvelope [] ⟨false,false⟩ (cafeRow (.listingCreated (cafe "+34600000001").projection "business")) =
      attemptEnvelope [] ⟨false,false⟩ (cafeRow (.listingCreated (cafe "+34600000002").projection "business")) :=
  (redaction_noninterference [] ⟨false,false⟩ (cafeRow (.listingCreated (cafe "+34600000001").projection "business"))
    (.listingCreated (cafe "+34600000001").projection "business")
    (.listingCreated (cafe "+34600000002").projection "business") rfl).mpr rfl

theorem published_contact_seen : ∃ p q : Payload,
    (setListingVisibility "lst_cafe" (cafe "+34600000001") .published ⟨"operator",some "opr_1"⟩ "").2.map (·.payload) = [p] ∧
    (setListingVisibility "lst_cafe" (cafe "+34600000002") .published ⟨"operator",some "opr_1"⟩ "").2.map (·.payload) = [q] ∧
    blank [] ⟨false,false⟩ p = blank [] ⟨false,false⟩ q ∧
    attemptEnvelope [] ⟨false,false⟩ (cafeRow p) ≠ attemptEnvelope [] ⟨false,false⟩ (cafeRow q) := by
  refine ⟨.listingPublished "draft" "business" (cafe "+34600000001").projection,
    .listingPublished "draft" "business" (cafe "+34600000002").projection,rfl,rfl,rfl,?_⟩
  intro seen
  have phone : some (Json.str "+34600000001") = some (.str "+34600000002") :=
    congrArg (fun envelope => (lookupField "data" envelope).bind fun data =>
      (lookupField "contact" data).bind (lookupField "phone_e164")) seen
  simp at phone

end Osds.Audit
