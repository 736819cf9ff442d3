import Osds.Directory.JsonUpsert
import Osds.Lib.Fallible

namespace Osds.Directory.Payloads
open Fallible

section columns
variable {env : Environment} {c : Column} {d x : Doc} {t : String}

def Column.shown (c : Column) (d : Doc) : Json := if c ∈ [Column.slug,.name,.geoPrecision] then d.json else blankNull d

theorem json_str : d.json.canon = .str t ↔ d = .str t := by
  cases d <;> simp [Doc.json,Json.canon]

theorem string_some : d.string = some t ↔ d = .str t := by
  cases d <;> simp [Doc.string]

theorem equal_shown (known : x.isNull = false) : equal (some (c.shown (.str t))) (some (c.shown x)) = true ↔ x = .str t := by
  have text : equal (some (Doc.str t).json) (some x.json) = true ↔ x = .str t := equal_some.trans (eq_comm.trans json_str)
  unfold Column.shown
  split
  · exact text
  · unfold blankNull
    split
    next blank =>
      obtain rfl : t = "" := Option.some.inj blank
      split
      next empty => exact iff_of_true rfl (string_some.mp empty)
      next nonempty =>
        refine iff_of_false ?_ fun same => nonempty (string_some.mpr same)
        intro alike
        have shown := equal_some.mp alike
        cases x <;> simp_all [Doc.json,Json.canon,Doc.isNull]
    next filled =>
      split
      next empty =>
        refine iff_of_false ?_ fun same => filled (same ▸ empty :)
        intro alike
        cases equal_some.mp alike
      next => exact text

def Fitting (c : Column) (d : Doc) : Prop := ∃ t, d = .str t ∧ ∀ width ∈ c.width, t.length ≤ width

theorem cell_fitting : x = .str (c.cell env x) ↔ Fitting c x := by
  unfold Column.cell Fitting
  cases c.width with
  | none =>
      constructor
      · intro same
        exact ⟨_,same,nofun⟩
      · intro fitting
        obtain ⟨t,rfl,_⟩ := fitting
        rfl
  | some width =>
      constructor
      · intro same
        refine ⟨_,same,?_⟩
        intro w only
        obtain rfl := Option.some.inj only
        rw [String.length_ofList]
        exact List.length_take_le _ _
      · intro fitting
        obtain ⟨t,rfl,short⟩ := fitting
        have within : t.toList.length ≤ width := String.length_toList ▸ short width rfl
        dsimp only [Environment.plain]
        rw [List.take_of_length_le within,String.ofList_toList]

theorem cell_cell : c.cell env (.str (c.cell env d)) = c.cell env d := by
  have fits : Fitting c (.str (c.cell env d)) := by
    refine ⟨_,rfl,?_⟩
    intro width only
    unfold Column.cell
    rw [Option.mem_def.mp only]
    dsimp only
    rw [String.length_ofList]
    exact List.length_take_le _ _
  exact (Doc.str.inj (cell_fitting.mpr fits)).symm

theorem admits_cell : c.refuses env (.str (c.cell env d)) = none := by
  unfold Column.refuses Column.cell
  cases c.width with
  | none => rfl
  | some width => simp [Doc.isNull,Environment.plain]

theorem known_of_admitted (admitted : c.refuses env d = none) : d.isNull = false := by
  unfold Column.refuses at admitted
  split at admitted
  · cases admitted
  · next known => exact Bool.eq_false_iff.mpr known

end columns

-- A second object that differs from the first in what a payload may set to a value of
-- another type than the row holds.
theorem diff_project {o : Object} {texts : Column → Doc} {social : List Doc} {profiles attributes : Fields} :
    diff (project o) (project {o with texts := texts,social := social,externalProfiles := profiles,attributes := attributes}) = [] ↔
      (∀ c : Column, equal (some (c.shown (o.texts c))) (some (c.shown (texts c))) = true) ∧
        equal (some (Doc.arr o.social).json) (some (Doc.arr social).json) = true ∧
        equal (some (Doc.obj o.externalProfiles).json) (some (Doc.obj profiles).json) = true ∧
        equal (some (Doc.obj o.attributes).json) (some (Doc.obj attributes).json) = true := by
  constructor
  · intro none_
    have keys := diff_nil none_
    have location := diffKey_nil (by decide) (keys "location")
    have contact := diffKey_nil (by decide) (keys "contact")
    refine ⟨?_,contact "social",equal_of_diffKey (by decide) (keys "external_profiles"),
      equal_of_diffKey (by decide) (keys "attributes")⟩
    intro c
    cases c with
    | slug => exact equal_of_diffKey (by decide) (keys "slug")
    | name => exact equal_of_diffKey (by decide) (keys "name")
    | description => exact equal_of_diffKey (by decide) (keys "description")
    | addressLine1 => exact location "address_line1"
    | addressLine2 => exact location "address_line2"
    | locality => exact location "locality"
    | region => exact location "region"
    | postalCode => exact location "postal_code"
    | country => exact location "country"
    | geoPrecision => exact location "geo_precision"
    | phoneE164 => exact contact "phone_e164"
    | email => exact contact "email"
    | website => exact contact "website"
  · intro alike
    obtain ⟨text,social,profiles,attributes⟩ := alike
    refine diff_untouched ?_
    refine .cons (untouched_leaf (by decide) (text .slug)) ?_
    refine .cons (untouched_leaf (by decide) (text .name)) ?_
    refine .cons (untouched_leaf (by decide) (text .description)) ?_
    refine .cons (untouched_leaf (by decide) (equal_refl _)) ?_
    refine .cons (untouched_branch (by decide) ?_) ?_
    · refine .cons ⟨rfl,text .addressLine1⟩ (.cons ⟨rfl,text .addressLine2⟩ (.cons ⟨rfl,text .locality⟩ ?_))
      refine .cons ⟨rfl,text .region⟩ (.cons ⟨rfl,text .postalCode⟩ (.cons ⟨rfl,text .country⟩ ?_))
      exact .cons ⟨rfl,equal_refl _⟩ (.cons ⟨rfl,equal_refl _⟩ (.cons ⟨rfl,text .geoPrecision⟩ .nil))
    refine .cons (untouched_branch (by decide) ?_) ?_
    · exact .cons ⟨rfl,text .phoneE164⟩ (.cons ⟨rfl,text .email⟩ (.cons ⟨rfl,text .website⟩ (.cons ⟨rfl,social⟩ .nil)))
    refine .cons (untouched_leaf (by decide) profiles) ?_
    refine .cons (untouched_leaf (by decide) attributes) ?_
    refine .cons (untouched_branch (by decide) (forall_same _)) ?_
    refine .cons (untouched_leaf (by decide) (equal_refl _)) ?_
    refine .cons (untouched_branch (by decide) (forall_same _)) ?_
    exact .cons (untouched_branch (by decide) (forall_same _)) .nil

section payload
variable {env : Environment} {r : Request} {creating : Bool} {o o' : Object}

structure Applied (env : Environment) (r : Request) (creating : Bool) (o o' : Object) : Prop where
  texts : ∀ c, c ≠ .geoPrecision → assign env r o c = .ok (o'.texts c)
  location : checkObject locationKeys ((r.payload.lookup "location").getD .null) = .ok ()
  geo : locate env r ⟨o.lat,o.lon,o.texts .geoPrecision⟩ = .ok (.ok ⟨o'.lat,o'.lon,o'.texts .geoPrecision⟩)
  contact : checkObject contactKeys ((r.payload.lookup "contact").getD .null) = .ok ()
  social : applySocial r o.social = .ok o'.social
  externalProfiles : applyBlob r "external_profiles" o.externalProfiles = .ok o'.externalProfiles
  attributes : applyBlob r "attributes" o.attributes = .ok o'.attributes
  customFields : applyCustomFields env r creating o.customFields = .ok o'.customFields
  reviewsDisabled : o'.reviewsDisabled = ((r.payload.lookup "reviews_disabled").map Doc.truthy).getD o.reviewsDisabled
  rest : o' = {o with
    texts := o'.texts,lat := o'.lat,lon := o'.lon,social := o'.social,externalProfiles := o'.externalProfiles
    attributes := o'.attributes,customFields := o'.customFields,reviewsDisabled := o'.reviewsDisabled}

theorem applyPayload_exact : applyPayload env r creating o = .ok o' ↔ Applied env r creating o o' := by
  constructor
  · intro applied
    obtain ⟨name,named,rest⟩ := bind_exact.mp applied
    obtain ⟨slug,slugged,rest⟩ := bind_exact.mp rest
    obtain ⟨description,described,rest⟩ := bind_exact.mp rest
    obtain ⟨_,location,rest⟩ := bind_exact.mp rest
    obtain ⟨line1,first,rest⟩ := bind_exact.mp rest
    obtain ⟨line2,second,rest⟩ := bind_exact.mp rest
    obtain ⟨locality,local_,rest⟩ := bind_exact.mp rest
    obtain ⟨region,regional,rest⟩ := bind_exact.mp rest
    obtain ⟨postalCode,coded,rest⟩ := bind_exact.mp rest
    obtain ⟨country,national,rest⟩ := bind_exact.mp rest
    obtain ⟨saved,located,rest⟩ := bind_exact.mp rest
    obtain ⟨_,contact,rest⟩ := bind_exact.mp rest
    obtain ⟨phone,phoned,rest⟩ := bind_exact.mp rest
    obtain ⟨email,mailed,rest⟩ := bind_exact.mp rest
    obtain ⟨website,linked,rest⟩ := bind_exact.mp rest
    obtain ⟨social,socially,rest⟩ := bind_exact.mp rest
    obtain ⟨profiles,profiled,rest⟩ := bind_exact.mp rest
    obtain ⟨attributes,attributed,rest⟩ := bind_exact.mp rest
    obtain ⟨fields,customised,rest⟩ := bind_exact.mp rest
    obtain ⟨geo,rfl,rest⟩ := bind_exact.mp rest
    cases rest
    refine ⟨?_,location,located,contact,socially,profiled,attributed,customised,rfl,rfl⟩
    intro c other
    cases c with
    | geoPrecision => exact absurd rfl other
    | _ => assumption
  · intro applied
    have at_ := applied.texts
    unfold applyPayload
    rw [at_ .name nofun,at_ .slug nofun,at_ .description nofun,applied.location,at_ .addressLine1 nofun,at_ .addressLine2 nofun,
      at_ .locality nofun,at_ .region nofun,at_ .postalCode nofun,at_ .country nofun,applied.geo,applied.contact,
      at_ .phoneE164 nofun,at_ .email nofun,at_ .website nofun,applied.social,applied.externalProfiles,applied.attributes,
      applied.customFields]
    conv_rhs => rw [applied.rest]
    refine congrArg Except.ok ?_
    rw [Listing.mk.injEq]
    exact ⟨rfl,rfl,rfl,funext fun c => by cases c <;> rfl,rfl,rfl,rfl,rfl,rfl,rfl,rfl,rfl,applied.reviewsDisabled.symm,rfl,rfl⟩

section geo
variable {loc : Fields} {key : String} {old new : Option Rat} {before after : Geo} {v : Option (Option Rat)} {t : String}

def keeps (loc : Fields) (key : String) (old : Option Rat) : Bool :=
  match loc.lookup key with
  | none => old.isSome
  | some d => d.string ≠ some "" && !d.isNull

def explicitPrecision (r : Request) : Doc := ((objectAt r.payload "location").lookup "geo_precision").getD .null

theorem coordinate_keeps (known : coordinate env loc key old = .ok v) : v.isSome = keeps loc key old := by
  unfold coordinate at known
  unfold keeps
  cases given : loc.lookup key with
  | none =>
      rw [given] at known
      cases known
      exact Option.isSome_map
  | some d =>
      rw [given] at known
      unfold decimal6 at known
      dsimp only at known ⊢
      split at known
      next cleared =>
        cases known
        rcases cleared with blank | null
        · simp [blank]
        · simp [null]
      next number =>
        rw [not_or] at number
        have set : (d.string ≠ some "" && !d.isNull) = true := by simp [number.1,number.2]
        rw [set]
        split at known
        · cases known
          rfl
        · split at known
          · cases known
            rfl
          · cases known

theorem coordinate_again (known : coordinate env loc key old = .ok v) (new : Option Rat) :
    coordinate env loc key new = .ok v ∨ loc.lookup key = none ∧ v = old.map some ∧ coordinate env loc key new = .ok (new.map some) := by
  unfold coordinate at known ⊢
  cases given : loc.lookup key with
  | none =>
      rw [given] at known
      exact .inr ⟨rfl,(Except.ok.inj known).symm,rfl⟩
  | some d =>
      rw [given] at known
      exact .inl known

theorem coordinate_set (known : coordinate env loc key old = .ok (some (some q))) :
    coordinate env loc key (some q) = .ok (some (some q)) := by
  rcases coordinate_again known (some q) with again | ⟨_,_,again⟩
  · exact again
  · exact again

theorem coordinate_unset (known : coordinate env loc key old = .ok none) : coordinate env loc key none = .ok none := by
  rcases coordinate_again known none with again | ⟨_,_,again⟩
  · exact again
  · exact again

theorem coordinate_some (known : coordinate env loc key old = .ok v) (new : Option Rat) : ∃ w, coordinate env loc key new = .ok w := by
  rcases coordinate_again known new with again | ⟨_,_,again⟩
  · exact ⟨_,again⟩
  · exact ⟨_,again⟩

theorem applyGeo_cases (applied : applyGeo env loc before = .ok (.ok after)) :
    ∃ lat lon, coordinate env loc "lat" before.lat = .ok lat ∧ coordinate env loc "lon" before.lon = .ok lon ∧
      ((∃ a b p, lat = some (some a) ∧ lon = some (some b) ∧ precision loc before.precision = .ok p ∧ after = ⟨some a,some b,p⟩) ∨
        (lat = none ∨ lon = none) ∧ after = ⟨none,none,.str "none"⟩) := by
  obtain ⟨lat,first,rest⟩ := bind_exact.mp applied
  obtain ⟨lon,second,rest⟩ := bind_exact.mp rest
  refine ⟨lat,lon,first,second,?_⟩
  cases lat with
  | none =>
      cases rest
      exact .inr ⟨.inl rfl,rfl⟩
  | some lat =>
      cases lon with
      | none =>
          cases rest
          exact .inr ⟨.inr rfl,rfl⟩
      | some lon =>
          obtain ⟨p,precise,rest⟩ := bind_exact.mp rest
          cases lat with
          | none => cases rest
          | some a =>
              cases lon with
              | none => cases rest
              | some b =>
                  cases rest
                  exact .inl ⟨a,b,p,rfl,rfl,precise,rfl⟩

theorem applyGeo_unset (lat : coordinate env loc "lat" before.lat = .ok v) (lon : coordinate env loc "lon" before.lon = .ok w)
    (either : v = none ∨ w = none) : applyGeo env loc before = .ok (.ok ⟨none,none,.str "none"⟩) := by
  unfold applyGeo
  rw [lat,lon]
  rcases either with rfl | rfl
  · rfl
  · cases v <;> rfl

theorem applyGeo_set (lat : coordinate env loc "lat" before.lat = .ok (some (some a)))
    (lon : coordinate env loc "lon" before.lon = .ok (some (some b))) (precise : precision loc before.precision = .ok p) :
    applyGeo env loc before = .ok (.ok ⟨some a,some b,p⟩) := by
  unfold applyGeo
  rw [lat,lon]
  show (precision loc before.precision >>= fun value => _) = _
  rw [precise]
  rfl

theorem precision_again {was p : Doc} (precise : precision loc was = .ok p) (other : t ≠ "none") :
    precision loc (.str t) = .ok (if ((loc.lookup "geo_precision").getD .null).truthy then p else .str t) := by
  unfold precision at precise ⊢
  dsimp only at precise ⊢
  split at precise
  next => cases precise
  next allowed =>
    rw [if_neg allowed]
    split at precise
    next explicit =>
      rw [if_pos explicit,if_pos explicit]
      exact precise
    next implicit =>
      have kept : (Doc.str t).string ≠ some "none" := fun same => other (Option.some.inj same)
      rw [if_neg implicit,if_neg implicit,if_neg kept]

theorem locate_again (located : locate env r before = .ok (.ok after))
    (matched : t = "none" ∧ after.lat = none ∧ after.lon = none ∨ t ≠ "none" ∧ after.lat.isSome ∧ after.lon.isSome) :
    locate env r ⟨after.lat,after.lon,.str t⟩ =
      .ok (.ok ⟨after.lat,after.lon,if (explicitPrecision r).truthy ∧ after.lat.isSome then after.precision else .str t⟩) := by
  unfold explicitPrecision
  unfold locate at located ⊢
  dsimp only at located ⊢
  split at located
  next given =>
    rw [if_pos given]
    obtain ⟨lat,lon,first,second,⟨a,b,p,rfl,rfl,precise,rfl⟩ | ⟨either,rfl⟩⟩ := applyGeo_cases located
    · have other : t ≠ "none" := by
        rcases matched with ⟨_,absurd,_⟩ | ⟨other,_⟩
        · cases absurd
        · exact other
      refine (applyGeo_set (coordinate_set first) (coordinate_set second) (precision_again precise other)).trans ?_
      simp
    · have none_ : t = "none" := by
        rcases matched with ⟨same,_⟩ | ⟨_,absurd,_⟩
        · exact same
        · cases absurd
      obtain ⟨v,again⟩ := coordinate_some first none
      obtain ⟨w,again'⟩ := coordinate_some second none
      have unset : v = none ∨ w = none := by
        rcases either with rfl | rfl
        · exact .inl (Except.ok.inj (again.symm.trans (coordinate_unset first)))
        · exact .inr (Except.ok.inj (again'.symm.trans (coordinate_unset second)))
      refine (applyGeo_unset again again' unset).trans ?_
      simp [none_]
  next absent =>
    rw [if_neg absent]
    rw [not_or,not_or,Option.not_isSome_iff_eq_none,Option.not_isSome_iff_eq_none,Option.not_isSome_iff_eq_none] at absent
    rw [absent.2.2]
    simp [Doc.truthy]

theorem precision_explicit {was p : Doc} (precise : precision loc was = .ok p)
    (explicit : ((loc.lookup "geo_precision").getD .null).truthy = true) : p = (loc.lookup "geo_precision").getD .null := by
  unfold precision at precise
  dsimp only at precise
  rw [if_pos explicit] at precise
  split at precise
  · cases precise
  · exact (Except.ok.inj precise).symm

-- A precision that is given counts where both coordinates are there in the end.
theorem located_keeps (located : locate env r before = .ok (.ok after)) (explicit : (explicitPrecision r).truthy = true) :
    after.lat.isSome = (keeps (objectAt r.payload "location") "lat" before.lat && keeps (objectAt r.payload "location") "lon" before.lon) ∧
      (after.lat.isSome → after.precision = explicitPrecision r) := by
  unfold explicitPrecision at explicit ⊢
  have given : ((objectAt r.payload "location").lookup "geo_precision").isSome := by
    cases value : (objectAt r.payload "location").lookup "geo_precision" with
    | none =>
        rw [value] at explicit
        cases explicit
    | some d => rfl
  unfold locate at located
  dsimp only at located
  rw [if_pos (.inr (.inr given))] at located
  obtain ⟨lat,lon,first,second,rest⟩ := applyGeo_cases located
  rw [← coordinate_keeps first,← coordinate_keeps second]
  obtain ⟨a,b,p,rfl,rfl,precise,rfl⟩ | ⟨either,rfl⟩ := rest
  · exact ⟨rfl,fun _ => precision_explicit precise explicit⟩
  · refine ⟨?_,nofun⟩
    rcases either with rfl | rfl
    · rfl
    · exact (Bool.and_false _).symm

end geo

section fields
variable {f : FieldDescriptor} {raw v : Doc} {values old : Fields} {cleaned : List (String × Option Doc)}

def Plain (v : Doc) : Prop := ∀ shown, v.reload shown = v

theorem plain_texts (texts : List String) : Plain (.arr (texts.map .str)) := by
  intro shown
  refine congrArg Doc.arr ?_
  induction texts with
  | nil => rfl
  | cons text rest ih => exact congrArg (List.cons (.str text)) ih

theorem orMessage_value {value : Option Doc} {message : String} (given : orMessage value message = .ok (some v)) : value = some v := by
  cases value with
  | none => cases given
  | some w => exact congrArg some (Option.some.inj (Except.ok.inj given))

theorem orMessage_plain {α : Type} {value : Option α} {make : α → Doc} {message : String} (plain : ∀ a, Plain (make a))
    (given : orMessage (value.map make) message = .ok (some v)) : Plain v := by
  obtain ⟨a,_,rfl⟩ := Option.map_eq_some_iff.mp (orMessage_value given)
  exact plain a

theorem orMessage_text {p : Prop} [Decidable p] {text message : String}
    (given : orMessage (if p then some (.str text) else none) message = .ok (some v)) : Plain v := by
  have kept := orMessage_value given
  split at kept
  · exact Option.some.inj kept ▸ fun _ => rfl
  · cases kept

theorem coerce_plain (coerced : coerce env f raw = .ok (some v)) : Plain v := by
  unfold coerce at coerced
  dsimp only at coerced
  split at coerced
  · split at coerced
    · cases coerced
    · exact Option.some.inj (Except.ok.inj coerced) ▸ fun _ => rfl
  split at coerced
  · exact orMessage_plain (fun _ _ => rfl) coerced
  split at coerced
  · exact orMessage_plain (fun _ _ => rfl) coerced
  split at coerced
  · exact orMessage_plain (fun _ _ => rfl) coerced
  split at coerced
  · exact orMessage_plain (fun _ _ => rfl) coerced
  split at coerced
  · exact orMessage_text coerced
  split at coerced
  · exact orMessage_text coerced
  split at coerced
  · exact orMessage_text coerced
  split at coerced
  · unfold chosenOptions at coerced
    split at coerced
    · dsimp only at coerced
      split at coerced
      · exact Option.some.inj (Except.ok.inj coerced) ▸ plain_texts _
      · cases coerced
    · cases coerced
  · cases coerced

theorem fieldVerdict_plain {change : String × Option Doc} (there : change ∈ (fieldVerdict env r creating values f).2) :
    change.1 = f.key ∧ ∀ v ∈ change.2, Plain v := by
  unfold fieldVerdict at there
  split at there
  · split at there
    · rw [List.mem_singleton.mp there]
      exact ⟨rfl,nofun⟩
    · split at there
      next coerced =>
        rw [List.mem_singleton.mp there]
        exact ⟨rfl,fun v same => coerce_plain (coerced.trans (congrArg Except.ok same))⟩
      next => cases there
  · cases there

theorem fieldVerdict_again (accepted : (fieldVerdict env r creating values f).1 = []) :
    fieldVerdict env r false values f = fieldVerdict env r creating values f := by
  unfold fieldVerdict at accepted ⊢
  split
  · rfl
  · next absent =>
      rw [absent] at accepted
      exact congrArg (·,[]) (by rw [Bool.false_and]; exact accepted.symm)

theorem verdict_keys (env : Environment) (r : Request) (creating : Bool) (values : Fields) (fields : List FieldDescriptor) :
    (((fields.map (fieldVerdict env r creating values)).flatMap Prod.snd).map Prod.fst).Sublist (fields.map (·.key)) := by
  induction fields with
  | nil => exact .slnil
  | cons f rest ih =>
      rw [List.map_cons,List.flatMap_cons,List.map_append,List.map_cons]
      have own : ((fieldVerdict env r creating values f).2.map Prod.fst).Sublist [f.key] := by
        unfold fieldVerdict
        split
        · split
          · exact List.Sublist.refl _
          · split
            · exact List.Sublist.refl _
            · exact List.nil_sublist _
        · exact List.nil_sublist _
      exact own.append ih

theorem validate_exact : validateCustomFields env r creating values = .ok cleaned ↔
    (∀ field ∈ values, r.type.fields.any (·.key = field.1)) ∧
      (∀ f ∈ r.type.fields, (fieldVerdict env r creating values f).1 = []) ∧
      cleaned = (r.type.fields.map (fieldVerdict env r creating values)).flatMap Prod.snd := by
  unfold validateCustomFields
  dsimp only
  have errors : (values.filter fun field => ¬r.type.fields.any (·.key = field.1)).map
      (fun field => "'" ++ field.1 ++ "' is not a field on this listing type") ++
        (r.type.fields.map (fieldVerdict env r creating values)).flatMap Prod.fst = [] ↔
      (∀ field ∈ values, r.type.fields.any (·.key = field.1)) ∧ ∀ f ∈ r.type.fields, (fieldVerdict env r creating values f).1 = [] := by
    rw [List.append_eq_nil_iff,List.map_eq_nil_iff,List.filter_eq_nil_iff,List.flatMap_eq_nil_iff,List.forall_mem_map]
    simp
  split
  next clean =>
    have both := errors.mp clean
    constructor
    · intro given
      exact ⟨both.1,both.2,(Except.ok.inj given).symm⟩
    · intro given
      exact congrArg Except.ok given.2.2.symm
  next failed => exact iff_of_false nofun fun given => failed (errors.mpr ⟨given.1,given.2.1⟩)

theorem validate_again (validated : validateCustomFields env r creating values = .ok cleaned) :
    validateCustomFields env r false values = .ok cleaned := by
  obtain ⟨known,accepted,rfl⟩ := validate_exact.mp validated
  refine validate_exact.mpr ⟨known,?_,?_⟩
  · intro f there
    rw [fieldVerdict_again (accepted f there)]
    exact accepted f there
  · have alike := List.map_congr_left fun f there => fieldVerdict_again (accepted f there)
    rw [alike]

theorem reload_change {change : String × Option Doc} (plain : ∀ v ∈ change.2, Plain v) (shown : Double → Int) :
    (change.1,change.2.map (Doc.reload shown)) = change := by
  obtain ⟨key,value⟩ := change
  cases value with
  | none => rfl
  | some v => exact congrArg (fun w => (key,some w)) (plain v rfl shown)

theorem fields_again (validated : validateCustomFields env r creating values = .ok cleaned) :
    cleaned.foldl Dict.set (Doc.reloadFields env.shown (cleaned.foldl Dict.set old)) =
      Doc.reloadFields env.shown (cleaned.foldl Dict.set old) := by
  obtain ⟨_,_,gathered⟩ := validate_exact.mp validated
  have distinct : (cleaned.map Prod.fst).Nodup :=
    gathered ▸ (verdict_keys env r creating values r.type.fields).nodup r.type.distinct
  have plain : ∀ change ∈ cleaned, ∀ v ∈ change.2, Plain v := by
    intro change there
    rw [gathered] at there
    obtain ⟨verdict,listed,inside⟩ := List.mem_flatMap.mp there
    obtain ⟨f,_,rfl⟩ := List.mem_map.mp listed
    exact (fieldVerdict_plain inside).2
  have stored : cleaned.map (fun change => (change.1,change.2.map (Doc.reload env.shown))) = cleaned :=
    (List.map_congr_left fun change there => reload_change (plain change there) env.shown).trans (List.map_id _)
  have folded := Dict.mapValues_fold (Doc.reload env.shown) cleaned (cleaned.foldl Dict.set old)
  rw [stored,Dict.fold_twice distinct] at folded
  rw [reloadFields_values]
  exact folded.symm

end fields

theorem map_exact {x : Except ε α} {f : α → β} : x.map f = .ok b ↔ ∃ a, x = .ok a ∧ f a = b := by
  cases x with
  | error e => exact iff_of_false nofun fun found => by obtain ⟨_,absurd,_⟩ := found; cases absurd
  | ok a =>
      constructor
      · intro mapped
        exact ⟨a,rfl,Except.ok.inj mapped⟩
      · intro found
        obtain ⟨_,same,mapped⟩ := found
        cases same
        exact congrArg Except.ok mapped

section second
variable {row : Row} {categories : List String} {old new : Fields} {blob : String} {items items' : List Doc}

theorem applyCustomFields_again (applied : applyCustomFields env r creating old = .ok new) :
    applyCustomFields env r false (Doc.reloadFields env.shown new) = .ok (Doc.reloadFields env.shown new) := by
  have again {values : Fields} (first : (validateCustomFields env r creating values).map (·.foldl Dict.set old) = .ok new) :
      (validateCustomFields env r false values).map (·.foldl Dict.set (Doc.reloadFields env.shown new)) =
        .ok (Doc.reloadFields env.shown new) := by
    obtain ⟨cleaned,validated,rfl⟩ := map_exact.mp first
    exact map_exact.mpr ⟨cleaned,validate_again validated,fields_again validated⟩
  unfold applyCustomFields at applied ⊢
  split at applied
  next => rfl
  next => exact again applied
  next =>
    split at applied
    next => cases applied
    next falsy =>
      rw [if_neg falsy]
      exact again applied

theorem applyBlob_again (applied : applyBlob r blob old = .ok new) (current : Fields) :
    applyBlob r blob current = .ok (if (r.payload.lookup blob).isSome then new else current) := by
  unfold applyBlob at applied ⊢
  cases given : r.payload.lookup blob with
  | none => rfl
  | some d =>
      rw [given] at applied
      cases d with
      | null => exact applied
      | obj fields => exact applied
      | _ => cases applied

theorem applySocial_again (applied : applySocial r items = .ok items') (current : List Doc) :
    applySocial r current = .ok (if ((objectAt r.payload "contact").lookup "social").isSome then items' else current) := by
  unfold applySocial at applied ⊢
  cases given : (objectAt r.payload "contact").lookup "social" with
  | none => rfl
  | some d =>
      rw [given] at applied
      cases d with
      | null => exact applied
      | arr listed => exact applied
      | _ => cases applied

-- Whether the payload sets a column of the object it leaves.
def sets (r : Request) (o : Object) (c : Column) : Bool :=
  if c = .geoPrecision then (explicitPrecision r).truthy && o.lat.isSome else (valueOf r.payload c).isSome

def again (r : Request) (o : Object) (row : Row) : Object :=
  {load row with
    texts := fun c => if sets r o c then o.texts c else .str (row.texts c)
    social := if ((objectAt r.payload "contact").lookup "social").isSome then o.social else row.social
    externalProfiles := if (r.payload.lookup "external_profiles").isSome then o.externalProfiles else row.externalProfiles
    attributes := if (r.payload.lookup "attributes").isSome then o.attributes else row.attributes}

def filed (env : Environment) (o : Object) (categories : List String) : Row := {rowOf env o with categories := categories}

theorem sets_precision : sets r o .geoPrecision = true ↔ (explicitPrecision r).truthy ∧ o.lat.isSome := by
  unfold sets
  rw [if_pos rfl,Bool.and_eq_true]

theorem applied_again (applied : Applied env r creating o o') (matched : Matched (rowOf env o')) :
    Applied env r false (load (filed env o' categories)) (again r o' (filed env o' categories)) := by
  refine ⟨?_,applied.location,?_,applied.contact,applySocial_again applied.social _,applyBlob_again applied.externalProfiles _,
    applyBlob_again applied.attributes _,applyCustomFields_again applied.customFields,?_,rfl⟩
  · intro c other
    have first := applied.texts c other
    unfold assign at first ⊢
    unfold again sets
    dsimp only
    rw [if_neg other]
    cases given : valueOf r.payload c with
    | none => rfl
    | some d =>
        rw [given] at first
        exact first
  · have located := locate_again applied.geo matched
    have precise : (if (explicitPrecision r).truthy ∧ o'.lat.isSome then o'.texts .geoPrecision
        else .str ((rowOf env o').texts .geoPrecision)) = (again r o' (filed env o' categories)).texts .geoPrecision :=
      if_congr sets_precision.symm rfl rfl
    exact located.trans (congrArg (fun p => Except.ok (Except.ok (Geo.mk o'.lat o'.lon p))) precise)
  · have first := applied.reviewsDisabled
    show o'.reviewsDisabled = ((r.payload.lookup "reviews_disabled").map Doc.truthy).getD o'.reviewsDisabled
    rw [first]
    cases r.payload.lookup "reviews_disabled" <;> rfl

theorem mem_all (c : Column) : c ∈ Column.all := by
  cases c <;> decide

theorem saveRow_exact : saveRow env o = .ok row ↔ (∀ c : Column, c.refuses env (o.texts c) = none) ∧
    Imports.fitsDegree o.lat ∧ Imports.fitsDegree o.lon ∧ Matched (rowOf env o) ∧ row = rowOf env o := by
  unfold saveRow
  cases refused : Column.all.findSome? fun c => c.refuses env (o.texts c) with
  | some error =>
      refine iff_of_false nofun ?_
      intro given
      obtain ⟨c,_,refuses⟩ := List.exists_of_findSome?_eq_some refused
      cases (given.1 c).symm.trans refuses
  | none =>
      have admitted : ∀ c : Column, c.refuses env (o.texts c) = none := fun c => List.findSome?_eq_none_iff.mp refused c (mem_all c)
      dsimp only
      split
      next wide => exact iff_of_false nofun fun given => wide.elim (fun wide => wide given.2.1) fun wide => wide given.2.2.1
      next narrow =>
        rw [not_or,not_not,not_not] at narrow
        split
        next apart => exact iff_of_false nofun fun given => apart given.2.2.2.1
        next matched =>
          rw [not_not] at matched
          constructor
          · intro given
            exact ⟨admitted,narrow.1,narrow.2,matched,(Except.ok.inj given).symm⟩
          · intro given
            exact congrArg Except.ok given.2.2.2.2.symm

theorem rowOf_again : rowOf env (again r o' (filed env o' categories)) = filed env o' categories := by
  refine Listing.ext rfl rfl rfl (funext fun c => ?_) rfl rfl ?_ ?_ ?_ ?_ ?_ rfl rfl rfl rfl
  · unfold rowOf again
    dsimp only
    split
    · rfl
    · exact cell_cell
  · unfold rowOf again
    dsimp only
    split
    · rfl
    · exact reload_reloadItems _
  · unfold rowOf again
    dsimp only
    split
    · rfl
    · exact reload_reloadFields _
  · unfold rowOf again
    dsimp only
    split
    · rfl
    · exact reload_reloadFields _
  · exact reload_reloadFields _
  · exact reload_reloadFields _

theorem saveRow_again (saved : saveRow env o' = .ok row) :
    saveRow env (again r o' (filed env o' categories)) = .ok (filed env o' categories) := by
  obtain ⟨admitted,lat,lon,matched,_⟩ := saveRow_exact.mp saved
  have same : Matched (rowOf env (again r o' (filed env o' categories))) := by
    rw [rowOf_again]
    exact matched
  refine saveRow_exact.mpr ⟨?_,lat,lon,same,rowOf_again.symm⟩
  intro c
  unfold again
  dsimp only
  split
  · exact admitted c
  · exact admits_cell

end second

end payload

section writes
variable {env : Environment} {r : Request} {creating : Bool} {s s' written : Store} {o after : Object} {row new : Row} {rows : List Row}
  {newId : ListingId} {outcome : Outcome}

theorem keep_exact : s.keep rows = .ok s' ↔ ∃ unique : Unique rows, s' = {s with rows := rows,unique := unique} := by
  unfold Store.keep
  split
  next unique =>
    constructor
    · intro kept
      exact ⟨unique,(Except.ok.inj kept).symm⟩
    · intro kept
      obtain ⟨_,rfl⟩ := kept
      rfl
  next apart => exact iff_of_false nofun fun kept => apart kept.1

theorem write_exact : write env s r creating o = .ok (written,after) ↔ ∃ applied categories,
    Applied env r creating o applied ∧ saveRow env applied = .ok (rowOf env applied) ∧
      Unique (place creating (rowOf env applied) s.rows) ∧ setCategories env r applied.categories = .ok categories ∧
      s.keep (place creating (filed env applied categories) s.rows) = .ok written ∧ recomputeSearchVector applied = .ok () ∧
      after = {applied with categories := categories} := by
  constructor
  · intro wrote
    obtain ⟨applied,given,rest⟩ := bind_exact.mp wrote
    obtain ⟨row,saved,rest⟩ := bind_exact.mp rest
    obtain rfl := (saveRow_exact.mp saved).2.2.2.2
    obtain ⟨_,kept,rest⟩ := bind_exact.mp rest
    obtain ⟨categories,chosen,rest⟩ := bind_exact.mp rest
    obtain ⟨_,kept',rest⟩ := bind_exact.mp rest
    obtain ⟨_,indexed,rest⟩ := bind_exact.mp rest
    cases rest
    exact ⟨applied,categories,applyPayload_exact.mp given,saved,(keep_exact.mp kept).1,chosen,kept',indexed,rfl⟩
  · intro parts
    obtain ⟨applied,categories,given,saved,unique,chosen,kept,indexed,rfl⟩ := parts
    have first : s.keep (place creating (rowOf env applied) s.rows) = .ok {s with rows := _,unique := unique} :=
      keep_exact.mpr ⟨unique,rfl⟩
    refine bind_exact.mpr ⟨applied,applyPayload_exact.mpr given,bind_exact.mpr ⟨_,saved,bind_exact.mpr ⟨_,first,?_⟩⟩⟩
    exact bind_exact.mpr ⟨categories,chosen,bind_exact.mpr ⟨_,kept,bind_exact.mpr ⟨_,indexed,rfl⟩⟩⟩

def origin (r : Request) (newId : ListingId) (found : Option Row) : Object := found.elim (newListing r newId) load

theorem accepted_parts (accepted : upsertListing env s r newId = (s',.ok outcome)) :
    (Doc.obj r.payload).storable = true ∧ checkRejected r = .ok () ∧ ∃ found written after, matchListing env s r = .ok found ∧
      write env s r found.isNone (origin r newId found) = .ok (written,after) ∧ s'.rows = written.rows ∧
      (found.isSome → r.mustCreate = false) ∧ (found = none → checkCreate env r = .ok ()) := by
  unfold upsertListing at accepted
  split at accepted
  next => cases (Prod.mk.inj accepted).2
  next storable =>
    rw [not_not] at storable
    split at accepted
    next written answer applied =>
      cases accepted
      obtain ⟨_,unrejected,rest⟩ := bind_exact.mp applied
      obtain ⟨found,matched,rest⟩ := bind_exact.mp rest
      refine ⟨storable,unrejected,found,?_⟩
      cases found with
      | none =>
          obtain ⟨_,creatable,rest⟩ := bind_exact.mp rest
          obtain ⟨⟨kept,after⟩,wrote,rest⟩ := bind_exact.mp rest
          cases rest
          exact ⟨kept,after,matched,wrote,rfl,nofun,fun _ => creatable⟩
      | some row =>
          dsimp only at rest
          unfold update at rest
          split at rest
          next => cases rest
          next free =>
            obtain ⟨⟨kept,after⟩,wrote,rest⟩ := bind_exact.mp rest
            have rows : s'.rows = kept.rows := by
              dsimp only at rest
              split at rest
              · cases rest
                rfl
              · cases rest
                rfl
            exact ⟨kept,after,matched,wrote,rows,fun _ => Bool.eq_false_iff.mpr free,nofun⟩
    next => cases (Prod.mk.inj accepted).2

theorem place_same (unique : Unique rows) (there : row ∈ rows) : place false row rows = rows := by
  unfold place
  rw [if_neg Bool.false_ne_true]
  refine (List.map_congr_left fun old listed => ?_).trans (List.map_id _)
  split
  next same => exact (List.inj_on_of_nodup_map unique.1 there listed same.symm)
  next => rfl

theorem find_replaced {p : Row → Bool} (found : rows.find? p = some row) (chosen : p new = true) (same : new.publicId = row.publicId) :
    (rows.map fun old => if old.publicId = new.publicId then new else old).find? p = some new := by
  induction rows with
  | nil => cases found
  | cons head rest ih =>
      rw [List.map_cons]
      by_cases replaced : head.publicId = new.publicId
      · rw [if_pos replaced,List.find?_cons_of_pos chosen]
      · rw [if_neg replaced]
        cases here : p head with
        | true =>
            rw [List.find?_cons_of_pos here] at found
            exact absurd ((congrArg (·.publicId) (Option.some.inj found)).trans same.symm) replaced
        | false =>
            have passed : ¬p head = true := Bool.eq_false_iff.mp here
            rw [List.find?_cons_of_neg passed] at found
            rw [List.find?_cons_of_neg passed]
            exact ih found

theorem find_placed {p : Row → Bool} {found : Option Row} (found_ : rows.find? p = found) (chosen : p new = true)
    (same : ∀ row ∈ found, new.publicId = row.publicId) : (place found.isNone new rows).find? p = some new := by
  cases found with
  | none =>
      show (rows ++ [new]).find? p = some new
      rw [List.find?_append,found_,Option.none_or,List.find?_cons_of_pos chosen]
  | some row => exact find_replaced found_ chosen (same row rfl)

section second
variable {found : Option Row} {applied : Object} {categories : List String}

theorem assign_given {c : Column} {d : Doc} (given : valueOf r.payload c = some d) (other : c ≠ .geoPrecision)
    (applied_ : Applied env r creating o applied) : read env c d = .ok (applied.texts c) := by
  have first := applied_.texts c other
  unfold assign at first
  rw [given] at first
  exact first

theorem origin_parts (newId : ListingId) (matched : matchListing env s r = .ok found) :
    (origin r newId found).tenant = r.tenant ∧ (origin r newId found).typeId = r.type.id := by
  cases found with
  | none => exact ⟨rfl,rfl⟩
  | some row =>
      unfold matchListing at matched
      split at matched
      · split at matched
        next => cases matched
        next old here =>
          split at matched
          next typed =>
            cases matched
            have held := (Bool.and_eq_true _ _ ▸ List.find?_some here : _ ∧ _)
            exact ⟨of_decide_eq_true held.1,typed⟩
          next => cases matched
      · split at matched
        · have held := List.find?_some (Except.ok.inj matched)
          unfold bySlug at held
          rw [Bool.and_eq_true,Bool.and_eq_true] at held
          exact ⟨of_decide_eq_true held.1.1,of_decide_eq_true held.1.2⟩
        · cases matched

theorem readSlug_slug {d value : Doc} (given : readSlug env d = .ok value) : value = slug env d := by
  unfold readSlug at given
  dsimp only at given
  split at given
  · cases given
  · split at given
    · cases given
    · exact (Except.ok.inj given).symm

theorem slugOf_given (named : (slugOf env r).truthy = true) :
    ∃ d, r.payload.lookup "slug" = some d ∧ ∃ t, slugOf env r = .str (env.slugify t) := by
  unfold slugOf at named ⊢
  cases given : r.payload.lookup "slug" with
  | none =>
      rw [given] at named
      cases named
  | some d =>
      rw [given] at named
      refine ⟨d,rfl,env.plain (text d),?_⟩
      unfold slug at named ⊢
      split at named
      next full => exact if_pos full
      next empty => exact absurd named empty

theorem cell_slug {t : String} (admitted : Column.refuses env .slug (.str (env.slugify t)) = none) :
    Column.cell env .slug (.str (env.slugify t)) = env.slugify t := by
  unfold Column.refuses at admitted
  split at admitted
  next => cases admitted
  next =>
    split at admitted
    next blanks =>
      have short : (env.slugify t).toList.drop 200 = [] := by
        rw [List.eq_nil_iff_forall_not_mem]
        intro c there
        have slugged := List.all_eq_true.mp (env.slugified t) c (List.mem_of_mem_drop there)
        have blank : c = ' ' := of_decide_eq_true (List.all_eq_true.mp blanks c there)
        rw [blank] at slugged
        cases slugged
      have whole := List.take_append_drop 200 (env.slugify t).toList
      rw [short,List.append_nil] at whole
      show String.ofList ((env.slugify t).toList.take 200) = env.slugify t
      rw [whole,String.ofList_toList]
    next => cases admitted

theorem applied_ids (given : Applied env r creating o applied) :
    applied.tenant = o.tenant ∧ applied.publicId = o.publicId ∧ applied.typeId = o.typeId := by
  rw [given.rest]
  exact ⟨rfl,rfl,rfl⟩

theorem filed_slug (given : Applied env r creating o applied) (saved : saveRow env applied = .ok (rowOf env applied))
    (named : (slugOf env r).truthy = true) : (filed env applied categories).texts .slug = env.plain (slugOf env r) := by
  obtain ⟨d,held,t,slugged⟩ := slugOf_given named
  have set : applied.texts .slug = slugOf env r := by
    have value := readSlug_slug (assign_given (show valueOf r.payload .slug = some d from held) nofun given)
    unfold slugOf
    rw [held]
    exact value
  have admitted := (saveRow_exact.mp saved).1 .slug
  show Column.cell env .slug (applied.texts .slug) = _
  rw [set,slugged] at admitted ⊢
  exact cell_slug admitted

theorem matchListing_again (matched : matchListing env s r = .ok found) (given : Applied env r creating (origin r newId found) applied)
    (saved : saveRow env applied = .ok (rowOf env applied)) (named : (idOf r).truthy ∨ (slugOf env r).truthy)
    (rows : s'.rows = place found.isNone (filed env applied categories) s.rows) :
    matchListing env s' r = .ok (some (filed env applied categories)) := by
  obtain ⟨tenant,typed⟩ := origin_parts newId matched
  obtain ⟨tenant_,publicId,typeId⟩ := applied_ids given
  have same : ∀ row ∈ found, (filed env applied categories).publicId = row.publicId := by
    intro row there
    rw [Option.mem_def.mp there] at publicId
    exact publicId
  have owned : (filed env applied categories).tenant = r.tenant := tenant_.trans tenant
  have kind : (filed env applied categories).typeId = r.type.id := typeId.trans typed
  unfold matchListing at matched ⊢
  rw [rows]
  by_cases byId_ : (idOf r).truthy = true
  · rw [if_pos byId_] at matched ⊢
    split at matched
    next => cases matched
    next row here =>
      split at matched
      next =>
        cases matched
        have held := List.find?_some here
        unfold byId at held
        rw [Bool.and_eq_true] at held
        have chosen : byId env r (filed env applied categories) = true := by
          unfold byId
          rw [Bool.and_eq_true]
          exact ⟨decide_eq_true owned,decide_eq_true ((same row rfl).trans (of_decide_eq_true held.2))⟩
        rw [find_placed here chosen same]
        exact if_pos kind
      next => cases matched
  · have slugged := named.resolve_left byId_
    rw [if_neg byId_,if_pos slugged] at matched ⊢
    have chosen : bySlug env r (filed env applied categories) = true := by
      unfold bySlug
      rw [Bool.and_eq_true,Bool.and_eq_true]
      exact ⟨⟨decide_eq_true owned,decide_eq_true kind⟩,decide_eq_true (filed_slug given saved slugged)⟩
    rw [find_placed (Except.ok.inj matched) chosen same]

theorem setCategories_again {old : List String} (chosen : setCategories env r old = .ok categories) :
    setCategories env r categories = .ok categories := by
  unfold setCategories at chosen ⊢
  split at chosen
  next => rfl
  next => exact chosen

theorem recompute_again (indexed : recomputeSearchVector applied = .ok ()) (row : Row) :
    recomputeSearchVector (again r applied row) = .ok () := by
  unfold recomputeSearchVector at indexed
  split at indexed
  next fit =>
    refine if_pos ?_
    unfold again
    dsimp only
    refine ⟨?_,?_,?_,?_⟩
    · split
      · exact fit.1
      · rfl
    · split
      · exact fit.2.1
      · rfl
    · split
      · exact fit.2.2.1
      · rfl
    · split
      · exact fit.2.2.2
      · rfl
  next => cases indexed

theorem write_again (given : Applied env r creating o applied) (saved : saveRow env applied = .ok (rowOf env applied))
    {old : List String} (chosen : setCategories env r old = .ok categories) (indexed : recomputeSearchVector applied = .ok ())
    (there : filed env applied categories ∈ s'.rows) :
    write env s' r false (load (filed env applied categories)) = .ok (s',again r applied (filed env applied categories)) := by
  have same : filed env (again r applied (filed env applied categories)) categories = filed env applied categories := by
    show ({rowOf env (again r applied (filed env applied categories)) with categories := categories} : Row) = _
    rw [rowOf_again]
    rfl
  have unmoved := place_same s'.unique there
  refine write_exact.mpr ⟨_,categories,applied_again given (saveRow_exact.mp saved).2.2.2.1,?_,?_,?_,?_,recompute_again indexed _,rfl⟩
  · rw [rowOf_again]
    exact saveRow_again saved
  · rw [rowOf_again,unmoved]
    exact s'.unique
  · exact setCategories_again chosen
  · rw [same]
    refine keep_exact.mpr ⟨unmoved.symm ▸ s'.unique,?_⟩
    cases s'
    simp only [unmoved]

theorem update_wrote (wrote : write env s r false (load row) = .ok (s',after)) (free : r.mustCreate = false) :
    update env s r row = .ok (if (diff (project (load row)) (project after)).isEmpty then (s',.unchanged)
      else (s'.emit r row.publicId (.updated (diff (project (load row)) (project after)) r.type.key),.updated)) := by
  unfold update
  rw [if_neg (free ▸ Bool.false_ne_true)]
  refine bind_exact.mpr ⟨(s',after),wrote,?_⟩
  dsimp only
  generalize diff (project (load row)) (project after) = changes
  cases changes <;> rfl

theorem upsert_found (newId : ListingId) (storable : (Doc.obj r.payload).storable = true) (unrejected : checkRejected r = .ok ())
    (matched : matchListing env s r = .ok (some row)) :
    upsertListing env s r newId = match update env s r row with
      | .ok (written,outcome) => (written,.ok outcome)
      | .error failure => (s,.error failure) := by
  have answered : applyUpsert env s r newId = update env s r row := by
    unfold applyUpsert
    rw [unrejected,matched]
    rfl
  unfold upsertListing
  rw [if_neg fun absurd => absurd storable]
  exact answered ▸ rfl

end second

end writes

section condition
variable {env : Environment} {r : Request} {creating : Bool} {s s' : Store} {o applied : Object} {found : Option Row}
  {categories : List String} {newId newId' : ListingId} {outcome : Outcome}

-- Both coordinates are there once the payload is applied to the row it names, if any.
def placed (r : Request) (found : Option Row) : Bool :=
  keeps (objectAt r.payload "location") "lat" (found.bind (·.lat)) && keeps (objectAt r.payload "location") "lon" (found.bind (·.lon))

def documents (r : Request) : List Doc :=
  ((objectAt r.payload "contact").lookup "social").toList ++ (r.payload.lookup "external_profiles").toList ++
    (r.payload.lookup "attributes").toList

-- The columns give back what the payload sets them to: texts that fit, once they are
-- normalised, and documents whose floats are exact.
structure Steady (env : Environment) (r : Request) (found : Option Row) : Prop where
  texts : ∀ c d x, valueOf r.payload c = some d → read env c d = .ok x → Fitting c x
  precision : (explicitPrecision r).truthy → placed r found → Fitting .geoPrecision (explicitPrecision r)
  documents : ∀ d ∈ documents r, d.Exact env.shown

theorem text_steady (saved : saveRow env applied = .ok (rowOf env applied)) (c : Column) :
    equal (some (c.shown ((load (filed env applied categories)).texts c)))
      (some (c.shown ((again r applied (filed env applied categories)).texts c))) = true ↔ (sets r applied c = true → Fitting c (applied.texts c)) := by
  have known := known_of_admitted ((saveRow_exact.mp saved).1 c)
  show equal (some (c.shown (.str (c.cell env (applied.texts c)))))
    (some (c.shown (if sets r applied c then applied.texts c else .str (c.cell env (applied.texts c))))) = true ↔ _
  split
  next set => exact (equal_shown known).trans (cell_fitting.trans (true_imp_iff.symm.trans (imp_congr_left (iff_of_true trivial set))))
  next kept => exact iff_of_true (equal_refl _) fun set => absurd set kept

theorem equal_reload (d : Doc) : equal (some (d.reload env.shown).json) (some d.json) = true ↔ d.Exact env.shown :=
  equal_some.trans (canon_reload d)

theorem only_some {α : Type} {p : α → Prop} {a : α} : (∀ d, some a = some d → p d) ↔ p a :=
  ⟨fun all => all a rfl,fun holds _ same => Option.some.inj same ▸ holds⟩

theorem social_steady (given : applySocial r o.social = .ok applied.social) :
    equal (some (Doc.arr (filed env applied categories).social).json)
      (some (Doc.arr (again r applied (filed env applied categories)).social).json) = true ↔
        ∀ d, (objectAt r.payload "contact").lookup "social" = some d → d.Exact env.shown := by
  unfold applySocial at given
  unfold again
  dsimp only
  cases held : (objectAt r.payload "contact").lookup "social" with
  | none => exact iff_of_true (equal_refl _) nofun
  | some d =>
      rw [held] at given
      rw [Option.isSome_some,if_pos rfl,only_some]
      refine (equal_reload (.arr applied.social)).trans ?_
      cases d with
      | null => exact (Except.ok.inj given) ▸ Iff.rfl
      | arr items => exact (Except.ok.inj given) ▸ Iff.rfl
      | _ => cases given

theorem blob_steady {blob : String} {old new : Fields} (given : applyBlob r blob old = .ok new) :
    equal (some (Doc.obj (Doc.reloadFields env.shown new)).json)
      (some (Doc.obj (if (r.payload.lookup blob).isSome then new else Doc.reloadFields env.shown new)).json) = true ↔
        ∀ d, r.payload.lookup blob = some d → d.Exact env.shown := by
  unfold applyBlob at given
  cases held : r.payload.lookup blob with
  | none => exact iff_of_true (equal_refl _) nofun
  | some d =>
      rw [held] at given
      rw [Option.isSome_some,if_pos rfl,only_some]
      refine (equal_reload (.obj new)).trans ?_
      cases d with
      | null => exact (Except.ok.inj given) ▸ Iff.rfl
      | obj fields => exact (Except.ok.inj given) ▸ Iff.rfl
      | _ => cases given

theorem diff_steady (categories : List String) (given : Applied env r creating (origin r newId found) applied) (saved : saveRow env applied = .ok (rowOf env applied)) :
    diff (project (load (filed env applied categories))) (project (again r applied (filed env applied categories))) = [] ↔
      Steady env r found := by
  have coordinates : applied.lat.isSome = placed r found ∧ (applied.lat.isSome → applied.texts .geoPrecision = explicitPrecision r) ∨
      (explicitPrecision r).truthy = false := by
    cases explicit : (explicitPrecision r).truthy with
    | false => exact .inr rfl
    | true =>
        have kept := located_keeps given.geo explicit
        cases found with
        | none => exact .inl kept
        | some row => exact .inl kept
  refine diff_project.trans ?_
  constructor
  · intro alike
    obtain ⟨texts,social,profiles,attributes⟩ := alike
    refine ⟨?_,?_,?_⟩
    · intro c d x held value
      have other : c ≠ .geoPrecision := by
        rintro rfl
        cases held
      have set : sets r applied c = true := by
        unfold sets
        rw [if_neg other,held]
        rfl
      have same := Except.ok.inj ((assign_given held other given).symm.trans value)
      exact same ▸ (text_steady saved c).mp (texts c) set
    · intro explicit there
      obtain ⟨lat,precise⟩ := coordinates.resolve_right fun absurd => Bool.false_ne_true (absurd.symm.trans explicit)
      have here := lat.trans there
      exact precise here ▸ (text_steady saved .geoPrecision).mp (texts .geoPrecision) (sets_precision.mpr ⟨explicit,here⟩)
    · intro d there
      unfold documents at there
      rw [List.mem_append,List.mem_append,Option.mem_toList,Option.mem_toList,Option.mem_toList] at there
      rcases there with (inSocial | inProfiles) | inAttributes
      · exact (social_steady given.social).mp social d inSocial
      · exact (blob_steady given.externalProfiles).mp profiles d inProfiles
      · exact (blob_steady given.attributes).mp attributes d inAttributes
  · intro steady
    have listed {d : Doc} (there : (objectAt r.payload "contact").lookup "social" = some d ∨
        r.payload.lookup "external_profiles" = some d ∨ r.payload.lookup "attributes" = some d) : d ∈ documents r := by
      unfold documents
      rw [List.mem_append,List.mem_append,Option.mem_toList,Option.mem_toList,Option.mem_toList]
      exact or_assoc.mpr there
    refine ⟨?_,(social_steady given.social).mpr fun d there => steady.documents d (listed (.inl there)),
      (blob_steady given.externalProfiles).mpr fun d there => steady.documents d (listed (.inr (.inl there))),
      (blob_steady given.attributes).mpr fun d there => steady.documents d (listed (.inr (.inr there)))⟩
    intro c
    refine (text_steady saved c).mpr ?_
    intro set
    by_cases precise : c = .geoPrecision
    · subst precise
      obtain ⟨explicit,here⟩ := sets_precision.mp set
      obtain ⟨lat,same⟩ := coordinates.resolve_right fun absurd => Bool.false_ne_true (absurd.symm.trans explicit)
      exact same here ▸ steady.precision explicit (lat.symm.trans here)
    · unfold sets at set
      rw [if_neg precise] at set
      obtain ⟨d,held⟩ := Option.isSome_iff_exists.mp set
      exact steady.texts c d _ held (assign_given held precise given)

theorem matchListing_mem {row : Row} (matched : matchListing env s r = .ok (some row)) : row ∈ s.rows := by
  unfold matchListing at matched
  split at matched
  · split at matched
    next => cases matched
    next here =>
      split at matched
      next =>
        cases matched
        exact List.mem_of_find?_eq_some here
      next => cases matched
  · split at matched
    next => exact List.mem_of_find?_eq_some (Except.ok.inj matched)
    next => cases matched

theorem matchListing_unnamed (unnamed : ¬((idOf r).truthy ∨ (slugOf env r).truthy)) : matchListing env s r = .ok none := by
  rw [not_or] at unnamed
  unfold matchListing
  rw [if_neg unnamed.1,if_neg unnamed.2]

theorem applied_new (given : Applied env r true (newListing r newId) applied) :
    Applied env r true (newListing r newId') {applied with publicId := newId'} where
  texts := given.texts
  location := given.location
  geo := given.geo
  contact := given.contact
  social := given.social
  externalProfiles := given.externalProfiles
  attributes := given.attributes
  customFields := given.customFields
  reviewsDisabled := given.reviewsDisabled
  rest := by rw [given.rest]; rfl

-- A payload that names no row makes a second one of the same slug.
theorem create_again (newId' : ListingId) (storable : (Doc.obj r.payload).storable = true) (unrejected : checkRejected r = .ok ())
    (unnamed : ¬((idOf r).truthy ∨ (slugOf env r).truthy)) (creatable : checkCreate env r = .ok ())
    (given : Applied env r true (newListing r newId) applied) (saved : saveRow env applied = .ok (rowOf env applied))
    (rows : s'.rows = s.rows ++ [filed env applied categories]) :
    upsertListing env s' r newId' = (s',.error (.raised .integrityError)) := by
  have saved' : saveRow env {applied with publicId := newId'} = .ok (rowOf env {applied with publicId := newId'}) := by
    obtain ⟨admitted,lat,lon,matched,_⟩ := saveRow_exact.mp saved
    exact saveRow_exact.mpr ⟨admitted,lat,lon,matched,rfl⟩
  have taken : ¬Unique (place true (rowOf env {applied with publicId := newId'}) s'.rows) := by
    intro unique
    have slots := unique.2
    unfold place at slots
    rw [if_pos rfl,rows,List.append_assoc,List.map_append] at slots
    have last := (List.nodup_append.mp slots).2.1
    exact (List.nodup_cons.mp last).1 (List.mem_singleton.mpr rfl)
  have kept : s'.keep (place true (rowOf env {applied with publicId := newId'}) s'.rows) = .error (.raised .integrityError) := dif_neg taken
  have wrote : write env s' r true (newListing r newId') = .error (.raised .integrityError) :=
    bind_error.mpr (.inr ⟨_,applyPayload_exact.mpr (applied_new given),bind_error.mpr (.inr ⟨_,saved',bind_error.mpr (.inl kept)⟩)⟩)
  have created : create env s' r newId' = .error (.raised .integrityError) :=
    bind_error.mpr (.inr ⟨_,creatable,bind_error.mpr (.inl wrote)⟩)
  have answered : applyUpsert env s' r newId' = .error (.raised .integrityError) :=
    bind_error.mpr (.inr ⟨_,unrejected,bind_error.mpr (.inr ⟨_,matchListing_unnamed unnamed,created⟩)⟩)
  unfold upsertListing
  rw [if_neg fun absurd => absurd storable,answered]

def foundRow (env : Environment) (s : Store) (r : Request) : Option Row :=
  match matchListing env s r with
  | .ok found => found
  | .error _ => none

-- The payload names the row it makes, and must make one or is steady.
def Holds (env : Environment) (s : Store) (r : Request) : Prop :=
  ((idOf r).truthy ∨ (slugOf env r).truthy) ∧ (r.mustCreate ∨ Steady env r (foundRow env s r))

def Repeats (env : Environment) (s : Store) (r : Request) (newId : ListingId) : Prop :=
  ((upsertListing env s r newId).2 = .ok .unchanged ∨
      r.mustCreate ∧ ∃ failure, (upsertListing env s r newId).2 = .error failure ∧ failure.refusal) ∧
    (upsertListing env s r newId).1.outbox = s.outbox ∧
    ∀ publicId, (upsertListing env s r newId).1.projection publicId = s.projection publicId

theorem upsert_idempotent (accepted : upsertListing env s r newId = (s',.ok outcome)) (newId' : ListingId) :
    Repeats env s' r newId' ↔ Holds env s r := by
  obtain ⟨storable,unrejected,found,written,after,matched,wrote,rows,free,creatable⟩ := accepted_parts accepted
  obtain ⟨applied,categories,given,saved,_,chosen,kept,indexed,_⟩ := write_exact.mp wrote
  obtain ⟨_,rfl⟩ := keep_exact.mp kept
  have here : foundRow env s r = found := by
    unfold foundRow
    rw [matched]
  unfold Holds
  rw [here]
  by_cases named : (idOf r).truthy ∨ (slugOf env r).truthy
  · have again_ := matchListing_again matched given saved named rows
    have wrote' := write_again given saved chosen indexed (matchListing_mem again_)
    have answer := upsert_found newId' storable unrejected again_
    rw [and_iff_right named]
    unfold Repeats
    cases must : r.mustCreate with
    | true =>
        refine iff_of_true ?_ (.inl rfl)
        have refused : update env s' r (filed env applied categories) = schemaError
            ("a listing with slug '" ++ (filed env applied categories).texts .slug ++ "' already exists") := by
          unfold update
          rw [if_pos must]
        rw [refused] at answer
        rw [answer]
        exact ⟨.inr ⟨rfl,_,rfl,rfl⟩,rfl,fun _ => rfl⟩
    | false =>
        rw [or_iff_right Bool.false_ne_true]
        rw [update_wrote wrote' must] at answer
        rw [answer]
        refine Iff.trans ?_ (diff_steady categories given saved)
        cases diff (project (load (filed env applied categories))) (project (again r applied (filed env applied categories))) with
        | nil => exact iff_of_true ⟨.inl rfl,rfl,fun _ => rfl⟩ rfl
        | cons change rest =>
            refine iff_of_false ?_ nofun
            intro repeated
            rcases repeated.1 with absurd | ⟨absurd,_⟩
            · cases absurd
            · cases absurd
  · refine iff_of_false ?_ fun holds => named holds.1
    have new : found = none := Except.ok.inj (matched.symm.trans (matchListing_unnamed named))
    subst new
    have answer := create_again newId' storable unrejected named (creatable rfl) given saved rows
    intro repeated
    unfold Repeats at repeated
    rw [answer] at repeated
    rcases repeated.1 with absurd | ⟨_,_,same,refusal⟩
    · cases absurd
    · cases same
      cases refusal

end condition

section runs

def asRead : Environment where
  toValues := {Imports.asRead with
    slugify := fun s => String.ofList (s.toList.filter isSlugChar)
    decimal6 := fun s => [("52",52),("13",13)].lookup s}
  slugified s := by simp
  str
    | .int n => toString n
    | _ => ""
  shown _ := 0
  integer _ := none
  decimal _ := none
  isoDate _ := none
  isUrl _ := false
  isEmail _ := false
  checkSuppressed _ _ := .ok ()

def empty : Store := ⟨[],by decide,[]⟩

def cafes : ListingType := ⟨1,"cafe",[],List.nodup_nil,["vegan"]⟩

def request (payload : Fields) : Request := ⟨1,cafes,payload,⟨"operator",none⟩,"manual","","",true,false,false⟩

def texts : Request :=
  request [("slug",.str "cafe"),("name",.str " Cafe "),("location",.obj [("lat",.int 52),("lon",.int 13)]),
    ("attributes",.obj [("seats",.int 12)]),("categories",.arr [.str "vegan"])]

theorem upsert_idempotent_texts : Repeats asRead (upsertListing asRead empty texts "lst_1").1 texts "lst_2" := by
  have accepted : (upsertListing asRead empty texts "lst_1").2 = .ok .created := by decide +kernel
  refine (upsert_idempotent (Prod.ext rfl accepted) "lst_2").mpr ⟨.inr (by decide),.inr ⟨?_,?_,?_⟩⟩
  · intro c d x held value
    cases c with
    | slug =>
        cases held
        cases value
        exact ⟨"cafe",rfl,by decide⟩
    | name =>
        cases held
        cases value
        exact ⟨"Cafe",rfl,by decide⟩
    | _ => cases held
  · exact nofun
  · intro d there
    rw [List.mem_singleton.mp there]
    exact ⟨trivial,trivial⟩

def numbered : Request := request [("slug",.str "cafe"),("name",.int 42)]

theorem number_updated_again : (upsertListing asRead empty numbered "lst_1").2 = .ok .created ∧
    (upsertListing asRead (upsertListing asRead empty numbered "lst_1").1 numbered "lst_2").2 = .ok .updated ∧
    ¬Repeats asRead (upsertListing asRead empty numbered "lst_1").1 numbered "lst_2" := by
  have updated : (upsertListing asRead (upsertListing asRead empty numbered "lst_1").1 numbered "lst_2").2 = .ok .updated := by
    decide +kernel
  refine ⟨by decide +kernel,updated,?_⟩
  intro repeated
  rcases repeated.1 with absurd | ⟨absurd,_⟩
  · rw [updated] at absurd
    cases absurd
  · cases absurd

end runs

end Osds.Directory.Payloads
