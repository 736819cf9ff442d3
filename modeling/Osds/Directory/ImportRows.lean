import Osds.Directory.ImportWorker

namespace Osds.Directory.ImportRows
open Audit Imports ImportWorker

def RowError (e : UpsertError) : Prop := ∀ d, e ≠ .raised d

def Raises (x : Except UpsertError α) : Prop := ∃ d, x = .error (.raised d)

section conditions

variable (v : Values) (payload : Imports.Payload)

def Unnamed : Prop := ∃ value ∈ payload.name, text value = none

def Reserved : Prop :=
  ∃ value ∈ payload.slug, (v.lower (Text.strip value)).toList ∈ RESERVED_SLUGS ∨ (slug v value).toList ∈ RESERVED_SLUGS

def Misread (key : String) : Prop :=
  ∃ value ∈ payload.location.lookup key, value ≠ "" ∧ v.decimal6 value = none ∧ v.isNaN value = false

-- A coordinate the listing will have: its cell's, or its own where it has no cell.
def Present (key : String) (old : Option Rat) : Prop :=
  match payload.location.lookup key with
  | none => old.isSome
  | some value => value ≠ ""

def Placed (l : Location) : Prop := Present payload "lat" l.lat ∧ Present payload "lon" l.lon

def Misplaced (l : Location) : Prop :=
  Misread v payload "lat" ∨ Misread v payload "lon" ∨ Placed payload l ∧ payload.location.lookup "geo_precision" = some "none"

def Unreachable : Prop := ∃ value ∈ payload.contact.lookup "phone_e164", ∃ message, phoneE164 v value = .error message

def Mismatched (type : TypeSetup) (creating : Bool) : Prop :=
  payload.customFields ≠ [] ∧ ∃ e, validateCustomFields v type.fields payload.customFields creating = .error e

def Refused (type : TypeSetup) (creating : Bool) (l : Location) : Prop :=
  Unnamed payload ∨ Reserved v payload ∨ Misplaced v payload l ∨ Unreachable v payload ∨ Mismatched v payload type creating

def Plotted (l : Location) : Prop :=
  Placed payload l →
    (∀ key ∈ ["lat","lon"], ∀ value ∈ payload.location.lookup key, ∃ q ∈ v.decimal6 value, -1000 < q ∧ q < 1000) ∧
      fitsText 10 (payload.location.lookup "geo_precision")

-- What the columns take of a row, and no check asks for.
structure Narrow (l : Location) : Prop where
  slug : fitsText 200 (payload.slug.map (slug v))
  name : fitsText 255 (payload.name.bind text)
  address : ∀ column ∈ [(255,"address_line1"),(255,"address_line2"),(120,"locality"),(120,"region"),(20,"postal_code")],
    fitsText column.1 ((payload.location.lookup column.2).bind text)
  country : fitsText 2 ((payload.location.lookup "country").bind (country v))
  email : fitsText 254 ((payload.contact.lookup "email").bind (email v))
  website : fitsText 200 ((payload.contact.lookup "website").bind (website v))
  plotted : Plotted v payload l

-- No other listing of the type has the slug the row leaves the listing with.
def Free (t : Tables) (publicId : ListingId) (l : Listing) : Prop :=
  ∀ other m, t.listings.lookup other = some m → m.tenant = l.tenant → m.typeKey = l.typeKey →
    m.projection.slug = (payload.slug.map (slug v)).getD l.projection.slug → other = publicId

def Uncategorized (type : TypeSetup) : Prop := ∃ slugs ∈ payload.categories, ∃ slug ∈ slugs, slug ≠ "" ∧ slug ∉ type.categories

end conditions

section harmless

variable (setup : Setup) (v : Values) (t : Tables) (b : ImportBatch) (payload : Imports.Payload)

structure Savable (publicId : ListingId) (l : Listing) : Prop where
  narrow : Narrow v payload l.projection.location
  free : Free v payload t publicId l
  indexed : Uncategorized payload (setup.type b.tenant b.typeKey) ∨ setup.vectorFits l.projection payload

def Settled (publicId : ListingId) (l : Listing) (creating : Bool) : Prop :=
  Refused v payload (setup.type b.tenant b.typeKey) creating l.projection.location ∨ Savable setup v t b payload publicId l

-- The row `n` that is done, or has no NUL and is refused before the save, or can be saved.
def Harmless (n : Nat) (newId : ListingId) : Prop :=
  Applied t b n ∨ payload.storable ∧
    match matchListing v t b payload with
    | .error _ => True
    | .ok none =>
        checkCreate setup b payload = .ok () → Settled setup v t b payload newId (newListing b.tenant b.typeKey) true
    | .ok (some (publicId,l)) => Settled setup v t b payload publicId l false

end harmless

def Constrained (t : Tables) : Prop :=
  ∀ publicId l, t.listings.lookup publicId = some l → Fits l.projection ∧ Location.Matched l.projection.location

theorem raises_bind {x : Except UpsertError α} {f : α → Except UpsertError β} :
    Raises (x >>= f) ↔ Raises x ∨ ∃ a, x = .ok a ∧ Raises (f a) := by
  constructor
  · intro raised
    obtain ⟨d,error⟩ := raised
    rcases Fallible.bind_error.mp error with first | ⟨a,done,second⟩
    · exact .inl ⟨d,first⟩
    · exact .inr ⟨a,done,d,second⟩
  · intro raised
    rcases raised with ⟨d,first⟩ | ⟨a,done,d,second⟩
    · exact ⟨d,Fallible.bind_error.mpr (.inl first)⟩
    · exact ⟨d,Fallible.bind_error.mpr (.inr ⟨a,done,second⟩)⟩

section cells

variable {v : Values} {payload : Imports.Payload} {p q : Projection} {l m : Location}

theorem schemaError_row (message : String) : RowError (.schema [message]) := fun _ same => by cases same

theorem applyName_reads (p : Projection) : Fallible.Reads (Unnamed payload) RowError
    (fun q => q = {p with name := (payload.name.bind text).getD p.name}) (applyName payload p) := by
  unfold applyName Unnamed
  cases given : payload.name with
  | none => exact .returned (fun bad => by obtain ⟨_,absurd,_⟩ := bad; cases absurd) rfl
  | some value =>
      dsimp only
      split
      · next blank => exact .refused ⟨value,rfl,blank⟩ (schemaError_row _)
      · next name read =>
          refine .returned ?_ ?_
          · intro bad
            obtain ⟨_,same,blank⟩ := bad
            cases same
            rw [read] at blank
            cases blank
          · dsimp only [Option.bind]
            rw [read]
            rfl

theorem applySlug_reads (p : Projection) : Fallible.Reads (Reserved v payload) RowError
    (fun q => q = {p with slug := (payload.slug.map (slug v)).getD p.slug}) (applySlug v payload p) := by
  unfold applySlug Reserved
  cases given : payload.slug with
  | none => exact .returned (fun bad => by obtain ⟨_,absurd,_⟩ := bad; cases absurd) rfl
  | some value =>
      dsimp only
      split
      · next listed => exact .refused ⟨value,rfl,listed⟩ (schemaError_row _)
      · next free =>
          refine .returned ?_ rfl
          intro bad
          obtain ⟨_,same,listed⟩ := bad
          cases same
          exact free listed

theorem fitsText_none (width : Nat) : fitsText width none := fun _ absurd => by cases absurd

theorem fitsText_some {width : Nat} {value : String} : fitsText width (some value) ↔ value.length ≤ width := by
  constructor
  · intro fits
    exact fits value rfl
  · intro fits t same
    cases same
    exact fits

theorem degree_reads (key : String) (old : Option Rat) : Fallible.Reads (Misread v payload key) RowError
    (fun d => (d.isSome ↔ Present payload key old) ∧ (fitsDegree old → ∀ x, d = some x →
      (x.isSome ∧ fitsDegree x ↔ ∀ value ∈ payload.location.lookup key, ∃ q ∈ v.decimal6 value, -1000 < q ∧ q < 1000)))
    (degree v payload.location key old) := by
  unfold degree Misread Present
  cases payload.location.lookup key with
  | none =>
      refine .returned (fun bad => by obtain ⟨_,absurd,_⟩ := bad; cases absurd) ⟨?_,?_⟩
      · rw [Option.isSome_map]
      · intro fits x read
        obtain ⟨q,stored,same⟩ := Option.map_eq_some_iff.mp read
        subst same
        refine iff_of_true ⟨rfl,?_⟩ (fun _ absurd => by cases absurd)
        rw [stored] at fits
        exact fits
  | some value =>
      dsimp only
      split
      · next blank =>
          refine .returned ?_ ⟨?_,fun _ _ absurd => by cases absurd⟩
          · intro bad
            obtain ⟨_,same,given,_⟩ := bad
            cases same
            exact given blank
          · exact iff_of_false Bool.false_ne_true (fun given => given blank)
      · next given =>
          cases number : v.decimal6 value with
          | some q =>
              refine .returned ?_ ⟨iff_of_true rfl given,?_⟩
              · intro bad
                obtain ⟨_,same,_,none_,_⟩ := bad
                cases same
                rw [number] at none_
                cases none_
              · intro _ x same
                cases same
                constructor
                · intro fits value' same
                  cases same
                  exact ⟨q,number,fits.2 q rfl⟩
                · intro ranged
                  obtain ⟨q',same,bounds⟩ := ranged value rfl
                  rw [number] at same
                  cases same
                  exact ⟨rfl,fun _ same => by cases same; exact bounds⟩
          | none =>
              dsimp only
              split
              · next nan =>
                  refine .returned ?_ ⟨iff_of_true rfl given,?_⟩
                  · intro bad
                    obtain ⟨_,same,_,_,other⟩ := bad
                    cases same
                    rw [nan] at other
                    cases other
                  · intro _ x same
                    cases same
                    refine iff_of_false (fun fits => Bool.false_ne_true fits.1) ?_
                    intro ranged
                    obtain ⟨_,absurd,_⟩ := ranged value rfl
                    rw [number] at absurd
                    cases absurd
              · next other => exact .refused ⟨value,rfl,given,number,Bool.eq_false_iff.mpr other⟩ (schemaError_row _)

theorem precision_reads {old : String} (fits : old.length ≤ 10) :
    Fallible.Reads (payload.location.lookup "geo_precision" = some "none") RowError
      (fun new => new ≠ "none" ∧ (new.length ≤ 10 ↔ fitsText 10 (payload.location.lookup "geo_precision")))
      (precision payload.location old) := by
  have fallback : (if old = "none" then "locality" else old) ≠ "none" ∧
      (if old = "none" then "locality" else old).length ≤ 10 := by
    split
    · decide
    · next other => exact ⟨other,fits⟩
  unfold precision
  cases payload.location.lookup "geo_precision" with
  | none =>
      refine .returned (fun absurd => by cases absurd) ⟨fallback.1,?_⟩
      exact iff_of_true fallback.2 (fitsText_none 10)
  | some explicit =>
      dsimp only
      split
      · next none_ => exact .refused (congrArg some none_) (schemaError_row _)
      · next other =>
          have fine : ¬some explicit = some "none" := fun same => other (Option.some.inj same)
          split
          · exact .returned fine ⟨other,fitsText_some.symm⟩
          · next blank =>
              have empty : explicit = "" := Decidable.not_not.mp blank
              refine .returned fine ⟨fallback.1,iff_of_true fallback.2 (fitsText_some.mpr ?_)⟩
              rw [empty]
              decide

structure Mapped (v : Values) (payload : Imports.Payload) (l : Location) (m : Location × Bool) : Prop where
  rest : ∃ lat lon precision, m.1 = {l with lat := lat,lon := lon,geoPrecision := precision}
  matched : m.2 = false → Location.Matched m.1
  exact_ : m.2 = false ∧ fitsDegree m.1.lat ∧ fitsDegree m.1.lon ∧ m.1.geoPrecision.length ≤ 10 ↔ Plotted v payload l

structure Bounded (l : Location) : Prop where
  lat : fitsDegree l.lat
  lon : fitsDegree l.lon
  precision : l.geoPrecision.length ≤ 10

theorem fitsDegree_none : fitsDegree none := fun _ absurd => by cases absurd

def Ranged (v : Values) (payload : Imports.Payload) (key : String) : Prop :=
  ∀ value ∈ payload.location.lookup key, ∃ q ∈ v.decimal6 value, -1000 < q ∧ q < 1000

theorem placed_mapped (placed : Placed payload l) (north : x.isSome ∧ fitsDegree x ↔ Ranged v payload "lat")
    (east : y.isSome ∧ fitsDegree y ↔ Ranged v payload "lon") (named : new ≠ "none")
    (short : new.length ≤ 10 ↔ fitsText 10 (payload.location.lookup "geo_precision")) :
    Mapped v payload l ({l with lat := x,lon := y,geoPrecision := new},x.isNone || y.isNone) := by
  have finite : (x.isNone || y.isNone) = false ↔ x.isSome ∧ y.isSome := by
    rw [Bool.or_eq_false_iff,Option.isNone_eq_false_iff,Option.isNone_eq_false_iff]
  refine ⟨⟨_,_,_,rfl⟩,?_,?_⟩
  · intro none_
    obtain ⟨hasX,hasY⟩ := finite.mp none_
    exact .inr ⟨named,hasX,hasY⟩
  · constructor
    · intro fits
      obtain ⟨none_,latitude,longitude,narrow⟩ := fits
      obtain ⟨hasX,hasY⟩ := finite.mp none_
      intro _
      refine ⟨?_,short.mp narrow⟩
      intro key listed
      rcases List.mem_cons.mp listed with rfl | rest
      · exact north.mp ⟨hasX,latitude⟩
      · rw [List.mem_singleton.mp rest]
        exact east.mp ⟨hasY,longitude⟩
    · intro plotted
      obtain ⟨ranged,narrow⟩ := plotted placed
      have latitude := north.mpr (ranged "lat" List.mem_cons_self)
      have longitude := east.mpr (ranged "lon" (List.mem_cons_of_mem _ List.mem_cons_self))
      exact ⟨finite.mpr ⟨latitude.1,longitude.1⟩,latitude.2,longitude.2,short.mpr narrow⟩

theorem unplaced_mapped (unplaced : ¬Placed payload l) :
    Mapped v payload l ({l with lat := none,lon := none,geoPrecision := "none"},false) := by
  refine ⟨⟨_,_,_,rfl⟩,fun _ => .inl ⟨rfl,rfl,rfl⟩,?_⟩
  exact iff_of_true ⟨rfl,fitsDegree_none,fitsDegree_none,(by decide : "none".length ≤ 10)⟩ (fun placed => (unplaced placed).elim)

theorem applyGeo_reads (payload : Imports.Payload) (bounded : Bounded l) : Fallible.Reads (Misplaced v payload l) RowError (Mapped v payload l)
    (applyGeo v payload.location l) := by
  refine Fallible.reads_bind (degree_reads "lat" l.lat) ?_
  intro lat latitude
  refine Fallible.reads_bind (degree_reads "lon" l.lon) ?_
  intro lon longitude
  split
  · next both =>
      have placed : Placed payload l := ⟨latitude.1.mp both.1,longitude.1.mp both.2⟩
      obtain ⟨x,north⟩ := Option.isSome_iff_exists.mp both.1
      obtain ⟨y,east⟩ := Option.isSome_iff_exists.mp both.2
      have named : payload.location.lookup "geo_precision" = some "none" ∨ False ↔
          Placed payload l ∧ payload.location.lookup "geo_precision" = some "none" := by
        rw [or_false]
        exact (and_iff_right placed).symm
      refine Fallible.reads_congr named (Fallible.reads_bind (precision_reads bounded.precision) ?_)
      intro new short
      subst north east
      refine .returned (fun h => h) ?_
      exact placed_mapped placed (latitude.2 bounded.lat x rfl) (longitude.2 bounded.lon y rfl) short.1 short.2
  · next apart =>
      have unplaced : ¬Placed payload l := fun placed => apart ⟨latitude.1.mpr placed.1,longitude.1.mpr placed.2⟩
      exact .returned (fun bad => unplaced bad.1) (unplaced_mapped unplaced)

theorem untouched_mapped (bounded : Bounded l) (matched : Location.Matched l) (lat : payload.location.lookup "lat" = none)
    (lon : payload.location.lookup "lon" = none) (precision : payload.location.lookup "geo_precision" = none) :
    Mapped v payload l (l,false) := by
  refine ⟨⟨l.lat,l.lon,l.geoPrecision,rfl⟩,fun _ => matched,?_⟩
  refine iff_of_true ⟨rfl,bounded.lat,bounded.lon,bounded.precision⟩ (fun _ => ⟨?_,?_⟩)
  · intro key listed value given
    rcases List.mem_cons.mp listed with rfl | rest
    · rw [lat] at given
      cases given
    · rw [List.mem_singleton.mp rest,lon] at given
      cases given
  · rw [precision]
    exact fitsText_none 10

theorem applyLocation_reads (payload : Imports.Payload) (bounded : Bounded p.location) (matched : Location.Matched p.location) :
    Fallible.Reads (Misplaced v payload p.location) RowError
      (fun r => ∃ m, r = ({p with location := m},r.2) ∧ Mapped v payload (applyAddress v payload.location p.location) (m,r.2))
      (applyLocation v payload p) := by
  unfold applyLocation
  dsimp only
  split
  · have geo := applyGeo_reads payload (v := v) (l := applyAddress v payload.location p.location)
      ⟨bounded.lat,bounded.lon,bounded.precision⟩
    refine Fallible.reads_congr (Iff.of_eq (or_false _)) (Fallible.reads_bind geo ?_)
    intro m mapped
    exact .returned (fun h => h) ⟨m.1,rfl,mapped⟩
  · next absent =>
      rw [not_or,not_or,Option.not_isSome_iff_eq_none,Option.not_isSome_iff_eq_none,Option.not_isSome_iff_eq_none] at absent
      obtain ⟨lat,lon,precision⟩ := absent
      refine .returned ?_ ⟨_,rfl,untouched_mapped ⟨bounded.lat,bounded.lon,bounded.precision⟩ matched lat lon precision⟩
      intro bad
      rcases bad with ⟨_,given,_⟩ | ⟨_,given,_⟩ | ⟨_,given⟩
      · rw [lat] at given
        cases given
      · rw [lon] at given
        cases given
      · rw [precision] at given
        cases given

theorem digits_short {chars : List Char} (digits : (chars.drop 1).length ≤ 15) : fitsText 16 (some (String.ofList chars)) := by
  refine fitsText_some.mpr ?_
  rw [String.length_ofList]
  rw [List.length_drop] at digits
  omega

theorem phoneE164_short {number : Option String} (read : phoneE164 v value = .ok number) : fitsText 16 number := by
  unfold phoneE164 at read
  split at read
  · cases read
    exact fitsText_none 16
  · dsimp only at read
    split at read
    · split at read
      · next valid =>
          cases read
          exact digits_short valid.2.2.1
      · cases read
    · split at read
      · next valid =>
          cases read
          exact digits_short valid.2.2.1
      · cases read

theorem applyPhone_reads {c : Contact} (fits : fitsText 16 c.phoneE164) : Fallible.Reads (Unreachable v payload) RowError
    (fun d => ∃ number, d = {c with phoneE164 := number} ∧ fitsText 16 number) (applyPhone v payload c) := by
  unfold applyPhone Unreachable
  cases payload.contact.lookup "phone_e164" with
  | none => exact .returned (fun bad => by obtain ⟨_,absurd,_⟩ := bad; cases absurd) ⟨c.phoneE164,rfl,fits⟩
  | some value =>
      dsimp only
      split
      · next number read =>
          refine .returned ?_ ⟨number,rfl,phoneE164_short read⟩
          intro bad
          obtain ⟨_,same,_,malformed⟩ := bad
          cases same
          rw [read] at malformed
          cases malformed
      · next message malformed => exact .refused ⟨value,rfl,message,malformed⟩ (schemaError_row _)

theorem applyContact_reads (fits : fitsText 16 p.contact.phoneE164) : Fallible.Reads (Unreachable v payload) RowError
    (fun q => ∃ number, q = {p with contact := {p.contact with
      phoneE164 := number
      email := placed (email v) payload.contact "email" p.contact.email
      website := placed (website v) payload.contact "website" p.contact.website}} ∧ fitsText 16 number)
    (applyContact v payload p) := by
  refine Fallible.reads_congr (Iff.of_eq (or_false _)) (Fallible.reads_bind (applyPhone_reads fits) ?_)
  intro phoned short
  obtain ⟨number,same,narrow⟩ := short
  subst same
  exact .returned (fun h => h) ⟨number,rfl,narrow⟩

theorem validateCustomFields_row (refused : validateCustomFields v fields values creating = .error e) : RowError e := by
  unfold validateCustomFields at refused
  dsimp only at refused
  split at refused
  · cases refused
  · cases refused
    exact fun _ same => by cases same

theorem applyCustomFields_reads (type : TypeSetup) (creating : Bool) (p : Projection) :
    Fallible.Reads (Mismatched v payload type creating) RowError (fun q => ∃ fields, q = {p with customFields := fields})
      (applyCustomFields v type payload creating p) := by
  unfold applyCustomFields Mismatched
  split
  · next none_ => exact .returned (fun bad => bad.1 none_) ⟨p.customFields,rfl⟩
  · next given =>
      split
      · next e refused => exact .refused ⟨given,e,refused⟩ (validateCustomFields_row refused)
      · next cleaned valid =>
          refine .returned ?_ ⟨_,rfl⟩
          intro bad
          obtain ⟨_,e,refused⟩ := bad
          rw [valid] at refused
          cases refused

structure Landed (v : Values) (payload : Imports.Payload) (p : Projection) (r : Projection × Bool) : Prop where
  name : r.1.name = (payload.name.bind text).getD p.name
  slug : r.1.slug = (payload.slug.map (slug v)).getD p.slug
  location : Mapped v payload (applyAddress v payload.location p.location) (r.1.location,r.2)
  phone : fitsText 16 r.1.contact.phoneE164
  email : r.1.contact.email = placed (email v) payload.contact "email" p.contact.email
  website : r.1.contact.website = placed (website v) payload.contact "website" p.contact.website
  source : r.1.source = p.source

theorem applyPayload_reads (payload : Imports.Payload) (type : TypeSetup) (creating : Bool)
    (bounded : Bounded p.location) (matched : Location.Matched p.location) (phone : fitsText 16 p.contact.phoneE164) :
    Fallible.Reads (Refused v payload type creating p.location) RowError (Landed v payload p)
      (applyPayload v type payload creating p) := by
  refine Fallible.reads_bind (applyName_reads p) ?_
  intro named name
  refine Fallible.reads_bind (applySlug_reads named) ?_
  intro slugged slug
  subst name slug
  have geo := applyLocation_reads payload (v := v) (p := applyDescription payload {p with
    name := (payload.name.bind text).getD p.name
    slug := (payload.slug.map (Imports.slug v)).getD p.slug}) bounded matched
  refine Fallible.reads_bind geo ?_
  intro located location
  obtain ⟨m,same,mapped⟩ := location
  obtain ⟨_,nan⟩ := located
  cases same
  refine Fallible.reads_bind (applyContact_reads phone) ?_
  intro contacted contact
  obtain ⟨number,same,short⟩ := contact
  subst same
  refine Fallible.reads_congr (Iff.of_eq (or_false _)) (Fallible.reads_bind (applyCustomFields_reads type creating _) ?_)
  intro final fields
  obtain ⟨_,same⟩ := fields
  subst same
  exact .returned (fun h => h) ⟨rfl,rfl,mapped,short,rfl,rfl,rfl⟩

theorem placed_fits {width : Nat} {old : Option String} (fits : fitsText width old) (read : String → Option String)
    (cells : List (String × String)) (key : String) :
    fitsText width (placed read cells key old) ↔ fitsText width ((cells.lookup key).bind read) := by
  unfold placed
  cases cells.lookup key with
  | none => exact iff_of_true fits (fitsText_none width)
  | some value => exact Iff.rfl

theorem getD_fits {width : Nat} {old : String} (fits : old.length ≤ width) (given : Option String) :
    (given.getD old).length ≤ width ↔ fitsText width given := by
  cases given with
  | none => exact iff_of_true fits (fitsText_none width)
  | some value => exact fitsText_some.symm

theorem Landed.fits_exact (landed : Landed v payload p r) (fits : Fits p) :
    r.2 = false ∧ Fits r.1 ↔ Narrow v payload p.location := by
  obtain ⟨lat,lon,precision,address⟩ := landed.location.rest
  dsimp only at address
  have plot : _ ↔ Plotted v payload p.location := landed.location.exact_
  obtain ⟨texts,_,_⟩ := fits
  simp only [List.forall_mem_cons] at texts
  obtain ⟨slug,name,line1,line2,locality,region,postal,country,_,_,email,website,source,_⟩ := texts
  have slugs := getD_fits (fitsText_some.mp slug) (payload.slug.map (Imports.slug v))
  have names := getD_fits (fitsText_some.mp name) (payload.name.bind text)
  unfold Fits
  simp only [List.forall_mem_cons,fitsText_some]
  rw [landed.slug,landed.name,landed.email,landed.website,landed.source,slugs,names,placed_fits email,placed_fits website]
  constructor
  · intro both
    obtain ⟨finite,⟨slug',name',line1',line2',locality',region',postal',country',narrow,_,email',website',_⟩,north,east⟩ := both
    refine ⟨slug',name',?_,?_,email',website',plot.mp ⟨finite,north,east,narrow⟩⟩
    · simp only [List.forall_mem_cons]
      rw [address] at line1' line2' locality' region' postal'
      exact ⟨(placed_fits line1 text _ _).mp line1',(placed_fits line2 text _ _).mp line2',
        (placed_fits locality text _ _).mp locality',(placed_fits region text _ _).mp region',
        (placed_fits postal text _ _).mp postal',List.forall_mem_nil _⟩
    · rw [address] at country'
      exact (placed_fits country (Imports.country v) _ _).mp country'
  · intro narrow
    obtain ⟨finite,north,east,short⟩ := plot.mpr narrow.plotted
    have lines := narrow.address
    simp only [List.forall_mem_cons] at lines
    obtain ⟨line1',line2',locality',region',postal',_⟩ := lines
    refine ⟨finite,⟨narrow.slug,narrow.name,?_,?_,?_,?_,?_,?_,short,landed.phone,narrow.email,narrow.website,?_,
      List.forall_mem_nil _⟩,north,east⟩
    · rw [address]
      exact (placed_fits line1 text _ _).mpr line1'
    · rw [address]
      exact (placed_fits line2 text _ _).mpr line2'
    · rw [address]
      exact (placed_fits locality text _ _).mpr locality'
    · rw [address]
      exact (placed_fits region text _ _).mpr region'
    · rw [address]
      exact (placed_fits postal text _ _).mpr postal'
    · rw [address]
      exact (placed_fits country (Imports.country v) _ _).mpr narrow.country
    · exact fitsText_some.mp source

theorem Bounded.of_fits (fits : Fits p) : Bounded p.location ∧ fitsText 16 p.contact.phoneE164 := by
  obtain ⟨texts,lat,lon⟩ := fits
  simp only [List.forall_mem_cons] at texts
  obtain ⟨_,_,_,_,_,_,_,_,precision,phone,_⟩ := texts
  exact ⟨⟨lat,lon,fitsText_some.mp precision⟩,phone⟩

theorem applyCategories_reads (payload : Imports.Payload) (type : TypeSetup) (p : Projection) :
    Fallible.Reads (Uncategorized payload type) RowError (fun _ => True) (applyCategories type payload p) := by
  unfold applyCategories Uncategorized
  cases payload.categories with
  | none => exact .returned (fun bad => by obtain ⟨_,absurd,_⟩ := bad; cases absurd) trivial
  | some slugs =>
      have listed : ∀ slug, slug ∈ missingCategories type slugs ↔ slug ∈ slugs ∧ slug ≠ "" ∧ slug ∉ type.categories := by
        intro slug
        unfold missingCategories
        rw [List.mem_insertionSort,List.mem_dedup,List.mem_filter,decide_eq_true_iff]
      dsimp only
      split
      · next none_ =>
          refine .returned ?_ trivial
          intro bad
          obtain ⟨_,same,slug,named,unknown⟩ := bad
          cases same
          have absurd := (listed slug).mpr ⟨named,unknown⟩
          rw [none_] at absurd
          cases absurd
      · next missing some_ =>
          obtain ⟨slug,first⟩ := List.exists_mem_of_ne_nil _ some_
          obtain ⟨named,unknown⟩ := (listed slug).mp first
          exact .refused ⟨slugs,rfl,slug,named,unknown⟩ (fun _ same => by cases same)

end cells

section rows

variable {setup : Setup} {v : Values} {t : Tables} {b : ImportBatch} {payload : Imports.Payload} {publicId : ListingId}
  {l : Listing} {creating : Bool}

theorem not_raises_ok (a : α) : ¬Raises (.ok a) := fun raised => by obtain ⟨_,absurd⟩ := raised; cases absurd

theorem not_raises_row {e : UpsertError} (row : RowError e) : ¬Raises (.error e : Except UpsertError α) := by
  intro raised
  obtain ⟨d,same⟩ := raised
  exact row d (Except.error.inj same)

theorem saveRow_landed {r : Projection × Bool} (landed : Landed v payload l.projection r) (fits : Fits l.projection)
    (fresh : creating = true → publicId ∉ t.listings) :
    (∃ t', saveRow t publicId {l with projection := r.1} r.2 creating = .ok t') ↔
      Narrow v payload l.projection.location ∧ Free v payload t publicId l := by
  constructor
  · intro done
    obtain ⟨_,done⟩ := done
    obtain ⟨finite,_,row⟩ := saveRow_exact.mp done
    obtain ⟨narrow,_,free,_⟩ := Tables.save_exact.mp row
    refine ⟨(landed.fits_exact fits).mp ⟨finite,narrow⟩,?_⟩
    intro other m stored tenant type slug
    exact free other m stored ⟨tenant,type,slug.trans landed.slug.symm⟩
  · intro both
    obtain ⟨narrow,free⟩ := both
    obtain ⟨finite,within⟩ := (landed.fits_exact fits).mpr narrow
    refine ⟨_,saveRow_exact.mpr ⟨finite,fun there => fresh there.1 there.2,Tables.save_exact.mpr ⟨within,?_,?_,rfl⟩⟩⟩
    · exact landed.location.matched finite
    · intro other m stored slot
      exact free other m stored slot.1 slot.2.1 (slot.2.2.trans landed.slug)

theorem indexed_raises (setup : Setup) (b : ImportBatch) (payload : Imports.Payload) (before p : Projection)
    (rest : Projection → Tables × Projection) :
    Raises (do
      let after ← applyCategories (setup.type b.tenant b.typeKey) payload p
      recomputeSearchVector setup before payload
      pure (rest after)) ↔
      ¬(Uncategorized payload (setup.type b.tenant b.typeKey) ∨ setup.vectorFits before payload = true) := by
  have reads := applyCategories_reads payload (setup.type b.tenant b.typeKey) p
  generalize applyCategories (setup.type b.tenant b.typeKey) payload p = x at reads ⊢
  cases reads with
  | refused why error => exact iff_of_false (not_raises_row error) (fun fine => fine (.inl why))
  | returned known =>
      unfold recomputeSearchVector
      by_cases short : setup.vectorFits before payload = true
      · rw [if_pos short]
        exact iff_of_false (not_raises_ok _) (fun fine => fine (.inr short))
      · rw [if_neg short]
        exact iff_of_true ⟨_,rfl⟩ (fun fine => fine.elim known short)

theorem write_raises (setup : Setup) (v : Values) (b : ImportBatch) (payload : Imports.Payload) (creating : Bool)
    (fits : Fits l.projection) (matched : Location.Matched l.projection.location)
    (fresh : creating = true → publicId ∉ t.listings) :
    Raises (write setup v t b publicId l payload creating) ↔ ¬Settled setup v t b payload publicId l creating := by
  obtain ⟨bounded,phone⟩ := Bounded.of_fits fits
  have reads := applyPayload_reads payload (v := v) (setup.type b.tenant b.typeKey) creating bounded matched phone
  unfold write
  dsimp only
  generalize applyPayload v (setup.type b.tenant b.typeKey) payload creating l.projection = x at reads ⊢
  cases reads with
  | refused why error => exact iff_of_false (not_raises_row error) (fun fine => fine (.inl why))
  | @returned r known landed =>
      have saves := saveRow_landed landed fits fresh
      change Raises (saved (saveRow t publicId {l with projection := r.1} r.2 creating) >>= _) ↔ _
      generalize saveRow t publicId {l with projection := r.1} r.2 creating = y at saves ⊢
      cases y with
      | error e =>
          refine iff_of_true ⟨e,rfl⟩ ?_
          intro fine
          rcases fine with refused | savable
          · exact known refused
          · obtain ⟨_,absurd⟩ := saves.mpr ⟨savable.narrow,savable.free⟩
            cases absurd
      | ok t' =>
          obtain ⟨narrow,free⟩ := saves.mp ⟨t',rfl⟩
          have indexed := indexed_raises setup b payload l.projection r.1
            (fun after => ({t' with listings := t'.listings.insert publicId {l with projection := after}},after))
          refine indexed.trans (not_congr ⟨?_,?_⟩)
          · intro short
            exact .inr ⟨narrow,free,short⟩
          · intro fine
            rcases fine with refused | savable
            · exact (known refused).elim
            · exact savable.indexed

theorem not_raises_matched (error : matchListing v t b payload = .error e) : RowError e := by
  unfold matchListing at error
  split at error
  · split at error
    · cases error
      exact schemaError_row _
    · split at error
      · cases error
      · cases error
        exact fun _ same => by cases same
  · dsimp only at error
    split at error
    · cases error
    · cases error

theorem not_raises_checked (error : checkCreate setup b payload = .error e) : RowError e := by
  unfold checkCreate at error
  split at error
  · cases error
    exact schemaError_row _
  · split at error
    · cases error
      exact fun _ same => by cases same
    · cases error

theorem newListing_fits (tenant : TenantId) (typeKey : String) : Fits (newListing tenant typeKey).projection := by
  have plain_ : Fits (newListing 0 "").projection := by decide
  exact plain_

theorem raises_first {x : Except UpsertError α} {f : α → Except UpsertError β} (rest : ∀ a, ¬Raises (f a)) :
    Raises (x >>= f) ↔ Raises x := by
  rw [raises_bind]
  constructor
  · intro raised
    rcases raised with first | ⟨a,_,second⟩
    · exact first
    · exact (rest a second).elim
  · exact .inl

theorem applyUpsert_raises (setup : Setup) (v : Values) (b : ImportBatch) (payload : Imports.Payload)
    (constrained : Constrained t) (fresh : newId ∉ t.listings) :
    Raises (applyUpsert setup v t b payload newId) ↔ ¬(match matchListing v t b payload with
      | .error _ => True
      | .ok none =>
          checkCreate setup b payload = .ok () → Settled setup v t b payload newId (newListing b.tenant b.typeKey) true
      | .ok (some (publicId,l)) => Settled setup v t b payload publicId l false) := by
  unfold applyUpsert
  cases found : matchListing v t b payload with
  | error e => exact iff_of_false (not_raises_row (not_raises_matched found)) (fun fine => fine trivial)
  | ok match_ =>
      cases match_ with
      | none =>
          change Raises (create setup v t b payload newId) ↔ _
          unfold create
          cases checked : checkCreate setup b payload with
          | error e =>
              refine iff_of_false (not_raises_row (not_raises_checked checked)) (fun fine => fine ?_)
              intro absurd
              cases absurd
          | ok _ =>
              change Raises (write setup v t b newId (newListing b.tenant b.typeKey) payload true >>= _) ↔ _
              have settled := write_raises setup v b payload true
                (newListing_fits b.tenant b.typeKey) (.inl ⟨rfl,rfl,rfl⟩) (fun _ => fresh)
              refine (raises_first ?_).trans (settled.trans (not_congr ⟨fun fine _ => fine,fun fine => fine rfl⟩))
              intro r
              exact not_raises_ok _
      | some match_ =>
          obtain ⟨publicId,l⟩ := match_
          obtain ⟨fits,matched⟩ := constrained publicId l (matchListing_found found).1
          change Raises (write setup v t b publicId l payload false >>= _) ↔ _
          refine (raises_first ?_).trans (write_raises _ _ _ _ _ fits matched (fun absurd => by cases absurd))
          intro r
          dsimp only
          split
          · exact not_raises_ok _
          · exact not_raises_ok _

theorem upsertListing_raises (setup : Setup) (v : Values) (b : ImportBatch) (payload : Imports.Payload)
    (constrained : Constrained t) (fresh : newId ∉ t.listings) (n : Nat) :
    (∃ d, (upsertListing setup v t b payload n newId).2 = .failed (.raised d)) ↔ ¬Harmless setup v t b payload n newId := by
  have applied := applyUpsert_raises setup v b payload constrained fresh
  have ends := upsertListing_ends setup v t b payload n newId
  generalize upsertListing setup v t b payload n newId = result at ends ⊢
  cases ends with
  | replayed prior =>
      refine iff_of_false ?_ (fun bad => bad (.inl prior))
      intro raised
      obtain ⟨_,absurd⟩ := raised
      cases absurd
  | unlogged fresh nul =>
      refine iff_of_true ⟨_,rfl⟩ ?_
      intro fine
      rcases fine with prior | ⟨storable,_⟩
      · exact fresh prior
      · rw [nul] at storable
        cases storable
  | done fresh storable done =>
      rw [done] at applied
      refine iff_of_false ?_ (fun bad => applied.not.mp (not_raises_ok _) (fun fine => bad (.inr ⟨storable,fine⟩)))
      intro raised
      obtain ⟨_,absurd⟩ := raised
      cases absurd
  | failed fresh storable refused =>
      rw [refused] at applied
      constructor
      · intro raised fine
        obtain ⟨d,same⟩ := raised
        cases same
        rcases fine with prior | ⟨_,fine⟩
        · exact fresh prior
        · exact applied.mp ⟨d,rfl⟩ fine
      · intro bad
        obtain ⟨d,same⟩ := applied.mpr (fun fine => bad (.inr ⟨storable,fine⟩))
        cases same
        exact ⟨d,rfl⟩

end rows

section worker

variable {v : Values} {describe : DbError → String} {file : Except String (List (List String))} {b : ImportBatch}

-- What becomes of row `n`: its write with an applied log row, or with a rejected one the
-- tables as they were; and the counter, the errors and the notes it is told by.
inductive Recorded (setup : Setup) (v : Values) (t : Tables) (b : ImportBatch) (payload : Imports.Payload) (n : Nat)
    (newId : ListingId) : Tables → Counter → List Json → List Json → Prop where
  | applied (fresh : ¬Applied t b n) (t' : Tables) (outcome : Upserted)
      (done : applyUpsert setup v t b payload newId = .ok (t',outcome)) :
      Recorded setup v t b payload n newId {t' with log := t'.log ++ [⟨b.tenant,rowKey b n,some .applied,false⟩]}
        (match outcome with
          | .created => .created
          | .updated => .updated
          | .unchanged => .skipped) [] []
  | again (prior : Applied t b n) :
      Recorded setup v t b payload n newId {t with log := t.log ++ [⟨b.tenant,rowKey b n,some .applied,true⟩]} .updated []
        [.obj [("row",.num n),("note",.str "reprocessed after worker restart")]]
  | refused (errors : List String) (why : applyUpsert setup v t b payload newId = .error (.schema errors)) :
      Recorded setup v t b payload n newId {t with log := t.log ++ [⟨b.tenant,rowKey b n,some .rejected,false⟩]} .error
        [.obj [("row",.num n),("errors",.arr (errors.map .str))]] []
  | rejected (field : String) (why : applyUpsert setup v t b payload newId = .error (.rejectedField field)) :
      Recorded setup v t b payload n newId {t with log := t.log ++ [⟨b.tenant,rowKey b n,some .rejected,false⟩]} .error
        [.obj [("row",.num n),("field",.str field)]] []
  | suppressed (why : applyUpsert setup v t b payload newId = .error .suppressed) :
      Recorded setup v t b payload n newId {t with log := t.log ++ [⟨b.tenant,rowKey b n,some .rejected,false⟩]} .suppressed
        [] []

structure Tally (memory before after : ImportBatch) (n : Nat) (counter : Counter) (errors notes : List Json) : Prop where
  raised : count after counter = count memory counter + 1
  others : ∀ c, c ≠ counter → count after c = count before c
  cursor : after.processedRowCount = n
  errors : after.errors = memory.errors ++ errors
  notes : after.notes = memory.notes ++ notes
  rowCount : after.rowCount = before.rowCount
  status : after.status = before.status

-- The row is applied, or an error or a suppression on record, and the pass is before the
-- next one.
def GoesOn (setup : Setup) (v : Values) (s after : Worker) (p : ImportWorker.Pass) (i : Nat) (cells : List String)
    (rest : List (List String)) (newId : ListingId) : Prop :=
  ∃ counter errors notes memory, Recorded setup v s.tables p.memory
      (buildPayload cells p.memory.detectedHeaders p.memory.columnMapping) (i+1) newId after.tables counter errors notes ∧
    Tally p.memory s.batch after.batch (i+1) counter errors notes ∧
    Tally p.memory p.memory memory (i+1) counter errors notes ∧
    after.pass = some ⟨memory,p.limit,.rows (i+1) rest⟩

theorem tally_bumped (memory : ImportBatch) (n : Nat) (result : RowEnd) : Tally memory memory (bumped describe memory n result) n
    (counterOf result) (rowErrors describe n result) (rowNotes n result) := by
  unfold bumped
  generalize counterOf result = counter
  refine ⟨?_,?_,rfl,rfl,rfl,?_,?_⟩
  · cases counter <;> rfl
  · intro c other
    cases counter <;> cases c <;> first | rfl | exact (other rfl).elim
  · cases counter <;> rfl
  · cases counter <;> rfl

theorem tally_saved (b memory : ImportBatch) (n : Nat) (result : RowEnd) :
    Tally memory b (saveBump b (bumped describe memory n result) result) n (counterOf result) (rowErrors describe n result)
      (rowNotes n result) := by
  unfold saveBump bumped
  generalize counterOf result = counter
  refine ⟨?_,?_,?_,?_,?_,?_,?_⟩
  · cases counter <;> rfl
  · intro c other
    cases counter <;> cases c <;> first | rfl | exact (other rfl).elim
  all_goals cases counter <;> rfl

theorem ends_recorded {result : Tables × RowEnd} (ends : Ends setup v t b payload n newId result)
    (settled : ∀ d, result.2 ≠ .failed (.raised d)) : Recorded setup v t b payload n newId result.1 (counterOf result.2)
      (rowErrors describe n result.2) (rowNotes n result.2) := by
  cases ends with
  | replayed prior => exact .again prior
  | unlogged => exact (settled _ rfl).elim
  | @done t' outcome fresh _ applied =>
      have recorded := Recorded.applied fresh t' outcome applied
      cases outcome <;> exact recorded
  | @failed e conclusion _ _ refused concluded =>
      subst concluded
      cases e with
      | schema errors => exact .refused errors refused
      | rejectedField field => exact .rejected field refused
      | suppressed => exact .suppressed refused
      | raised d => exact (settled d rfl).elim

def processRow (v : Values) (describe : DbError → String) (file : Except String (List (List String))) (s : Worker)
    (setup : Setup) (newId : ListingId) : Worker :=
  let take : Move s.batch := .next setup newId
  Runs.run (step v describe file) s [take,take]

def HarmlessRow (v : Values) (s : Worker) (p : ImportWorker.Pass) (i : Nat) (cells : List String) (setup : Setup) (newId : ListingId) :
    Prop :=
  Harmless setup v s.tables p.memory (buildPayload cells p.memory.detectedHeaders p.memory.columnMapping) (i+1) newId

def HarmlessMove (v : Values) (s : Worker) : Move b → Prop
  | .next setup newId => ∀ p i cells rest, s.pass = some p → p.stage = .rows i (cells :: rest) →
      Constrained s.tables ∧ newId ∉ s.tables.listings ∧ HarmlessRow v s p i cells setup newId
  | _ => True

theorem processRow_exact (pass : s.pass = some p) (stage : p.stage = .rows i (cells :: rest)) (setup : Setup)
    (newId : ListingId) : GoesOn setup v s (processRow v describe file s setup newId) p i cells rest newId ↔
      ∀ d, (upsertListing setup v s.tables p.memory
        (buildPayload cells p.memory.detectedHeaders p.memory.columnMapping) (i+1) newId).2 ≠ .failed (.raised d) := by
  obtain ⟨memory,limit,_⟩ := p
  dsimp only at stage
  subst stage
  have ends := upsertListing_ends setup v s.tables memory
    (buildPayload cells memory.detectedHeaders memory.columnMapping) (i+1) newId
  unfold processRow GoesOn
  dsimp only [Runs.run,ImportWorker.step]
  rw [pass]
  dsimp only [next]
  generalize upsertListing setup v s.tables memory _ (i+1) newId = result at ends ⊢
  constructor
  · intro goes d raised
    obtain ⟨_,_,_,_,_,_,_,onward⟩ := goes
    rw [raised] at onward
    cases onward
  · intro settled
    refine ⟨_,_,_,_,ends_recorded ends settled,tally_saved _ memory (i+1) _,tally_bumped memory (i+1) _,?_⟩
    have onward : afterRow (i+1) rest result.2 = .rows (i+1) rest := by
      unfold afterRow
      split
      · next d failed => exact (settled d failed).elim
      · rfl
    rw [onward]

theorem row_goes_on (constrained : Constrained s.tables) (fresh : newId ∉ s.tables.listings) (pass : s.pass = some p)
    (stage : p.stage = .rows i (cells :: rest)) (setup : Setup) :
    GoesOn setup v s (processRow v describe file s setup newId) p i cells rest newId ↔
      HarmlessRow v s p i cells setup newId := by
  rw [processRow_exact pass stage setup newId,← not_exists]
  have raises := upsertListing_raises setup v p.memory
    (buildPayload cells p.memory.detectedHeaders p.memory.columnMapping) constrained fresh (i+1)
  rw [raises]
  exact not_not

def Sane : Stage → Prop
  | .upserted _ result _ => ∀ d, result ≠ .failed (.raised d)
  | .finishing _ _ => False
  | _ => True

structure Unbroken (s : Worker) : Prop where
  open_ : s.batch.status ≠ .failed
  pass : ∀ p, s.pass = some p → Sane p.stage

theorem Unbroken.rows (unbroken : Unbroken s) (memory : ImportBatch) (limit i : Nat) (chunk : List (List String))
    (same : s'.batch.status = s.batch.status) (pass : s'.pass = some ⟨memory,limit,.rows i chunk⟩) : Unbroken s' := by
  refine ⟨by rw [same]; exact unbroken.open_,?_⟩
  intro p made
  rw [pass] at made
  cases made
  trivial

theorem Unbroken.next (unbroken : Unbroken s) (pass : s.pass = some p) (parsed : List (List String))
    (harmless : HarmlessMove v s (.next setup newId : Move b)) :
    Unbroken (next v describe (.ok parsed) s p setup newId) := by
  have sane := unbroken.pass p pass
  obtain ⟨memory,limit,stage⟩ := p
  cases stage with
  | claimed first =>
      cases first with
      | true => exact ⟨unbroken.open_,fun p made => by cases made; trivial⟩
      | false => exact unbroken.rows memory limit _ _ rfl rfl
  | counted => exact unbroken.rows memory limit _ _ rfl rfl
  | rows i chunk =>
      cases chunk with
      | nil =>
          unfold ImportWorker.next
          dsimp only
          split
          · exact ⟨(fun absurd => by cases absurd),fun p made => by cases made; trivial⟩
          · exact ⟨unbroken.open_,fun p made => by cases made⟩
      | cons cells rest =>
          obtain ⟨constrained,fresh,fine⟩ := harmless ⟨memory,limit,_⟩ i cells rest pass rfl
          refine ⟨unbroken.open_,?_⟩
          intro p made
          cases made
          intro d raised
          exact (upsertListing_raises _ _ _ _ constrained fresh (i+1)).mp ⟨d,raised⟩ fine
  | upserted n result rest =>
      refine ⟨?_,?_⟩
      · change (saveBump s.batch (bumped describe memory n result) result).status ≠ .failed
        rw [saveBump_status]
        exact unbroken.open_
      · intro p made
        cases made
        change Sane (afterRow n rest result)
        unfold afterRow
        split
        · next d => exact (sane d rfl).elim
        · trivial
  | finishing status error => exact sane.elim
  | saved status => exact ⟨unbroken.open_,fun p made => by cases made⟩

theorem Unbroken.step (unbroken : Unbroken s) (parsed : List (List String)) (move : Move b)
    (harmless : HarmlessMove v s move) : Unbroken (step v describe (.ok parsed) s move) := by
  cases move with
  | claim limit =>
      unfold ImportWorker.step
      dsimp only
      split
      · unfold claim
        dsimp only
        split
        · exact ⟨(fun absurd => by cases absurd),fun p made => by cases made; trivial⟩
        · exact ⟨unbroken.open_,fun p made => by cases made; trivial⟩
      · exact unbroken
  | next setup newId =>
      unfold ImportWorker.step
      cases pass : s.pass with
      | none => exact unbroken
      | some p => exact unbroken.next pass parsed harmless
  | crash => exact ⟨unbroken.open_,fun p made => by cases made⟩
  | elsewhere e => exact ⟨unbroken.open_,unbroken.pass⟩

-- Each row settles and the pass goes on iff the row is harmless; and a batch whose rows
-- all are does not fail.
theorem rows_settle (v : Values) (describe : DbError → String) (parsed : List (List String)) :
    (∀ s p i cells rest setup newId, Constrained s.tables → newId ∉ s.tables.listings → s.pass = some p →
      p.stage = .rows i (cells :: rest) →
      (GoesOn setup v s (processRow v describe (.ok parsed) s setup newId) p i cells rest newId ↔
        HarmlessRow v s p i cells setup newId)) ∧
      ∀ (b : ImportBatch) (s : Worker) (moves : List (Move b)), s.pass = none → s.batch.status ≠ .failed →
        Runs.Along (step v describe (.ok parsed)) (HarmlessMove v) s moves →
        (Runs.run (step v describe (.ok parsed)) s moves).batch.status ≠ .failed := by
  refine ⟨?_,?_⟩
  · intro s p i cells rest setup newId constrained fresh pass stage
    exact row_goes_on constrained fresh pass stage setup
  · intro b s moves idle open_ all
    have unbroken : Unbroken s := ⟨open_,fun p pass => by rw [idle] at pass; cases pass⟩
    exact (Runs.along_invariant _ (fun s move kept harmless => kept.step parsed move harmless) unbroken all).open_

end worker

def oneRow : List (List String) := [["name","slug"],["Acme","acme"]]

def imported (moves : List (Move upload)) : Worker :=
  Runs.run (step asRead (fun _ => "") (.ok oneRow)) (begin upload empty) moves

theorem empty_constrained : Constrained empty := by
  intro publicId l stored
  cases stored

theorem acme_goes_on : GoesOn plain asRead (imported [.claim 50,take "",take ""])
    (processRow asRead (fun _ => "") (.ok oneRow) (imported [.claim 50,take "",take ""]) plain "A")
    ⟨(imported [.claim 50,take "",take ""]).batch,50,.rows 0 [["Acme","acme"]]⟩ 0 ["Acme","acme"] [] "A" := by
  refine (processRow_exact rfl rfl plain "A").mpr ?_
  intro d raised
  cases raised

theorem acme_settles : HarmlessRow asRead (imported [.claim 50,take "",take ""])
      ⟨(imported [.claim 50,take "",take ""]).batch,50,.rows 0 [["Acme","acme"]]⟩ 0 ["Acme","acme"] plain "A" ∧
    (imported [.claim 50,take "",take "",take "A",take "",take "",take ""]).batch.status ≠ .failed := by
  have harmless := ((rows_settle asRead (fun _ => "") oneRow).1 (imported [.claim 50,take "",take ""]) _ 0 ["Acme","acme"] []
    plain "A" empty_constrained (by decide) rfl rfl).mp acme_goes_on
  refine ⟨harmless,?_⟩
  refine (rows_settle asRead (fun _ => "") oneRow).2 upload (begin upload empty) _ rfl (by decide)
    ⟨trivial,?_,?_,?_,?_,?_,?_,trivial⟩
  · exact fun p i cells rest pass stage => by cases pass; cases stage
  · exact fun p i cells rest pass stage => by cases pass; cases stage
  · intro p i cells rest pass stage
    cases pass
    cases stage
    exact ⟨empty_constrained,by decide,harmless⟩
  · exact fun p i cells rest pass stage => by cases pass; cases stage
  · exact fun p i cells rest pass stage => by cases pass; cases stage
  · exact fun p i cells rest pass stage => by cases pass; cases stage

def plotted : ImportBatch :=
  {upload with
    detectedHeaders := ["name","slug","lat","lon"]
    columnMapping := [("name","name"),("slug","slug"),("lat","location.lat"),("lon","location.lon")]}

-- Coordinates that are not numbers end the import of a file before its second row.
theorem nan_row_ends_import : ∃ moves : List (Move plotted),
    let s := Runs.run (step {asRead with isNaN := fun value => value = "nan"} (fun _ => "")
      (.ok [["name","slug","lat","lon"],["Acme","acme","nan","nan"],["Beta","beta","",""]])) (begin plotted empty) moves
    s.batch.status = .failed ∧ s.pass.isNone ∧ s.batch.rowCount = 2 ∧ s.consumed = [(1,.failed (.raised .validationError))] := by
  let take (newId : ListingId) : Move plotted := .next plain newId
  exact ⟨[.claim 50,take "",take "",take "A",take "",take "",take ""],rfl,rfl,rfl,rfl⟩

end Osds.Directory.ImportRows
