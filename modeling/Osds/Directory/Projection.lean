import Osds.Lib.Json

namespace Osds.Directory

abbrev Time := Int

structure Location where
  addressLine1 : Option String
  addressLine2 : Option String
  locality : Option String
  region : Option String
  postalCode : Option String
  country : Option String
  lat : Option Rat
  lon : Option Rat
  geoPrecision : String

structure Contact where
  phoneE164 : Option String
  email : Option String
  website : Option String
  social : List Json

-- What `project` makes of a listing: the shape `listing.created` carries and
-- patches point into. Ids, status, visibility, tier and owner are not in it.
structure Projection where
  slug : String
  name : String
  description : Option String
  categories : List String
  location : Location
  contact : Contact
  externalProfiles : List (String × Json)
  attributes : List (String × Json)
  media : Json
  reviewsDisabled : Bool
  customFields : List (String × Json)
  source : String
  provenanceNotes : Option String

def Location.json (l : Location) : Json :=
  .obj [("address_line1",.ofOption .str l.addressLine1),
    ("address_line2",.ofOption .str l.addressLine2),
    ("locality",.ofOption .str l.locality),
    ("region",.ofOption .str l.region),
    ("postal_code",.ofOption .str l.postalCode),
    ("country",.ofOption .str l.country),
    ("lat",.ofOption .num l.lat),
    ("lon",.ofOption .num l.lon),
    ("geo_precision",.str l.geoPrecision)]

def Contact.json (c : Contact) : Json :=
  .obj [("phone_e164",.ofOption .str c.phoneE164),
    ("email",.ofOption .str c.email),
    ("website",.ofOption .str c.website),
    ("social",.arr c.social)]

def Projection.fields (p : Projection) : List (String × Json) :=
  [("slug",.str p.slug),
    ("name",.str p.name),
    ("description",.ofOption .str p.description),
    ("categories",.arr (p.categories.map .str)),
    ("location",p.location.json),
    ("contact",p.contact.json),
    ("external_profiles",.obj p.externalProfiles),
    ("attributes",.obj p.attributes),
    ("media",p.media),
    ("reviews_disabled",.bool p.reviewsDisabled),
    ("custom_fields",.obj p.customFields),
    ("provenance",.obj [("source",.str p.source),("notes",.ofOption .str p.provenanceNotes)])]

inductive PatchOp where
  | add (path : String) (value : Json)
  | replace (path : String) (value : Json)
  | remove (path : String)
  -- tier deletion is the one remove that carries the value it removed
  | removed (path : String) (value : Json)

end Osds.Directory
