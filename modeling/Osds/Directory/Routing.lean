import Osds.Directory.Site
import Mathlib.Data.List.DropRight
import Mathlib.Data.List.Sort

namespace Osds.Directory

def typeUrl (t : ListingType) (multi : Bool) : Path :=
  if multi then '/' :: t.pathSegment.text ++ ['/'] else ['/']

def categoryUrl (t : ListingType) (c : Category) (multi : Bool) : Path :=
  (if multi then '/' :: t.pathSegment.text else []) ++ '/' :: c.slug.text ++ ['/']

def listingUrl (t : ListingType) (category : Option Category) (l : SiteListing) (multi : Bool) : Option Path :=
  category.map fun c => (if multi then '/' :: t.pathSegment.text else []) ++ '/' :: c.slug.text ++ '/' :: l.slug

-- The tenant URLconf ahead of the home page and the catch-all. A converter
-- fills one segment of the path.
inductive Piece where
  | literal (text : Path)
  | str
  | slug
  -- (listings|categories)-[1-9][0-9]*\.xml
  | shard
  deriving DecidableEq

def isShardNumber : Path → Bool
  | [] => false
  | first :: rest => first.isDigit && first ≠ '0' && rest.all Char.isDigit

def isShard (segment : Path) : Bool :=
  ["listings-".toList,"categories-".toList].any fun kind =>
    let rest := segment.drop kind.length
    kind.isPrefixOf segment && ".xml".toList.isSuffixOf rest && isShardNumber (rest.take (rest.length-4))

def Piece.matches : Piece → Path → Bool
  | .literal text,segment => segment = text
  | .str,segment => !segment.isEmpty
  | .slug,segment => isSlug segment
  | .shard,segment => isShard segment

def piece (segment : Path) : Piece :=
  if "<str:".toList.isPrefixOf segment then .str
  else if "<slug:".toList.isPrefixOf segment then .slug
  else .literal segment

def route (pattern : String) : List Piece := (pattern.toList.splitOn '/').map piece

def urlpatterns : List (List Piece) :=
  [route ".well-known/osds-challenge",
    route "admin",
    route "search/",
    route "media/<str:public_id>",
    route "owner/",
    route "owner/signin/",
    route "owner/signin/sent/",
    route "owner/signin/<str:token>/",
    route "owner/signout/",
    route "owner/listings/<str:public_id>/",
    route "owner/listings/<str:public_id>/media/add/",
    route "owner/listings/<str:public_id>/media/<str:asset_public_id>/remove/",
    route "owner/listings/<str:public_id>/billing/checkout/",
    route "owner/listings/<str:public_id>/billing/cancel/",
    route "owner/listings/<str:public_id>/billing/portal/",
    route "owner/listings/<str:public_id>/billing/return/",
    route "_adapters/<slug:adapter_id>/inbound/",
    route "owner/leads/",
    route "claim/<str:public_id>/",
    route "claim/<str:public_id>/submitted/",
    route "claim/<str:public_id>/verify/",
    route "claim/<str:public_id>/verify/resend/",
    route "lead/<str:public_id>/",
    route "lead/<str:public_id>/sent/",
    route "robots.txt",
    route "sitemap.xml",
    [.literal "sitemaps".toList,.shard]]

def matchesRoute : List Piece → List Path → Bool
  | [],[] => true
  | p :: pieces,segment :: segments => p.matches segment && matchesRoute pieces segments
  | _,_ => false

-- `adminUrls` stands for the two URLconfs included under "admin/".
def ownRoute (adminUrls : Path → Bool) (path : Path) : Bool :=
  urlpatterns.any (matchesRoute · (path.splitOn '/')) ||
    ("admin/".toList.isPrefixOf path && adminUrls (path.drop 6))

inductive Page where
  | ownRoute
  | home
  | typeLanding (type : Nat)
  | category (id : Nat)
  | listing (id category : Nat)
  deriving DecidableEq

inductive Response where
  | page (page : Page)
  | redirect (location : Path)
  | notFound
  deriving DecidableEq

def RESERVED_TOP : List Path := ["robots.txt".toList,"sitemap.xml".toList,"sitemaps".toList,"lead".toList]

def topSegment (requestPath : Path) : Path :=
  ((requestPath.dropWhile (· = '/')).rdropWhile (· = '/')).takeWhile (· ≠ '/')

def PathRedirect.applies (row : PathRedirect) (requestPath : Path) : Bool :=
  row.oldPrefix = [] || requestPath = row.oldPrefix || (row.oldPrefix ++ ['/']).isPrefixOf requestPath

def PathRedirect.rewrite (row : PathRedirect) (requestPath : Path) : Path :=
  row.newPrefix ++ requestPath.drop row.oldPrefix.length

def PathRedirect.longest (row other : PathRedirect) : Prop := other.oldPrefix.length ≤ row.oldPrefix.length

instance : DecidableRel PathRedirect.longest := fun row other =>
  inferInstanceAs (Decidable (other.oldPrefix.length ≤ row.oldPrefix.length))

def matchRedirect (rows : List PathRedirect) (requestPath : Path) : Option Path :=
  if topSegment requestPath ∈ RESERVED_TOP then none
  else ((rows.insertionSort PathRedirect.longest).find? (·.applies requestPath)).map (·.rewrite requestPath)

def categoryPage (s : Site) (t : ListingType) (slug : Path) : Response :=
  match s.categories.find? fun c => c.typeId = t.id && c.slug.text = slug with
  | none => .notFound
  | some c => .page (.category c.id)

def listingDetail (s : Site) (t : ListingType) (categorySlug listingSlug : Path) : Response :=
  match s.listings.find? fun l => l.visibility = .published && l.typeId = t.id && l.slug = listingSlug with
  | none => .notFound
  | some l =>
      match s.categories.find? fun c => c.typeId = t.id && c.slug.text = categorySlug with
      | none => .notFound
      | some c => if l.categories.contains c.id then .page (.listing l.id c.id) else .notFound

def underType (s : Site) (t : ListingType) : List Path → Response
  | [] => .page (.typeLanding t.id)
  | [slug] => categoryPage s t slug
  | [categorySlug,listingSlug] => listingDetail s t categorySlug listingSlug
  | _ => .notFound

def publicPage (s : Site) (path : Path) : Response :=
  let segments := (path.splitOn '/').filter (· ≠ [])
  match s.types,segments with
  | [],_ => .notFound
  | [t],segments => underType s t segments
  | _,[] => .notFound
  | types,first :: rest =>
      match types.find? (·.pathSegment.text = first) with
      | none => .notFound
      | some t => underType s t rest

def publicDispatch (s : Site) (path : Path) : Response :=
  match (matchRedirect s.redirects ('/' :: path)).filter (· ≠ []) with
  | some location => .redirect location
  | none => publicPage s path

-- A request for a path of the tenant's domain. The catch-all is `.+`, which
-- matches no line break.
def respond (adminUrls : Path → Bool) (s : Site) : Path → Response
  | '/' :: path =>
      if ownRoute adminUrls path then .page .ownRoute
      else if path = [] then .page .home
      else if '\n' ∈ path then .notFound
      else publicDispatch s path
  | _ => .notFound

def follow (adminUrls : Path → Bool) (s : Site) (requestPath : Path) : Option Path :=
  match respond adminUrls s requestPath with
  | .redirect location => some location
  | _ => none

end Osds.Directory
