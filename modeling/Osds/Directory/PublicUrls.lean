import Osds.Directory.Configuration
import Osds.Directory.Redirects
import Osds.Lib.Rewriting
import Osds.Lib.Runs
import Mathlib.Data.List.Pairwise

namespace Osds.Directory
open Site (Action command step)

-- Every URL that routing builds is answered with its page, and from every path
-- the redirects come to an end. A listing without a slug has the URL of its
-- category.
structure PublicUrls (adminUrls : Path → Bool) (s : Site) : Prop where
  types : ∀ t ∈ s.types,
    respond adminUrls s (typeUrl t s.multi) = .page (if s.multi then .typeLanding t.id else .home)
  categories : ∀ t ∈ s.types, ∀ c ∈ s.categories, c.typeId = t.id →
    respond adminUrls s (categoryUrl t c s.multi) = .page (.category c.id)
  listings : ∀ t ∈ s.types, ∀ c ∈ s.categories, ∀ l ∈ s.listings, ∀ url,
    l.visibility = .published → l.typeId = t.id → c.typeId = t.id → c.id ∈ l.categories →
    listingUrl t (some c) l s.multi = some url →
    respond adminUrls s url = .page (if l.slug = [] then .category c.id else .listing l.id c.id)
  follows : ∀ requestPath, Rewriting.Halts (follow adminUrls s) requestPath

-- A directory of at most one type in which no live slug is a redirect's source
-- and each redirect leads to a source of none written before it.
structure Tidy (s : Site) : Prop where
  single : s.types.length ≤ 1
  owned : ∀ c ∈ s.categories, ∃ t ∈ s.types, t.id = c.typeId
  unreserved : ∀ c ∈ s.categories, c.slug.text ∉ RESERVED_SLUGS
  distinct : ∀ c ∈ s.categories, ∀ other ∈ s.categories,
    c.typeId = other.typeId → c.slug = other.slug → c.id = other.id
  listed : ∀ l ∈ s.listings, ∀ other ∈ s.listings, l.typeId = other.typeId → l.slug = other.slug → l = other
  rows : ∀ row ∈ s.redirects, ∃ source target : Slug,
    row = ⟨'/' :: source.text,'/' :: target.text⟩ ∧ target.text ∉ RESERVED_SLUGS
  free : ∀ c ∈ s.categories, ∀ row ∈ s.redirects, row.oldPrefix ≠ '/' :: c.slug.text
  ordered : s.redirects.Pairwise fun earlier later => later.newPrefix ≠ earlier.oldPrefix
  moved : ∀ row ∈ s.redirects, row.newPrefix ≠ row.oldPrefix

theorem new_tidy : Tidy (Site.new tenant publicId) := by
  constructor <;> simp [Site.new]

variable {s next : Site}

theorem Tidy.multi (tidy : Tidy s) : s.multi = false := by
  have single := tidy.single
  simp only [Site.multi,decide_eq_false_iff_not]
  omega

theorem Tidy.only (tidy : Tidy s) (member : t ∈ s.types) : s.types = [t] := by
  have single := tidy.single
  cases types : s.types with
  | nil =>
      rw [types] at member
      cases member
  | cons first rest =>
      cases rest with
      | nil =>
          rw [types,List.mem_singleton] at member
          rw [member]
      | cons second rest =>
          rw [types] at single
          simp at single

theorem Tidy.same_type (tidy : Tidy s) (one : c ∈ s.categories) (two : other ∈ s.categories) :
    c.typeId = other.typeId := by
  obtain ⟨t,member,owner⟩ := tidy.owned c one
  obtain ⟨t',memberToo,ownerToo⟩ := tidy.owned other two
  rw [tidy.only member,List.mem_singleton] at memberToo
  rw [← owner,← ownerToo,memberToo]

theorem Tidy.quiet (tidy : Tidy s) (member : c ∈ s.categories) (boundary : Boundary rest) :
    matchRedirect s.redirects ('/' :: c.slug.text ++ rest) = none := by
  apply matchRedirect_none
  intro row present
  obtain ⟨source,target,same,_⟩ := tidy.rows row present
  have from_ : row.oldPrefix = '/' :: source.text := by rw [same]
  cases applied : row.applies ('/' :: c.slug.text ++ rest) with
  | false => rfl
  | true => exact absurd (applies_source from_ boundary applied) (tidy.free c member row present)

theorem isSlugChar_line : isSlugChar '\n' = false := rfl

theorem respond_dispatch (adminUrls : Path → Bool) (s : Site) {slug : Slug} (unreserved : slug.text ∉ RESERVED_SLUGS)
    (boundary : Boundary rest) (line : '\n' ∉ rest) :
    respond adminUrls s ('/' :: slug.text ++ rest) = publicDispatch s (slug.text ++ rest) := by
  have dispatched : ownRoute adminUrls (slug.text ++ rest) = false := by
    cases routed : ownRoute adminUrls (slug.text ++ rest) with
    | false => rfl
    | true => exact absurd (ownRoute_reserved slug.no_slash boundary routed) unreserved
  have present : slug.text ++ rest ≠ [] := by simp [slug.ne_nil]
  have oneLine : '\n' ∉ slug.text ++ rest := by
    have plain := not_mem_of_isSlug slug.valid isSlugChar_line
    simp [plain,line]
  simp [respond,dispatched,present,oneLine]

theorem Tidy.respond (tidy : Tidy s) (member : c ∈ s.categories) (boundary : Boundary rest) (line : '\n' ∉ rest) :
    respond adminUrls s ('/' :: c.slug.text ++ rest) = publicPage s (c.slug.text ++ rest) := by
  rw [respond_dispatch adminUrls s (tidy.unreserved c member) boundary line]
  have quiet := tidy.quiet member boundary
  rw [List.cons_append] at quiet
  rw [publicDispatch,quiet]
  rfl

theorem Tidy.publicPage (tidy : Tidy s) (member : t ∈ s.types) (path : Path) :
    publicPage s path = underType s t ((path.splitOn '/').filter (· ≠ [])) := by
  unfold Directory.publicPage
  rw [tidy.only member]

theorem Tidy.category {t : ListingType} (tidy : Tidy s) (member : c ∈ s.categories) (owned : c.typeId = t.id) :
    ∃ found, s.categories.find? (fun c' => c'.typeId = t.id && c'.slug.text = c.slug.text) = some found ∧
      found.id = c.id := by
  have some_ : (s.categories.find? (fun c' => c'.typeId = t.id && c'.slug.text = c.slug.text)).isSome := by
    rw [List.find?_isSome]
    exact ⟨c,member,by simp [owned]⟩
  obtain ⟨found,here⟩ := Option.isSome_iff_exists.mp some_
  have keyed := List.find?_some here
  simp only [Bool.and_eq_true,decide_eq_true_eq] at keyed
  refine ⟨found,here,tidy.distinct found (List.mem_of_find?_eq_some here) c member ?_ ?_⟩
  · rw [keyed.1,owned]
  · cases slug : found.slug
    cases slug' : c.slug
    simpa [slug,slug'] using keyed.2

theorem Tidy.listing {t : ListingType} (tidy : Tidy s) (member : l ∈ s.listings) (published : l.visibility = .published)
    (owned : l.typeId = t.id) :
    s.listings.find? (fun l' => l'.visibility = .published && l'.typeId = t.id && l'.slug = l.slug) = some l := by
  have some_ : (s.listings.find? fun l' =>
      l'.visibility = .published && l'.typeId = t.id && l'.slug = l.slug).isSome := by
    rw [List.find?_isSome]
    exact ⟨l,member,by simp [owned,published]⟩
  obtain ⟨found,here⟩ := Option.isSome_iff_exists.mp some_
  have keyed := List.find?_some here
  simp only [Bool.and_eq_true,decide_eq_true_eq] at keyed
  have same := tidy.listed found (List.mem_of_find?_eq_some here) l member (by rw [keyed.1.2,owned]) keyed.2
  rw [here,same]

theorem segments_category (slug : Slug) : ((slug.text ++ ['/']).splitOn '/').filter (· ≠ []) = [slug.text] := by
  rw [List.splitOn_append_cons_self_of_not_mem slug.no_slash]
  simp [slug.ne_nil]

theorem segments_listing (slug : Slug) {text : Path} (plain : '/' ∉ text) :
    ((slug.text ++ '/' :: text).splitOn '/').filter (· ≠ []) =
      if text = [] then [slug.text] else [slug.text,text] := by
  rw [List.splitOn_append_cons_self_of_not_mem slug.no_slash,List.splitOn_eq_singleton plain]
  split
  · next empty => simp [slug.ne_nil,empty]
  · next filled => simp [slug.ne_nil,filled]

theorem not_mem_slug (l : SiteListing) (other : isSlugChar c = false) : c ∉ l.slug := by
  intro present
  have admitted := List.all_eq_true.mp l.plain c present
  rw [other] at admitted
  cases admitted

theorem publicPage_stays (s : Site) (path location : Path) : publicPage s path ≠ .redirect location := by
  have under : ∀ t segments, underType s t segments ≠ .redirect location := by
    intro t segments
    unfold underType
    split
    · nofun
    · unfold categoryPage
      split <;> nofun
    · unfold listingDetail
      split
      · nofun
      · split
        · nofun
        · split <;> nofun
    · nofun
  unfold publicPage
  dsimp only
  split
  · nofun
  · exact under _ _
  · nofun
  · split
    · nofun
    · exact under _ _

theorem follow_exact (followed : follow adminUrls s requestPath = some location) :
    matchRedirect s.redirects requestPath = some location := by
  unfold follow at followed
  split at followed
  · next answered =>
      cases followed
      unfold respond at answered
      split at answered
      · split at answered
        · cases answered
        split at answered
        · cases answered
        split at answered
        · cases answered
        unfold publicDispatch at answered
        split at answered
        · next found =>
            cases answered
            exact (Option.filter_eq_some_iff.mp found).1
        · exact absurd answered (publicPage_stays _ _ _)
      · cases answered
  · cases followed

theorem Tidy.halts (tidy : Tidy s) (requestPath : Path) : Rewriting.Halts (follow adminUrls s) requestPath := by
  apply Rewriting.halts_of_ordered (follow adminUrls s) s.redirects PathRedirect.applies
  intro before after followed
  obtain ⟨row,member,applied,rewritten,_⟩ := matchRedirect_exact (follow_exact followed)
  obtain ⟨above,below,split⟩ := List.append_of_mem member
  refine ⟨above,row,below,split,applied,?_⟩
  intro earlier placed
  obtain ⟨source,target,same,_⟩ := tidy.rows row member
  have leaves : row.oldPrefix = '/' :: source.text := by rw [same]
  obtain ⟨rest,boundary,_,left⟩ := applies_exact leaves applied
  have present : earlier ∈ s.redirects := by
    rw [split]
    simp only [List.mem_append,List.mem_cons] at placed ⊢
    tauto
  obtain ⟨source',target',same',_⟩ := tidy.rows earlier present
  cases again : earlier.applies after with
  | false => rfl
  | true =>
      have new : row.newPrefix = '/' :: target.text := by rw [same]
      rw [rewritten,left,new] at again
      have leaves' : earlier.oldPrefix = '/' :: source'.text := by rw [same']
      have from_ := applies_source leaves' boundary again
      have clash : row.newPrefix = earlier.oldPrefix := by rw [new,from_]
      rcases List.mem_append.mp placed with prior | own
      · have ordered := tidy.ordered
        rw [split,List.pairwise_append] at ordered
        exact absurd clash (ordered.2.2 earlier prior row (List.mem_cons_self ..))
      · rw [List.mem_singleton.mp own] at clash
        exact absurd clash (tidy.moved row member)

theorem Tidy.publicUrls (tidy : Tidy s) (adminUrls : Path → Bool) : PublicUrls adminUrls s where
  types := by
    intro t _
    rw [tidy.multi]
    rfl
  categories := by
    intro t held c member owned
    have url : categoryUrl t c s.multi = '/' :: c.slug.text ++ ['/'] := by
      rw [tidy.multi]
      rfl
    rw [url,tidy.respond member (boundary_slash []) (by decide),tidy.publicPage held,segments_category]
    obtain ⟨found,here,same⟩ := tidy.category member owned
    simp [underType,categoryPage,here,same]
  listings := by
    intro t held c member l present url published owned ownedToo joined built
    have line : '\n' ∉ '/' :: l.slug := by simp [not_mem_slug l isSlugChar_line]
    rw [tidy.multi] at built
    have url_ : url = '/' :: c.slug.text ++ '/' :: l.slug := by
      cases built
      rfl
    rw [url_,tidy.respond member (boundary_slash l.slug) line,tidy.publicPage held,
      segments_listing c.slug (not_mem_slug l rfl)]
    obtain ⟨found,here,same⟩ := tidy.category member ownedToo
    split
    · simp [underType,categoryPage,here,same]
    · have listed := tidy.listing present published owned
      simp [underType,listingDetail,here,same,listed,joined]
  follows := tidy.halts

-- A type is created only where there is none, and no category is given a slug
-- that a redirect leads away from.
def Admitted (s : Site) : Action → Prop
  | .createType _ _ => s.types = []
  | .createCategory _ _ new => ∀ row ∈ s.redirects, row.oldPrefix ≠ '/' :: new.slug.text
  | .updateCategory _ _ changes => ∀ slug, changes.slug = some slug →
      ∀ row ∈ s.redirects, row.oldPrefix ≠ '/' :: slug.text
  | _ => True

theorem categoryTaken_exact {c : Category} (free : s.categoryTaken c = false) (member : other ∈ s.categories)
    (type : other.typeId = c.typeId) (slug : other.slug = c.slug) : other.id = c.id := by
  have refused := List.any_eq_false.mp free other member
  simpa [type,slug] using refused

theorem createType_tidy (tidy : Tidy s) (none_ : s.types = []) (created : createListingType s operator new = .ok next) :
    Tidy next := by
  obtain ⟨t,_,types,categories,listings,redirects,_⟩ := createListingType_exact created
  have none' : s.categories = [] := by
    apply List.eq_nil_iff_forall_not_mem.mpr
    intro c member
    obtain ⟨t,held,_⟩ := tidy.owned c member
    rw [none_] at held
    cases held
  rw [none'] at categories
  constructor
  · simp [types,none_]
  · simp [categories]
  · simp [categories]
  · simp [categories]
  · rw [listings]
    exact tidy.listed
  · rw [redirects none_]
    exact tidy.rows
  · simp [categories]
  · rw [redirects none_]
    exact tidy.ordered
  · rw [redirects none_]
    exact tidy.moved

theorem updateType_tidy (tidy : Tidy s) (updated : updateListingType s operator typeId changes = .ok next) :
    Tidy next := by
  obtain ⟨t,⟨old,held,same⟩,types,categories,listings,redirects⟩ := updateListingType_exact updated
  have kept := redirects tidy.multi
  have one : next.types = [t] := by
    rw [types,tidy.only held]
    simp [same]
  constructor
  · simp [one]
  · intro c member
    rw [categories] at member
    obtain ⟨t',held',owner⟩ := tidy.owned c member
    rw [tidy.only held,List.mem_singleton] at held'
    exact ⟨t,by simp [one],by rw [← same,← owner,held']⟩
  · rw [categories]
    exact tidy.unreserved
  · rw [categories]
    exact tidy.distinct
  · rw [listings]
    exact tidy.listed
  · rw [kept]
    exact tidy.rows
  · rw [categories,kept]
    exact tidy.free
  · rw [kept]
    exact tidy.ordered
  · rw [kept]
    exact tidy.moved

theorem Tidy.shrink (tidy : Tidy s) (gone : List Nat) (single : next.types.length ≤ 1)
    (owned : ∀ c ∈ next.categories, ∃ t ∈ next.types, t.id = c.typeId)
    (categories : next.categories = s.categories.filter (fun c => !gone.contains c.id))
    (listings : next.listings = s.listings.map (SiteListing.leave gone)) (redirects : next.redirects = s.redirects) :
    Tidy next := by
  have kept : ∀ c ∈ next.categories, c ∈ s.categories := by
    intro c member
    rw [categories] at member
    exact (List.mem_filter.mp member).1
  constructor
  · exact single
  · exact owned
  · exact fun c member => tidy.unreserved c (kept c member)
  · exact fun c member other memberToo => tidy.distinct c (kept c member) other (kept other memberToo)
  · intro l member other memberToo type slug
    rw [listings] at member memberToo
    obtain ⟨before,present,rfl⟩ := List.mem_map.mp member
    obtain ⟨before',present',rfl⟩ := List.mem_map.mp memberToo
    rw [tidy.listed before present before' present' type slug]
  · rw [redirects]
    exact tidy.rows
  · rw [redirects]
    exact fun c member => tidy.free c (kept c member)
  · rw [redirects]
    exact tidy.ordered
  · rw [redirects]
    exact tidy.moved

theorem deleteType_tidy (tidy : Tidy s) (deleted : deleteListingType s operator typeId = .ok next) : Tidy next := by
  obtain ⟨t,held,gone,all,types,categories,listings,redirects⟩ := deleteListingType_exact deleted
  have left : next.types = [] := by
    rw [types,tidy.only held]
    simp
  refine tidy.shrink gone (by simp [left]) ?_ categories listings redirects
  intro c member
  rw [categories] at member
  obtain ⟨present,spared⟩ := List.mem_filter.mp member
  obtain ⟨t',held',owner⟩ := tidy.owned c present
  rw [tidy.only held,List.mem_singleton] at held'
  have taken := all c present (by rw [← owner,held'])
  simp [taken] at spared

theorem deleteCategory_tidy (tidy : Tidy s) (deleted : deleteCategory s operator categoryId = .ok next) :
    Tidy next := by
  obtain ⟨gone,types,categories,listings,redirects⟩ := deleteCategory_exact deleted
  refine tidy.shrink gone (by rw [types]; exact tidy.single) ?_ categories listings redirects
  intro c member
  rw [categories] at member
  rw [types]
  exact tidy.owned c (List.mem_filter.mp member).1

theorem createCategory_tidy (tidy : Tidy s) (free : ∀ row ∈ s.redirects, row.oldPrefix ≠ '/' :: new.slug.text)
    (created : createCategory s operator typeId new = .ok next) : Tidy next := by
  obtain ⟨c,slug,unreserved,owner,untaken,types,categories,listings,redirects⟩ := createCategory_exact created
  constructor
  · rw [types]
    exact tidy.single
  · rw [categories,types]
    simp only [List.forall_mem_append,List.forall_mem_singleton]
    exact ⟨tidy.owned,owner⟩
  · rw [categories]
    simp only [List.forall_mem_append,List.forall_mem_singleton]
    exact ⟨tidy.unreserved,slug ▸ unreserved⟩
  · intro one member other memberToo type same
    rw [categories] at member memberToo
    simp only [List.mem_append,List.mem_singleton] at member memberToo
    rcases member with old | rfl
    · rcases memberToo with oldToo | rfl
      · exact tidy.distinct one old other oldToo type same
      · exact categoryTaken_exact untaken old type same
    · rcases memberToo with oldToo | rfl
      · exact (categoryTaken_exact untaken oldToo type.symm same.symm).symm
      · rfl
  · rw [listings]
    exact tidy.listed
  · rw [redirects]
    exact tidy.rows
  · rw [categories,redirects]
    simp only [List.forall_mem_append,List.forall_mem_singleton]
    exact ⟨tidy.free,slug ▸ free⟩
  · rw [redirects]
    exact tidy.ordered
  · rw [redirects]
    exact tidy.moved

theorem replaced {rows : List Category} (member : one ∈ rows.map fun row => if row.id = k then c else row) :
    one = c ∨ one ∈ rows ∧ one.id ≠ k := by
  obtain ⟨row,present,same⟩ := List.mem_map.mp member
  split at same
  · exact .inl same.symm
  · next other =>
      subst same
      exact .inr ⟨present,other⟩

theorem rename_redirects (tidy : Tidy s) {old new : Slug} (different : new ≠ old) (unreserved : new.text ∉ RESERVED_SLUGS)
    (free : ∀ row ∈ s.redirects, row.oldPrefix ≠ '/' :: new.text)
    (redirects : rows = s.redirects ++ [⟨'/' :: old.text,'/' :: new.text⟩]) :
    (∀ row ∈ rows, ∃ source target : Slug,
      row = ⟨'/' :: source.text,'/' :: target.text⟩ ∧ target.text ∉ RESERVED_SLUGS) ∧
      (rows.Pairwise fun earlier later => later.newPrefix ≠ earlier.oldPrefix) ∧
      ∀ row ∈ rows, row.newPrefix ≠ row.oldPrefix := by
  subst redirects
  refine ⟨?_,?_,?_⟩
  · simp only [List.forall_mem_append,List.forall_mem_singleton]
    exact ⟨tidy.rows,old,new,rfl,unreserved⟩
  · rw [List.pairwise_append]
    refine ⟨tidy.ordered,List.pairwise_singleton ..,?_⟩
    intro earlier present later written
    rw [List.mem_singleton.mp written]
    exact (free earlier present).symm
  · simp only [List.forall_mem_append,List.forall_mem_singleton]
    refine ⟨tidy.moved,?_⟩
    intro same
    have texts : new.text = old.text := by simpa using same
    cases new
    cases old
    exact different (by simpa using texts)

theorem updateCategory_tidy (tidy : Tidy s) (free : ∀ slug, changes.slug = some slug →
      ∀ row ∈ s.redirects, row.oldPrefix ≠ '/' :: slug.text)
    (updated : updateCategory s operator categoryId changes = .ok next) : Tidy next := by
  obtain ⟨old,present,_,reserved,untaken,types,categories,listings,same,moved⟩ := updateCategory_exact updated
  have slug : changes.slug = none ∧ (changes.apply old).slug = old.slug ∨
      changes.slug = some (changes.apply old).slug := by
    unfold CategoryChanges.apply
    cases changes.slug with
    | none => exact .inl ⟨rfl,rfl⟩
    | some slug => exact .inr rfl
  have unreserved : (changes.apply old).slug.text ∉ RESERVED_SLUGS := by
    rcases slug with ⟨_,unchanged⟩ | given
    · rw [unchanged]
      exact tidy.unreserved old present
    · exact reserved (by simp [given])
  have open_ : ∀ row ∈ s.redirects, row.oldPrefix ≠ '/' :: (changes.apply old).slug.text := by
    rcases slug with ⟨_,unchanged⟩ | given
    · rw [unchanged]
      exact tidy.free old present
    · exact free _ given
  have members : ∀ one ∈ next.categories, one = changes.apply old ∨ one ∈ s.categories ∧ one.id ≠ old.id := by
    intro one member
    rw [categories] at member
    exact replaced member
  have owned : ∀ c ∈ next.categories, ∃ t ∈ next.types, t.id = c.typeId := by
    rw [types]
    intro one member
    rcases members one member with rfl | ⟨before,_⟩
    · exact tidy.owned old present
    · exact tidy.owned one before
  have distinct : ∀ c ∈ next.categories, ∀ other ∈ next.categories,
      c.typeId = other.typeId → c.slug = other.slug → c.id = other.id := by
    intro one member other memberToo type equal
    rcases members one member with rfl | ⟨before,_⟩
    · rcases members other memberToo with rfl | ⟨before',_⟩
      · rfl
      · exact (categoryTaken_exact untaken before' type.symm equal.symm).symm
    · rcases members other memberToo with rfl | ⟨before',_⟩
      · exact categoryTaken_exact untaken before type equal
      · exact tidy.distinct one before other before' type equal
  have reservedNone : ∀ c ∈ next.categories, c.slug.text ∉ RESERVED_SLUGS := by
    intro one member
    rcases members one member with rfl | ⟨before,_⟩
    · exact unreserved
    · exact tidy.unreserved one before
  have sources : ∀ c ∈ next.categories, ∀ row ∈ s.redirects, row.oldPrefix ≠ '/' :: c.slug.text := by
    intro one member
    rcases members one member with rfl | ⟨before,_⟩
    · exact open_
    · exact tidy.free one before
  have single : next.types.length ≤ 1 := types ▸ tidy.single
  have listed := listings ▸ tidy.listed
  by_cases stays : (changes.apply old).slug = old.slug
  · have rows := same stays
    exact ⟨single,owned,reservedNone,distinct,listed,rows ▸ tidy.rows,rows ▸ sources,rows ▸ tidy.ordered,
      rows ▸ tidy.moved⟩
  · have rows := moved stays tidy.multi (tidy.free old present)
    obtain ⟨shapes,ordered,differ⟩ := rename_redirects tidy stays unreserved open_ rows
    refine ⟨single,owned,reservedNone,distinct,listed,shapes,?_,ordered,differ⟩
    intro one member row written
    rw [rows] at written
    rcases List.mem_append.mp written with earlier | renamed
    · exact sources one member row earlier
    · rw [List.mem_singleton.mp renamed]
      -- the old slug is no longer anyone's
      intro clash
      have texts : old.slug.text = one.slug.text := by simpa using clash
      have equal : old.slug = one.slug := by
        cases slug : old.slug
        cases slug' : one.slug
        simpa [slug,slug'] using texts
      rcases members one member with rfl | ⟨before,other⟩
      · exact stays equal.symm
      · exact other (tidy.distinct one before old present (tidy.same_type before present) equal.symm)

theorem listings_tidy (tidy : Tidy s) (accepted : s.acceptsListings rows = true) : Tidy {s with listings := rows} := by
  have constraints := of_decide_eq_true (Bool.and_eq_true _ _ |>.mp accepted).2
  refine {tidy with listed := ?_}
  intro l member other memberToo type slug
  by_contra different
  have : Std.Symm fun one other : SiteListing => ¬(one.typeId = other.typeId ∧ one.slug = other.slug) :=
    ⟨fun _ _ unlike same => unlike ⟨same.1.symm,same.2.symm⟩⟩
  exact constraints.forall member memberToo different ⟨type,slug⟩

theorem step_tidy (s : Site) (action : Action) (tidy : Tidy s) (admitted : Admitted s action) : Tidy (step s action) := by
  unfold step
  cases run : command s action with
  | error e => exact tidy
  | ok next =>
      cases action with
      | createType operator new => exact createType_tidy tidy admitted run
      | updateType operator typeId changes => exact updateType_tidy tidy run
      | deleteType operator typeId => exact deleteType_tidy tidy run
      | createCategory operator typeId new => exact createCategory_tidy tidy admitted run
      | updateCategory operator categoryId changes => exact updateCategory_tidy tidy admitted run
      | deleteCategory operator categoryId => exact deleteCategory_tidy tidy run
      | listings rows =>
          simp only [command] at run
          split at run
          · next accepted =>
              cases run
              exact listings_tidy tidy accepted
          · cases run

-- In every run of the configuration pages that meets the condition at each
-- step, the public URLs are served and every redirect chain ends.
theorem public_urls_served (adminUrls : Path → Bool) (tenant : Audit.TenantId) (publicId : String) (actions : List Action)
    (admitted : Runs.Along step Admitted (Site.new tenant publicId) actions) :
    PublicUrls adminUrls (Runs.run step (Site.new tenant publicId) actions) :=
  (Runs.along_invariant step step_tidy new_tidy admitted).publicUrls adminUrls

-- What the condition leaves out does rewrite a live URL, or loops.
section converse

def Browsable (requestPath : Path) : Prop := ∃ (segment : Slug) (rest : Path), Boundary rest ∧ '\n' ∉ rest ∧
  segment.text ∉ RESERVED_SLUGS ∧ requestPath = '/' :: segment.text ++ rest

theorem respond_rewritten (adminUrls : Path → Bool) (member : row ∈ s.redirects) (filled : ∀ row ∈ s.redirects, row.newPrefix ≠ [])
    (browsed : Browsable requestPath) (applied : row.applies requestPath = true) :
    ∃ found ∈ s.redirects, found.applies requestPath = true ∧
      respond adminUrls s requestPath = .redirect (found.rewrite requestPath) := by
  obtain ⟨slug,rest,boundary,line,unreserved,rfl⟩ := browsed
  obtain ⟨location,matched⟩ := matchRedirect_some unreserved boundary member applied
  obtain ⟨found,present,applies,same,_⟩ := matchRedirect_exact matched
  refine ⟨found,present,applies,?_⟩
  have nonempty : location ≠ [] := by simp [same,PathRedirect.rewrite,filled found present]
  rw [respond_dispatch adminUrls s unreserved boundary line,← same]
  rw [List.cons_append] at matched
  simp [publicDispatch,matched,Option.filter_some,nonempty]

theorem reused_slug_breaks (tidy : Tidy s) (member : row ∈ s.redirects) (from_ : row.oldPrefix = '/' :: new.slug.text)
    (created : createCategory s operator typeId new = .ok next) : ¬ PublicUrls adminUrls next := by
  obtain ⟨c,slug,unreserved,⟨t,held,owner⟩,_,types,categories,_,redirects⟩ := createCategory_exact created
  intro urls
  have multi : next.multi = false := by
    have alone := tidy.multi
    simpa only [Site.multi,types] using alone
  have served := urls.categories t (types ▸ held) c (by simp [categories]) owner.symm
  have url : categoryUrl t c next.multi = '/' :: new.slug.text ++ ['/'] := by
    rw [multi,← slug]
    rfl
  have browsed : Browsable ('/' :: new.slug.text ++ ['/']) :=
    ⟨new.slug,['/'],boundary_slash [],by decide,unreserved,rfl⟩
  have filled : ∀ row ∈ next.redirects, row.newPrefix ≠ [] := by
    intro row written
    obtain ⟨source,target,same,_⟩ := tidy.rows row (redirects ▸ written)
    simp [same]
  have applied : row.applies ('/' :: new.slug.text ++ ['/']) = true := by simp [PathRedirect.applies,from_]
  obtain ⟨found,_,_,rewritten⟩ := respond_rewritten adminUrls (redirects ▸ member) filled browsed applied
  rw [url,rewritten] at served
  cases served

-- From the second type on, no browsable path ever stops being redirected.
theorem second_type_breaks (tidy : Tidy s) (one : s.types = [first])
    (unreserved : first.pathSegment.text ∉ RESERVED_SLUGS)
    (created : createListingType s operator new = .ok next) : ¬ PublicUrls adminUrls next := by
  obtain ⟨_,_,_,_,_,_,second⟩ := createListingType_exact created
  obtain ⟨⟨root,member,from_⟩,rows⟩ := second first one
  have filled : ∀ row ∈ next.redirects, row.newPrefix ≠ [] := by
    intro row written
    rcases rows row written with old | rfl
    · obtain ⟨source,target,same,_⟩ := tidy.rows row old
      simp [same]
    · simp
  have closed : ∀ requestPath, Browsable requestPath →
      ∃ location, follow adminUrls next requestPath = some location ∧ Browsable location := by
    intro requestPath browsed
    have applied : root.applies requestPath = true := by simp [PathRedirect.applies,from_]
    obtain ⟨found,written,applies,rewritten⟩ := respond_rewritten adminUrls member filled browsed applied
    refine ⟨found.rewrite requestPath,by simp [follow,rewritten],?_⟩
    obtain ⟨slug,rest,boundary,line,_,rfl⟩ := browsed
    rcases rows found written with old | rfl
    · obtain ⟨source,target,same,open_⟩ := tidy.rows found old
      have leaves : found.oldPrefix = '/' :: source.text := by rw [same]
      obtain ⟨more,boundary',split,left⟩ := applies_exact leaves applies
      have tails : slug.text ++ rest = source.text ++ more := by simpa using split
      have names := segment_unique slug.no_slash source.no_slash boundary boundary' tails
      rw [names] at tails
      have rests : rest = more := List.append_cancel_left tails
      exact ⟨target,more,boundary',rests ▸ line,open_,by rw [left,same]⟩
    · have plain := not_mem_of_isSlug slug.valid isSlugChar_line
      exact ⟨first.pathSegment,'/' :: slug.text ++ rest,boundary_slash _,by simp [plain,line],unreserved,rfl⟩
  intro urls
  have start : Browsable ('/' :: first.pathSegment.text ++ []) :=
    ⟨first.pathSegment,[],boundary_nil,by simp,unreserved,rfl⟩
  exact Rewriting.loops_of_closed (follow adminUrls next) closed start (urls.follows _)

end converse

section witness

def business : NewListingType := ⟨"business","Business","Businesses",⟨"businesses".toList,by decide⟩,true,.ok []⟩

def software : NewListingType := ⟨"software","Software","Software",⟨"software".toList,by decide⟩,true,.ok []⟩

def plumbers : Slug := ⟨"plumbers".toList,by decide⟩

def plumbing : Slug := ⟨"plumbing".toList,by decide⟩

def renamed (slug : Slug) : CategoryChanges := ⟨none,some slug,none,none⟩

def secondType : List Action := [.createType "op_1" business,.createType "op_1" software]

def renamedBack : List Action :=
  [.createType "op_1" business,
    .createCategory "op_1" 0 ⟨"Plumbers",plumbers,none,0⟩,
    .updateCategory "op_1" 1 (renamed plumbing),
    .updateCategory "op_1" 1 (renamed plumbers)]

-- With a second type the first one's own URL is rewritten; a slug changed and
-- changed back leads to the other for ever.
theorem second_type_and_rename_back :
    ¬ PublicUrls (fun _ => false) (Runs.run step (Site.new 1 "ten_1") secondType) ∧
      ¬ PublicUrls (fun _ => false) (Runs.run step (Site.new 1 "ten_1") renamedBack) := by
  constructor
  · intro urls
    have served := urls.types ⟨0,"business","Business","Businesses",business.pathSegment,true,[]⟩ (by decide)
    exact absurd served (by decide)
  · intro urls
    have served := urls.categories ⟨0,"business","Business","Businesses",business.pathSegment,true,[]⟩ (by decide)
      ⟨1,0,plumbers,"Plumbers",none,0⟩ (by decide) rfl
    exact absurd served (by decide)

def renamedOnce : List Action :=
  [.createType "op_1" business,
    .createCategory "op_1" 0 ⟨"Plumbers",plumbers,none,0⟩,
    .updateCategory "op_1" 1 (renamed plumbing)]

theorem public_urls_renamed_once : PublicUrls (fun _ => false) (Runs.run step (Site.new 1 "ten_1") renamedOnce) :=
  public_urls_served _ 1 "ten_1" renamedOnce (by
    refine ⟨rfl,?_,?_,trivial⟩
    · intro row member
      cases member
    · intro slug _ row member
      cases member)

end witness

end Osds.Directory
