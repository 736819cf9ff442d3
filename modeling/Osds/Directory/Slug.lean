namespace Osds.Directory

abbrev Path := List Char

instance decidableListed (path : Path) (paths : List Path) : Decidable (path ∈ paths) :=
  List.instDecidableMemOfLawfulBEq path paths

-- What a slug field, and a slug segment of a route, admits.
def isSlugChar (c : Char) : Bool := c.isAlphanum || c = '-' || c = '_'

def isSlug (text : List Char) : Bool := !text.isEmpty && text.all isSlugChar

theorem not_mem_of_isSlug {text : List Char} (slug : isSlug text) (other : isSlugChar c = false) : c ∉ text := by
  intro present
  have every := (Bool.and_eq_true _ _ ▸ slug).2
  have admitted := List.all_eq_true.mp every c present
  rw [other] at admitted
  cases admitted

theorem ne_nil_of_isSlug {text : List Char} (slug : isSlug text) : text ≠ [] := by
  rintro rfl
  cases slug

structure Slug where
  text : List Char
  valid : isSlug text = true
  deriving DecidableEq

theorem Slug.no_slash (slug : Slug) : '/' ∉ slug.text := not_mem_of_isSlug slug.valid rfl

theorem Slug.ne_nil (slug : Slug) : slug.text ≠ [] := ne_nil_of_isSlug slug.valid

end Osds.Directory
