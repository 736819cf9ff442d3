import Osds.Directory.Routing

namespace Osds.Directory

def Boundary (rest : Path) : Prop := ∀ c, rest.head? = some c → c = '/'

theorem boundary_nil : Boundary [] := by
  intro c present
  cases present

theorem boundary_slash (rest : Path) : Boundary ('/' :: rest) := by
  intro c present
  cases present
  rfl

theorem boundary_cases (boundary : Boundary rest) : rest = [] ∨ ∃ tail, rest = '/' :: tail := by
  cases rest with
  | nil => exact .inl rfl
  | cons c tail =>
      have slash := boundary c rfl
      subst slash
      exact .inr ⟨tail,rfl⟩

theorem takeWhile_segment {segment rest : Path} (plain : '/' ∉ segment) (boundary : Boundary rest) :
    (segment ++ rest).takeWhile (· ≠ '/') = segment := by
  have admitted : ∀ c ∈ segment, decide (c ≠ '/') = true := by
    intro c present
    have other : c ≠ '/' := fun same => plain (same ▸ present)
    simpa using other
  rw [List.takeWhile_append_of_pos admitted]
  rcases boundary_cases boundary with rfl | ⟨tail,rfl⟩
  · simp
  · simp

theorem segment_unique {one other rest more : Path} (plain : '/' ∉ one) (plainToo : '/' ∉ other)
    (boundary : Boundary rest) (boundaryToo : Boundary more) (same : one ++ rest = other ++ more) : one = other := by
  have first := takeWhile_segment plain boundary
  rw [same,takeWhile_segment plainToo boundaryToo] at first
  exact first.symm

theorem splitOn_segment {segment rest : Path} (plain : '/' ∉ segment) (boundary : Boundary rest) :
    ∃ more, (segment ++ rest).splitOn '/' = segment :: more := by
  rcases boundary_cases boundary with rfl | ⟨tail,rfl⟩
  · exact ⟨[],by simp [List.splitOn_eq_singleton plain]⟩
  · exact ⟨tail.splitOn '/',List.splitOn_append_cons_self_of_not_mem plain tail⟩

theorem applies_exact {row : PathRedirect} {source : Slug} (from_ : row.oldPrefix = '/' :: source.text)
    (applied : row.applies requestPath = true) :
    ∃ rest, Boundary rest ∧ requestPath = '/' :: source.text ++ rest ∧
      row.rewrite requestPath = row.newPrefix ++ rest := by
  unfold PathRedirect.applies at applied
  rw [from_] at applied
  simp only [Bool.or_eq_true,decide_eq_true_eq,reduceCtorEq,decide_false,Bool.false_eq_true,false_or] at applied
  rcases applied with same | under
  · subst same
    exact ⟨[],boundary_nil,by simp,by simp [PathRedirect.rewrite,from_]⟩
  · obtain ⟨tail,whole⟩ := List.isPrefixOf_iff_prefix.mp under
    subst whole
    exact ⟨'/' :: tail,boundary_slash tail,by simp,by simp [PathRedirect.rewrite,from_]⟩

theorem applies_source {row : PathRedirect} {source segment : Slug} (from_ : row.oldPrefix = '/' :: source.text)
    (boundary : Boundary rest) (applied : row.applies ('/' :: segment.text ++ rest) = true) :
    row.oldPrefix = '/' :: segment.text := by
  obtain ⟨more,boundaryToo,same,_⟩ := applies_exact from_ applied
  have tails : segment.text ++ rest = source.text ++ more := by simpa using same
  rw [from_,segment_unique segment.no_slash source.no_slash boundary boundaryToo tails]

-- What `_match_redirect` answers is some row's rewriting, and no row that
-- applies has a longer prefix.
theorem matchRedirect_exact (matched : matchRedirect rows requestPath = some location) :
    ∃ row ∈ rows, row.applies requestPath = true ∧ location = row.rewrite requestPath ∧
      ∀ other ∈ rows, other.applies requestPath = true → other.oldPrefix.length ≤ row.oldPrefix.length := by
  unfold matchRedirect at matched
  split at matched
  · cases matched
  · obtain ⟨row,found,same⟩ := Option.map_eq_some_iff.mp matched
    obtain ⟨applied,before,after,split,earlier⟩ := List.find?_eq_some_iff_append.mp found
    have member : row ∈ rows := (List.mem_insertionSort _).mp (List.mem_of_find?_eq_some found)
    refine ⟨row,member,applied,same.symm,?_⟩
    intro other present applies
    have placed : other ∈ before ++ row :: after := split ▸ (List.mem_insertionSort _).mpr present
    have : IsTrans PathRedirect PathRedirect.longest := ⟨fun _ _ _ first second => Nat.le_trans second first⟩
    have : Std.Total PathRedirect.longest := ⟨fun one other => Nat.le_total ..⟩
    have sorted := List.pairwise_insertionSort PathRedirect.longest rows
    rw [split,List.pairwise_append] at sorted
    rcases List.mem_append.mp placed with early | late
    · have refused := earlier other early
      simp [applies] at refused
    · rcases List.mem_cons.mp late with rfl | behind
      · exact Nat.le_refl _
      · exact List.rel_of_pairwise_cons sorted.2.1 behind

theorem matchRedirect_none (quiet : ∀ row ∈ rows, row.applies requestPath = false) :
    matchRedirect rows requestPath = none := by
  cases matched : matchRedirect rows requestPath with
  | none => rfl
  | some location =>
      obtain ⟨row,member,applied,_⟩ := matchRedirect_exact matched
      rw [quiet row member] at applied
      cases applied

theorem takeWhile_strip (text : Path) :
    (text.rdropWhile (· = '/')).takeWhile (· ≠ '/') = text.takeWhile (· ≠ '/') := by
  have whole : text.rdropWhile (· = '/') ++ text.rtakeWhile (· = '/') = text := List.rdropWhile_append_rtakeWhile
  have slashes : (text.rtakeWhile (· = '/')).takeWhile (· ≠ '/') = [] := by
    cases suffix : text.rtakeWhile (· = '/') with
    | nil => rfl
    | cons c tail =>
        have slash := List.mem_rtakeWhile_imp (suffix ▸ List.mem_cons_self ..)
        simp [of_decide_eq_true slash]
  rw [← congrArg (List.takeWhile (· ≠ '/')) whole,List.takeWhile_append]
  split
  · next all =>
      rw [slashes,List.append_nil]
      exact List.takeWhile_sublist _ |>.eq_of_length all
  · rfl

theorem topSegment_exact (slug : Slug) (boundary : Boundary rest) : topSegment ('/' :: slug.text ++ rest) = slug.text := by
  have stripped : ('/' :: slug.text ++ rest).dropWhile (· = '/') = slug.text ++ rest := by
    cases text : slug.text with
    | nil => exact absurd text slug.ne_nil
    | cons c tail =>
        have other : c ≠ '/' := by
          intro same
          have plain := slug.no_slash
          simp [text,same] at plain
        simp [other]
  unfold topSegment
  rw [stripped,takeWhile_strip,takeWhile_segment slug.no_slash boundary]

theorem matchRedirect_some {slug : Slug} (unreserved : slug.text ∉ RESERVED_SLUGS) (boundary : Boundary rest)
    (member : row ∈ rows) (applied : row.applies ('/' :: slug.text ++ rest) = true) :
    ∃ location, matchRedirect rows ('/' :: slug.text ++ rest) = some location := by
  have top : slug.text ∉ RESERVED_TOP := by
    intro reserved
    have included : ∀ name ∈ RESERVED_TOP, name ∈ RESERVED_SLUGS := by decide
    exact unreserved (included _ reserved)
  unfold matchRedirect
  rw [topSegment_exact slug boundary,if_neg top]
  have found : ((rows.insertionSort PathRedirect.longest).find? (·.applies ('/' :: slug.text ++ rest))).isSome := by
    rw [List.find?_isSome]
    exact ⟨row,(List.mem_insertionSort _).mpr member,applied⟩
  obtain ⟨first,here⟩ := Option.isSome_iff_exists.mp found
  exact ⟨first.rewrite ('/' :: slug.text ++ rest),by rw [here]; rfl⟩

-- Every route of its own begins with a reserved name.
theorem urlpatterns_reserved :
    ∀ pattern ∈ urlpatterns, ∃ head ∈ RESERVED_SLUGS, pattern.head? = some (.literal head) := by decide

theorem ownRoute_reserved {segment rest : Path} (plain : '/' ∉ segment) (boundary : Boundary rest)
    (routed : ownRoute adminUrls (segment ++ rest) = true) : segment ∈ RESERVED_SLUGS := by
  unfold ownRoute at routed
  rcases Bool.or_eq_true _ _ |>.mp routed with listed | admin
  · obtain ⟨pattern,member,matched⟩ := List.any_eq_true.mp listed
    obtain ⟨head,reserved,first⟩ := urlpatterns_reserved pattern member
    obtain ⟨more,split⟩ := splitOn_segment plain boundary
    obtain ⟨rest',rfl⟩ : ∃ rest', pattern = .literal head :: rest' := by
      cases pattern with
      | nil => cases first
      | cons p pieces =>
          cases first
          exact ⟨pieces,rfl⟩
    rw [split,matchesRoute,Bool.and_eq_true] at matched
    have same : segment = head := by simpa [Piece.matches] using matched.1
    exact same ▸ reserved
  · obtain ⟨under,_⟩ := Bool.and_eq_true _ _ |>.mp admin
    obtain ⟨tail,whole⟩ := List.isPrefixOf_iff_prefix.mp under
    have named : segment ++ rest = "admin".toList ++ '/' :: tail := whole.symm
    have same := segment_unique plain (by decide) boundary (boundary_slash tail) named
    rw [same]
    decide

end Osds.Directory
