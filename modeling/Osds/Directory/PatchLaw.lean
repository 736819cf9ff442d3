import Osds.Lib.JsonPatch
import Osds.Directory.Patch

namespace Osds.Directory
open JsonPatch

def PatchOp.op : PatchOp → Op
  | .add path value => ⟨path,.add value⟩
  | .replace path value => ⟨path,.replace value⟩
  | .remove path => ⟨path,.remove⟩
  | .removed path _ => ⟨path,.remove⟩

-- What a consumer of `listing.updated` makes of the document it has.
def patched (changes : List PatchOp) (doc : List (String × Json)) : Option Json :=
  apply (changes.map PatchOp.op) (.obj doc)

def Agrees (a b : Option Json) : Prop := (present a).map Json.norm = (present b).map Json.norm

-- Equal but for a boolean where the other has the number 1 or 0.
def Confused (a b : Option Json) : Prop :=
  (present a).map Json.canon = (present b).map Json.canon ∧ ¬Agrees a b

inductive Leaf (before after : List (String × Json)) : String → Option Json → Option Json → Prop where
  | top (key : String) (flat : ¬Nested ("/" ++ key) (before.lookup key) (after.lookup key)) :
      Leaf before after key (before.lookup key) (after.lookup key)
  | inner (key name : String) (xs ys : List (String × Json)) (listed : "/" ++ key ∈ recursed)
      (was : before.lookup key = some (.obj xs)) (now : after.lookup key = some (.obj ys)) :
      Leaf before after name (xs.lookup name) (ys.lookup name)

def SameDocs (before after : List (String × Json)) : Prop :=
  ∀ name a b, Leaf before after name a b → Agrees a b

structure PatchLaw (before after : List (String × Json)) : Prop where
  applies : ∃ doc, patched (diff before after) before = some (.obj doc) ∧ SameDocs doc after
  empty : diff before after = [] ↔ SameDocs before after

-- No leaf is confused, and a pointer can hold the name of each that changes.
structure Tellable (before after : List (String × Json)) : Prop where
  values : ∀ name a b, Leaf before after name a b → ¬Confused a b
  names : ∀ name a b, Leaf before after name a b → ¬Agrees a b → Plain name

section leaves

variable {a b : Option Json}

theorem Agrees.refl (a : Option Json) : Agrees a a := rfl

theorem Agrees.equal (agrees : Agrees a b) : equal a b = true := by
  have canon : ∀ c : Option Json, ((present c).map Json.norm).map Json.canon = (present c).map Json.canon := by
    intro c
    rw [Option.map_map]
    exact congrArg (fun f => Option.map f (present c)) (funext Json.canon_norm)
  rw [equal_exact,← canon a,← canon b]
  exact congrArg _ agrees

theorem agrees_of_clear (clear : ¬Confused a b) : equal a b = true ↔ Agrees a b := by
  constructor
  · intro alike
    by_contra apart
    exact clear ⟨equal_exact.mp alike,apart⟩
  · exact Agrees.equal

theorem present_present : present (present a) = present a := by
  cases a with
  | none => rfl
  | some j => cases j <;> rfl

theorem agrees_present : Agrees (present a) a := congrArg _ present_present

theorem present_some (shown : present a = some x) : a = some x := by
  unfold present at shown
  split at shown
  · cases shown
  · exact shown

def settledLeaf (bv av : Option Json) : Option Json := if equal bv av then bv else present av

theorem settledLeaf_agrees : Agrees (settledLeaf a b) b ↔ (equal a b = true → Agrees a b) := by
  unfold settledLeaf
  split
  · next alike => exact ⟨fun agrees _ => agrees,fun agrees => agrees alike⟩
  · next apart => exact iff_of_true agrees_present fun alike => (apart alike).elim

theorem leafOp_local (named : equal a b = false → Plain name) :
    Local name ((leafOp ("/" ++ name) a b).map PatchOp.op) a (some (settledLeaf a b)) := by
  unfold settledLeaf leafOp
  split
  · exact local_nil
  · next apart =>
      have plain := named (Bool.eq_false_iff.mpr apart)
      have held : present b = none → a.isSome := by
        intro gone
        cases shown : a with
        | some _ => rfl
        | none =>
            refine (apart ?_).elim
            unfold equal
            rw [shown,gone]
            rfl
      split
      · next gone =>
          rw [gone]
          exact local_edit plain fun _ => held gone
      · next value is was =>
          rw [is]
          exact local_edit plain nofun
      · next value old is was =>
          rw [is]
          exact local_edit plain fun _ => by rw [present_some was]; rfl

end leaves

section containers

variable {xs ys : List (String × Json)}

theorem keysOf_nodup : (keysOf xs ys).Nodup := (List.perm_insertionSort _ _).nodup_iff.mpr (List.nodup_dedup _)

theorem unlisted (absent : name ∉ keysOf xs ys) : xs.lookup name = none ∧ ys.lookup name = none := by
  rw [mem_keysOf,not_or] at absent
  exact ⟨lookup_none_of_not_mem absent.1,lookup_none_of_not_mem absent.2⟩

def flatOps (xs ys : List (String × Json)) : List Op :=
  (keysOf xs ys).flatMap fun name => (leafOp ("/" ++ name) (xs.lookup name) (ys.lookup name)).map PatchOp.op

theorem leafOp_under : (leafOp ("/" ++ key ++ "/" ++ name) a b).map PatchOp.op =
    ((leafOp ("/" ++ name) a b).map PatchOp.op).map (Op.under key) := by
  have pointer : "/" ++ key ++ "/" ++ name = "/" ++ key ++ ("/" ++ name) := String.append_assoc ..
  unfold leafOp
  split
  · rfl
  · split <;> rw [pointer] <;> rfl

theorem diffLeaves_under : (diffLeaves xs ys ("/" ++ key)).map PatchOp.op = (flatOps xs ys).map (Op.under key) := by
  unfold diffLeaves flatOps
  rw [List.map_flatMap,List.map_flatMap]
  exact congrArg (fun f => List.flatMap f (keysOf xs ys)) (funext fun _ => leafOp_under)

theorem flatOps_apart (there : op ∈ flatOps xs ys) :
    ∃ name, op.path = "/" ++ name ∧ equal (xs.lookup name) (ys.lookup name) = false := by
  obtain ⟨name,_,there⟩ := List.mem_flatMap.mp there
  obtain ⟨change,there,rfl⟩ := List.mem_map.mp there
  refine ⟨name,?_⟩
  unfold leafOp at there
  split at there
  · cases there
  · next apart =>
      refine ⟨?_,Bool.eq_false_iff.mpr apart⟩
      split at there <;> rw [List.mem_singleton.mp there] <;> rfl

theorem flatOps_rooted : Rooted (flatOps xs ys) := by
  intro op there
  obtain ⟨name,pointer,_⟩ := flatOps_apart there
  exact ⟨name,pointer⟩

def Becomes (xs ys : List (String × Json)) : Prop :=
  ∃ zs, apply (flatOps xs ys) (.obj xs) = some (.obj zs) ∧ ∀ name, Agrees (zs.lookup name) (ys.lookup name)

-- A name that changes and that a pointer cannot hold is only moved by the
-- operation on a longer such name.
theorem longer_name (becomes : Becomes xs ys) (apart : ¬Agrees (xs.lookup name) (ys.lookup name)) (odd : ¬Plain name) :
    ∃ longer, ¬Agrees (xs.lookup longer) (ys.lookup longer) ∧ ¬Plain longer ∧ name.length < longer.length := by
  obtain ⟨zs,applied,reached⟩ := becomes
  obtain ⟨_,same,kept⟩ := apply_frame flatOps_rooted applied
  cases same
  by_contra none_
  refine apart ?_
  rw [← kept name]
  · exact reached name
  · intro op there rest read
    obtain ⟨other,pointer,differ⟩ := flatOps_apart there
    obtain ⟨first,others,split,shorter⟩ := tokens_cons (pointer ▸ read)
    cases split
    have changed : ¬Agrees (xs.lookup other) (ys.lookup other) := by
      intro agrees
      rw [agrees.equal] at differ
      cases differ
    rcases shorter with less | ⟨equal,plain⟩
    · refine none_ ⟨other,changed,fun plain => ?_,less⟩
      rw [pointer,tokens_plain plain] at read
      cases read
      exact Nat.lt_irrefl _ less
    · subst equal
      exact odd plain

theorem names_of_becomes (becomes : Becomes xs ys) (apart : ¬Agrees (xs.lookup name) (ys.lookup name)) : Plain name := by
  by_contra odd
  -- there is a longest of the names
  obtain ⟨bound,bounded⟩ : ∃ bound, ∀ name ∈ keysOf xs ys, name.length ≤ bound :=
    ⟨((keysOf xs ys).map String.length).max?.getD 0,fun name there => List.le_max?_getD_of_mem (List.mem_map_of_mem there)⟩
  have within : ∀ name, ¬Agrees (xs.lookup name) (ys.lookup name) → name.length ≤ bound := by
    intro name apart
    by_contra longer
    obtain ⟨was,is⟩ := unlisted fun there => longer (bounded name there)
    rw [was,is] at apart
    exact apart (.refl _)
  induction left : bound-name.length using Nat.strongRecOn generalizing name with
  | ind size ih =>
      obtain ⟨longer,changed,odd',more⟩ := longer_name becomes apart odd
      have short := within longer changed
      exact ih (bound-longer.length) (by omega) changed odd' rfl

theorem becomes_exact : Becomes xs ys ↔ (∀ name, ¬Confused (xs.lookup name) (ys.lookup name)) ∧
    ∀ name, ¬Agrees (xs.lookup name) (ys.lookup name) → Plain name := by
  have settled : (∀ name, ¬Agrees (xs.lookup name) (ys.lookup name) → Plain name) →
      ∃ zs, apply (flatOps xs ys) (.obj xs) = some (.obj zs) ∧
        ∀ name, zs.lookup name = settledLeaf (xs.lookup name) (ys.lookup name) := by
    intro names
    have blocks := blocks_apply (keysOf_nodup : (keysOf xs ys).Nodup)
      (fun name _ => leafOp_local (a := xs.lookup name) (b := ys.lookup name) fun differ => names name fun agrees => by
        rw [agrees.equal] at differ
        cases differ) (fun _ _ => rfl)
    cases result : apply (flatOps xs ys) (.obj xs) with
    | none =>
        unfold flatOps at result
        rw [result] at blocks
        obtain ⟨name,_,failed⟩ := blocks
        cases failed
    | some doc =>
        unfold flatOps at result
        rw [result] at blocks
        obtain ⟨zs,rfl,held⟩ := blocks
        refine ⟨zs,rfl,fun name => ?_⟩
        by_cases there : name ∈ keysOf xs ys
        · exact (Option.some.inj ((held name).1 there)).symm
        · obtain ⟨was,is⟩ := unlisted there
          rw [(held name).2 there,was,is]
          rfl
  constructor
  · intro becomes
    have names : ∀ name, ¬Agrees (xs.lookup name) (ys.lookup name) → Plain name :=
      fun name apart => names_of_becomes becomes apart
    refine ⟨?_,names⟩
    obtain ⟨zs,applied,held⟩ := settled names
    obtain ⟨zs',applied',reached⟩ := becomes
    cases applied.symm.trans applied'
    intro name confused
    have agrees := reached name
    rw [held name,settledLeaf_agrees] at agrees
    exact confused.2 (agrees (equal_exact.mpr confused.1))
  · intro clear
    obtain ⟨zs,applied,held⟩ := settled clear.2
    refine ⟨zs,applied,fun name => ?_⟩
    rw [held name,settledLeaf_agrees]
    exact (agrees_of_clear (clear.1 name)).mp

end containers

section documents

variable {before after : List (String × Json)} {a b : Option Json}

structure AgreesAt (pointer : String) (a b : Option Json) : Prop where
  nested : ∀ xs ys, pointer ∈ recursed → a = some (.obj xs) → b = some (.obj ys) →
    ∀ name, Agrees (xs.lookup name) (ys.lookup name)
  flat : ¬Nested pointer a b → Agrees a b

theorem sameDocs_exact : SameDocs before after ↔
    ∀ key, AgreesAt ("/" ++ key) (before.lookup key) (after.lookup key) := by
  constructor
  · intro same key
    exact ⟨fun xs ys listed was now name => same _ _ _ (.inner key name xs ys listed was now),
      fun flat => same _ _ _ (.top key flat)⟩
  · intro all name a b leaf
    cases leaf with
    | top key flat => exact (all name).flat flat
    | inner key name xs ys listed was now => exact (all key).nested xs ys listed was now name

theorem AgreesAt.refl (pointer : String) (a : Option Json) : AgreesAt pointer a a := by
  refine ⟨?_,fun _ => .refl a⟩
  intro xs ys _ was now name
  cases was.symm.trans now
  exact .refl _

theorem agreesAt_present : AgreesAt pointer (present a) a := by
  refine ⟨?_,fun _ => agrees_present⟩
  intro xs ys _ was now name
  cases (present_some was).symm.trans now
  exact .refl _

def outcome (pointer : String) : Option Json → Option Json → Option (Option Json)
  | some (.obj xs),some (.obj ys) =>
      if pointer ∈ recursed then (apply (flatOps xs ys) (.obj xs)).map some
      else some (settledLeaf (some (.obj xs)) (some (.obj ys)))
  | a,b => some (settledLeaf a b)

theorem outcome_flat (flat : ¬Nested pointer a b) : outcome pointer a b = some (settledLeaf a b) := by
  unfold outcome
  split
  · next xs ys =>
      rw [if_neg fun listed => flat ⟨listed,xs,ys,rfl,rfl⟩]
  · rfl

theorem outcome_nested (listed : pointer ∈ recursed) :
    outcome pointer (some (.obj xs)) (some (.obj ys)) = (apply (flatOps xs ys) (.obj xs)).map some :=
  if_pos listed

theorem diffKey_local (plain : Plain key) :
    Local key ((diffKey ("/" ++ key) a b).map PatchOp.op) a (outcome ("/" ++ key) a b) := by
  by_cases nested : Nested ("/" ++ key) a b
  · obtain ⟨listed,xs,ys,rfl,rfl⟩ := nested
    rw [diffKey_nested listed,diffLeaves_under,outcome_nested listed]
    exact local_under plain flatOps_rooted
  · rw [diffKey_flat nested,outcome_flat nested]
    exact leafOp_local fun _ => plain

theorem outcome_exact_flat (flat : ¬Nested pointer a b) :
    (∃ left, outcome pointer a b = some left ∧ AgreesAt pointer left b) ↔ ¬Confused a b := by
  rw [outcome_flat flat]
  constructor
  · intro reached confused
    obtain ⟨_,same,agrees⟩ := reached
    cases same
    have alike := equal_exact.mpr confused.1
    unfold settledLeaf at agrees
    rw [if_pos alike] at agrees
    exact confused.2 (agrees.flat flat)
  · intro clear
    refine ⟨_,rfl,?_⟩
    unfold settledLeaf
    split
    · next alike =>
        have agrees := (agrees_of_clear clear).mp alike
        refine ⟨?_,fun _ => agrees⟩
        intro xs ys listed was now
        exact (flat ⟨listed,xs,ys,was,now⟩).elim
    · exact agreesAt_present

theorem outcome_exact_nested (listed : pointer ∈ recursed) :
    (∃ left, outcome pointer (some (.obj xs)) (some (.obj ys)) = some left ∧
      AgreesAt pointer left (some (.obj ys))) ↔ Becomes xs ys := by
  rw [outcome_nested listed]
  constructor
  · intro reached
    obtain ⟨left,applied,agrees⟩ := reached
    obtain ⟨doc,result,rfl⟩ := Option.map_eq_some_iff.mp applied
    obtain ⟨zs,rfl,_⟩ := apply_frame flatOps_rooted result
    exact ⟨zs,result,agrees.nested zs ys listed rfl rfl⟩
  · intro becomes
    obtain ⟨zs,applied,reached⟩ := becomes
    refine ⟨some (.obj zs),by rw [applied]; rfl,?_,?_⟩
    · intro _ _ _ was now
      cases was
      cases now
      exact reached
    · intro flat
      exact (flat ⟨listed,zs,ys,rfl,rfl⟩).elim

theorem patched_exact (plain : ∀ key ∈ keysOf before after, Plain key) :
    (∃ doc, patched (diff before after) before = some (.obj doc) ∧ SameDocs doc after) ↔
      ∀ key, ∃ left, outcome ("/" ++ key) (before.lookup key) (after.lookup key) = some left ∧
        AgreesAt ("/" ++ key) left (after.lookup key) := by
  have blocks := blocks_apply (keysOf_nodup : (keysOf before after).Nodup)
    (fun key there => diffKey_local (a := before.lookup key) (b := after.lookup key) (plain key there)) (fun _ _ => rfl)
  have whole : patched (diff before after) before = apply ((keysOf before after).flatMap fun key =>
      (diffKey ("/" ++ key) (before.lookup key) (after.lookup key)).map PatchOp.op) (.obj before) := by
    unfold patched diff
    rw [List.map_flatMap]
  have absent : ∀ key, key ∉ keysOf before after → ∃ left,
      outcome ("/" ++ key) (before.lookup key) (after.lookup key) = some left ∧
        AgreesAt ("/" ++ key) left (after.lookup key) := by
    intro key unlisted_
    obtain ⟨was,now⟩ := unlisted unlisted_
    rw [was,now]
    exact ⟨none,rfl,.refl _ _⟩
  rw [← whole] at blocks
  cases result : patched (diff before after) before with
  | none =>
      rw [result] at blocks
      obtain ⟨key,_,failed⟩ := blocks
      refine iff_of_false nofun fun all => ?_
      obtain ⟨left,reached,_⟩ := all key
      cases failed.symm.trans reached
  | some doc =>
      rw [result] at blocks
      obtain ⟨fields,rfl,held⟩ := blocks
      constructor
      · intro reached key
        obtain ⟨_,same,docs⟩ := reached
        cases same
        by_cases there : key ∈ keysOf before after
        · exact ⟨_,(held key).1 there,sameDocs_exact.mp docs key⟩
        · exact absent key there
      · intro all
        refine ⟨fields,rfl,sameDocs_exact.mpr fun key => ?_⟩
        obtain ⟨left,reached,agrees⟩ := all key
        by_cases there : key ∈ keysOf before after
        · cases ((held key).1 there).symm.trans reached
          exact agrees
        · obtain ⟨was,now⟩ := unlisted there
          rw [(held key).2 there,was,now]
          exact .refl _ _

theorem empty_exact (values : ∀ name a b, Leaf before after name a b → ¬Confused a b) :
    diff before after = [] ↔ SameDocs before after := by
  constructor
  · intro none_ name a b leaf
    refine (agrees_of_clear (values name a b leaf)).mp ?_
    cases leaf with
    | top key flat =>
        have key_ := diff_nil none_ name
        rw [diffKey_flat flat] at key_
        exact leafOp_nil.mp key_
    | inner key name xs ys listed was now =>
        have key_ := diff_nil none_ key
        rw [was,now] at key_
        exact diffKey_nil listed key_ name
  · intro same
    unfold diff
    rw [List.flatMap_eq_nil_iff]
    intro key _
    by_cases nested : Nested ("/" ++ key) (before.lookup key) (after.lookup key)
    · obtain ⟨listed,xs,ys,was,now⟩ := nested
      rw [was,now,diffKey_nested listed,diffLeaves_nil]
      intro name
      exact (same _ _ _ (.inner key name xs ys listed was now)).equal
    · rw [diffKey_flat nested,leafOp_nil]
      exact (same _ _ _ (.top key nested)).equal

theorem law_exact (plain : ∀ key ∈ keysOf before after, Plain key) : PatchLaw before after ↔ Tellable before after := by
  have applied := patched_exact plain
  constructor
  · intro law
    have all := applied.mp law.applies
    refine ⟨?_,?_⟩
    · intro name a b leaf
      cases leaf with
      | top key flat => exact (outcome_exact_flat flat).mp (all name)
      | inner key name xs ys listed was now =>
          have reached := all key
          rw [was,now] at reached
          exact (becomes_exact.mp ((outcome_exact_nested listed).mp reached)).1 name
    · intro name a b leaf apart
      cases leaf with
      | top key flat =>
          by_contra odd
          refine odd (plain name ?_)
          by_contra absent
          obtain ⟨was,now⟩ := unlisted absent
          rw [was,now] at apart
          exact apart (.refl _)
      | inner key name xs ys listed was now =>
          have reached := all key
          rw [was,now] at reached
          exact (becomes_exact.mp ((outcome_exact_nested listed).mp reached)).2 name apart
  · intro tellable
    refine ⟨applied.mpr fun key => ?_,empty_exact tellable.values⟩
    by_cases nested : Nested ("/" ++ key) (before.lookup key) (after.lookup key)
    · obtain ⟨listed,xs,ys,was,now⟩ := nested
      rw [was,now,outcome_exact_nested listed,becomes_exact]
      exact ⟨fun name => tellable.values _ _ _ (.inner key name xs ys listed was now),
        fun name => tellable.names _ _ _ (.inner key name xs ys listed was now)⟩
    · exact (outcome_exact_flat nested).mpr (tellable.values _ _ _ (.top key nested))

end documents

theorem fields_plain (p q : Projection) : ∀ key ∈ keysOf p.fields q.fields, Plain key := by
  intro key there
  have own : ∀ r : Projection, r.fields.map Prod.fst = ["slug","name","description","categories","location","contact",
      "external_profiles","attributes","media","reviews_disabled","custom_fields","provenance"] := fun _ => rfl
  have listed := mem_keysOf.mp there
  rw [own,own,or_self] at listed
  exact (by decide : ∀ key ∈ ["slug","name","description","categories","location","contact","external_profiles",
    "attributes","media","reviews_disabled","custom_fields","provenance"],Plain key) key listed

-- Any two projections, with any JSON values in them.
theorem patch_law_exact (p q : Projection) : PatchLaw p.fields q.fields ↔ Tellable p.fields q.fields :=
  law_exact (fields_plain p q)

section wifi

def withWifi (wifi : Json) : Projection :=
  {slug := "corner"
   name := "Corner Shop"
   description := none
   categories := []
   location := ⟨none,none,none,none,none,none,none,none,"none"⟩
   contact := ⟨none,none,none,[]⟩
   externalProfiles := []
   attributes := [("wifi",wifi)]
   media := .obj []
   reviewsDisabled := false
   customFields := []
   source := "manual"
   provenanceNotes := none}

-- True becomes 1, and no patch says so.
theorem true_is_one : diff (withWifi (.bool true)).fields (withWifi (.num 1)).fields = [] ∧
    ¬SameDocs (withWifi (.bool true)).fields (withWifi (.num 1)).fields ∧
    ¬PatchLaw (withWifi (.bool true)).fields (withWifi (.num 1)).fields := by
  have silent : diff (withWifi (.bool true)).fields (withWifi (.num 1)).fields = [] := by decide +kernel
  have differ : ¬SameDocs (withWifi (.bool true)).fields (withWifi (.num 1)).fields := by
    intro same
    have flat : ¬Nested "/attributes" (some (.obj [("wifi",.bool true)])) (some (.obj [("wifi",.num 1)])) :=
      fun nested => absurd nested.1 (by decide)
    have agrees := same _ _ _ (.top "attributes" flat)
    cases Option.some.inj agrees
  exact ⟨silent,differ,fun law => differ (law.empty.mp silent)⟩

end wifi

end Osds.Directory
