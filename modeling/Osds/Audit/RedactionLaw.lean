import Osds.Audit.Redaction
import Osds.Lib.JsonPlaces
import Osds.Lib.Lists
import Osds.Lib.Dict

namespace Osds.Audit.RedactionLaw
open JsonPlaces

def tail : Place → String
  | [] => ""
  | .key name :: rest => "." ++ name ++ tail rest
  | .item n :: rest => "[" ++ toString n ++ "]" ++ tail rest

-- The whole payload is "data", and the other paths begin inside it.
def pathText : Place → String
  | [] => "data"
  | .key name :: rest => name ++ tail rest
  | place => tail place

def AtOrUnder (path parent : String) : Prop := parent = "/" ∨ path = parent ∨ ∃ rest, path = parent ++ "/" ++ rest

theorem prefix_text {parent path : String} : parent.toList <+: path.toList ↔ ∃ rest, path = parent ++ rest := by
  constructor
  · intro ⟨rest,same⟩
    refine ⟨String.ofList rest,String.toList_inj.mp ?_⟩
    rw [String.toList_append,String.toList_ofList]
    exact same.symm
  · intro ⟨rest,same⟩
    exact ⟨rest.toList,by rw [same,String.toList_append]⟩

theorem under_exact {path parent : String} : under path parent = true ↔ AtOrUnder path parent := by
  unfold under AtOrUnder
  rw [Bool.or_eq_true,Bool.or_eq_true,decide_eq_true_iff,decide_eq_true_iff,List.isPrefixOf_iff_prefix,prefix_text,or_assoc]

theorem part_exact {t k : List Char} : (t.splitOn '/')[0]? = some k ↔ '/' ∉ k ∧ (t = k ∨ ∃ rest, t = k ++ '/' :: rest) := by
  constructor
  · intro first
    by_cases there : '/' ∈ t
    · obtain ⟨before,rest,rfl,plain⟩ := List.eq_append_cons_of_mem there
      rw [List.splitOn_append_cons_self_of_not_mem plain] at first
      cases first
      exact ⟨plain,.inr ⟨rest,rfl⟩⟩
    · rw [List.splitOn_eq_singleton there] at first
      cases first
      exact ⟨there,.inl rfl⟩
  · intro ⟨plain,ends⟩
    rcases ends with rfl | ⟨rest,rfl⟩
    · rw [List.splitOn_eq_singleton plain]
      rfl
    · rw [List.splitOn_append_cons_self_of_not_mem plain]
      rfl

theorem thirdPart_exact {rest key : String} : thirdPart ("/custom_fields/" ++ rest) = some key ↔
    '/' ∉ key.toList ∧ (rest = key ∨ ∃ below, rest = key ++ "/" ++ below) := by
  have whole : ("/custom_fields/" ++ rest).toList = [] ++ '/' :: ("custom_fields".toList ++ '/' :: rest.toList) := by
    rw [String.toList_append]
    rfl
  have parts : (("/custom_fields/" ++ rest).toList.splitOn '/')[2]? = (rest.toList.splitOn '/')[0]? := by
    rw [whole,List.splitOn_append_cons_self_of_not_mem (by decide),List.splitOn_append_cons_self_of_not_mem (by decide)]
    rfl
  unfold thirdPart
  rw [parts,Option.map_eq_some_iff]
  constructor
  · intro ⟨part,first,named⟩
    subst named
    rw [String.toList_ofList]
    obtain ⟨plain,ends⟩ := part_exact.mp first
    refine ⟨plain,ends.imp (fun same => String.toList_inj.mp (same.trans String.toList_ofList.symm)) ?_⟩
    intro ⟨below,same⟩
    refine ⟨String.ofList below,String.toList_inj.mp ?_⟩
    rw [same,String.toList_append,String.toList_append,String.toList_ofList,String.toList_ofList,List.append_assoc]
    exact congrArg (part ++ '/' :: ·) String.toList_ofList.symm
  · intro ⟨plain,ends⟩
    refine ⟨key.toList,part_exact.mpr ⟨plain,ends.imp (congrArg String.toList) ?_⟩,String.ofList_toList⟩
    intro ⟨below,same⟩
    refine ⟨below.toList,?_⟩
    rw [same,String.toList_append,String.toList_append,List.append_assoc]
    rfl

section hidden

variable (rules : List (String × Scope)) (granted : Granted) (marked : List String)

-- A rule that the scopes do not cover names the pointer or one above it, or a private
-- field does.
def Hides (path : String) : Prop :=
  (∃ rule ∈ rules, AtOrUnder path rule.1 ∧ granted.has rule.2 = false) ∨
    granted.contact = false ∧ ∃ key ∈ marked, '/' ∉ key.toList ∧ AtOrUnder path ("/custom_fields/" ++ key)

theorem hides_exact {path : String} : opWithheld rules granted marked path = true ↔ Hides rules granted marked path := by
  have ruled : (rules.any fun rule => under path rule.1 && !granted.has rule.2) = true ↔
      ∃ rule ∈ rules, AtOrUnder path rule.1 ∧ granted.has rule.2 = false := by
    rw [List.any_eq_true]
    refine exists_congr fun rule => and_congr_right fun _ => ?_
    rw [Bool.and_eq_true,under_exact,Bool.not_eq_true']
  have private_ : ("/custom_fields/".toList.isPrefixOf path.toList && (thirdPart path).any (· ∈ marked)) = true ↔
      ∃ key ∈ marked, '/' ∉ key.toList ∧ AtOrUnder path ("/custom_fields/" ++ key) := by
    rw [Bool.and_eq_true,List.isPrefixOf_iff_prefix,prefix_text,Option.any_eq_true]
    constructor
    · intro ⟨⟨rest,same⟩,key,third,member⟩
      subst same
      obtain ⟨plain,ends⟩ := thirdPart_exact.mp third
      refine ⟨key,of_decide_eq_true member,plain,.inr (ends.imp (congrArg _) ?_)⟩
      intro ⟨below,same⟩
      exact ⟨below,by rw [same,String.append_assoc,String.append_assoc,String.append_assoc]⟩
    · intro ⟨key,member,plain,at_⟩
      have named : ∃ rest, path = "/custom_fields/" ++ rest ∧ (rest = key ∨ ∃ below, rest = key ++ "/" ++ below) := by
        rcases at_ with root | same | ⟨below,same⟩
        · have long := congrArg String.length root
          rw [String.length_append] at long
          exact absurd long (Nat.ne_of_gt (Nat.lt_of_lt_of_le (by decide) (Nat.le_add_right _ _)))
        · exact ⟨key,same,.inl rfl⟩
        · refine ⟨key ++ "/" ++ below,?_,.inr ⟨below,rfl⟩⟩
          rw [same,String.append_assoc,String.append_assoc,String.append_assoc]
      obtain ⟨rest,rfl,ends⟩ := named
      exact ⟨⟨rest,rfl⟩,key,thirdPart_exact.mpr ⟨plain,ends⟩,decide_eq_true member⟩
  unfold opWithheld Hides
  rw [Bool.or_eq_true,ruled,Bool.and_assoc,Bool.and_eq_true,private_,Bool.not_eq_true']

instance (path : String) : Decidable (Hides rules granted marked path) := decidable_of_iff _ (hides_exact rules granted marked)

end hidden

section places

variable (granted : Granted) (privateCustomFields : List String) (type : EventType) (data : Json)

def rulePlaces : List Place :=
  ((RULES.lookup type).getD []).flatMap fun (path,scope) => if granted.has scope then [] else matched path data

def opPlaces (rules : List (String × Scope)) : Json → List Place
  | .obj fields =>
      match fields.lookup "value" with
      | none => []
      | some value =>
          if Hides rules granted privateCustomFields (opText fields) then [[.key "value"]]
          else if !granted.contact && opText fields = "/custom_fields" then
            match value with
            | .obj custom => (held privateCustomFields custom).map fun key => [.key "value",.key key]
            | _ => []
          else []
  | _ => []

def patchPlaces : List Place :=
  match PATCH_RULES.lookup type,child (.key "changes") data with
  | some rules,some (.arr changes) => (changes.mapIdx fun i op =>
      (opPlaces granted privateCustomFields rules op).map fun p => .key "changes" :: .item i :: p).flatten
  | _,_ => []

def customPlaces : List Place :=
  if type ∈ LISTING_EVENTS ∧ !granted.contact then
    match child (.key "custom_fields") data with
    | some (.obj custom) => (held privateCustomFields custom).map fun key => [.key "custom_fields",.key key]
    | _ => []
  else []

def Unreviewed : Prop := RULES.lookup type = none ∧ type ∉ NO_PII ∧ ¬(granted.contact ∧ granted.message)

instance : Decidable (Unreviewed granted type) := inferInstanceAs (Decidable (_ ∧ _ ∧ _))

-- What is withheld of a payload: all of it, or the places its type's rules name.
def withheld : List Place :=
  if Unreviewed granted type then [[]]
  else rulePlaces granted type data ++ patchPlaces granted privateCustomFields type data ++
    customPlaces granted privateCustomFields type data

end places

theorem pathText_key (name : String) (rest : Place) (path : List String) (j : Json) (listed : rest ∈ matched path j) :
    pathText (.key name :: rest) = name ++ "." ++ pathText rest := by
  obtain ⟨key,below,same⟩ := matched_keys listed
  subst same
  change name ++ ("." ++ key ++ tail below) = name ++ "." ++ (key ++ tail below)
  rw [String.append_assoc,String.append_assoc]

theorem nullPath_exact (path : List String) (trail : String) (distinct : Distinct data) :
    nullPath path trail data = (nullAt (matched path data) data,(matched path data).map fun p => trail ++ pathText p) := by
  induction path generalizing trail data with
  | nil => exact Prod.ext (nullAt_nil data).symm rfl
  | cons key rest ih =>
      rcases kinds data with ⟨fields,rfl⟩ | other
      · rw [Distinct] at distinct
        obtain ⟨once,below⟩ := distinct
        rw [nullPath,nullAt_obj (matched_outside _ _),nullFields_map]
        dsimp only
        refine Prod.ext ?_ ?_
        · dsimp only
          rw [List.map_map]
          congr 1
          apply List.map_congr_left
          intro field listed
          obtain ⟨name,x⟩ := field
          dsimp only [Function.comp]
          split
          · next hit =>
              cases rest with
              | nil =>
                  refine congrArg (Prod.mk name) (nullAt_root ?_ x).symm
                  exact mem_inside.mpr (matched_cons.mpr ⟨name,x,listed,hit,.inl ⟨rfl,rfl⟩⟩)
              | cons next later =>
                  dsimp only
                  rw [ih _ (Distinct.field below listed)]
                  refine congrArg (Prod.mk name) (nullAt_congr ?_ x)
                  intro p
                  rw [mem_inside,matched_cons]
                  constructor
                  · intro inner
                    exact ⟨name,x,listed,hit,.inr ⟨List.cons_ne_nil _ _,p,inner,rfl⟩⟩
                  · intro found
                    obtain ⟨name',x',there,_,ends⟩ := found
                    rcases ends with ⟨absurd,_⟩ | ⟨_,q,inner,same⟩
                    · cases absurd
                    · cases same
                      have one := Dict.lookup_distinct once listed
                      rw [Dict.lookup_distinct once there] at one
                      cases one
                      exact inner
          · next miss =>
              refine congrArg (Prod.mk name) ((nullAt_congr ?_ x).trans (nullAt_nil x)).symm
              intro p
              rw [mem_inside,matched_cons]
              refine iff_of_false ?_ List.not_mem_nil
              intro found
              obtain ⟨name',x',_,hit,ends⟩ := found
              rcases ends with ⟨_,same⟩ | ⟨_,q,_,same⟩
              · cases same
                exact miss hit
              · cases same
                exact miss hit
        · dsimp only
          rw [matched,List.flatMap_map,List.map_flatMap]
          apply List.flatMap_congr
          intro field listed
          obtain ⟨name,x⟩ := field
          dsimp only
          split
          · cases rest with
            | nil =>
                change [trail ++ name] = [trail ++ (name ++ "")]
                rw [String.append_empty]
            | cons next later =>
                dsimp only
                rw [ih _ (Distinct.field below listed),List.map_map]
                apply List.map_congr_left
                intro p inner
                dsimp only [Function.comp]
                rw [pathText_key name p _ x inner,String.append_assoc,String.append_assoc,String.append_assoc]
          · rfl
      · have absent : ∀ fields, data ≠ .obj fields := by
          intro fields same
          subst same
          rcases other with ⟨_,absurd⟩ | absurd
          · cases absurd
          · exact absurd
        rw [matched_leaf absent,nullAt_nil]
        cases data with
        | obj fields => exact (absent fields rfl).elim
        | _ => rfl

def Parted (rules : List (List String × Scope)) : Prop := rules.Pairwise fun a b => apart b.1 a.1 = true ∧ apart a.1 b.1 = true

instance (rules : List (List String × Scope)) : Decidable (Parted rules) := inferInstanceAs (Decidable (List.Pairwise _ _))

theorem rules_parted (found : RULES.lookup type = some rules) : Parted rules := by
  have all : ∀ entry ∈ RULES, Parted entry.2 := by decide
  exact all _ (Dict.lookup_mem found)

def placesOf (granted : Granted) (data : Json) (rules : List (List String × Scope)) : List Place :=
  rules.flatMap fun (path,scope) => if granted.has scope then [] else matched path data

theorem redactRules_exact (granted : Granted) (distinct : Distinct data) (parted : Parted rules) (before : List Place)
    (clear : ∀ rule ∈ rules, ∀ q ∈ before, Clear rule.1 q) :
    redactRules granted rules (nullAt before data,before.map pathText) =
      (nullAt (before ++ placesOf granted data rules) data,(before ++ placesOf granted data rules).map pathText) := by
  induction rules generalizing before with
  | nil =>
      rw [redactRules,placesOf,List.flatMap_nil,List.append_nil]
  | cons rule rest ih =>
      obtain ⟨path,scope⟩ := rule
      obtain ⟨others,parted⟩ := List.pairwise_cons.mp parted
      have later : ∀ rule ∈ rest, ∀ q ∈ before, Clear rule.1 q := fun rule listed => clear rule (List.mem_cons_of_mem _ listed)
      rw [redactRules,placesOf,List.flatMap_cons]
      dsimp only
      split
      · exact ih parted before later
      · have here : ∀ q ∈ before, Clear path q := clear (path,scope) List.mem_cons_self
        have next := nullPath_exact path "" (distinct_nullAt before data distinct)
        rw [matched_nullAt here] at next
        rw [next,nullAt_append,← List.append_assoc]
        have texts : (matched path data).map (fun p => "" ++ pathText p) = (matched path data).map pathText := by
          apply List.map_congr_left
          intro p _
          rw [String.empty_append]
        rw [texts,← List.map_append]
        refine ih parted (before ++ matched path data) ?_
        intro rule listed q there
        rcases List.mem_append.mp there with old | new
        · exact later rule listed q old
        · exact apart_clear (others rule listed).1 data q new

section patch

variable {granted : Granted} {marked : List String} {rules : List (String × Scope)}

theorem setField_nullAt {fields : Fields} (distinct : (fields.map Prod.fst).Nodup) (there : fields.lookup key = some j)
    (places : List Place) : Json.obj (setField key (nullAt places j) fields) = nullAt (places.map (.key key :: ·)) (.obj fields) :=
  (nullAt_field distinct there places).symm

theorem mem_held {fields : Fields} : key ∈ held keys fields ↔ key ∈ fields.map Prod.fst ∧ key ∈ keys := by
  unfold held
  rw [List.mem_filter,decide_eq_true_eq]

theorem setNull_nullAt (keys : List String) (fields : Fields) :
    Json.obj (setNull keys fields) = nullAt ((held keys fields).map fun key => [.key key]) (.obj fields) := by
  have outside : [] ∉ (held keys fields).map fun key => [Step.key key] := by
    intro root
    obtain ⟨_,_,absurd⟩ := List.mem_map.mp root
    cases absurd
  rw [nullAt_obj outside,nullFields_map]
  congr 1
  apply List.map_congr_left
  intro field listed
  by_cases private_ : field.1 ∈ keys
  · rw [if_pos private_]
    refine congrArg (Prod.mk field.1) (nullAt_root ?_ field.2).symm
    exact mem_inside.mpr (List.mem_map.mpr ⟨_,mem_held.mpr ⟨List.mem_map.mpr ⟨field,listed,rfl⟩,private_⟩,rfl⟩)
  · rw [if_neg private_]
    refine Prod.ext rfl ((nullAt_congr ?_ field.2).trans (nullAt_nil field.2)).symm
    intro p
    rw [mem_inside,List.mem_map]
    refine iff_of_false ?_ List.not_mem_nil
    intro found
    obtain ⟨key,there,same⟩ := found
    cases same
    exact private_ (mem_held.mp there).2

theorem changes_text : "changes[" = "changes" ++ "[" := by decide

theorem value_text : "].value" = "]" ++ "." ++ "value" := by decide

theorem opPlaces_exact (fields : Fields) : opPlaces granted marked rules (.obj fields) =
    match fields.lookup "value" with
    | none => []
    | some value =>
        if opWithheld rules granted marked (opText fields) then [[.key "value"]]
        else if !granted.contact && opText fields = "/custom_fields" then
          match value with
          | .obj custom => (held marked custom).map fun key => [.key "value",.key key]
          | _ => []
        else [] := by
  unfold opPlaces
  dsimp only
  cases fields.lookup "value" with
  | none => rfl
  | some value => exact if_congr (hides_exact ..).symm rfl rfl

theorem redactOp_exact (n : Nat) (op : Json) (distinct : Distinct op) : redactOp rules granted marked n op =
    (nullAt (opPlaces granted marked rules op) op,
      (opPlaces granted marked rules op).map fun p => "changes[" ++ toString n ++ "]" ++ tail p) := by
  have quiet : ∀ x : Json, (x,([] : List String)) =
      (nullAt [] x,([] : List Place).map fun p => "changes[" ++ toString n ++ "]" ++ tail p) :=
    fun x => Prod.ext (nullAt_nil x).symm rfl
  cases op with
  | obj fields =>
      rw [Distinct] at distinct
      rw [opPlaces_exact]
      unfold redactOp
      dsimp only
      cases there : fields.lookup "value" with
      | none => exact quiet _
      | some value =>
          dsimp only
          split
          · refine Prod.ext ?_ ?_
            · have one := setField_nullAt distinct.1 there [[]]
              rw [nullAt_root (List.mem_singleton_self _)] at one
              exact one
            · refine congrArg (fun text => [text]) ?_
              change "changes[" ++ toString n ++ "].value" = "changes[" ++ toString n ++ "]" ++ ("." ++ "value" ++ "")
              rw [value_text,String.append_empty]
              simp only [String.append_assoc]
          · split
            · cases value with
              | obj custom =>
                  dsimp only
                  rw [setNull_nullAt]
                  refine Prod.ext ?_ ?_
                  · dsimp only
                    rw [setField_nullAt distinct.1 there,List.map_map]
                    rfl
                  · dsimp only
                    rw [List.map_map]
                    apply List.map_congr_left
                    intro key _
                    change "changes[" ++ toString n ++ "].value" ++ "." ++ key =
                      "changes[" ++ toString n ++ "]" ++ ("." ++ "value" ++ ("." ++ key ++ ""))
                    rw [value_text,String.append_empty]
                    simp only [String.append_assoc]
              | _ => exact quiet _
            · exact quiet _
  | _ => exact quiet _

theorem redactPatch_exact (granted : Granted) (marked : List String) (rules : List (String × Scope)) {fields : Fields}
    (distinct : Distinct (.obj fields)) (seen : List String)
    (there : fields.lookup "changes" = some (.arr changes)) :
    redactPatch rules granted marked (.obj fields,seen) =
      (nullAt ((changes.mapIdx fun i op =>
          (opPlaces granted marked rules op).map fun p => Step.key "changes" :: .item i :: p).flatten) (.obj fields),
        seen ++ ((changes.mapIdx fun i op =>
          (opPlaces granted marked rules op).map fun p => Step.key "changes" :: .item i :: p).flatten).map pathText) := by
  rw [Distinct] at distinct
  obtain ⟨once,below⟩ := distinct
  have items : DistinctItems changes := by
    have inner := Distinct.field below (Dict.lookup_mem there)
    rw [Distinct] at inner
    exact inner
  have each : changes.mapIdx (redactOp rules granted marked) = changes.mapIdx fun i op =>
      (nullAt (opPlaces granted marked rules op) op,
        (opPlaces granted marked rules op).map fun p => "changes[" ++ toString i ++ "]" ++ tail p) := by
    apply List.ext_getElem?
    intro i
    rw [List.getElem?_mapIdx,List.getElem?_mapIdx]
    cases at_ : changes[i]? with
    | none => rfl
    | some op =>
        have listed : op ∈ changes := List.mem_of_getElem? at_
        exact congrArg some (redactOp_exact i op (Distinct.item items listed))
  unfold redactPatch
  dsimp only
  rw [there]
  dsimp only
  rw [each]
  have inner : Json.arr (changes.mapIdx fun i op => nullAt (opPlaces granted marked rules op) op) =
      nullAt (changes.mapIdx fun i op => (opPlaces granted marked rules op).map fun p => Step.item i :: p).flatten
        (.arr changes) := by
    refine (nullAt_items ?_).symm
    intro p
    rw [List.mem_flatten]
    constructor
    · intro found
      obtain ⟨places,there,listed⟩ := found
      obtain ⟨i,bound,same⟩ := List.mem_mapIdx.mp there
      subst same
      obtain ⟨q,held,equal⟩ := List.mem_map.mp listed
      exact ⟨i,_,q,List.getElem?_eq_getElem bound,held,equal.symm⟩
    · intro found
      obtain ⟨i,op,q,at_,held,same⟩ := found
      obtain ⟨bound,equal⟩ := List.getElem?_eq_some_iff.mp at_
      refine ⟨_,List.mem_mapIdx.mpr ⟨i,bound,rfl⟩,?_⟩
      rw [same,equal]
      exact List.mem_map.mpr ⟨q,held,rfl⟩
  have places : (fun i op => ((opPlaces granted marked rules op).map fun p => Step.item i :: p).map (Step.key "changes" :: ·)) =
      fun i op => (opPlaces granted marked rules op).map fun p => Step.key "changes" :: .item i :: p := by
    funext i op
    rw [List.map_map]
    rfl
  have texts : (fun i op => (opPlaces granted marked rules op).map fun p => "changes[" ++ toString i ++ "]" ++ tail p) =
      fun i op => ((opPlaces granted marked rules op).map fun p => Step.key "changes" :: .item i :: p).map pathText := by
    funext i op
    rw [List.map_map]
    apply List.map_congr_left
    intro p _
    change "changes[" ++ toString i ++ "]" ++ tail p = "changes" ++ ("[" ++ toString i ++ "]" ++ tail p)
    rw [changes_text]
    simp only [String.append_assoc]
  rw [Lists.map_mapIdx,List.flatMap_def,Lists.map_mapIdx]
  refine Prod.ext ?_ ?_
  · dsimp only
    rw [inner,setField_nullAt once there,List.map_flatten,Lists.map_mapIdx,places]
  · dsimp only
    rw [List.map_flatten,Lists.map_mapIdx,texts]

end patch

section payload

variable {granted : Granted} {marked : List String} {type : EventType} {data : Json}

theorem mem_patchPlaces {p : Place} : p ∈ patchPlaces granted marked type data ↔
    ∃ rules changes i op q, PATCH_RULES.lookup type = some rules ∧ child (.key "changes") data = some (.arr changes) ∧
      changes[i]? = some op ∧ q ∈ opPlaces granted marked rules op ∧ p = .key "changes" :: .item i :: q := by
  unfold patchPlaces
  split
  · next rules changes patch there =>
      rw [List.mem_flatten]
      constructor
      · intro found
        obtain ⟨places,listed,inside_⟩ := found
        obtain ⟨i,bound,same⟩ := List.mem_mapIdx.mp listed
        subst same
        obtain ⟨q,held,equal⟩ := List.mem_map.mp inside_
        exact ⟨rules,changes,i,_,q,patch,there,List.getElem?_eq_getElem bound,held,equal.symm⟩
      · intro found
        obtain ⟨rules',changes',i,op,q,patch',there',at_,held,same⟩ := found
        rw [patch] at patch'
        rw [there] at there'
        cases patch'
        cases there'
        obtain ⟨bound,equal⟩ := List.getElem?_eq_some_iff.mp at_
        refine ⟨_,List.mem_mapIdx.mpr ⟨i,bound,rfl⟩,?_⟩
        rw [same,equal]
        exact List.mem_map.mpr ⟨q,held,rfl⟩
  · next other =>
      refine iff_of_false List.not_mem_nil ?_
      intro found
      obtain ⟨rules,changes,_,_,_,patch,there,_⟩ := found
      exact other rules changes patch there

theorem mem_rulePlaces {p : Place} : p ∈ rulePlaces granted type data ↔
    ∃ rules path scope, RULES.lookup type = some rules ∧ (path,scope) ∈ rules ∧ granted.has scope = false ∧
      p ∈ matched path data := by
  unfold rulePlaces
  rw [List.mem_flatMap]
  constructor
  · intro found
    obtain ⟨⟨path,scope⟩,listed,inside_⟩ := found
    dsimp only at inside_
    split at inside_
    · cases inside_
    · next closed =>
        cases rules : RULES.lookup type with
        | none =>
            rw [rules] at listed
            cases listed
        | some rules' =>
            rw [rules] at listed
            exact ⟨rules',path,scope,rfl,listed,Bool.eq_false_iff.mpr closed,inside_⟩
  · intro found
    obtain ⟨rules,path,scope,type_,listed,closed,inside_⟩ := found
    refine ⟨(path,scope),?_,?_⟩
    · rw [type_]
      exact listed
    · dsimp only
      rw [closed]
      exact inside_

theorem mem_customPlaces {p : Place} : p ∈ customPlaces granted marked type data ↔
    ∃ custom key, type ∈ LISTING_EVENTS ∧ granted.contact = false ∧ child (.key "custom_fields") data = some (.obj custom) ∧
      key ∈ held marked custom ∧ p = [.key "custom_fields",.key key] := by
  unfold customPlaces
  split
  · next listing =>
      have closed : granted.contact = false := Bool.not_eq_true' _ ▸ listing.2
      split
      · next custom there =>
          rw [List.mem_map]
          constructor
          · intro found
            obtain ⟨key,held_,same⟩ := found
            exact ⟨custom,key,listing.1,closed,there,held_,same.symm⟩
          · intro found
            obtain ⟨custom',key,_,_,there',held_,same⟩ := found
            rw [there] at there'
            cases there'
            exact ⟨key,held_,same.symm⟩
      · next other =>
          refine iff_of_false List.not_mem_nil ?_
          intro found
          obtain ⟨custom,_,_,_,there,_⟩ := found
          exact other custom there
  · next other =>
      refine iff_of_false List.not_mem_nil ?_
      intro found
      obtain ⟨_,_,listed,closed,_⟩ := found
      exact other ⟨listed,by rw [closed]; rfl⟩

theorem listing_rules (listing : type ∈ LISTING_EVENTS) (found : RULES.lookup type = some rules) :
    ∀ rule ∈ rules, rule.1 = ["contact"] := by
  rcases List.mem_cons.mp listing with rfl | rest
  · cases found
    decide
  · rw [List.mem_singleton.mp rest] at found
    cases found
    decide

theorem outside_custom (marked : List String) (listing : type ∈ LISTING_EVENTS) :
    ∀ p ∈ rulePlaces granted type data ++ patchPlaces granted marked type data,
      ∃ name rest, p = .key name :: rest ∧ name ≠ "custom_fields" := by
  intro p there
  rcases List.mem_append.mp there with rule | patch
  · obtain ⟨rules,path,scope,found,listed,_,matched_⟩ := mem_rulePlaces.mp rule
    have contact := listing_rules listing found _ listed
    dsimp only at contact
    rw [contact] at matched_
    rcases kinds data with ⟨fields,rfl⟩ | ⟨items,rfl⟩ | leaf
    · obtain ⟨name,x,_,hit,ends⟩ := matched_cons.mp matched_
      have named : name = "contact" := (hit.resolve_left (by decide)).symm
      subst named
      rcases ends with ⟨_,same⟩ | ⟨absurd,_⟩
      · exact ⟨_,_,same,by decide⟩
      · exact (absurd rfl).elim
    · cases matched_
    · rw [matched_leaf (fun fields same => by subst same; exact leaf)] at matched_
      cases matched_
  · obtain ⟨_,_,i,_,q,_,_,_,_,same⟩ := mem_patchPlaces.mp patch
    exact ⟨_,_,same,by decide⟩

theorem redactCustomFields_exact (distinct : Distinct data) (listing : type ∈ LISTING_EVENTS) (closed : granted.contact = false)
    (places : List Place) (elsewhere : ∀ p ∈ places, ∃ name rest, p = .key name :: rest ∧ name ≠ "custom_fields") :
    redactCustomFields marked (nullAt places data,places.map pathText) =
      (nullAt (places ++ customPlaces granted marked type data) data,
        (places ++ customPlaces granted marked type data).map pathText) := by
  have outside : [] ∉ places := by
    intro root
    obtain ⟨_,_,absurd,_⟩ := elsewhere [] root
    cases absurd
  have unread : ∀ x, nullAt (inside (.key "custom_fields") places) x = x := by
    intro x
    refine (nullAt_congr ?_ x).trans (nullAt_nil x)
    intro p
    rw [mem_inside]
    refine iff_of_false ?_ List.not_mem_nil
    intro there
    obtain ⟨_,_,same,apart_⟩ := elsewhere _ there
    cases same
    exact apart_ rfl
  have found : child (.key "custom_fields") (nullAt places data) = child (.key "custom_fields") data := by
    rw [child_nullAt outside]
    cases child (.key "custom_fields") data with
    | none => rfl
    | some x => exact congrArg some (unread x)
  have distinct' := distinct_nullAt places data distinct
  unfold customPlaces
  rw [if_pos ⟨listing,by rw [closed]; rfl⟩,← nullAt_append,List.map_append,← found]
  generalize nullAt places data = nulled at distinct' ⊢
  have quiet : (nulled,places.map pathText) = (nullAt [] nulled,places.map pathText ++ ([] : List Place).map pathText) := by
    rw [nullAt_nil,List.map_nil,List.append_nil]
  rcases kinds nulled with ⟨fields,rfl⟩ | ⟨items,rfl⟩ | leaf
  · rw [Distinct] at distinct'
    dsimp only [child]
    unfold redactCustomFields
    dsimp only
    cases there : fields.lookup "custom_fields" with
    | none => exact quiet
    | some value =>
        cases value with
        | obj custom =>
            have inner := setField_nullAt distinct'.1 there ((held marked custom).map fun key => [Step.key key])
            rw [← setNull_nullAt,List.map_map] at inner
            refine Prod.ext inner ?_
            dsimp only
            rw [List.map_map]
            congr 1
            apply List.map_congr_left
            intro key _
            change "custom_fields." ++ key = "custom_fields" ++ ("." ++ key ++ "")
            rw [String.append_empty,← String.append_assoc]
            congr 1
        | _ => exact quiet
  · exact quiet
  · cases nulled with
    | obj fields => exact leaf.elim
    | _ => exact quiet

theorem patched_unruled (found : PATCH_RULES.lookup type = some patch) : RULES.lookup type = some [] := by
  have listed := Dict.lookup_mem found
  unfold PATCH_RULES at listed
  rcases List.mem_cons.mp listed with same | rest
  · cases same
    rfl
  · cases List.mem_singleton.mp rest
    rfl

theorem unruled_listing (unruled : RULES.lookup type = none) : type ∉ LISTING_EVENTS := by
  intro listing
  rcases List.mem_cons.mp listing with rfl | rest
  · cases unruled
  · rw [List.mem_singleton.mp rest] at unruled
    cases unruled

theorem ruled_exact (distinct : Distinct data) (found : RULES.lookup type = some rules) :
    (match PATCH_RULES.lookup type with
      | some patch => redactPatch patch granted marked (redactRules granted rules (data,[]))
      | none => redactRules granted rules (data,[])) =
      (nullAt (rulePlaces granted type data ++ patchPlaces granted marked type data) data,
        (rulePlaces granted type data ++ patchPlaces granted marked type data).map pathText) := by
  cases patch : PATCH_RULES.lookup type with
  | none =>
      have none_ : patchPlaces granted marked type data = [] := by
        unfold patchPlaces
        rw [patch]
      have first := redactRules_exact granted distinct (rules_parted found) [] (fun _ _ _ absurd => by cases absurd)
      rw [nullAt_nil,List.map_nil,List.nil_append] at first
      dsimp only
      rw [none_,List.append_nil,first]
      unfold rulePlaces placesOf
      rw [found]
      rfl
  | some ops =>
      have nothing := patched_unruled patch
      rw [found] at nothing
      cases nothing
      have none_ : rulePlaces granted type data = [] := by
        unfold rulePlaces
        rw [found]
        rfl
      dsimp only
      rw [redactRules,none_,List.nil_append]
      have quiet : (data,([] : List String)) = (nullAt [] data,([] : List Place).map pathText) :=
        Prod.ext (nullAt_nil data).symm rfl
      unfold patchPlaces
      rw [patch]
      rcases kinds data with ⟨fields,rfl⟩ | ⟨items,rfl⟩ | leaf
      · dsimp only [child]
        cases there : fields.lookup "changes" with
        | none =>
            unfold redactPatch
            dsimp only
            rw [there]
            exact quiet
        | some changes =>
            cases changes with
            | arr changes =>
                have whole := redactPatch_exact granted marked ops distinct [] there
                exact whole
            | _ =>
                unfold redactPatch
                dsimp only
                rw [there]
                exact quiet
      · exact quiet
      · cases data with
        | obj fields => exact leaf.elim
        | _ => exact quiet

theorem custom_exact (distinct : Distinct data) {out : Withheld}
    (ruled : out = (nullAt (rulePlaces granted type data ++ patchPlaces granted marked type data) data,
      (rulePlaces granted type data ++ patchPlaces granted marked type data).map pathText)) :
    (if type ∈ LISTING_EVENTS ∧ !granted.contact then redactCustomFields marked out else out) =
      (nullAt (rulePlaces granted type data ++ patchPlaces granted marked type data ++ customPlaces granted marked type data) data,
        (rulePlaces granted type data ++ patchPlaces granted marked type data ++
          customPlaces granted marked type data).map pathText) := by
  subst ruled
  split
  · next listing =>
      have closed : granted.contact = false := Bool.not_eq_true' _ ▸ listing.2
      exact redactCustomFields_exact distinct listing.1 closed _ (outside_custom _ listing.1)
  · next other =>
      have none_ : customPlaces granted marked type data = [] := if_neg other
      rw [none_,List.append_nil]

theorem redactJson_exact (distinct : Distinct data) : redactJson granted marked type data =
    if Unreviewed granted type then (.obj [],["data"])
    else (nullAt (withheld granted marked type data) data,(withheld granted marked type data).map pathText) := by
  unfold redactJson
  dsimp only
  cases found : RULES.lookup type with
  | none =>
      have unlisted := unruled_listing found
      dsimp only
      rw [if_neg (fun listing => unlisted listing.1)]
      by_cases reviewed : type ∈ NO_PII ∨ granted.contact ∧ granted.message
      · have other : ¬Unreviewed granted type := fun bad => reviewed.elim bad.2.1 bad.2.2
        have none_ : withheld granted marked type data = [] := by
          apply List.eq_nil_iff_forall_not_mem.mpr
          intro p there
          unfold withheld at there
          rw [if_neg other] at there
          rcases List.mem_append.mp there with ruled | custom
          · rcases List.mem_append.mp ruled with rule | patch
            · obtain ⟨_,_,_,absurd,_⟩ := mem_rulePlaces.mp rule
              rw [found] at absurd
              cases absurd
            · obtain ⟨_,_,_,_,_,absurd,_⟩ := mem_patchPlaces.mp patch
              rw [patched_unruled absurd] at found
              cases found
          · obtain ⟨_,_,listing,_⟩ := mem_customPlaces.mp custom
            exact unlisted listing
        rw [if_pos reviewed,if_neg other,none_,nullAt_nil]
        rfl
      · have bad : Unreviewed granted type := ⟨found,fun there => reviewed (.inl there),fun both => reviewed (.inr both)⟩
        rw [if_neg reviewed,if_pos bad]
  | some rules =>
      have other : ¬Unreviewed granted type := fun bad => by rw [bad.1] at found; cases found
      rw [if_neg other]
      unfold withheld
      rw [if_neg other]
      exact custom_exact distinct (ruled_exact distinct found)

theorem mem_opPlaces {q : Place} : q ∈ opPlaces granted marked rules op ↔
    ∃ fields value, op = .obj fields ∧ fields.lookup "value" = some value ∧
      (opWithheld rules granted marked (opText fields) = true ∧ q = [.key "value"] ∨
        opWithheld rules granted marked (opText fields) = false ∧ granted.contact = false ∧ opText fields = "/custom_fields" ∧
          ∃ custom key, value = .obj custom ∧ key ∈ held marked custom ∧ q = [.key "value",.key key]) := by
  constructor
  · intro found
    unfold opPlaces at found
    split at found
    · next fields =>
        split at found
        · cases found
        · next value there =>
            refine ⟨fields,value,rfl,there,?_⟩
            split at found
            · next hidden_ => exact .inl ⟨(hides_exact ..).mpr hidden_,List.mem_singleton.mp found⟩
            · next open_ =>
                have open_ := mt (hides_exact ..).mp open_
                split at found
                · next both =>
                    simp only [Bool.and_eq_true,Bool.not_eq_true',decide_eq_true_eq] at both
                    split at found
                    · next custom =>
                        obtain ⟨key,held_,same⟩ := List.mem_map.mp found
                        exact .inr ⟨Bool.eq_false_iff.mpr open_,both.1,both.2,custom,key,rfl,held_,same.symm⟩
                    · cases found
                · cases found
    · cases found
  · intro found
    obtain ⟨fields,value,same,there,ends⟩ := found
    subst same
    rw [opPlaces_exact,there]
    rcases ends with ⟨hidden_,equal⟩ | ⟨open_,closed,path,custom,key,same,held_,equal⟩
    · dsimp only
      rw [if_pos hidden_,equal]
      exact List.mem_singleton_self _
    · subst same
      dsimp only
      rw [open_,closed,path,equal]
      exact List.mem_map.mpr ⟨key,held_,rfl⟩

theorem op_there {q : Place} (listed : q ∈ opPlaces granted marked rules op) : (value q op).isSome := by
  obtain ⟨fields,x,rfl,there,ends⟩ := mem_opPlaces.mp listed
  have first : child (.key "value") (.obj fields) = some x := there
  rcases ends with ⟨_,rfl⟩ | ⟨_,_,_,custom,key,rfl,held_,rfl⟩
  · rw [value,first]
    rfl
  · obtain ⟨field,present,named⟩ := List.mem_map.mp (mem_held.mp held_).1
    have second : (custom.lookup key).isSome := by
      cases found : custom.lookup key with
      | some _ => rfl
      | none =>
          have absurd := List.lookup_eq_none_iff.mp found field present
          rw [named,bne_self_eq_false] at absurd
          cases absurd
    rw [value,first,Option.bind_some,value]
    change ((custom.lookup key).bind _).isSome
    obtain ⟨y,found⟩ := Option.isSome_iff_exists.mp second
    rw [found]
    rfl

theorem op_least {p q : Place} (one : p ∈ opPlaces granted marked rules op) (other : q ∈ opPlaces granted marked rules op)
    (before : q <+: p) : q = p := by
  obtain ⟨fields,x,rfl,there,ends⟩ := mem_opPlaces.mp one
  obtain ⟨_,_,same,there',ends'⟩ := mem_opPlaces.mp other
  cases same
  rw [there] at there'
  cases there'
  rcases ends with ⟨hidden_,rfl⟩ | ⟨open_,_,_,_,_,rfl,_,rfl⟩
  · rcases ends' with ⟨_,rfl⟩ | ⟨open_,_⟩
    · rfl
    · rw [hidden_] at open_
      cases open_
  · rcases ends' with ⟨hidden_,_⟩ | ⟨_,_,_,_,_,_,_,rfl⟩
    · rw [open_] at hidden_
      cases hidden_
    · exact before.eq_of_length rfl

def Grants (granted granted' : Granted) : Prop := ∀ scope, granted.has scope = true → granted'.has scope = true

theorem Grants.closed (more : Grants granted granted') (scope : Scope) (closed : granted'.has scope = false) :
    granted.has scope = false := by
  cases open_ : granted.has scope with
  | false => rfl
  | true =>
      rw [more scope open_] at closed
      cases closed

theorem opWithheld_grants (more : Grants granted granted') (hidden_ : opWithheld rules granted' marked path = true) :
    opWithheld rules granted marked path = true := by
  unfold opWithheld at hidden_ ⊢
  rw [Bool.or_eq_true] at hidden_ ⊢
  rcases hidden_ with rule | private_
  · obtain ⟨rule,listed,both⟩ := List.any_eq_true.mp rule
    rw [Bool.and_eq_true,Bool.not_eq_true'] at both
    refine .inl (List.any_eq_true.mpr ⟨rule,listed,?_⟩)
    rw [Bool.and_eq_true,Bool.not_eq_true']
    exact ⟨both.1,more.closed rule.2 both.2⟩
  · rw [Bool.and_eq_true,Bool.and_eq_true,Bool.not_eq_true'] at private_
    refine .inr ?_
    rw [Bool.and_eq_true,Bool.and_eq_true,Bool.not_eq_true']
    exact ⟨⟨more.closed .contact private_.1.1,private_.1.2⟩,private_.2⟩

theorem op_grants {q : Place} (more : Grants granted granted') (listed : q ∈ opPlaces granted' marked rules op) :
    ∃ q' ∈ opPlaces granted marked rules op, q' <+: q := by
  obtain ⟨fields,x,rfl,there,ends⟩ := mem_opPlaces.mp listed
  have opens : ∃ rest, q = .key "value" :: rest := by
    rcases ends with ⟨_,same⟩ | ⟨_,_,_,_,_,_,_,same⟩
    · exact ⟨_,same⟩
    · exact ⟨_,same⟩
  cases whole : opWithheld rules granted marked (opText fields) with
  | true =>
      obtain ⟨rest,same⟩ := opens
      subst same
      exact ⟨[.key "value"],mem_opPlaces.mpr ⟨fields,x,rfl,there,.inl ⟨whole,rfl⟩⟩,List.cons_prefix_cons.mpr ⟨rfl,List.nil_prefix⟩⟩
  | false =>
      rcases ends with ⟨hidden_,_⟩ | ⟨_,closed,path,custom,key,same,held_,equal⟩
      · rw [opWithheld_grants more hidden_] at whole
        cases whole
      · refine ⟨q,mem_opPlaces.mpr ⟨fields,x,rfl,there,.inr ⟨whole,?_,path,custom,key,same,held_,equal⟩⟩,List.prefix_rfl⟩
        exact more.closed .contact closed

theorem mem_withheld {p : Place} : p ∈ withheld granted marked type data ↔
    Unreviewed granted type ∧ p = [] ∨ ¬Unreviewed granted type ∧
      (p ∈ rulePlaces granted type data ∨ p ∈ patchPlaces granted marked type data ∨ p ∈ customPlaces granted marked type data) := by
  unfold withheld
  split
  · next bad =>
      rw [List.mem_singleton]
      exact ⟨fun same => .inl ⟨bad,same⟩,fun found => found.elim (·.2) (fun absurd => (absurd.1 bad).elim)⟩
  · next fine =>
      rw [List.mem_append,List.mem_append,or_assoc]
      exact ⟨fun found => .inr ⟨fine,found⟩,fun found => found.elim (fun absurd => (fine absurd.1).elim) (·.2)⟩

theorem child_changes_items (i : Nat) {changes : List Json} (at_ : changes[i]? = some op)
    (there : child (.key "changes") data = some (.arr changes)) (q : Place) :
    value (.key "changes" :: .item i :: q) data = value q op := by
  rw [value,there,Option.bind_some,value]
  change changes[i]?.bind _ = _
  rw [at_]
  rfl

theorem withheld_there {p : Place} (distinct : Distinct data) (listed : p ∈ withheld granted marked type data) :
    (value p data).isSome := by
  rcases mem_withheld.mp listed with ⟨_,rfl⟩ | ⟨_,rule | patch | custom⟩
  · rfl
  · obtain ⟨_,_,_,_,_,_,inside_⟩ := mem_rulePlaces.mp rule
    exact matched_value distinct inside_
  · obtain ⟨_,changes,i,op,q,_,there,at_,held_,rfl⟩ := mem_patchPlaces.mp patch
    rw [child_changes_items i at_ there]
    exact op_there held_
  · obtain ⟨fields,key,_,_,there,held_,rfl⟩ := mem_customPlaces.mp custom
    obtain ⟨field,present,named⟩ := List.mem_map.mp (mem_held.mp held_).1
    rw [value,there,Option.bind_some,value]
    change ((fields.lookup key).bind _).isSome
    cases found : fields.lookup key with
    | some _ => rfl
    | none =>
        have absurd := List.lookup_eq_none_iff.mp found field present
        rw [named,bne_self_eq_false] at absurd
        cases absurd

theorem rule_least {p q : Place} (one : p ∈ rulePlaces granted type data) (other : q ∈ rulePlaces granted type data)
    (before : q <+: p) : q = p := by
  obtain ⟨rules,path,scope,found,listed,_,inside_⟩ := mem_rulePlaces.mp one
  obtain ⟨rules',path',scope',found',listed',_,inside'⟩ := mem_rulePlaces.mp other
  rw [found] at found'
  cases found'
  by_cases same : (path,scope) = (path',scope')
  · cases same
    exact before.eq_of_length ((matched_length inside').trans (matched_length inside_).symm)
  · have parted := rules_parted found
    have clear : apart path path' = true := by
      obtain ⟨i,at_⟩ := List.getElem?_of_mem listed
      obtain ⟨j,at'⟩ := List.getElem?_of_mem listed'
      obtain ⟨bound,equal⟩ := List.getElem?_eq_some_iff.mp at_
      obtain ⟨bound',equal'⟩ := List.getElem?_eq_some_iff.mp at'
      rcases Nat.lt_trichotomy i j with less | equal_ | more
      · have both := List.pairwise_iff_getElem.mp parted i j bound bound' less
        rw [equal,equal'] at both
        exact both.2
      · subst equal_
        exact (same (equal.symm.trans equal')).elim
      · have both := List.pairwise_iff_getElem.mp parted j i bound' bound more
        rw [equal,equal'] at both
        exact both.1
    exact clear_least (apart_clear clear data q inside') inside_ before

theorem withheld_least {p q : Place} (one : p ∈ withheld granted marked type data)
    (other : q ∈ withheld granted marked type data) (before : q <+: p) : q = p := by
  rcases mem_withheld.mp one with ⟨bad,rfl⟩ | ⟨fine,one⟩
  · exact List.prefix_nil.mp before
  · rcases mem_withheld.mp other with ⟨bad,_⟩ | ⟨_,other⟩
    · exact (fine bad).elim
    · have heads : ∀ {a b : String} {r r' : Place}, q = .key a :: r → p = .key b :: r' → a = b := by
        intro a b r r' first second
        rw [first,second] at before
        cases (List.cons_prefix_cons.mp before).1
        rfl
      rcases one with rule | patch | custom
      · rcases other with rule' | patch' | custom'
        · exact rule_least rule rule' before
        · obtain ⟨_,_,_,_,_,ops,_⟩ := mem_patchPlaces.mp patch'
          obtain ⟨rules,_,_,found,listed,_⟩ := mem_rulePlaces.mp rule
          rw [patched_unruled ops] at found
          cases found
          cases listed
        · obtain ⟨_,_,listing,_,_,_,same⟩ := mem_customPlaces.mp custom'
          obtain ⟨name,rest,equal,differ⟩ := outside_custom marked listing p (List.mem_append_left _ rule)
          exact (differ (heads same equal).symm).elim
      · rcases other with rule' | patch' | custom'
        · obtain ⟨_,_,_,_,_,ops,_⟩ := mem_patchPlaces.mp patch
          obtain ⟨rules,_,_,found,listed,_⟩ := mem_rulePlaces.mp rule'
          rw [patched_unruled ops] at found
          cases found
          cases listed
        · obtain ⟨rules,changes,i,op,_,found,there,at_,held_,rfl⟩ := mem_patchPlaces.mp patch
          obtain ⟨rules',changes',i',op',_,found',there',at',held',rfl⟩ := mem_patchPlaces.mp patch'
          rw [found] at found'
          cases found'
          rw [there] at there'
          cases there'
          obtain ⟨same,below⟩ := List.cons_prefix_cons.mp (List.cons_prefix_cons.mp before).2
          cases same
          rw [at_] at at'
          cases at'
          rw [op_least held_ held' below]
        · obtain ⟨_,_,listing,_,_,_,same⟩ := mem_customPlaces.mp custom'
          obtain ⟨name,rest,equal,differ⟩ := outside_custom _ listing p (List.mem_append_right _ patch)
          exact (differ (heads same equal).symm).elim
      · obtain ⟨_,_,listing,_,_,_,same⟩ := mem_customPlaces.mp custom
        rcases other with rule' | patch' | custom'
        · obtain ⟨name,rest,equal,differ⟩ := outside_custom marked listing q (List.mem_append_left _ rule')
          exact (differ (heads equal same)).elim
        · obtain ⟨name,rest,equal,differ⟩ := outside_custom _ listing q (List.mem_append_right _ patch')
          exact (differ (heads equal same)).elim
        · obtain ⟨_,_,_,_,_,_,same'⟩ := mem_customPlaces.mp custom'
          refine before.eq_of_length ?_
          rw [same,same']
          rfl

theorem withheld_grants {q : Place} (more : Grants granted granted') (listed : q ∈ withheld granted' marked type data) :
    ∃ q' ∈ withheld granted marked type data, q' <+: q := by
  by_cases bad : Unreviewed granted type
  · exact ⟨[],mem_withheld.mpr (.inl ⟨bad,rfl⟩),List.nil_prefix⟩
  · rcases mem_withheld.mp listed with ⟨bad',_⟩ | ⟨_,rule | patch | custom⟩
    · refine (bad ⟨bad'.1,bad'.2.1,?_⟩).elim
      intro both
      exact bad'.2.2 ⟨more .contact both.1,more .message both.2⟩
    · obtain ⟨rules,path,scope,found,there,closed,inside_⟩ := mem_rulePlaces.mp rule
      refine ⟨q,mem_withheld.mpr (.inr ⟨bad,.inl ?_⟩),List.prefix_rfl⟩
      exact mem_rulePlaces.mpr ⟨rules,path,scope,found,there,more.closed scope closed,inside_⟩
    · obtain ⟨rules,changes,i,op,below,found,there,at_,held_,same⟩ := mem_patchPlaces.mp patch
      obtain ⟨least,listed',before⟩ := op_grants more held_
      refine ⟨.key "changes" :: .item i :: least,mem_withheld.mpr (.inr ⟨bad,.inr (.inl ?_)⟩),?_⟩
      · exact mem_patchPlaces.mpr ⟨rules,changes,i,op,least,found,there,at_,listed',rfl⟩
      · rw [same]
        exact List.cons_prefix_cons.mpr ⟨rfl,List.cons_prefix_cons.mpr ⟨rfl,before⟩⟩
    · obtain ⟨fields,key,listing,closed,there,held_,same⟩ := mem_customPlaces.mp custom
      refine ⟨q,mem_withheld.mpr (.inr ⟨bad,.inr (.inr ?_)⟩),List.prefix_rfl⟩
      exact mem_customPlaces.mpr ⟨fields,key,listing,more.closed .contact closed,there,held_,same⟩

end payload

def truthy : Json → Bool
  | .null => false
  | .bool b => b
  | .num n => n ≠ 0
  | .instant _ => true
  | .str s => s ≠ ""
  | .arr items => items ≠ []
  | .obj fields => fields ≠ []

def payload (envelope : Fields) : Json := ((envelope.lookup "data").filter truthy).getD (.obj [])

-- `data.get` of a payload that is no object.
def raises (granted : Granted) (privateCustomFields : List String) (type : EventType) (data : Json) : Bool :=
  !data.isObj && ((PATCH_RULES.lookup type).isSome || type ∈ LISTING_EVENTS && !granted.contact && privateCustomFields ≠ [])

-- What `redact` has when it returns: the caller's envelope, the copy of its payload,
-- which is all that it writes to, and the paths.
structure Call where
  envelope : Fields
  data : Json
  redacted : List String

def Call.out (call : Call) : Fields :=
  Dict.set (Dict.set call.envelope ("data",some call.data)) ("redacted",some (.arr (call.redacted.map .str)))

def redactCall (granted : Granted) (privateCustomFields : List String) (type : EventType) (envelope : Fields) : Option Call :=
  if raises granted privateCustomFields type (payload envelope) then none
  else
    let copy := redactJson granted privateCustomFields type (payload envelope)
    some ⟨envelope,copy.1,sortedSet copy.2⟩

def Shown (granted : Granted) (marked : List String) (type : EventType) (data : Json) (p : Place) : Prop :=
  ∀ q ∈ withheld granted marked type data, ¬q <+: p

structure Lawful (granted : Granted) (marked : List String) (type : EventType) (envelope : Fields) (call : Call) : Prop where
  -- by construction: what is written to is the copy
  input : call.envelope = envelope
  others : ∀ key, key ≠ "data" → key ≠ "redacted" → call.out.lookup key = envelope.lookup key
  out : call.out.lookup "data" = some call.data ∧ call.out.lookup "redacted" = some (.arr (call.redacted.map .str))
  shown : ∀ p, Shown granted marked type (payload envelope) p →
    (value p call.data).map shape = (value p (payload envelope)).map shape
  held : ∀ p ∈ withheld granted marked type (payload envelope), (value p (payload envelope)).isSome ∧
    value p call.data = some (if p = [] then .obj [] else .null)
  reported : call.redacted = sortedSet ((withheld granted marked type (payload envelope)).map pathText)
  monotone : ∀ granted', Grants granted granted' → ∃ call', redactCall granted' marked type envelope = some call' ∧
    ∀ p, Shown granted marked type (payload envelope) p → (value p call'.data).map shape = (value p call.data).map shape
  unclassified : RULES.lookup type = none → type ∉ NO_PII → ¬(granted.contact ∧ granted.message) →
    call.data = .obj [] ∧ call.redacted = ["data"]

section law

variable {granted : Granted} {marked : List String} {type : EventType} {envelope : Fields}

theorem payload_distinct (distinct : Distinct (.obj envelope)) : Distinct (payload envelope) := by
  rw [Distinct] at distinct
  unfold payload
  cases found : (envelope.lookup "data").filter truthy with
  | none => exact ⟨List.nodup_nil,trivial⟩
  | some data => exact Distinct.field distinct.2 (Dict.lookup_mem (Option.filter_eq_some_iff.mp found).1)

theorem raises_grants (more : Grants granted granted') (fine : raises granted marked type data = false) :
    raises granted' marked type data = false := by
  unfold raises at fine ⊢
  cases shape_ : data.isObj with
  | true => rfl
  | false =>
      rw [shape_] at fine
      simp only [Bool.not_false,Bool.true_and,Bool.or_eq_false_iff] at fine ⊢
      refine ⟨fine.1,?_⟩
      cases closed : granted'.contact with
      | true => rw [Bool.not_true,Bool.and_false,Bool.false_and]
      | false =>
          have before := more.closed .contact closed
          change granted.contact = false at before
          rw [before] at fine
          exact fine.2

theorem shown_kept (distinct : Distinct (.obj envelope)) (p : Place)
    (shown : Shown granted marked type (payload envelope) p) :
    (value p (redactJson granted marked type (payload envelope)).1).map shape = (value p (payload envelope)).map shape := by
  rw [redactJson_exact (payload_distinct distinct)]
  split
  · next bad => exact (shown [] (mem_withheld.mpr (.inl ⟨bad,rfl⟩)) List.nil_prefix).elim
  · exact value_kept shown

theorem held_null (distinct : Distinct (.obj envelope)) (p : Place)
    (listed : p ∈ withheld granted marked type (payload envelope)) :
    value p (redactJson granted marked type (payload envelope)).1 = some (if p = [] then .obj [] else .null) := by
  rw [redactJson_exact (payload_distinct distinct)]
  split
  · next bad =>
      rcases mem_withheld.mp listed with ⟨_,rfl⟩ | ⟨fine,_⟩
      · rfl
      · exact (fine bad).elim
  · next fine =>
      have inside_ : p ≠ [] := by
        intro root
        subst root
        rcases mem_withheld.mp listed with ⟨bad,_⟩ | ⟨_,rule | patch | custom⟩
        · exact fine bad
        · obtain ⟨_,_,_,_,_,_,absurd⟩ := mem_rulePlaces.mp rule
          exact matched_outside _ _ absurd
        · obtain ⟨_,_,_,_,_,_,_,_,_,absurd⟩ := mem_patchPlaces.mp patch
          cases absurd
        · obtain ⟨_,_,_,_,_,_,absurd⟩ := mem_customPlaces.mp custom
          cases absurd
      rw [if_neg inside_]
      obtain ⟨x,there⟩ := Option.isSome_iff_exists.mp (withheld_there (payload_distinct distinct) listed)
      exact value_held listed there (fun q other before => withheld_least listed other before)

theorem redactCall_none : redactCall granted marked type envelope = none ↔
    raises granted marked type (payload envelope) = true := by
  unfold redactCall
  cases raises granted marked type (payload envelope) with
  | true => exact iff_of_true rfl rfl
  | false => exact iff_of_false (fun absurd => by cases absurd) Bool.false_ne_true

theorem redactCall_some : redactCall granted marked type envelope = some call ↔
    raises granted marked type (payload envelope) = false ∧
      call = ⟨envelope,(redactJson granted marked type (payload envelope)).1,
        sortedSet (redactJson granted marked type (payload envelope)).2⟩ := by
  unfold redactCall
  cases raises granted marked type (payload envelope) with
  | true => exact iff_of_false (fun absurd => by cases absurd) (fun both => by cases both.1)
  | false => exact ⟨fun same => ⟨rfl,(Option.some.inj same).symm⟩,fun both => congrArg some both.2.symm⟩

-- `redact` raises on a payload that is no object where it looks for a patch or for custom
-- fields; otherwise it keeps the law.
theorem redaction_law (granted : Granted) (marked : List String) (type : EventType) (envelope : Fields)
    (distinct : Distinct (.obj envelope)) :
    (redactCall granted marked type envelope = none ↔ (payload envelope).isObj = false ∧
      ((PATCH_RULES.lookup type).isSome ∨ type ∈ LISTING_EVENTS ∧ granted.contact = false ∧ marked ≠ [])) ∧
    ∀ call, redactCall granted marked type envelope = some call → Lawful granted marked type envelope call := by
  refine ⟨?_,?_⟩
  · rw [redactCall_none]
    unfold raises
    simp only [Bool.and_eq_true,Bool.or_eq_true,Bool.not_eq_true',decide_eq_true_eq,and_assoc]
  · intro call returned
    obtain ⟨fine,same⟩ := redactCall_some.mp returned
    subst same
    have outer : ∀ key, key ≠ "redacted" → (Call.out ⟨envelope,(redactJson granted marked type (payload envelope)).1,
        sortedSet (redactJson granted marked type (payload envelope)).2⟩).lookup key =
          (Dict.set envelope ("data",some (redactJson granted marked type (payload envelope)).1)).lookup key := by
      intro key other
      exact (Dict.lookup_set _ _ key).trans (if_neg other)
    refine ⟨rfl,?_,⟨?_,?_⟩,shown_kept distinct,?_,?_,?_,?_⟩
    · intro key first second
      exact (outer key second).trans ((Dict.lookup_set _ _ key).trans (if_neg first))
    · exact (outer "data" (by decide)).trans ((Dict.lookup_set _ _ "data").trans (if_pos rfl))
    · exact (Dict.lookup_set _ _ "redacted").trans (if_pos rfl)
    · intro p listed
      exact ⟨withheld_there (payload_distinct distinct) listed,held_null distinct p listed⟩
    · dsimp only
      rw [redactJson_exact (payload_distinct distinct)]
      split
      · next bad =>
          have whole : withheld granted marked type (payload envelope) = [[]] := if_pos bad
          rw [whole]
          rfl
      · rfl
    · intro granted' more
      refine ⟨_,redactCall_some.mpr ⟨raises_grants more fine,rfl⟩,?_⟩
      intro p shown
      have also : Shown granted' marked type (payload envelope) p := by
        intro q listed before
        obtain ⟨least,listed',first⟩ := withheld_grants more listed
        exact shown least listed' (first.trans before)
      exact (shown_kept distinct p also).trans (shown_kept distinct p shown).symm
    · intro unruled reviewed partial_
      dsimp only
      rw [redactJson_exact (payload_distinct distinct),if_pos ⟨unruled,reviewed,partial_⟩]
      exact ⟨rfl,rfl⟩

theorem setField_names (key : String) (value : Json) (fields : Fields) :
    (setField key value fields).map Prod.fst = fields.map Prod.fst := by
  unfold setField
  rw [List.map_map]
  apply List.map_congr_left
  intro field _
  dsimp only [Function.comp]
  split
  · next same => exact same.symm
  · rfl

theorem setField_dict {fields : Fields} (there : (fields.map Prod.fst).any (· = key)) (value : Json) :
    Dict.set fields (key,some value) = setField key value fields := by
  have listed : fields.any (·.1 = key) = true := by
    rw [List.any_map] at there
    exact there
  unfold Dict.set
  dsimp only
  rw [if_pos listed]
  rfl

theorem attemptEnvelope_call (types : List Directory.ListingType) (granted : Granted) (e : OutboxRow) : ∃ call,
    redactCall granted (if granted.contact then [] else privateCustomFields types e) e.type (toWire e) = some call ∧
      attemptEnvelope types granted e = .obj call.out := by
  have data : (toWire e).lookup "data" = some (.obj e.payload.data) := by
    unfold toWire
    split <;> rfl
  have keys : ((toWire e).map Prod.fst).any (· = "data") = true ∧ ((toWire e).map Prod.fst).any (· = "redacted") = false := by
    unfold toWire
    cases tenantPrefix e.type <;> exact ⟨rfl,rfl⟩
  have read : payload (toWire e) = .obj e.payload.data := by
    unfold payload
    rw [data]
    cases e.payload.data <;> rfl
  refine ⟨_,redactCall_some.mpr ⟨by rw [read]; rfl,rfl⟩,?_⟩
  unfold attemptEnvelope redact Call.out
  rw [read]
  dsimp only
  rw [setField_dict keys.1]
  have new : (setField "data" (redactJson granted (if granted.contact then [] else privateCustomFields types e) e.type
      (.obj e.payload.data)).1 (toWire e)).any (·.1 = "redacted") = false := by
    have same := keys.2
    rw [← setField_names "data",List.any_map] at same
    exact same
  unfold Dict.set
  dsimp only
  rw [new]
  rfl

end law

def inquiry : Fields :=
  [("type",.str "lead.captured"),("data",.obj [("lead",.obj [("name",.str "Ana"),("message",.str "Hello")])])]

theorem inquiry_distinct : Distinct (.obj inquiry) := by
  unfold inquiry
  simp [Distinct,DistinctFields]

theorem inquiry_lawful : ∃ call, redactCall ⟨true,false⟩ [] .leadCaptured inquiry = some call ∧
    Lawful ⟨true,false⟩ [] .leadCaptured inquiry call :=
  ⟨_,rfl,(redaction_law ⟨true,false⟩ [] .leadCaptured inquiry inquiry_distinct).2 _ rfl⟩

theorem list_payload_raises : redactCall ⟨false,false⟩ [] .listingUpdated
    [("type",.str "listing.updated"),("data",.arr [.num 1])] = none := rfl

end Osds.Audit.RedactionLaw
