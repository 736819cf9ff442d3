import Osds.Directory.FieldSchema
import Osds.Directory.Reapplied
import Osds.Lib.Decimals
import Osds.Lib.Dates

namespace Osds.Directory.CustomFields
open Payloads FieldSchema

-- Texts are read and written as the standard library does, `str` shows something of every
-- value, and a text in lower case stays as it is.
structure Documented (other : Char → Option (Fin 10)) (env : Environment) : Prop where
  integer : env.integer = Numerals.integer other
  decimal : env.decimal = fun text => (Decimals.decimal other text).map Decimals.text
  isoDate : env.isoDate = fun text => (Dates.fromisoformat text).map Dates.isoformat
  str_solid : ∀ d, d.string = none → Text.strip (env.str d) ≠ ""
  lower_lower : ∀ s, env.lower (env.lower s) = env.lower s
  lower_strip : ∀ s, Text.strip s = s → Text.strip (env.lower s) = env.lower s
  lower_solid : ∀ s, env.lower s = "" → s = ""

section coerced

variable {other : Char → Option (Fin 10)} {env : Environment} {f : FieldDescriptor} {raw : Doc} {value : Option Doc}

def Fixed (env : Environment) (f : FieldDescriptor) (d : Doc) : Prop := cleared d = false ∧ coerce env f d = .ok (some d)

theorem uncleared_text {s : String} : cleared (.str s) = false ↔ Text.strip s ≠ "" := decide_eq_false_iff_not

theorem solid_value (documented : Documented other env) (uncleared : cleared raw = false) : Text.strip (env.plain raw) ≠ "" := by
  cases raw with
  | str s => exact uncleared_text.mp uncleared
  | _ => exact documented.str_solid _ rfl

theorem orMessage_made {α : Type} {found : Option α} {make : α → Doc} {message : String}
    (coerced : orMessage (found.map make) message = .ok value) : ∃ a, found = some a ∧ value = some (make a) := by
  cases found with
  | none => cases coerced
  | some a => exact ⟨a,rfl,(Except.ok.inj coerced).symm⟩

theorem coerce_text (type : f.type = "text" ∨ f.type = "long_text") : coerce env f raw =
    .ok (if Text.strip (env.plain raw) = "" then none else some (.str (Text.strip (env.plain raw)))) := by
  unfold coerce
  dsimp only
  rw [if_pos type]

theorem coerce_integer (type : f.type = "integer") :
    coerce env f raw = orMessage ((integer env raw).map .int) "must be a whole number" := by
  unfold coerce
  simp [type]

theorem coerce_decimal (type : f.type = "decimal") :
    coerce env f raw = orMessage ((env.decimal (Text.strip (env.plain raw))).map .str) "must be a number" := by
  unfold coerce
  simp [type]

theorem coerce_boolean (type : f.type = "boolean") :
    coerce env f raw = orMessage ((boolean raw).map .bool) "must be true or false" := by
  unfold coerce
  simp [type]

theorem coerce_date (type : f.type = "date") :
    coerce env f raw = orMessage ((env.isoDate (Text.strip (env.plain raw))).map .str) "must be a date (YYYY-MM-DD)" := by
  unfold coerce
  simp [type]

theorem coerce_url (type : f.type = "url") : coerce env f raw =
    orMessage ((if env.isUrl (Text.strip (env.plain raw)) then some (Text.strip (env.plain raw)) else none).map .str)
      "must be a valid URL" := by
  unfold coerce
  simp [type]

theorem coerce_email (type : f.type = "email") : coerce env f raw =
    orMessage ((if env.isEmail (env.lower (Text.strip (env.plain raw))) then some (env.lower (Text.strip (env.plain raw)))
      else none).map .str) "must be a valid email address" := by
  unfold coerce
  simp [type]

theorem coerce_select (type : f.type = "select") : coerce env f raw =
    orMessage ((if Text.strip (env.plain raw) ∈ f.options.getD [] then some (Text.strip (env.plain raw)) else none).map .str)
      "is not one of the allowed options" := by
  unfold coerce
  simp [type]

theorem coerce_multi_select (type : f.type = "multi_select") : coerce env f raw = chosenOptions env f raw := by
  unfold coerce
  simp [type]

theorem fixed_text {s : String} (stripped : Text.strip s = s) (solid : s ≠ "") (again : coerce env f (.str s) = .ok (some (.str s))) :
    Fixed env f (.str s) := ⟨uncleared_text.mpr (by rw [stripped]; exact solid),again⟩

theorem text_fixed (type : f.type = "text" ∨ f.type = "long_text") (solid : Text.strip (env.plain raw) ≠ "")
    (coerced : coerce env f raw = .ok value) : ∃ d, value = some d ∧ Fixed env f d := by
  rw [coerce_text type,if_neg solid] at coerced
  have stripped := Text.strip_strip (env.plain raw)
  refine ⟨_,(Except.ok.inj coerced).symm,fixed_text stripped solid ?_⟩
  have plain : env.plain (.str (Text.strip (env.plain raw))) = Text.strip (env.plain raw) := rfl
  rw [coerce_text type,plain,stripped,if_neg solid]

theorem integer_fixed (type : f.type = "integer") (coerced : coerce env f raw = .ok value) :
    ∃ n, integer env raw = some n ∧ value = some (.int n) ∧ Fixed env f (.int n) := by
  rw [coerce_integer type] at coerced
  obtain ⟨n,read,rfl⟩ := orMessage_made coerced
  exact ⟨n,read,rfl,rfl,coerce_integer type⟩

theorem decimal_fixed (documented : Documented other env) (type : f.type = "decimal") (coerced : coerce env f raw = .ok value) :
    ∃ d, value = some d ∧ Fixed env f d := by
  rw [coerce_decimal type] at coerced
  obtain ⟨s,read,rfl⟩ := orMessage_made coerced
  rw [documented.decimal] at read
  obtain ⟨n,_,rfl⟩ := Option.map_eq_some_iff.mp read
  have again : env.decimal (Decimals.text n) = some (Decimals.text n) := by
    rw [documented.decimal]
    exact congrArg (Option.map Decimals.text) (Decimals.decimal_text n)
  refine ⟨_,rfl,fixed_text (Decimals.strip_text n) (Decimals.text_nonempty n) ?_⟩
  rw [coerce_decimal type]
  change orMessage ((env.decimal (Text.strip (Decimals.text n))).map Doc.str) _ = _
  rw [Decimals.strip_text,again]
  rfl

theorem boolean_fixed (type : f.type = "boolean") (coerced : coerce env f raw = .ok value) :
    ∃ d, value = some d ∧ Fixed env f d := by
  rw [coerce_boolean type] at coerced
  obtain ⟨b,_,rfl⟩ := orMessage_made coerced
  refine ⟨_,rfl,rfl,?_⟩
  rw [coerce_boolean type]
  cases b <;> rfl

theorem date_fixed (documented : Documented other env) (type : f.type = "date") (coerced : coerce env f raw = .ok value) :
    ∃ d, value = some d ∧ Fixed env f d := by
  rw [coerce_date type] at coerced
  obtain ⟨s,read,rfl⟩ := orMessage_made coerced
  rw [documented.isoDate] at read
  obtain ⟨date,_,rfl⟩ := Option.map_eq_some_iff.mp read
  obtain ⟨stripped,solid⟩ := Dates.isoformat_plain date
  have again : env.isoDate (Dates.isoformat date) = some (Dates.isoformat date) := by
    rw [documented.isoDate]
    exact congrArg (Option.map Dates.isoformat) (Dates.fromisoformat_isoformat date)
  refine ⟨_,rfl,fixed_text stripped solid ?_⟩
  rw [coerce_date type]
  change orMessage ((env.isoDate (Text.strip (Dates.isoformat date))).map Doc.str) _ = _
  rw [stripped,again]
  rfl

theorem orMessage_passed {p : Prop} [Decidable p] {s message : String}
    (coerced : orMessage ((if p then some s else none).map Doc.str) message = .ok value) : p ∧ value = some (.str s) := by
  obtain ⟨a,found,rfl⟩ := orMessage_made coerced
  split at found
  next holds =>
    cases found
    exact ⟨holds,rfl⟩
  next => cases found

theorem orMessage_passes {p : Prop} [Decidable p] {s : String} (holds : p) (message : String) :
    orMessage ((if p then some s else none).map Doc.str) message = .ok (some (.str s)) := by
  rw [if_pos holds]
  rfl

theorem url_fixed (type : f.type = "url") (solid : Text.strip (env.plain raw) ≠ "") (coerced : coerce env f raw = .ok value) :
    ∃ d, value = some d ∧ Fixed env f d := by
  rw [coerce_url type] at coerced
  obtain ⟨valid,rfl⟩ := orMessage_passed coerced
  have stripped := Text.strip_strip (env.plain raw)
  refine ⟨_,rfl,fixed_text stripped solid ?_⟩
  have plain : env.plain (.str (Text.strip (env.plain raw))) = Text.strip (env.plain raw) := rfl
  rw [coerce_url type,plain,stripped]
  exact orMessage_passes valid _

theorem email_fixed (documented : Documented other env) (type : f.type = "email") (solid : Text.strip (env.plain raw) ≠ "")
    (coerced : coerce env f raw = .ok value) : ∃ d, value = some d ∧ Fixed env f d := by
  rw [coerce_email type] at coerced
  obtain ⟨valid,rfl⟩ := orMessage_passed coerced
  have stripped := documented.lower_strip _ (Text.strip_strip (env.plain raw))
  refine ⟨_,rfl,fixed_text stripped (fun empty => solid (documented.lower_solid _ empty)) ?_⟩
  have plain : env.plain (.str (env.lower (Text.strip (env.plain raw)))) = env.lower (Text.strip (env.plain raw)) := rfl
  rw [coerce_email type,plain,stripped,documented.lower_lower]
  exact orMessage_passes valid _

theorem select_fixed (type : f.type = "select") (solid : Text.strip (env.plain raw) ≠ "") (coerced : coerce env f raw = .ok value) :
    ∃ d, value = some d ∧ Fixed env f d := by
  rw [coerce_select type] at coerced
  obtain ⟨listed,rfl⟩ := orMessage_passed coerced
  have stripped := Text.strip_strip (env.plain raw)
  refine ⟨_,rfl,fixed_text stripped solid ?_⟩
  have plain : env.plain (.str (Text.strip (env.plain raw))) = Text.strip (env.plain raw) := rfl
  rw [coerce_select type,plain,stripped]
  exact orMessage_passes listed _

theorem multi_select_fixed (type : f.type = "multi_select") (coerced : coerce env f raw = .ok value) :
    ∃ d, value = some d ∧ Fixed env f d := by
  rw [coerce_multi_select type] at coerced
  unfold chosenOptions at coerced
  split at coerced
  next items =>
    dsimp only at coerced
    split at coerced
    next allowed =>
      refine ⟨_,(Except.ok.inj coerced).symm,rfl,?_⟩
      have again : ((items.map fun item => Text.strip (env.plain item)).map Doc.str).map (fun item => Text.strip (env.plain item)) =
          items.map fun item => Text.strip (env.plain item) := by
        rw [List.map_map,List.map_map]
        exact List.map_congr_left fun item _ => Text.strip_strip (env.plain item)
      rw [coerce_multi_select type]
      unfold chosenOptions
      dsimp only
      rw [again,if_pos allowed]
    next => cases coerced
  next => cases coerced

theorem coerce_fixed (documented : Documented other env) (sound : Sound f) (uncleared : cleared raw = false)
    (coerced : coerce env f raw = .ok value) : ∃ d, value = some d ∧ Fixed env f d := by
  have solid := solid_value documented uncleared
  have type := sound.type
  unfold FIELD_TYPES at type
  simp only [List.mem_cons,List.not_mem_nil,or_false] at type
  rcases type with type | type | type | type | type | type | type | type | type | type
  · exact text_fixed (.inl type) solid coerced
  · exact text_fixed (.inr type) solid coerced
  · obtain ⟨n,_,stored,fixed⟩ := integer_fixed type coerced
    exact ⟨_,stored,fixed⟩
  · exact decimal_fixed documented type coerced
  · exact boolean_fixed type coerced
  · exact date_fixed documented type coerced
  · exact url_fixed type solid coerced
  · exact email_fixed documented type solid coerced
  · exact select_fixed type solid coerced
  · exact multi_select_fixed type coerced

end coerced

section maps

def storedOf (cleaned : List (String × Option Doc)) : Fields := cleaned.filterMap fun change => change.2.map (change.1,·)

def SameMap (cleaned : List (String × Option Doc)) (values : Fields) : Prop :=
  cleaned.Perm (values.map fun field => (field.1,some field.2))

def Settled (env : Environment) (r : Request) (held : Fields) : Prop :=
  ∀ part, (part.map Prod.fst).Nodup → part ⊆ held →
    ∃ cleaned, validateCustomFields env r false part = .ok cleaned ∧ SameMap cleaned part

variable {other : Char → Option (Fin 10)} {env : Environment} {r : Request} {creating : Bool} {values part : Fields}
  {cleaned : List (String × Option Doc)}

def Held (env : Environment) (fields : List FieldDescriptor) (entry : String × Doc) : Prop :=
  ∃ f ∈ fields, f.key = entry.1 ∧ Fixed env f entry.2

theorem field_unique {f g : FieldDescriptor} (here : f ∈ r.type.fields) (there : g ∈ r.type.fields) (same : f.key = g.key) : f = g :=
  List.inj_on_of_nodup_map r.type.distinct here there same

theorem mem_cleaned (validated : validateCustomFields env r creating values = .ok cleaned) (change : String × Option Doc) :
    change ∈ cleaned ↔ ∃ f ∈ r.type.fields, f.key = change.1 ∧ ∃ raw, values.lookup f.key = some raw ∧
      (cleared raw = true ∧ change.2 = none ∨ cleared raw = false ∧ coerce env f raw = .ok change.2) := by
  obtain ⟨_,accepted,rfl⟩ := validate_exact.mp validated
  rw [List.mem_flatMap]
  constructor
  · intro there
    obtain ⟨verdict,listed,inside⟩ := there
    obtain ⟨f,present,rfl⟩ := List.mem_map.mp listed
    refine ⟨f,present,?_⟩
    unfold fieldVerdict at inside
    split at inside
    next raw found =>
      split at inside
      next blank =>
        rw [List.mem_singleton.mp inside]
        exact ⟨rfl,raw,found,.inl ⟨blank,rfl⟩⟩
      next filled =>
        split at inside
        next coerced =>
          rw [List.mem_singleton.mp inside]
          exact ⟨rfl,raw,found,.inr ⟨Bool.eq_false_iff.mpr filled,coerced⟩⟩
        next => cases inside
    next => cases inside
  · intro there
    obtain ⟨f,present,named,raw,found,verdict⟩ := there
    refine ⟨_,List.mem_map.mpr ⟨f,present,rfl⟩,?_⟩
    unfold fieldVerdict
    rw [found]
    dsimp only
    obtain ⟨key,value⟩ := change
    subst named
    rcases verdict with ⟨blank,none_⟩ | ⟨filled,coerced⟩
    · rw [if_pos blank]
      dsimp only at none_
      rw [none_]
      exact List.mem_singleton_self _
    · rw [if_neg (Bool.eq_false_iff.mp filled),coerced]
      exact List.mem_singleton_self _

theorem coerced_value (validated : validateCustomFields env r creating values = .ok cleaned) {f : FieldDescriptor}
    (present : f ∈ r.type.fields) (found : values.lookup f.key = some raw) (filled : cleared raw = false) :
    ∃ value, coerce env f raw = .ok value ∧ (f.key,value) ∈ cleaned := by
  have accepted := (validate_exact.mp validated).2.1 f present
  unfold fieldVerdict at accepted
  rw [found] at accepted
  dsimp only at accepted
  rw [if_neg (Bool.eq_false_iff.mp filled)] at accepted
  split at accepted
  next value coerced => exact ⟨value,coerced,(mem_cleaned validated _).mpr ⟨f,present,rfl,raw,found,.inr ⟨filled,coerced⟩⟩⟩
  next => cases accepted

theorem cleaned_distinct (validated : validateCustomFields env r creating values = .ok cleaned) : (cleaned.map Prod.fst).Nodup := by
  obtain ⟨_,_,rfl⟩ := validate_exact.mp validated
  exact (verdict_keys env r creating values r.type.fields).nodup r.type.distinct

theorem held_verdict {f : FieldDescriptor} (held : ∀ entry ∈ part, Held env r.type.fields entry) (there : f ∈ r.type.fields)
    (required : part.lookup f.key = none → isRequired f (creating && r.enforceRequired) = []) :
    (fieldVerdict env r creating part f).1 = [] := by
  unfold fieldVerdict
  split
  next raw found =>
    obtain ⟨g,present,named,uncleared,coerced⟩ := held _ (Dict.lookup_mem found)
    obtain rfl := field_unique present there named
    rw [if_neg (Bool.eq_false_iff.mp uncleared),coerced]
  next absent => exact required absent

theorem validate_held (held : ∀ entry ∈ part, Held env r.type.fields entry) (distinct : (part.map Prod.fst).Nodup)
    (required : ∀ f ∈ r.type.fields, part.lookup f.key = none → isRequired f (creating && r.enforceRequired) = []) :
    ∃ cleaned, validateCustomFields env r creating part = .ok cleaned ∧ SameMap cleaned part := by
  have validated := validate_exact.mpr ⟨?known,fun f there => held_verdict held there (required f there),rfl⟩
  case known =>
    intro entry there
    obtain ⟨f,present,named,_⟩ := held entry there
    exact List.any_eq_true.mpr ⟨f,present,decide_eq_true named⟩
  refine ⟨_,validated,?_⟩
  unfold SameMap
  have keys : ((part.map fun field => (field.1,some field.2)).map Prod.fst).Nodup := by
    rw [List.map_map]
    exact distinct
  rw [List.perm_ext_iff_of_nodup (List.Nodup.of_map _ (cleaned_distinct validated)) (List.Nodup.of_map _ keys)]
  intro change
  rw [mem_cleaned validated,List.mem_map]
  constructor
  · intro there
    obtain ⟨f,present,named,raw,found,verdict⟩ := there
    have listed := Dict.lookup_mem found
    obtain ⟨g,present',named',uncleared,coerced⟩ := held _ listed
    obtain rfl := field_unique present' present named'
    refine ⟨_,listed,?_⟩
    rcases verdict with ⟨blank,_⟩ | ⟨_,again⟩
    · rw [uncleared] at blank
      cases blank
    · exact Prod.ext named (Except.ok.inj (coerced.symm.trans again))
  · intro there
    obtain ⟨entry,listed,rfl⟩ := there
    obtain ⟨f,present,named,uncleared,coerced⟩ := held entry listed
    refine ⟨f,present,named,entry.2,?_,.inr ⟨uncleared,coerced⟩⟩
    rw [named]
    exact Dict.lookup_distinct distinct listed

theorem mem_storedOf {entry : String × Doc} : entry ∈ storedOf cleaned ↔ (entry.1,some entry.2) ∈ cleaned := by
  unfold storedOf
  rw [List.mem_filterMap]
  constructor
  · intro there
    obtain ⟨change,listed,made⟩ := there
    obtain ⟨d,value,rfl⟩ := Option.map_eq_some_iff.mp made
    exact value ▸ listed
  · intro there
    exact ⟨_,there,rfl⟩

theorem storedOf_distinct (distinct : (cleaned.map Prod.fst).Nodup) : ((storedOf cleaned).map Prod.fst).Nodup := by
  have keys : ((storedOf cleaned).map Prod.fst).Sublist (cleaned.map Prod.fst) := by
    unfold storedOf
    rw [List.map_filterMap]
    have same : cleaned.filterMap (fun change => (change.2.map (change.1,·)).map Prod.fst) =
        (cleaned.filter (·.2.isSome)).map Prod.fst := by
      induction cleaned with
      | nil => rfl
      | cons change rest ih =>
          obtain ⟨key,value⟩ := change
          cases value with
          | none => exact ih (List.nodup_cons.mp distinct).2
          | some d => exact congrArg (List.cons key) (ih (List.nodup_cons.mp distinct).2)
    rw [same]
    exact List.filter_sublist.map Prod.fst
  exact keys.nodup distinct

section accepted

variable (documented : Documented other env) (sound : ∀ f ∈ r.type.fields, Sound f)
include documented sound

theorem cleaned_held (validated : validateCustomFields env r creating values = .ok cleaned) {entry : String × Doc}
    (there : (entry.1,some entry.2) ∈ cleaned) : Held env r.type.fields entry := by
  obtain ⟨f,present,named,raw,found,verdict⟩ := (mem_cleaned validated _).mp there
  rcases verdict with ⟨_,absurd⟩ | ⟨filled,coerced⟩
  · cases absurd
  · obtain ⟨d,same,fixed⟩ := coerce_fixed documented (sound f present) filled coerced
    cases same
    exact ⟨f,present,named,fixed⟩

theorem whole_again (validated : validateCustomFields env r creating values = .ok cleaned) :
    ∃ again, validateCustomFields env r creating (storedOf cleaned) = .ok again ∧ SameMap again (storedOf cleaned) := by
  have distinct := storedOf_distinct (cleaned_distinct validated)
  refine validate_held (fun entry there => cleaned_held documented sound validated (mem_storedOf.mp there)) distinct ?_
  intro f present absent
  have accepted := (validate_exact.mp validated).2.1 f present
  unfold fieldVerdict at accepted
  split at accepted
  next raw found =>
    split at accepted
    next blank =>
      unfold isRequired at accepted ⊢
      dsimp only at accepted
      split at accepted
      next => cases accepted
      next free =>
        refine if_neg fun demanded => free ⟨(Bool.and_eq_true_iff.mp demanded.1).2,demanded.2⟩
    next filled =>
      have filled := Bool.eq_false_iff.mpr filled
      obtain ⟨value,coerced,listed⟩ := coerced_value validated present found filled
      obtain ⟨d,rfl,_⟩ := coerce_fixed documented (sound f present) filled coerced
      have stored := Dict.lookup_distinct distinct (mem_storedOf.mpr listed)
      rw [absent] at stored
      cases stored
  next => exact accepted

theorem settled_held {held : Fields} (settled : Settled env r held) : ∀ entry ∈ held, Held env r.type.fields entry := by
  intro entry there
  have single : (([entry] : Fields).map Prod.fst).Nodup := List.nodup_singleton _
  obtain ⟨cleaned,validated,same⟩ := settled [entry] single fun _ inside => List.mem_singleton.mp inside ▸ there
  have listed : (entry.1,some entry.2) ∈ cleaned := same.mem_iff.mpr (List.mem_singleton_self _)
  exact cleaned_held documented sound validated listed

end accepted

theorem held_settled {held : Fields} (fixed : ∀ entry ∈ held, Held env r.type.fields entry) : Settled env r held := by
  intro part distinct inside
  refine validate_held (fun entry there => fixed entry (inside there)) distinct ?_
  intro f _ _
  exact if_neg fun demanded => Bool.false_ne_true (Bool.and_eq_true_iff.mp demanded.1).1

theorem applied_custom {old new : Fields} (given : r.payload.lookup "custom_fields" = some (.obj values)) :
    applyCustomFields env r creating old = .ok new ↔
      ∃ cleaned, validateCustomFields env r creating values = .ok cleaned ∧ cleaned.foldl Dict.set old = new := by
  unfold applyCustomFields
  rw [given]
  exact map_exact

theorem merge_keeps {old new : Fields} (given : r.payload.lookup "custom_fields" = some (.obj values))
    (applied : applyCustomFields env r creating old = .ok new) {key : String} (unnamed : values.lookup key = none) :
    new.lookup key = old.lookup key := by
  obtain ⟨cleaned,validated,rfl⟩ := (applied_custom given).mp applied
  refine Dict.lookup_fold cleaned old ?_
  intro there
  obtain ⟨change,listed,rfl⟩ := List.mem_map.mp there
  obtain ⟨f,_,named,raw,found,_⟩ := (mem_cleaned validated change).mp listed
  rw [named,unnamed] at found
  cases found

theorem merged_settled {old : Fields} (documented : Documented other env) (sound : ∀ f ∈ r.type.fields, Sound f)
    (settled : Settled env r old) (validated : validateCustomFields env r creating values = .ok cleaned) :
    Settled env r (cleaned.foldl Dict.set old) := by
  refine held_settled ?_
  intro entry there
  rcases Dict.mem_of_fold there with before | now
  · exact settled_held documented sound settled entry before
  · exact cleaned_held documented sound validated now

theorem merge_settled {old new : Fields} (documented : Documented other env) (sound : ∀ f ∈ r.type.fields, Sound f)
    (given : r.payload.lookup "custom_fields" = some (.obj values)) (settled : Settled env r old)
    (applied : applyCustomFields env r creating old = .ok new) : Settled env r new := by
  obtain ⟨cleaned,validated,rfl⟩ := (applied_custom given).mp applied
  exact merged_settled documented sound settled validated

theorem upsert_refused {s s' : Store} {newId : ListingId} {failure : Failure}
    (refused : upsertListing env s r newId = (s',.error failure)) : s' = s := by
  unfold upsertListing at refused
  split at refused
  · exact (Prod.mk.inj refused).1.symm
  · split at refused
    · cases (Prod.mk.inj refused).2
    · exact (Prod.mk.inj refused).1.symm

-- A refused map lets no upsert through.
theorem refused_unchanged (given : r.payload.lookup "custom_fields" = some (.obj values)) {failure : Failure}
    (refused : validateCustomFields env r creating values = .error failure) (s : Store) (newId : ListingId)
    {found : Option Row} (matched : matchListing env s r = .ok found) (new : found.isNone = creating) :
    (upsertListing env s r newId).1 = s := by
  cases answer : upsertListing env s r newId with
  | mk s' outcome =>
      cases outcome with
      | error failure => exact upsert_refused answer
      | ok outcome =>
          obtain ⟨_,_,found',_,_,matched',wrote,_⟩ := accepted_parts answer
          cases matched.symm.trans matched'
          obtain ⟨applied,_,parts,_⟩ := write_exact.mp wrote
          rw [new] at parts
          obtain ⟨cleaned,validated,_⟩ := (applied_custom given).mp parts.customFields
          rw [refused] at validated
          cases validated

def heldAfter (env : Environment) (r : Request) (held payload : Fields) : Fields :=
  match applyCustomFields env {r with payload := payload} false held with
  | .ok new => new
  | .error _ => held

theorem heldAfter_settled {held : Fields} (documented : Documented other env) (sound : ∀ f ∈ r.type.fields, Sound f)
    (settled : Settled env r held) (payload : Fields) : Settled env r (heldAfter env r held payload) := by
  have given {values : Fields} {new : Fields} (merged : (validateCustomFields env r false values).map (·.foldl Dict.set held) = .ok new) :
      Settled env r new := by
    obtain ⟨cleaned,validated,rfl⟩ := map_exact.mp merged
    exact merged_settled documented sound settled validated
  unfold heldAfter
  split
  next new applied =>
    unfold applyCustomFields at applied
    split at applied
    next =>
      cases applied
      exact settled
    next => exact given applied
    next =>
      split at applied
      next => cases applied
      next => exact given applied
  next => exact settled

theorem updates_settled (documented : Documented other env) (sound : ∀ f ∈ r.type.fields, Sound f) (payloads : List Fields)
    {held : Fields} (settled : Settled env r held) : Settled env r (payloads.foldl (heldAfter env r) held) := by
  induction payloads generalizing held with
  | nil => exact settled
  | cons payload rest ih => exact ih (heldAfter_settled documented sound settled payload)

end maps

section integers

variable (other : Char → Option (Fin 10))

def Denotes : Doc → Int → Prop
  | .int m,n => m = n
  | .float x,n => x.value = n
  | .str s,n => Numerals.integer other (Text.strip s) = some n
  | _,_ => False

def Whole : Doc → Prop
  | .bool _ => False
  | .float x => x.value.den = 1
  | _ => True

variable {other : Char → Option (Fin 10)} {env : Environment} {raw : Doc} {n : Int}

theorem integer_denotes (documented : Documented other env) (read : integer env raw = some n) : Denotes other raw n ↔ Whole raw := by
  cases raw with
  | int m => exact iff_of_true (Option.some.inj read) trivial
  | bool b => exact iff_of_false (fun absurd => absurd) (fun absurd => absurd)
  | str s =>
      have shown : env.integer (Text.strip s) = some n := read
      rw [documented.integer] at shown
      exact iff_of_true shown trivial
  | float x =>
      have cut : x.value.num.tdiv x.value.den = n := Option.some.inj read
      constructor
      · intro same
        have same : x.value = (n : Rat) := same
        change x.value.den = 1
        rw [same]
        rfl
      · intro whole
        have whole : x.value.den = 1 := whole
        rw [whole] at cut
        have numerator : x.value.num = n := (Int.tdiv_one _).symm.trans cut
        have value : x.value = (n : Rat) := by rw [← (Rat.den_eq_one_iff _).mp whole,numerator]
        exact value
  | _ => cases read

end integers

section law

variable (other : Char → Option (Fin 10)) (env : Environment) (r : Request) (creating : Bool) (values : Fields)

-- What holds of a map of values that a payload gives.
structure Lawful : Prop where
  again : ∀ cleaned, validateCustomFields env r creating values = .ok cleaned →
    ∃ again, validateCustomFields env r creating (storedOf cleaned) = .ok again ∧ SameMap again (storedOf cleaned)
  settled : ∀ old new, Settled env r old → applyCustomFields env r creating old = .ok new → Settled env r new
  kept : ∀ old new, applyCustomFields env r creating old = .ok new →
    ∀ key, values.lookup key = none → new.lookup key = old.lookup key
  denoted : ∀ cleaned, validateCustomFields env r creating values = .ok cleaned → ∀ f ∈ r.type.fields, f.type = "integer" →
    ∀ d, (f.key,some d) ∈ cleaned → ∃ raw n, values.lookup f.key = some raw ∧ d = .int n ∧ Denotes other raw n
  refused : ∀ failure, validateCustomFields env r creating values = .error failure → ∀ s newId found,
    matchListing env s r = .ok found → found.isNone = creating → (upsertListing env s r newId).1 = s

def WholeIntegers : Prop :=
  ∀ f ∈ r.type.fields, f.type = "integer" → ∀ raw, values.lookup f.key = some raw → Whole raw

variable {other env r creating values} {cleaned : List (String × Option Doc)}

theorem denoted_exact (documented : Documented other env) (validated : validateCustomFields env r creating values = .ok cleaned) :
    (∀ f ∈ r.type.fields, f.type = "integer" → ∀ d, (f.key,some d) ∈ cleaned →
      ∃ raw n, values.lookup f.key = some raw ∧ d = .int n ∧ Denotes other raw n) ↔ WholeIntegers r values := by
  constructor
  · intro denoted f present type raw found
    cases filled : cleared raw with
    | true =>
        cases raw with
        | null => exact trivial
        | str _ => exact trivial
        | _ => cases filled
    | false =>
        obtain ⟨value,coerced,listed⟩ := coerced_value validated present found filled
        obtain ⟨n,read,rfl,_⟩ := integer_fixed type coerced
        obtain ⟨raw',n',found',same,denotes⟩ := denoted f present type _ listed
        cases found.symm.trans found'
        cases same
        exact (integer_denotes documented read).mp denotes
  · intro whole f present type d listed
    obtain ⟨g,present',named,raw,found,verdict⟩ := (mem_cleaned validated _).mp listed
    obtain rfl := field_unique present' present named
    rcases verdict with ⟨_,absurd⟩ | ⟨_,coerced⟩
    · cases absurd
    · obtain ⟨n,read,same,_⟩ := integer_fixed type coerced
      exact ⟨raw,n,found,Option.some.inj same,(integer_denotes documented read).mpr (whole g present type raw found)⟩

-- The values of a map are fixed points, whatever it is, and its integers are those it
-- denotes unless one is given as a truth value or with a fraction.
theorem custom_fields_settle (documented : Documented other env) (sound : ∀ f ∈ r.type.fields, Sound f)
    (given : r.payload.lookup "custom_fields" = some (.obj values)) :
    (∀ cleaned, validateCustomFields env r creating values = .ok cleaned →
      (Lawful other env r creating values ↔ WholeIntegers r values)) ∧
    (∀ failure, validateCustomFields env r creating values = .error failure → Lawful other env r creating values) := by
  constructor
  · intro cleaned validated
    constructor
    · intro lawful
      exact (denoted_exact documented validated).mp (lawful.denoted cleaned validated)
    · intro whole
      refine ⟨?_,?_,?_,?_,?_⟩
      · intro cleaned validated
        exact whole_again documented sound validated
      · intro old new settled applied
        exact merge_settled documented sound given settled applied
      · intro old new applied key unnamed
        exact merge_keeps given applied unnamed
      · intro cleaned validated
        exact (denoted_exact documented validated).mpr whole
      · intro failure refused
        rw [validated] at refused
        cases refused
  · intro failure refused
    refine ⟨?_,?_,?_,?_,?_⟩
    · intro cleaned validated
      rw [refused] at validated
      cases validated
    · intro old new settled applied
      exact merge_settled documented sound given settled applied
    · intro old new applied key unnamed
      exact merge_keeps given applied unnamed
    · intro cleaned validated
      rw [refused] at validated
      cases validated
    · intro failure refused s newId found matched new
      exact refused_unchanged given refused s newId matched new

end law

section runs

def reading : Environment :=
  {asRead with
    integer := Numerals.integer fun _ => none
    decimal := fun text => (Decimals.decimal (fun _ => none) text).map Decimals.text
    isoDate := fun text => (Dates.fromisoformat text).map Dates.isoformat
    str := fun
      | .bool true => "True"
      | .bool false => "False"
      | _ => "\x7b\x7d"}

theorem shown_solid (d : Doc) : Text.strip (reading.str d) ≠ "" := by
  have yes : Text.strip "True" ≠ "" := by decide
  have no : Text.strip "False" ≠ "" := by decide
  have braces : Text.strip "\x7b\x7d" ≠ "" := by decide
  cases d with
  | bool b =>
      cases b with
      | true => exact yes
      | false => exact no
  | _ => exact braces

theorem reading_documented : Documented (fun _ => none) reading where
  integer := rfl
  decimal := by
    unfold reading
    dsimp only
  isoDate := by
    unfold reading
    dsimp only
  str_solid d _ := shown_solid d
  lower_lower _ := rfl
  lower_strip _ stripped := stripped
  lower_solid _ empty := empty

def seats : FieldDescriptor := ⟨"seats",rfl,"Seats","integer",false,true,false,none⟩

def price : FieldDescriptor := ⟨"price",rfl,"Price","decimal",false,true,false,none⟩

def opened : FieldDescriptor := ⟨"opened",rfl,"Opened","date",true,true,false,none⟩

def halls : Payloads.ListingType := ⟨1,"hall",[seats,price,opened],by decide,[]⟩

theorem halls_sound : ∀ f ∈ halls.fields, Sound f := by
  intro f there
  unfold halls at there
  simp only [List.mem_cons,List.not_mem_nil,or_false] at there
  rcases there with rfl | rfl | rfl
  all_goals exact ⟨by decide,by decide,by decide,(fun on => by cases on),rfl⟩

def update (values : Fields) : Request :=
  ⟨1,halls,[("custom_fields",.obj values)],⟨"operator",none⟩,"manual","","",true,false,false⟩

def hallValues : Fields := [("seats",.str " 42 "),("price",.str "1_0.50"),("opened",.str "2020W011")]

theorem hall_values_lawful : Lawful (fun _ => none) reading (update hallValues) true hallValues := by
  have validated : validateCustomFields reading (update hallValues) true hallValues =
      .ok [("seats",some (.int 42)),("price",some (.str "10.50")),("opened",some (.str "2019-12-30"))] := rfl
  refine ((custom_fields_settle reading_documented halls_sound rfl).1 _ validated).mpr ?_
  intro f there type raw found
  obtain rfl : f = seats := by
    unfold update halls at there
    simp only [List.mem_cons,List.not_mem_nil,or_false] at there
    rcases there with same | rfl | rfl
    · exact same
    · exact absurd type (by decide)
    · exact absurd type (by decide)
  cases found
  exact trivial

def halved : Double := ⟨false,7,-1,by decide,by decide⟩

def halfValues : Fields := [("seats",.float halved)]

theorem fraction_cut : ¬Lawful (fun _ => none) reading (update halfValues) false halfValues := by
  intro lawful
  have read : integer reading (.float halved) = some 3 := congrArg some (by decide +kernel)
  have coerced : coerce reading seats (.float halved) = .ok (some (.int 3)) := by
    rw [coerce_integer rfl,read]
    rfl
  have accepted : ∀ f ∈ (update halfValues).type.fields, (fieldVerdict reading (update halfValues) false halfValues f).1 = [] := by
    intro f there
    unfold update halls at there
    simp only [List.mem_cons,List.not_mem_nil,or_false] at there
    rcases there with rfl | rfl | rfl
    · have found : halfValues.lookup seats.key = some (.float halved) := rfl
      have filled : cleared (.float halved) = false := rfl
      unfold fieldVerdict
      rw [found]
      dsimp only
      rw [filled,coerced]
      rfl
    · rfl
    · rfl
  have known : ∀ field ∈ halfValues, (update halfValues).type.fields.any (·.key = field.1) := by
    intro field there
    rw [List.mem_singleton.mp there]
    decide
  have validated := validate_exact.mpr ⟨known,accepted,rfl⟩
  have listed := (mem_cleaned validated ("seats",some (.int 3))).mpr
    ⟨seats,List.mem_cons_self ..,rfl,.float halved,rfl,.inr ⟨rfl,coerced⟩⟩
  obtain ⟨raw,n,found,same,denotes⟩ := lawful.denoted _ validated seats (List.mem_cons_self ..) rfl _ listed
  cases found
  cases same
  have value : halved.value = ((3 : Int) : Rat) := denotes
  exact absurd value (by decide +kernel)

end runs

end Osds.Directory.CustomFields
