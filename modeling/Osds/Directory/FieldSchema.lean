import Osds.Directory.Payloads
import Osds.Directory.Site
import Osds.Lib.Text

namespace Osds.Directory.FieldSchema
open Payloads

def FIELD_TYPES : List String :=
  ["text","long_text","integer","decimal","boolean","date","url","email","select","multi_select"]

def CHOICE_TYPES : List String := ["select","multi_select"]

def SEARCHABLE_TYPES : List String := ["text","long_text","select"]

def RESERVED_KEYS : List String :=
  ["id","slug","name","description","status","visibility","tier","categories","location","contact","media","provenance",
    "created_at","updated_at","owner"]

def BOOL_FLAGS : List String := ["required","public","searchable"]

section validate

-- `str` of a value that is no text, which only one message shows.
variable (str : Doc → String)

def plain : Doc → String
  | .str s => s
  | d => str d

def get (field : Fields) (key : String) : Doc := (field.lookup key).getD .null

def items : Doc → Option (List Doc)
  | .arr items => some items
  | .str s => some (s.toList.map fun c => .str (String.singleton c))
  | .obj fields => some (fields.map fun (key,_) => .str key)
  | _ => none

-- The types by key, the last of a key before the others. A list or a dict has no hash.
def typesOf : List Doc → Option (List (String × Doc))
  | [] => some []
  | .obj field :: rest =>
      match get field "key" with
      | .str key => (typesOf rest).map fun types => if key = "" then types else types ++ [(key,get field "type")]
      | d => if d.truthy && !d.isScalar then none else typesOf rest
  | _ :: rest => typesOf rest

def previousTypes (previous : Option Doc) : Option (List (String × Doc)) :=
  (items ((previous.getD .null).orElse (.arr []))).bind typesOf

def keyOf (field : Fields) : Option String :=
  match get field "key" with
  | .str key => if key = "" then none else some key
  | _ => none

def whereOf (index : Nat) (field : Fields) : String :=
  match keyOf field with
  | none => "field " ++ toString (index + 1)
  | some key => "field '" ++ key ++ "'"

def errorIf (cond : Bool) (message : String) : List String := if cond then [message] else []

def keyErrors (seen : List String) (field : Fields) : List String :=
  match keyOf field with
  | none => ["key is required"]
  | some key =>
      errorIf (!isFieldKey key.toList) "key must be lowercase letters, digits and underscores, starting with a letter" ++
        errorIf (key ∈ RESERVED_KEYS) ("'" ++ key ++ "' is a reserved field name") ++ errorIf (key ∈ seen) "duplicate key"

def labelErrors (field : Fields) : List String :=
  match get field "label" with
  | .str label => errorIf (Text.strip label = "") "label is required"
  | _ => ["label is required"]

-- The type, if it is one of the closed set. `in` of a frozenset takes the hash of what it
-- looks for.
def typeOf (field : Fields) : Option (Option String) :=
  match get field "type" with
  | .str type => some (if type ∈ FIELD_TYPES then some type else none)
  | d => if d.isScalar then some none else none

def typeErrors (type : Option String) : List String :=
  errorIf type.isNone ("type must be one of " ++ ", ".intercalate (FIELD_TYPES.insertionSort (· ≤ ·)))

def flagErrors (field : Fields) : List String :=
  BOOL_FLAGS.flatMap fun flag =>
    match field.lookup flag with
    | none => []
    | some (.bool _) => []
    | some _ => [flag ++ " must be true or false"]

def searchableErrors (type : Option String) (field : Fields) : List String :=
  errorIf ((get field "searchable").truthy && type.any (· ∉ SEARCHABLE_TYPES)) "only text, long_text and select fields can be searchable"

def cleaned (options : List Doc) : List String := (options.filterMap (·.string)).filter fun o => Text.strip o ≠ ""

def choiceErrors (type : String) : Doc → List String
  | .arr options =>
      if options.isEmpty then [type ++ " needs a non-empty options list"]
      else if (cleaned options).length ≠ options.length then ["options must be non-empty strings"]
      else errorIf ((cleaned options).dedup.length ≠ (cleaned options).length) "options must be unique"
  | _ => [type ++ " needs a non-empty options list"]

def noOptions : Doc → Bool
  | .null => true
  | .arr options => options.isEmpty
  | _ => false

def optionErrors (type : Option String) (options : Doc) : List String :=
  match type.filter (· ∈ CHOICE_TYPES) with
  | some type => choiceErrors type options
  | none => errorIf (!noOptions options) "options are only valid on select and multi_select fields"

def frozenType (types : List (String × Doc)) (field : Fields) : Option Doc :=
  ((keyOf field).bind fun key => types.lookup key).filter (!·.isNull)

def frozenErrors (types : List (String × Doc)) (type : Option String) (field : Fields) : List String :=
  match type,frozenType types field with
  | some type,some old =>
      errorIf (old.string ≠ some type)
        ("type is frozen once the field exists (was '" ++ plain str old ++ "'); add a new field with a different key")
  | _,_ => []

def fieldErrors (types : List (String × Doc)) (seen : List String) (type : Option String) (field : Fields) : List String :=
  keyErrors seen field ++ labelErrors field ++ typeErrors type ++ flagErrors field ++ searchableErrors type field ++
    optionErrors type (get field "options") ++ frozenErrors str types type field

def validateFields (types : List (String × Doc)) : Nat → List String → List Doc → Option (List String)
  | _,_,[] => some []
  | index,seen,.obj field :: rest => do
      let type ← typeOf field
      let later ← validateFields types (index+1) ((keyOf field).toList ++ seen) rest
      pure ((fieldErrors str types seen type field).map (whereOf index field ++ ": " ++ ·) ++ later)
  | index,seen,_ :: rest =>
      (validateFields types (index+1) seen rest).map (("field " ++ toString (index + 1) ++ ": not an object") :: ·)

-- The problems of a schema, or nothing where the code raises.
def validateTypeSchema (fields : Doc) (previous : Option Doc) : Option (List String) :=
  match fields with
  | .arr fields => (previousTypes previous).bind fun types => validateFields str types 0 [] fields
  | _ => some ["schema must be a list of field descriptors"]

end validate

section normalize

def trimmed : List Doc → Option (List Doc)
  | [] => some []
  | .str o :: rest => (trimmed rest).map fun later => if Text.strip o = "" then later else .str (Text.strip o) :: later
  | d :: rest => if d.truthy then none else trimmed rest

def flagOr (field : Fields) (flag : String) (default : Bool) : Doc := .bool ((field.lookup flag).elim default (·.truthy))

def labelOf (field : Fields) : Option String := (get field "label").string.map Text.strip

def normalizeField : Doc → Option Doc
  | .obj field => do
      let key ← field.lookup "key"
      let label ← labelOf field
      let type ← field.lookup "type"
      let flags := [("required",flagOr field "required" false),("public",flagOr field "public" true),
        ("searchable",flagOr field "searchable" false)]
      if !type.isScalar then none
      else if type.string.any (· ∈ CHOICE_TYPES) then
        let options ← (items ((field.lookup "options").getD (.arr []))).bind trimmed
        pure (.obj ([("key",key),("label",.str label),("type",type)] ++ flags ++ [("options",.arr options)]))
      else pure (.obj ([("key",key),("label",.str label),("type",type)] ++ flags))
  | _ => none

def normalizeTypeSchema (fields : Doc) : Option (List Doc) := (items fields).bind fun fields => fields.mapM normalizeField

end normalize

section law

variable (str : Doc → String)

def optionsOf : Doc → List Doc
  | .obj field => match get field "options" with
    | .arr options => options
    | _ => []
  | _ => []

def keyAt : Doc → Doc
  | .obj field => get field "key"
  | _ => .null

structure Canonical (schema : List Doc) : Prop where
  valid : validateTypeSchema str (.arr schema) none = some []
  unchanging : validateTypeSchema str (.arr schema) (some (.arr schema)) = some []
  keys : (schema.map keyAt).Nodup
  options : ∀ field ∈ schema, (optionsOf field).Nodup
  fixed : normalizeTypeSchema (.arr schema) = some schema

def Lawful (fields : Doc) (previous : Option Doc) : Prop :=
  ∃ errors, validateTypeSchema str fields previous = some errors ∧
    (errors = [] → ∃ schema, normalizeTypeSchema fields = some schema ∧ Canonical str schema)

end law

section update

variable (str : Doc → String)

def updateFields (stored : List Doc) (fields : Doc) : Option (Except (List String) (List Doc)) := do
  let errors ← validateTypeSchema str fields (some (.arr stored))
  if errors = [] then (normalizeTypeSchema fields).map .ok else pure (.error errors)

def storedAfter (stored : List Doc) (fields : Doc) : List Doc :=
  match updateFields str stored fields with
  | some (.ok schema) => schema
  | _ => stored

end update

section condition

def OptionsFit (type : String) (options : Doc) : Prop :=
  if type ∈ CHOICE_TYPES then
    ∃ texts : List String, options = .arr (texts.map .str) ∧ texts ≠ [] ∧ texts.Nodup ∧ ∀ o ∈ texts, Text.strip o ≠ ""
  else options = .null ∨ options = .arr []

structure Descriptor (field : Fields) : Prop where
  key : ∃ key, get field "key" = .str key ∧ isFieldKey key.toList = true ∧ key ∉ RESERVED_KEYS
  label : ∃ label, get field "label" = .str label ∧ Text.strip label ≠ ""
  flags : ∀ flag ∈ BOOL_FLAGS, ∀ value, field.lookup flag = some value → ∃ b, value = .bool b
  type : ∃ type ∈ FIELD_TYPES, get field "type" = .str type ∧ OptionsFit type (get field "options") ∧
    (get field "searchable" = .bool true → type ∈ SEARCHABLE_TYPES)

def Keeps (types : List (String × Doc)) (field : Fields) : Prop :=
  ∀ key old, get field "key" = .str key → types.lookup key = some old → old = .null ∨ old = get field "type"

def WellFormed (fields : Doc) (previous : Option Doc) : Prop :=
  ∃ (descriptors : List Fields) (types : List (String × Doc)), fields = .arr (descriptors.map .obj) ∧
    previousTypes previous = some types ∧ (descriptors.map (get · "key")).Nodup ∧
      ∀ field ∈ descriptors, Descriptor field ∧ Keeps types field

-- The type of no field is a list or a dict, and the keys of the fields before are none.
def Hashable (fields : Doc) (previous : Option Doc) : Prop :=
  ∀ items, fields = .arr items → (previousTypes previous).isSome ∧ ∀ field, .obj field ∈ items → (get field "type").isScalar

def textsOf (options : Doc) : List String :=
  match options with
  | .arr options => options.filterMap (·.string)
  | _ => []

-- The options of a field still differ when their blanks are stripped.
def TrimmedApart (fields : Doc) : Prop :=
  ∀ items, fields = .arr items → ∀ field, .obj field ∈ items → ((textsOf (get field "options")).map Text.strip).Nodup

end condition

section checks

variable {str : Doc → String} {field : Fields} {type : String} {types : List (String × Doc)}

theorem errorIf_none {cond : Bool} {message : String} : errorIf cond message = [] ↔ cond = false := by
  cases cond with
  | false => exact iff_of_true rfl rfl
  | true => exact iff_of_false (List.cons_ne_nil _ _) Bool.true_eq_false.mp

theorem keyOf_exact {key : String} (keyed : isFieldKey key.toList = true) : keyOf field = some key ↔ get field "key" = .str key := by
  have solid : key ≠ "" := by
    intro blank
    subst blank
    cases keyed
  unfold keyOf
  cases get field "key" with
  | str held =>
      dsimp only
      split
      next blank => exact iff_of_false (fun found => by cases found) fun same => solid (Doc.str.inj same ▸ blank)
      next => exact ⟨fun found => congrArg Doc.str (Option.some.inj found),fun same => congrArg some (Doc.str.inj same)⟩
  | _ => exact iff_of_false (fun found => by cases found) (fun same => by cases same)

theorem keyErrors_none {seen : List String} : keyErrors seen field = [] ↔
    ∃ key, (get field "key" = .str key ∧ isFieldKey key.toList = true ∧ key ∉ RESERVED_KEYS) ∧ key ∉ seen := by
  unfold keyErrors
  constructor
  · intro none_
    split at none_
    · cases none_
    · next key found =>
        simp only [List.append_eq_nil_iff,errorIf_none,Bool.not_eq_false',decide_eq_false_iff_not] at none_
        exact ⟨key,⟨(keyOf_exact none_.1.1).mp found,none_.1.1,none_.1.2⟩,none_.2⟩
  · intro fine
    obtain ⟨key,⟨held,keyed,free⟩,new⟩ := fine
    rw [(keyOf_exact keyed).mpr held]
    simp only [List.append_eq_nil_iff,errorIf_none,Bool.not_eq_false',decide_eq_false_iff_not]
    exact ⟨⟨keyed,free⟩,new⟩

theorem labelErrors_none : labelErrors field = [] ↔ ∃ label, get field "label" = .str label ∧ Text.strip label ≠ "" := by
  unfold labelErrors
  cases get field "label" with
  | str label =>
      rw [errorIf_none,decide_eq_false_iff_not]
      exact ⟨fun solid => ⟨label,rfl,solid⟩,fun ⟨_,same,solid⟩ => Doc.str.inj same ▸ solid⟩
  | _ => exact iff_of_false (List.cons_ne_nil _ _) fun ⟨_,same,_⟩ => by cases same

theorem typeOf_exact : typeOf field = some (some type) ↔ type ∈ FIELD_TYPES ∧ get field "type" = .str type := by
  unfold typeOf
  cases get field "type" with
  | str held =>
      dsimp only
      split
      next known =>
        constructor
        · intro same
          have equal : held = type := Option.some.inj (Option.some.inj same)
          exact equal ▸ ⟨known,rfl⟩
        · intro both
          rw [Doc.str.inj both.2]
      next unknown => exact iff_of_false (fun same => by cases Option.some.inj same) fun both => unknown (Doc.str.inj both.2 ▸ both.1)
  | arr _ => exact iff_of_false (fun same => by cases same) fun both => by cases both.2
  | obj _ => exact iff_of_false (fun same => by cases same) fun both => by cases both.2
  | _ => exact iff_of_false (fun same => by cases Option.some.inj same) fun both => by cases both.2

theorem typeOf_some : (typeOf field).isSome ↔ (get field "type").isScalar := by
  unfold typeOf
  cases get field "type" with
  | _ => exact iff_of_eq rfl

theorem flagErrors_none : flagErrors field = [] ↔
    ∀ flag ∈ BOOL_FLAGS, ∀ value, field.lookup flag = some value → ∃ b, value = .bool b := by
  unfold flagErrors
  rw [List.flatMap_eq_nil_iff]
  refine forall₂_congr ?_
  intro flag _
  cases field.lookup flag with
  | none => exact iff_of_true rfl fun _ found => by cases found
  | some value =>
      cases value with
      | bool b => exact iff_of_true rfl fun _ found => ⟨b,(Option.some.inj found).symm⟩
      | _ => exact iff_of_false (List.cons_ne_nil _ _) fun all => by cases (all _ rfl).choose_spec

theorem cleaned_solid {texts : List String} (solid : ∀ o ∈ texts, Text.strip o ≠ "") : cleaned (texts.map .str) = texts := by
  have strings : (texts.map Doc.str).filterMap (·.string) = texts := by
    rw [List.filterMap_map]
    exact List.filterMap_some
  unfold cleaned
  rw [strings]
  exact List.filter_eq_self.mpr fun o there => decide_eq_true (solid o there)

theorem cleaned_le (options : List Doc) : (cleaned options).length ≤ options.length :=
  Nat.le_trans (List.length_filter_le ..) (List.length_filterMap_le ..)

theorem cleaned_full {options : List Doc} (full : (cleaned options).length = options.length) :
    options = (cleaned options).map .str := by
  induction options with
  | nil => rfl
  | cons d rest ih =>
      have short := cleaned_le rest
      by_cases solid : ∃ o, d = .str o ∧ Text.strip o ≠ ""
      · obtain ⟨o,rfl,solid⟩ := solid
        have whole : cleaned (.str o :: rest) = o :: cleaned rest := List.filter_cons_of_pos (decide_eq_true solid)
        rw [whole] at full ⊢
        rw [List.map_cons,← ih (Nat.succ.inj full)]
      · have dropped : cleaned (d :: rest) = cleaned rest := by
          cases d with
          | str o => exact List.filter_cons_of_neg fun solid' => solid ⟨o,rfl,of_decide_eq_true solid'⟩
          | _ => rfl
        rw [dropped,List.length_cons] at full
        omega

theorem nodup_of_dedup {texts : List String} : texts.dedup.length = texts.length ↔ texts.Nodup := by
  constructor
  · intro same
    have whole := (List.dedup_sublist texts).eq_of_length same
    exact whole ▸ List.nodup_dedup texts
  · intro apart
    rw [List.dedup_eq_self.mpr apart]

theorem choiceErrors_none {options : Doc} : choiceErrors type options = [] ↔
    ∃ texts : List String, options = .arr (texts.map .str) ∧ texts ≠ [] ∧ texts.Nodup ∧ ∀ o ∈ texts, Text.strip o ≠ "" := by
  constructor
  · intro none_
    cases options with
    | arr options =>
        unfold choiceErrors at none_
        dsimp only at none_
        split at none_
        · cases none_
        · next some_ =>
            split at none_
            · cases none_
            · next full =>
                have whole := cleaned_full (Decidable.not_not.mp full)
                rw [errorIf_none,decide_eq_false_iff_not,Decidable.not_not,nodup_of_dedup] at none_
                refine ⟨cleaned options,congrArg Doc.arr whole,?_,none_,?_⟩
                · intro empty
                  rw [whole,empty] at some_
                  exact some_ rfl
                · intro o there
                  exact of_decide_eq_true (List.mem_filter.mp there).2
    | _ => cases none_
  · intro fit
    obtain ⟨texts,rfl,some_,apart,solid⟩ := fit
    have filled : (texts.map Doc.str).isEmpty = false := by
      rw [List.isEmpty_eq_false_iff]
      exact fun empty => some_ (List.map_eq_nil_iff.mp empty)
    unfold choiceErrors
    dsimp only
    rw [cleaned_solid solid,List.length_map,if_neg (Bool.eq_false_iff.mp filled),if_neg fun differ => differ rfl,errorIf_none,
      decide_eq_false_iff_not,Decidable.not_not]
    exact nodup_of_dedup.mpr apart

theorem noOptions_exact {options : Doc} : noOptions options = true ↔ options = .null ∨ options = .arr [] := by
  cases options with
  | null => exact iff_of_true rfl (.inl rfl)
  | arr options =>
      cases options with
      | nil => exact iff_of_true rfl (.inr rfl)
      | cons d rest =>
          refine iff_of_false Bool.false_ne_true ?_
          intro either
          rcases either with none_ | empty
          · cases none_
          · cases empty
  | _ =>
      refine iff_of_false Bool.false_ne_true ?_
      intro either
      rcases either with none_ | empty
      · cases none_
      · cases empty

theorem optionErrors_none {options : Doc} : optionErrors (some type) options = [] ↔ OptionsFit type options := by
  unfold optionErrors OptionsFit
  by_cases choice : type ∈ CHOICE_TYPES
  · have chosen : (some type).filter (fun type => decide (type ∈ CHOICE_TYPES)) = some type := if_pos (decide_eq_true choice)
    rw [if_pos choice,chosen]
    exact choiceErrors_none
  · have other : (some type).filter (fun type => decide (type ∈ CHOICE_TYPES)) = none :=
      if_neg fun chosen => choice (of_decide_eq_true chosen)
    rw [if_neg choice,other]
    dsimp only
    rw [errorIf_none,Bool.not_eq_false']
    exact noOptions_exact

theorem searchableErrors_none (flags : ∀ flag ∈ BOOL_FLAGS, ∀ value, field.lookup flag = some value → ∃ b, value = .bool b) :
    searchableErrors (some type) field = [] ↔ (get field "searchable" = .bool true → type ∈ SEARCHABLE_TYPES) := by
  have truth : (get field "searchable").truthy = true ↔ get field "searchable" = .bool true := by
    unfold get
    cases held : field.lookup "searchable" with
    | none => exact iff_of_false Bool.false_ne_true (fun same => by cases same)
    | some value =>
        obtain ⟨b,rfl⟩ := flags "searchable" (by decide) value held
        exact ⟨fun same => congrArg Doc.bool same,fun same => Doc.bool.inj same⟩
  unfold searchableErrors
  rw [errorIf_none,Bool.and_eq_false_imp,truth]
  refine forall_congr' ?_
  intro _
  exact decide_eq_false_iff_not.trans Decidable.not_not

theorem frozenErrors_none (keyed : ∃ key, get field "key" = .str key ∧ isFieldKey key.toList = true)
    (typed : get field "type" = .str type) :
    frozenErrors str types (some type) field = [] ↔ Keeps types field := by
  obtain ⟨key,held,keyed⟩ := keyed
  have same : Keeps types field ↔ ∀ old, types.lookup key = some old → old = .null ∨ old = .str type := by
    unfold Keeps
    rw [held,typed]
    exact ⟨fun keeps old => keeps key old rfl,fun keeps key' old equal => Doc.str.inj equal ▸ keeps old⟩
  unfold frozenErrors frozenType
  rw [same,(keyOf_exact keyed).mpr held,Option.bind_some]
  cases types.lookup key with
  | none => exact iff_of_true rfl fun _ found => by cases found
  | some old =>
      have one : (∀ old', some old = some old' → old' = .null ∨ old' = .str type) ↔ old = .null ∨ old = .str type :=
        ⟨fun all => all old rfl,fun holds old' equal => Option.some.inj equal ▸ holds⟩
      rw [one]
      cases old with
      | null => exact iff_of_true rfl (.inl rfl)
      | str old =>
          refine errorIf_none.trans (decide_eq_false_iff_not.trans (Decidable.not_not.trans ?_))
          exact ⟨fun equal => .inr (congrArg Doc.str (Option.some.inj equal)),
            fun either => either.elim (fun absurd => by cases absurd) fun equal => congrArg some (Doc.str.inj equal)⟩
      | _ =>
          refine iff_of_false (List.cons_ne_nil _ _) ?_
          intro either
          rcases either with none_ | equal
          · cases none_
          · cases equal

theorem fieldErrors_none {seen : List String} (typed : typeOf field = some found) :
    fieldErrors str types seen found field = [] ↔
      Descriptor field ∧ Keeps types field ∧ ∀ key ∈ seen, get field "key" ≠ .str key := by
  unfold fieldErrors
  simp only [List.append_eq_nil_iff]
  constructor
  · intro none_
    obtain ⟨⟨⟨⟨⟨⟨keyless,labelless⟩,untyped⟩,flagless⟩,unsearched⟩,optionless⟩,unfrozen⟩ := none_
    obtain ⟨key,⟨held,keyed,free⟩,new⟩ := keyErrors_none.mp keyless
    have flags := flagErrors_none.mp flagless
    cases found with
    | none => cases untyped
    | some type =>
        obtain ⟨known,named⟩ := typeOf_exact.mp typed
        refine ⟨⟨⟨key,held,keyed,free⟩,labelErrors_none.mp labelless,flags,type,known,named,optionErrors_none.mp optionless,
          (searchableErrors_none flags).mp unsearched⟩,(frozenErrors_none ⟨key,held,keyed⟩ named).mp unfrozen,?_⟩
        intro key' there same
        exact new (Doc.str.inj (held.symm.trans same) ▸ there)
  · intro fine
    obtain ⟨⟨⟨key,held,keyed,free⟩,label,flags,type,known,named,fit,searched⟩,keeps,new⟩ := fine
    cases typed.symm.trans (typeOf_exact.mpr ⟨known,named⟩)
    have unseen : key ∉ seen := fun there => new key there held
    exact ⟨⟨⟨⟨⟨⟨keyErrors_none.mpr ⟨key,⟨held,keyed,free⟩,unseen⟩,labelErrors_none.mpr label⟩,errorIf_none.mpr rfl⟩,
      flagErrors_none.mpr flags⟩,(searchableErrors_none flags).mpr searched⟩,optionErrors_none.mpr fit⟩,
      (frozenErrors_none ⟨key,held,keyed⟩ named).mpr keeps⟩

end checks

section validated

variable {str : Doc → String} {types : List (String × Doc)} {fields : Doc} {previous : Option Doc}

theorem validateFields_some (index : Nat) (seen : List String) (docs : List Doc) :
    (validateFields str types index seen docs).isSome ↔ ∀ field, .obj field ∈ docs → (get field "type").isScalar := by
  induction docs generalizing index seen with
  | nil => exact iff_of_true rfl fun _ there => by cases there
  | cons d rest ih =>
      cases d with
      | obj field =>
          have both : (validateFields str types index seen (.obj field :: rest)).isSome ↔
              (typeOf field).isSome ∧ (validateFields str types (index+1) ((keyOf field).toList ++ seen) rest).isSome := by
            rw [validateFields]
            cases typeOf field <;> cases validateFields str types (index+1) ((keyOf field).toList ++ seen) rest <;> simp
          rw [both,typeOf_some,ih]
          constructor
          · intro scalar other there
            rcases List.mem_cons.mp there with same | later
            · exact Doc.obj.inj same ▸ scalar.1
            · exact scalar.2 other later
          · intro scalar
            exact ⟨scalar field (List.mem_cons_self ..),fun other later => scalar other (List.mem_cons_of_mem _ later)⟩
      | _ =>
          rw [validateFields,Option.isSome_map,ih]
          · refine forall_congr' ?_
            intro other
            rw [List.mem_cons,or_iff_right fun same => by cases same]
          · intro field same
            cases same

theorem validateFields_none (index : Nat) (seen : List String) (docs : List Doc) :
    validateFields str types index seen docs = some [] ↔
      ∃ descriptors : List Fields, docs = descriptors.map .obj ∧ (descriptors.map (get · "key")).Nodup ∧
        ∀ field ∈ descriptors, Descriptor field ∧ Keeps types field ∧ ∀ key ∈ seen, get field "key" ≠ .str key := by
  induction docs generalizing index seen with
  | nil => exact iff_of_true rfl ⟨[],rfl,List.nodup_nil,fun _ there => by cases there⟩
  | cons d rest ih =>
      cases d with
      | obj field =>
          have both : validateFields str types index seen (.obj field :: rest) = some [] ↔
              (∃ type, typeOf field = some type ∧ fieldErrors str types seen type field = []) ∧
                validateFields str types (index+1) ((keyOf field).toList ++ seen) rest = some [] := by
            rw [validateFields]
            cases typeOf field <;> cases validateFields str types (index+1) ((keyOf field).toList ++ seen) rest <;> simp
          rw [both,ih]
          constructor
          · intro fine
            obtain ⟨⟨type,typed,none_⟩,descriptors,rfl,apart,each⟩ := fine
            obtain ⟨described,keeps,new⟩ := (fieldErrors_none typed).mp none_
            obtain ⟨key,held,keyed,_⟩ := described.key
            refine ⟨field :: descriptors,rfl,?_,?_⟩
            · rw [List.map_cons,List.nodup_cons]
              refine ⟨?_,apart⟩
              intro there
              obtain ⟨other,later,same⟩ := List.mem_map.mp there
              have first : key ∈ (keyOf field).toList ++ seen := by
                rw [(keyOf_exact keyed).mpr held]
                exact List.mem_cons_self ..
              exact (each other later).2.2 key first (same.trans held)
            · intro other there
              rcases List.mem_cons.mp there with rfl | later
              · exact ⟨described,keeps,new⟩
              · obtain ⟨described',keeps',new'⟩ := each other later
                exact ⟨described',keeps',fun key seen' => new' key (List.mem_append_right _ seen')⟩
          · intro fine
            obtain ⟨descriptors,whole,apart,each⟩ := fine
            cases descriptors with
            | nil => cases whole
            | cons first descriptors =>
                cases whole
                rw [List.map_cons,List.nodup_cons] at apart
                obtain ⟨described,keeps,new⟩ := each field (List.mem_cons_self ..)
                obtain ⟨type,known,named,_⟩ := described.type
                have typed : typeOf field = some (some type) := typeOf_exact.mpr ⟨known,named⟩
                refine ⟨⟨some type,typed,(fieldErrors_none typed).mpr ⟨described,keeps,new⟩⟩,descriptors,rfl,apart.2,?_⟩
                intro other later
                obtain ⟨described',keeps',new'⟩ := each other (List.mem_cons_of_mem _ later)
                refine ⟨described',keeps',?_⟩
                intro key there same
                rcases List.mem_append.mp there with here | before
                · obtain ⟨key',held,keyed,_⟩ := described.key
                  rw [(keyOf_exact keyed).mpr held] at here
                  rw [List.mem_singleton.mp here,← held] at same
                  exact apart.1 (List.mem_map.mpr ⟨other,later,same⟩)
                · exact new' key before same
      | _ =>
          rw [validateFields]
          · refine iff_of_false ?_ ?_
            · intro none_
              obtain ⟨_,_,absurd⟩ := Option.map_eq_some_iff.mp none_
              cases absurd
            · intro fine
              obtain ⟨descriptors,whole,_⟩ := fine
              cases descriptors <;> cases whole
          · intro field same
            cases same

theorem validate_some : (validateTypeSchema str fields previous).isSome ↔ Hashable fields previous := by
  cases fields with
  | arr docs =>
      have both : (validateTypeSchema str (.arr docs) previous).isSome ↔
          (previousTypes previous).isSome ∧ ∀ field, .obj field ∈ docs → (get field "type").isScalar := by
        unfold validateTypeSchema
        cases previousTypes previous with
        | none => exact iff_of_false Bool.false_ne_true fun both => Bool.false_ne_true both.1
        | some types => exact (validateFields_some 0 [] docs).trans (and_iff_right rfl).symm
      rw [both]
      exact ⟨fun readable docs' same => Doc.arr.inj same ▸ readable,fun readable => readable docs rfl⟩
  | _ => exact iff_of_true rfl fun _ same => by cases same

theorem validate_none : validateTypeSchema str fields previous = some [] ↔ WellFormed fields previous := by
  cases fields with
  | arr docs =>
      unfold validateTypeSchema WellFormed
      dsimp only
      rw [Option.bind_eq_some_iff]
      constructor
      · intro fine
        obtain ⟨types,readable,none_⟩ := fine
        obtain ⟨descriptors,rfl,apart,each⟩ := (validateFields_none 0 [] docs).mp none_
        exact ⟨descriptors,types,rfl,readable,apart,fun field there => ⟨(each field there).1,(each field there).2.1⟩⟩
      · intro fine
        obtain ⟨descriptors,types,whole,readable,apart,each⟩ := fine
        refine ⟨types,readable,(validateFields_none 0 [] docs).mpr ⟨descriptors,Doc.arr.inj whole,apart,?_⟩⟩
        intro field there
        exact ⟨(each field there).1,(each field there).2,fun _ seen => by cases seen⟩
  | _ =>
      refine iff_of_false (fun none_ => by cases none_) ?_
      intro fine
      obtain ⟨_,_,absurd,_⟩ := fine
      cases absurd

end validated

section normalized

variable {str : Doc → String} {field : Fields} {f : FieldDescriptor} {schema : List FieldDescriptor} {fields : Doc}
  {previous : Option Doc}

def docOf (f : FieldDescriptor) : Fields :=
  [("key",.str f.key),("label",.str f.label),("type",.str f.type),("required",.bool f.required),("public",.bool f.isPublic),
    ("searchable",.bool f.searchable)] ++ f.options.toList.map fun options => ("options",.arr (options.map .str))

def schemaDocs (schema : List FieldDescriptor) : List Doc := schema.map fun f => .obj (docOf f)

structure Sound (f : FieldDescriptor) : Prop where
  free : f.key ∉ RESERVED_KEYS
  label : Text.strip f.label = f.label ∧ f.label ≠ ""
  type : f.type ∈ FIELD_TYPES
  searchable : f.searchable = true → f.type ∈ SEARCHABLE_TYPES
  options : if f.type ∈ CHOICE_TYPES then
      ∃ options, f.options = some options ∧ options ≠ [] ∧ ∀ o ∈ options, Text.strip o = o ∧ o ≠ ""
    else f.options = none

theorem trimmed_texts {texts : List String} (solid : ∀ o ∈ texts, Text.strip o ≠ "") :
    trimmed (texts.map .str) = some ((texts.map Text.strip).map .str) := by
  induction texts with
  | nil => rfl
  | cons o rest ih =>
      have later := ih fun other there => solid other (List.mem_cons_of_mem _ there)
      rw [List.map_cons,trimmed,later,Option.map_some,if_neg (solid o (List.mem_cons_self ..))]
      rfl

theorem textsOf_strings (texts : List String) : textsOf (.arr (texts.map .str)) = texts := by
  unfold textsOf
  dsimp only
  rw [List.filterMap_map]
  exact List.filterMap_some

theorem get_options : get (docOf f) "options" = f.options.elim .null fun options => .arr (options.map .str) := by
  unfold docOf
  cases f.options <;> rfl

theorem lookup_held {key : String} {value : Doc} (held : get field key = value) (solid : value ≠ .null) :
    field.lookup key = some value := by
  unfold get at held
  cases found : field.lookup key with
  | none =>
      rw [found] at held
      exact absurd held.symm solid
  | some there =>
      rw [found] at held
      exact congrArg some held

theorem flag_bool {flag : String} (default : Bool) (named : flag ∈ BOOL_FLAGS)
    (flags : ∀ flag ∈ BOOL_FLAGS, ∀ value, field.lookup flag = some value → ∃ b, value = .bool b) :
    ∃ b, flagOr field flag default = .bool b ∧ (b = true → default = false → get field flag = .bool true) := by
  unfold flagOr get
  cases found : field.lookup flag with
  | none => exact ⟨default,rfl,fun on off => absurd (on.symm.trans off) Bool.true_eq_false.mp⟩
  | some value =>
      obtain ⟨b,rfl⟩ := flags flag named value found
      exact ⟨b,rfl,fun on _ => congrArg Doc.bool on⟩

theorem normalizeField_exact {key label type : String} {r p s : Bool} {texts : Option (List String)}
    (keyed : get field "key" = .str key) (labelled : get field "label" = .str label) (typed : get field "type" = .str type)
    (required : flagOr field "required" false = .bool r) (shown : flagOr field "public" true = .bool p)
    (searchable : flagOr field "searchable" false = .bool s)
    (options : if type ∈ CHOICE_TYPES then
        ∃ chosen, texts = some chosen ∧ (items ((field.lookup "options").getD (.arr []))).bind trimmed = some (chosen.map .str)
      else texts = none) :
    normalizeField (.obj field) = some (.obj ([("key",.str key),("label",.str (Text.strip label)),("type",.str type),
      ("required",.bool r),("public",.bool p),("searchable",.bool s)] ++
        texts.toList.map fun texts => ("options",.arr (texts.map .str)))) := by
  have labelOf_exact : labelOf field = some (Text.strip label) := by
    unfold labelOf
    rw [labelled]
    rfl
  have key_ : field.lookup "key" = some (.str key) := lookup_held keyed (fun absurd => by cases absurd)
  have type_ : field.lookup "type" = some (.str type) := lookup_held typed (fun absurd => by cases absurd)
  have scalar : (!(Doc.str type).isScalar) = false := rfl
  unfold normalizeField
  dsimp only
  rw [key_,labelOf_exact,type_,required,shown,searchable]
  by_cases choice : type ∈ CHOICE_TYPES
  · rw [if_pos choice] at options
    obtain ⟨chosen,rfl,whole⟩ := options
    have chosen_ : (Doc.str type).string.any (fun type => decide (type ∈ CHOICE_TYPES)) = true := decide_eq_true choice
    dsimp only [Option.bind_eq_bind,Option.bind_some]
    rw [scalar,chosen_,whole]
    rfl
  · rw [if_neg choice] at options
    have other : (Doc.str type).string.any (fun type => decide (type ∈ CHOICE_TYPES)) = false := decide_eq_false choice
    subst options
    dsimp only [Option.bind_eq_bind,Option.bind_some]
    rw [scalar,other]
    rfl

theorem descriptor_normalizes (described : Descriptor field) : ∃ f, normalizeField (.obj field) = some (.obj (docOf f)) ∧
    get field "key" = .str f.key ∧ Sound f ∧ f.options.getD [] = (textsOf (get field "options")).map Text.strip := by
  obtain ⟨⟨key,held,keyed,free⟩,⟨label,labelled,solid⟩,flags,type,known,typed,fit,searched⟩ := described
  obtain ⟨r,required,_⟩ := flag_bool false (by decide : "required" ∈ BOOL_FLAGS) flags
  obtain ⟨p,shown,_⟩ := flag_bool true (by decide : "public" ∈ BOOL_FLAGS) flags
  obtain ⟨s,searchable,on⟩ := flag_bool false (by decide : "searchable" ∈ BOOL_FLAGS) flags
  have label_ : Text.strip (Text.strip label) = Text.strip label ∧ Text.strip label ≠ "" := ⟨Text.strip_strip label,solid⟩
  have searched_ : s = true → type ∈ SEARCHABLE_TYPES := fun set => searched (on set rfl)
  unfold OptionsFit at fit
  by_cases choice : type ∈ CHOICE_TYPES
  · rw [if_pos choice] at fit
    obtain ⟨texts,whole,some_,_,each⟩ := fit
    have listed : (items ((field.lookup "options").getD (.arr []))).bind trimmed = some ((texts.map Text.strip).map .str) := by
      rw [lookup_held whole (fun absurd => by cases absurd)]
      exact trimmed_texts each
    refine ⟨⟨key,keyed,Text.strip label,type,r,p,s,some (texts.map Text.strip)⟩,?_,held,⟨free,label_,known,searched_,?_⟩,?_⟩
    · exact normalizeField_exact held labelled typed required shown searchable (by rw [if_pos choice]; exact ⟨_,rfl,listed⟩)
    · rw [if_pos choice]
      refine ⟨_,rfl,fun empty => some_ (List.map_eq_nil_iff.mp empty),?_⟩
      intro o there
      obtain ⟨text,listed,rfl⟩ := List.mem_map.mp there
      exact ⟨Text.strip_strip text,each text listed⟩
    · rw [whole,textsOf_strings]
      rfl
  · rw [if_neg choice] at fit
    refine ⟨⟨key,keyed,Text.strip label,type,r,p,s,none⟩,?_,held,⟨free,label_,known,searched_,?_⟩,?_⟩
    · exact normalizeField_exact held labelled typed required shown searchable (by rw [if_neg choice])
    · rw [if_neg choice]
    · rcases fit with none_ | empty
      · rw [none_]
        rfl
      · rw [empty]
        rfl

theorem sound_descriptor (sound : Sound f) (apart : (f.options.getD []).Nodup) : Descriptor (docOf f) where
  key := ⟨f.key,rfl,f.keyed,sound.free⟩
  label := ⟨f.label,rfl,by rw [sound.label.1]; exact sound.label.2⟩
  flags := by
    intro flag named value found
    unfold BOOL_FLAGS at named
    simp only [List.mem_cons,List.not_mem_nil,or_false] at named
    rcases named with rfl | rfl | rfl
    · exact ⟨f.required,(Option.some.inj found).symm⟩
    · exact ⟨f.isPublic,(Option.some.inj found).symm⟩
    · exact ⟨f.searchable,(Option.some.inj found).symm⟩
  type := by
    refine ⟨f.type,sound.type,rfl,?_,fun on => sound.searchable (Doc.bool.inj on)⟩
    have options := sound.options
    rw [get_options]
    unfold OptionsFit
    split at options
    next choice =>
      obtain ⟨texts,whole,some_,each⟩ := options
      rw [whole] at apart ⊢
      rw [if_pos choice]
      refine ⟨texts,rfl,some_,apart,?_⟩
      intro o there
      rw [(each o there).1]
      exact (each o there).2
    next other =>
      rw [options,if_neg other]
      exact .inl rfl

theorem sound_fixed (sound : Sound f) : normalizeField (.obj (docOf f)) = some (.obj (docOf f)) := by
  have whole := @normalizeField_exact (docOf f) f.key f.label f.type f.required f.isPublic f.searchable f.options rfl rfl rfl rfl rfl rfl
  rw [sound.label.1] at whole
  refine whole ?_
  have options := sound.options
  split at options
  next choice =>
    obtain ⟨texts,listed,_,each⟩ := options
    have kept : texts.map Text.strip = texts := (List.map_congr_left fun o there => (each o there).1).trans (List.map_id _)
    have held : get (docOf f) "options" = .arr (texts.map .str) := by
      rw [get_options,listed]
      rfl
    rw [if_pos choice,lookup_held held (fun absurd => by cases absurd)]
    refine ⟨texts,listed,?_⟩
    have solid : ∀ o ∈ texts, Text.strip o ≠ "" := by
      intro o there
      rw [(each o there).1]
      exact (each o there).2
    have stripped := trimmed_texts solid
    rw [kept] at stripped
    exact stripped
  next other =>
    rw [if_neg other]
    exact options

theorem descriptors_normalize {descriptors : List Fields} (described : ∀ field ∈ descriptors, Descriptor field) :
    ∃ schema, (descriptors.map Doc.obj).mapM normalizeField = some (schemaDocs schema) ∧ (∀ f ∈ schema, Sound f) ∧
      descriptors.map (get · "key") = schema.map (fun f => .str f.key) ∧
      ((∀ field ∈ descriptors, ((textsOf (get field "options")).map Text.strip).Nodup) ↔
        ∀ f ∈ schema, (f.options.getD []).Nodup) := by
  induction descriptors with
  | nil =>
      refine ⟨[],rfl,(fun _ there => by cases there),rfl,iff_of_true ?_ ?_⟩
      · intro _ there
        cases there
      · intro _ there
        cases there
  | cons field rest ih =>
      obtain ⟨f,normal,held,sound,chosen⟩ := descriptor_normalizes (described field (List.mem_cons_self ..))
      obtain ⟨schema,normals,sounds,keys,apart⟩ := ih fun other there => described other (List.mem_cons_of_mem _ there)
      refine ⟨f :: schema,?_,List.forall_mem_cons.mpr ⟨sound,sounds⟩,?_,?_⟩
      · rw [List.map_cons,List.mapM_cons,normal,normals]
        rfl
      · rw [List.map_cons,List.map_cons,held,keys]
      · rw [List.forall_mem_cons,List.forall_mem_cons,apart,chosen]

theorem typesOf_docs (schema : List FieldDescriptor) :
    typesOf (schemaDocs schema) = some ((schema.map fun f => (f.key,Doc.str f.type)).reverse) := by
  induction schema with
  | nil => rfl
  | cons f rest ih =>
      have solid : f.key ≠ "" := by
        intro blank
        have keyed := f.keyed
        rw [blank] at keyed
        cases keyed
      change (typesOf (schemaDocs rest)).map (fun types => if f.key = "" then types else types ++ [(f.key,Doc.str f.type)]) = _
      rw [ih,Option.map_some,if_neg solid,List.map_cons,List.reverse_cons]

theorem previous_docs (schema : List FieldDescriptor) :
    previousTypes (some (.arr (schemaDocs schema))) = some ((schema.map fun f => (f.key,Doc.str f.type)).reverse) := by
  have same : items ((Doc.arr (schemaDocs schema)).orElse (.arr [])) = some (schemaDocs schema) := by
    cases schema <;> rfl
  unfold previousTypes
  rw [Option.getD_some,same]
  exact typesOf_docs schema

theorem keeps_itself (distinct : (schema.map (·.key)).Nodup) (there : f ∈ schema) :
    Keeps ((schema.map fun f => (f.key,Doc.str f.type)).reverse) (docOf f) := by
  intro key old held found
  obtain ⟨other,listed,same⟩ := List.mem_map.mp (List.mem_reverse.mp (Dict.lookup_mem found))
  have one : other = f := List.inj_on_of_nodup_map distinct listed there ((Prod.mk.inj same).1.trans (Doc.str.inj held).symm)
  subst one
  exact .inr (Prod.mk.inj same).2.symm

theorem docs_wellFormed (sound : ∀ f ∈ schema, Sound f) (distinct : (schema.map (·.key)).Nodup)
    (apart : ∀ f ∈ schema, (f.options.getD []).Nodup) (readable : previousTypes previous = some types)
    (keeps : ∀ f ∈ schema, Keeps types (docOf f)) : WellFormed (.arr (schemaDocs schema)) previous := by
  refine ⟨schema.map docOf,types,?_,readable,?_,?_⟩
  · rw [List.map_map]
    rfl
  · rw [List.map_map]
    have inject : Function.Injective Doc.str := fun _ _ same => Doc.str.inj same
    have keys := List.Nodup.map inject distinct
    rw [List.map_map] at keys
    exact keys
  · intro field there
    obtain ⟨f,listed,rfl⟩ := List.mem_map.mp there
    exact ⟨sound_descriptor (sound f listed) (apart f listed),keeps f listed⟩

theorem optionsOf_doc (f : FieldDescriptor) : optionsOf (.obj (docOf f)) = (f.options.getD []).map .str := by
  unfold optionsOf
  dsimp only
  rw [get_options]
  cases f.options <;> rfl

theorem canonical_exact (sound : ∀ f ∈ schema, Sound f) (distinct : (schema.map (·.key)).Nodup) :
    Canonical str (schemaDocs schema) ↔ ∀ f ∈ schema, (f.options.getD []).Nodup := by
  have inject : Function.Injective Doc.str := fun _ _ same => Doc.str.inj same
  constructor
  · intro canonical f there
    have apart := canonical.options _ (List.mem_map.mpr ⟨f,there,rfl⟩)
    rw [optionsOf_doc] at apart
    exact (List.nodup_map_iff inject).mp apart
  · intro apart
    refine ⟨?_,?_,?_,?_,?_⟩
    · have none_ : previousTypes none = some [] := rfl
      exact validate_none.mpr (docs_wellFormed sound distinct apart none_ fun _ _ _ _ _ found => by cases found)
    · exact validate_none.mpr (docs_wellFormed sound distinct apart (previous_docs schema) fun _ there => keeps_itself distinct there)
    · have keys := List.Nodup.map inject distinct
      unfold schemaDocs
      rw [List.map_map] at keys ⊢
      exact keys
    · intro doc there
      obtain ⟨f,listed,rfl⟩ := List.mem_map.mp there
      rw [optionsOf_doc]
      exact (apart f listed).map inject
    · have fixed : ∀ schema : List FieldDescriptor, (∀ f ∈ schema, Sound f) →
          (schemaDocs schema).mapM normalizeField = some (schemaDocs schema) := by
        intro schema sounds
        induction schema with
        | nil => rfl
        | cons f rest ih =>
            unfold schemaDocs at ih ⊢
            rw [List.map_cons,List.mapM_cons,sound_fixed (sounds f (List.mem_cons_self ..)),
              ih fun g later => sounds g (List.mem_cons_of_mem _ later)]
            rfl
      exact fixed schema sound

theorem wellFormed_normalizes (wellFormed : WellFormed fields previous) : ∃ schema : List FieldDescriptor,
    normalizeTypeSchema fields = some (schemaDocs schema) ∧ (Canonical str (schemaDocs schema) ↔ TrimmedApart fields) := by
  obtain ⟨descriptors,types,rfl,_,distinct,each⟩ := wellFormed
  obtain ⟨schema,normal,sound,keys,apart⟩ := descriptors_normalize fun field there => (each field there).1
  have distinct_ : (schema.map (·.key)).Nodup := by
    rw [keys] at distinct
    have composed : schema.map (fun f => Doc.str f.key) = (schema.map (·.key)).map .str := List.map_map.symm
    rw [composed] at distinct
    exact List.Nodup.of_map _ distinct
  refine ⟨schema,normal,(canonical_exact sound distinct_).trans (apart.symm.trans ?_)⟩
  constructor
  · intro all docs same field there
    have listed := Doc.arr.inj same ▸ there
    obtain ⟨field',present,equal⟩ := List.mem_map.mp listed
    exact Doc.obj.inj equal ▸ all field' present
  · intro all field there
    exact all _ rfl field (List.mem_map.mpr ⟨field,there,rfl⟩)

end normalized

section edits

variable {str : Doc → String} {stored : List Doc} {fields : Doc}

theorem edit_canonical (canonical : Canonical str stored) (trims : TrimmedApart fields) :
    Canonical str (storedAfter str stored fields) := by
  unfold storedAfter
  split
  next schema edited =>
    unfold updateFields at edited
    obtain ⟨errors,listed,accepted⟩ := Option.bind_eq_some_iff.mp edited
    split at accepted
    next none_ =>
      subst none_
      obtain ⟨normal,normalized,same⟩ := Option.map_eq_some_iff.mp accepted
      obtain ⟨schema',normalized',exact_⟩ := wellFormed_normalizes (validate_none.mp listed)
      cases same
      cases normalized.symm.trans normalized'
      exact exact_.mpr trims
    next => cases accepted
  next => exact canonical

theorem edits_canonical (edits : List Doc) (canonical : Canonical str stored) (trims : ∀ fields ∈ edits, TrimmedApart fields) :
    Canonical str (edits.foldl (storedAfter str) stored) := by
  induction edits generalizing stored with
  | nil => exact canonical
  | cons fields rest ih =>
      exact ih (edit_canonical canonical (trims fields (List.mem_cons_self ..))) fun later there =>
        trims later (List.mem_cons_of_mem _ there)

end edits

-- The problems of every schema are listed unless the type of a field is a list or a dict,
-- and its form is canonical unless two options differ in blanks only.
theorem schema_settles (str : Doc → String) (fields : Doc) (previous : Option Doc) :
    Lawful str fields previous ↔ Hashable fields previous ∧ (WellFormed fields previous → TrimmedApart fields) := by
  constructor
  · intro lawful
    obtain ⟨errors,listed,normalizes⟩ := lawful
    refine ⟨validate_some.mp (Option.isSome_iff_exists.mpr ⟨errors,listed⟩),?_⟩
    intro wellFormed
    have none_ : errors = [] := Option.some.inj (listed.symm.trans (validate_none.mpr wellFormed))
    obtain ⟨docs,normal,canonical⟩ := normalizes none_
    obtain ⟨schema,normal',exact_⟩ := wellFormed_normalizes wellFormed
    cases normal.symm.trans normal'
    exact exact_.mp canonical
  · intro fine
    obtain ⟨hashable,trims⟩ := fine
    obtain ⟨errors,listed⟩ := Option.isSome_iff_exists.mp (validate_some.mpr hashable)
    refine ⟨errors,listed,?_⟩
    intro none_
    subst none_
    have wellFormed := validate_none.mp listed
    obtain ⟨schema,normal,exact_⟩ := wellFormed_normalizes wellFormed
    exact ⟨schemaDocs schema,normal,exact_.mpr (trims wellFormed)⟩

def shown (_ : Doc) : String := "[]"

theorem schema_fails : ¬Lawful shown (.arr [.obj [("key",.str "a"),("label",.str "A"),("type",.arr [])]]) none ∧
    ¬Lawful shown (.arr [.obj [("key",.str "a"),("label",.str "A"),("type",.str "select"),
      ("options",.arr [.str "x",.str "x "])]]) none := by
  constructor
  · intro lawful
    obtain ⟨errors,listed,_⟩ := lawful
    cases listed
  · intro lawful
    obtain ⟨errors,listed,normalizes⟩ := lawful
    obtain ⟨schema,normal,canonical⟩ := normalizes (Option.some.inj (listed.symm.trans rfl))
    have same : schema = schemaDocs [⟨"a",rfl,"A","select",false,true,false,some ["x","x"]⟩] := Option.some.inj (normal.symm.trans rfl)
    subst same
    have apart := canonical.options _ (List.mem_singleton_self _)
    cases apart with
    | cons differ _ => exact differ _ (List.mem_singleton_self _) rfl

end Osds.Directory.FieldSchema
