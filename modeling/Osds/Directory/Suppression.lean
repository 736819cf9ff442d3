import Osds.Directory.Reapplied
import Osds.Lib.Squeeze

namespace Osds.Directory.Suppression
open Payloads Squeeze

def Blank (text : String) : Prop := ∀ c ∈ text.toList, Text.isBlank c = true

section folding

variable (env : Environment)

def isInk (c : Char) : Bool := env.isDecimal c || c = '+'

def ink (cs : List Char) : List Char := cs.filter (isInk env)

-- One plus of those a number starts with.
def dropPluses (cs : List Char) : List Char := if cs.head? = some '+' then '+' :: cs.dropWhile (· = '+') else cs

-- Unicode's compatibility form and case folding, and the digest of a text. Blanks at an
-- end stand apart and stay blanks, and nothing else becomes one; capitals have the commas
-- of their text; and a digit or a plus comes of one character.
structure Folding where
  nfkc : String → String
  casefold : String → String
  sha256 : String → String
  injective : ∀ a b, sha256 a = sha256 b → a = b
  nfkc_apart : ∀ before text after, Blank before → Blank after → nfkc (before ++ text ++ after) = nfkc before ++ nfkc text ++ nfkc after
  nfkc_blank : ∀ text, Blank (nfkc text) ↔ Blank text
  casefold_append : ∀ a b, casefold (a ++ b) = casefold a ++ casefold b
  casefold_blank : ∀ text, Blank (casefold text) ↔ Blank text
  upper_commas : ∀ text, commas (casefold (nfkc (env.upper text))) = commas (casefold (nfkc text))
  digit_solid : ∀ c, env.isDecimal c = true → Text.isBlank c = false
  nfkc_ink : ∀ text, ink env (nfkc text).toList = text.toList.flatMap fun c => ink env (nfkc (String.singleton c)).toList
  nfkc_plus : nfkc "+" = "+"
  str_solid : ∀ d, d.truthy = true → d.string = none → ¬Blank (env.str d)

end folding

inductive KeyError where
  | badType | blankName
  | suppressed (keyHash : String)
  deriving DecidableEq, Repr

structure Components where
  name : Doc
  addressLine1 : Doc
  locality : Doc
  region : Doc
  postalCode : Doc
  country : Doc
  phone : Doc

section fingerprint

variable {env : Environment} (f : Folding env)

def shown (env : Environment) : Doc → String
  | .null => ""
  | d => env.plain d

def canon (d : Doc) : String := squeeze (f.casefold (f.nfkc (shown env d)))

def canonPhone (d : Doc) : String := String.ofList (dropPluses (ink env (f.nfkc (shown env d)).toList))

def address (x : Components) : String :=
  joinParts ([canon f x.addressLine1,canon f x.locality,canon f x.region,canon f x.postalCode] ++ [canon f x.country])

def fingerprint (x : Components) : Except KeyError String :=
  if canon f x.name = "" then .error .blankName
  else .ok (f.sha256 ("\x1f".intercalate [canon f x.name,address f x,canonPhone f x.phone]))

def objectOf (payload : Fields) (key : String) : Except KeyError Fields :=
  match (payload.lookup key).getD .null with
  | .obj fields => .ok fields
  | d => if d.truthy then .error .badType else .ok []

def rawComponents (payload : Fields) : Except KeyError Components := do
  let loc ← objectOf payload "location"
  let contact ← objectOf payload "contact"
  let get := fun (fields : Fields) key => (fields.lookup key).getD .null
  pure ⟨get payload "name",get loc "address_line1",get loc "locality",get loc "region",get loc "postal_code",get loc "country",
    get contact "phone_e164"⟩

def rawFingerprint (payload : Fields) : Except KeyError String := do
  let components ← rawComponents payload
  fingerprint f components

-- `_check_suppressed`, with the hashes of the tenant's keys
def checkSuppressed (keys : String → Bool) (payload : Fields) : Except KeyError Unit :=
  if ¬(text ((payload.lookup "name").getD .null)).truthy then .ok ()
  else do
    let keyHash ← rawFingerprint f payload
    if keys keyHash then .error (.suppressed keyHash) else pure ()

def componentsOf (texts : Column → Doc) : Components :=
  ⟨texts .name,texts .addressLine1,texts .locality,texts .region,texts .postalCode,texts .country,texts .phoneE164⟩

def rowFingerprint (row : Row) : Except KeyError String := fingerprint f (componentsOf fun c => .str (row.texts c))

end fingerprint

section canonical

variable {env : Environment} (f : Folding env)

theorem blank_empty : Blank "" := List.forall_mem_nil _

theorem squeeze_blank {text : String} (blank : Blank text) : squeeze text = "" := by
  have whole : text = text ++ "" ++ "" := by rw [String.append_empty,String.append_empty]
  rw [whole]
  exact squeeze_around blank blank_empty

theorem canon_around {before text after : String} (front : Blank before) (back : Blank after) :
    canon f (.str (before ++ text ++ after)) = canon f (.str text) := by
  show squeeze (f.casefold (f.nfkc (before ++ text ++ after))) = squeeze (f.casefold (f.nfkc text))
  rw [f.nfkc_apart before text after front back,f.casefold_append,f.casefold_append]
  exact squeeze_around ((f.casefold_blank _).mpr ((f.nfkc_blank _).mpr front)) ((f.casefold_blank _).mpr ((f.nfkc_blank _).mpr back))

theorem canon_blank {text : String} : canon f (.str text) = "" ↔ Blank text := by
  rw [← f.nfkc_blank,← f.casefold_blank]
  constructor
  · intro nothing c there
    cases dark : Text.isBlank c with
    | true => rfl
    | false => exact absurd nothing (squeeze_solid ⟨c,there,dark⟩)
  · exact squeeze_blank

theorem strip_parts (text : String) : ∃ before after, Blank before ∧ Blank after ∧ text = before ++ Text.strip text ++ after := by
  let front := text.toList.takeWhile Text.isBlank
  let rest := text.toList.dropWhile Text.isBlank
  refine ⟨String.ofList front,String.ofList (rest.reverse.takeWhile Text.isBlank).reverse,?_,?_,?_⟩
  · unfold Blank
    rw [String.toList_ofList]
    exact List.all_eq_true.mp List.all_takeWhile
  · unfold Blank
    rw [String.toList_ofList]
    exact fun c there => List.all_eq_true.mp List.all_takeWhile c (List.mem_reverse.mp there)
  · apply String.toList_inj.mp
    have parted : rest.reverse.takeWhile Text.isBlank ++ rest.reverse.dropWhile Text.isBlank = rest.reverse :=
      List.takeWhile_append_dropWhile
    have back := congrArg List.reverse parted
    rw [List.reverse_append,List.reverse_reverse] at back
    unfold Text.strip Text.dropEnd
    rw [String.toList_append,String.toList_append,String.toList_ofList,String.toList_ofList,String.toList_ofList,List.append_assoc,back]
    exact List.takeWhile_append_dropWhile.symm

theorem canon_strip (text : String) : canon f (.str (Text.strip text)) = canon f (.str text) := by
  obtain ⟨before,after,front,back,whole⟩ := strip_parts text
  have same : canon f (.str (before ++ Text.strip text ++ after)) = _ := canon_around f front back
  rw [← whole] at same
  exact same.symm

theorem text_stripped (s : String) : (text (.str s)).orElse (.str "") = .str (Text.strip s) := by
  show (ofOption (Imports.text s)).orElse (.str "") = .str (Text.strip s)
  unfold Imports.text
  by_cases blank : Text.strip s = ""
  · rw [if_pos blank,blank]
    rfl
  · rw [if_neg blank]
    have some_ : (Doc.str (Text.strip s)).truthy = true := decide_eq_true blank
    exact if_pos some_

-- A part that counts as empty though its text does not: 0, False, an empty list.
def Held (d : Doc) : Prop := d.string.isSome ∨ d.isNull ∨ d.truthy ∨ canon f d = ""

theorem other_canon {d : Doc} (other : d.string = none) (some_ : d.isNull = false) :
    canon f (d.orElse (.str "")) = canon f d ∧ Held f d ∨ canon f (d.orElse (.str "")) = "" ∧ ¬Held f d := by
  have empty : canon f (.str "") = "" := (canon_blank f).mpr blank_empty
  unfold Doc.orElse
  split
  · next holds => exact .inl ⟨rfl,.inr (.inr (.inl holds))⟩
  · next falsy =>
      by_cases nothing : canon f d = ""
      · exact .inl ⟨empty.trans nothing.symm,.inr (.inr (.inr nothing))⟩
      · refine .inr ⟨empty,fun held => ?_⟩
        rcases held with texts | null | holds | blank
        · rw [other] at texts
          cases texts
        · rw [some_] at null
          cases null
        · exact falsy holds
        · exact nothing blank

theorem part_canon (d : Doc) : canon f ((text d).orElse (.str "")) = canon f d ∧ Held f d ∨
    canon f ((text d).orElse (.str "")) = "" ∧ ¬Held f d := by
  cases d with
  | str s =>
      refine .inl ⟨?_,.inl rfl⟩
      rw [text_stripped,canon_strip]
  | null => exact .inl ⟨rfl,.inr (.inl rfl)⟩
  | _ => exact other_canon f rfl rfl

def CountryHeld (d : Doc) : Prop :=
  match d with
  | .str s => Text.strip s ≠ "" → canon f (.str (env.upper (Text.strip s))) = canon f (.str s)
  | d => Held f d

theorem orElse_str (t : String) : (Doc.str t).orElse (.str "") = .str t := by
  unfold Doc.orElse
  by_cases blank : t = ""
  · rw [blank]
    rfl
  · exact if_pos (decide_eq_true blank)

theorem strip_blank {text : String} (blank : Blank text) : Text.strip text = "" := by
  unfold Text.strip
  rw [dropWhile_all blank]
  rfl

theorem ofText_other {get : String → Except Failure (Option String)} {d e : Doc}
    (other : d.string = none) (read_ : orBlank (ofText get d) = .ok e) : e = .str "" ∧ e = d.orElse (.str "") := by
  have falls : d.truthy = false → d.orElse (.str "") = .str "" := fun falsy => if_neg (Bool.eq_false_iff.mp falsy)
  cases d with
  | str s => cases other
  | _ =>
      unfold ofText at read_
      dsimp only at read_
      split at read_
      · cases read_
      · next falsy =>
          cases read_
          exact ⟨falls (Bool.eq_false_iff.mpr falsy),rfl⟩

theorem other_held {get : String → Except Failure (Option String)} {d e : Doc} (read_ : orBlank (ofText get d) = .ok e)
    (other : d.string = none) (some_ : d.isNull = false) : (canon f e = canon f d ↔ Held f d) ∧ canon f e = "" := by
  obtain ⟨set,kept⟩ := ofText_other other read_
  refine ⟨?_,set ▸ (canon_blank f).mpr blank_empty⟩
  rw [kept]
  rcases other_canon f other some_ with ⟨same,held⟩ | ⟨none_,lost⟩
  · exact iff_of_true same held
  · refine ⟨fun same => ?_,fun held => absurd held lost⟩
    exact absurd (.inr (.inr (.inr (same.symm.trans none_)))) lost

theorem country_canon {d e : Doc} (read_ : read env .country d = .ok e) : (canon f e = canon f d ↔ CountryHeld f d) ∧
    (canon f e = "" ∨ canon f d ≠ "" ∧ commas (canon f e) = commas (canon f d)) := by
  have empty : canon f (.str "") = "" := (canon_blank f).mpr blank_empty
  cases d with
  | str s =>
      cases read_
      unfold CountryHeld Imports.country Imports.text
      dsimp only
      by_cases blank : Text.strip s = ""
      · rw [if_pos blank]
        have same := canon_strip f s
        rw [blank,empty] at same
        exact ⟨iff_of_true (empty.trans same) fun some_ => absurd blank some_,.inl empty⟩
      · rw [if_neg blank]
        have set : (ofOption ((some (Text.strip s)).map env.upper)).orElse (.str "") = .str (env.upper (Text.strip s)) := orElse_str _
        rw [set]
        refine ⟨⟨fun same _ => same,fun held => held blank⟩,.inr ⟨fun nothing => ?_,?_⟩⟩
        · exact blank (strip_blank ((canon_blank f).mp nothing))
        · rw [← canon_strip f s]
          exact squeeze_count (by decide) (f.upper_commas _)
  | null =>
      cases read_
      exact ⟨iff_of_true rfl (.inr (.inl rfl)),.inl empty⟩
  | _ =>
      obtain ⟨exactly,gone⟩ := other_held f read_ rfl rfl
      exact ⟨exactly,.inl gone⟩

end canonical

section phone

variable {env : Environment} (f : Folding env)

def folded (c : Char) : List Char := ink env (f.nfkc (String.singleton c)).toList

theorem ink_blank (f : Folding env) {cs : List Char} (blank : ∀ c ∈ cs, Text.isBlank c = true) : ink env cs = [] := by
  refine List.filter_eq_nil_iff.mpr fun c there inked => ?_
  rcases Bool.or_eq_true_iff.mp inked with digit | plus
  · have dark := f.digit_solid c digit
    rw [blank c there] at dark
    cases dark
  · have dark := blank c there
    rw [of_decide_eq_true plus] at dark
    exact absurd dark (by decide)

theorem ink_strip (f : Folding env) (text : String) : ink env (Text.strip text).toList = ink env text.toList := by
  obtain ⟨before,after,front,back,whole⟩ := strip_parts text
  have parts := congrArg (fun text => ink env text.toList) whole
  unfold ink at parts ⊢
  rw [String.toList_append,String.toList_append,List.filter_append,List.filter_append] at parts
  have first := ink_blank f front
  have last := ink_blank f back
  unfold ink at first last
  rw [first,last,List.nil_append,List.append_nil] at parts
  exact parts.symm

theorem canonPhone_str (text : String) :
    canonPhone f (.str text) = String.ofList (dropPluses (text.toList.flatMap (folded f))) :=
  congrArg (fun cs => String.ofList (dropPluses cs)) (f.nfkc_ink text)

theorem canonPhone_empty : canonPhone f (.str "") = "" := by
  rw [canonPhone_str]
  rfl

theorem folded_plus : folded f '+' = ['+'] := by
  have plus : f.nfkc (String.singleton '+') = "+" := f.nfkc_plus
  unfold folded
  rw [plus]
  exact List.filter_cons_of_pos (Bool.or_true _)

theorem dropWhile_folded (cs : List Char) :
    (cs.flatMap (folded f)).dropWhile (· = '+') = ((cs.dropWhile (· = '+')).flatMap (folded f)).dropWhile (· = '+') := by
  induction cs with
  | nil => rfl
  | cons c rest ih =>
      by_cases plus : c = '+'
      · have drops : ∀ cs : List Char, ('+' :: cs).dropWhile (· = '+') = cs.dropWhile (· = '+') := fun cs => rfl
        rw [plus,List.flatMap_cons,folded_plus,List.singleton_append,drops,drops,ih]
      · have stays : (c :: rest).dropWhile (· = '+') = c :: rest := List.dropWhile_cons_of_neg fun same => plus (of_decide_eq_true same)
        rw [stays]

-- Of the pluses a number starts with one is enough.
theorem dropPluses_folded (cs : List Char) :
    dropPluses ((dropPluses cs).flatMap (folded f)) = dropPluses (cs.flatMap (folded f)) := by
  cases cs with
  | nil => rfl
  | cons c rest =>
      by_cases plus : c = '+'
      · rw [plus]
        have one : dropPluses ('+' :: rest) = '+' :: rest.dropWhile (· = '+') := rfl
        have start : ∀ cs, dropPluses ('+' :: cs) = '+' :: cs.dropWhile (· = '+') := fun cs => rfl
        rw [one,List.flatMap_cons,List.flatMap_cons,folded_plus,List.singleton_append,List.singleton_append,start,start,
          dropWhile_folded f rest]
      · have other : ¬(c :: rest).head? = some '+' := fun same => plus (Option.some.inj same)
        have kept : dropPluses (c :: rest) = c :: rest := if_neg other
        rw [kept]

-- The characters that the number's reading drops add nothing to it.
def PhoneHeld (d : Doc) : Prop :=
  match d with
  | .str s => dropPluses (s.toList.flatMap (folded f)) = dropPluses ((ink env s.toList).flatMap (folded f))
  | .null => True
  | d => canonPhone f d = ""

theorem number_read {s : String} {phone : Option String} (accepted : Imports.phoneE164 env.toValues s = .ok phone) :
    Text.strip s = "" ∧ phone = none ∨ phone = some (String.ofList (dropPluses (ink env (Text.strip s).toList))) := by
  have form : ∀ value, Text.strip s = value → value ≠ "" → Imports.phoneE164 env.toValues s =
      let cleaned := dropPluses (ink env value.toList)
      if cleaned.head? = some '+' ∧ 8 ≤ (cleaned.drop 1).length ∧ (cleaned.drop 1).length ≤ 15 ∧
        (cleaned.drop 1).all env.isDecimal then .ok (some (String.ofList cleaned)) else .error Imports.phoneError := by
    intro value is some_
    unfold Imports.phoneE164 Imports.text
    rw [is,if_neg some_]
    rfl
  by_cases blank : Text.strip s = ""
  · unfold Imports.phoneE164 Imports.text at accepted
    rw [if_pos blank] at accepted
    exact .inl ⟨blank,(Except.ok.inj accepted).symm⟩
  · rw [form _ rfl blank] at accepted
    generalize dropPluses (ink env (Text.strip s).toList) = cleaned at accepted ⊢
    dsimp only at accepted
    split at accepted
    · exact .inr (Except.ok.inj accepted).symm
    · cases accepted

theorem phone_read (f : Folding env) {s : String} {e : Doc} (read_ : read env .phoneE164 (.str s) = .ok e) :
    e = .str (String.ofList (dropPluses (ink env s.toList))) := by
  change orBlank (phoneE164 env (.str s)) = .ok e at read_
  unfold phoneE164 ofText at read_
  dsimp only at read_
  rw [← ink_strip f s]
  cases number : Imports.phoneE164 env.toValues s with
  | error message =>
      rw [number] at read_
      cases read_
  | ok phone =>
      rw [number] at read_
      have set := Except.ok.inj read_
      rcases number_read number with ⟨blank,none_⟩ | some_
      · rw [← set,none_,blank]
        rfl
      · rw [← set,some_]
        exact orElse_str _

theorem phone_canon {d e : Doc} (read_ : read env .phoneE164 d = .ok e) : canonPhone f e = canonPhone f d ↔ PhoneHeld f d := by
  cases d with
  | str s =>
      rw [phone_read f read_,canonPhone_str,canonPhone_str,String.toList_ofList,dropPluses_folded]
      exact ⟨fun same => (String.ofList_injective same).symm,fun same => congrArg String.ofList same.symm⟩
  | null =>
      cases read_
      exact iff_of_true rfl trivial
  | _ =>
      obtain ⟨set,_⟩ := ofText_other rfl read_
      rw [set,canonPhone_empty]
      exact ⟨fun same => same.symm,fun same => same.symm⟩

end phone

section digest

variable {env : Environment} (f : Folding env)

def parts (x : Components) : List String := [canon f x.name,address f x,canonPhone f x.phone]

theorem fingerprint_exact {x : Components} {key : String} : fingerprint f x = .ok key ↔
    canon f x.name ≠ "" ∧ f.sha256 ("\x1f".intercalate (parts f x)) = key := by
  unfold fingerprint
  by_cases blank : canon f x.name = ""
  · rw [if_pos blank]
    exact iff_of_false (fun done => by cases done) fun given => given.1 blank
  · rw [if_neg blank]
    exact ⟨fun done => ⟨blank,Except.ok.inj done⟩,fun given => congrArg Except.ok given.2⟩

theorem canon_plain (d : Doc) : '\x1f' ∉ (canon f d).toList :=
  fun there => absurd (squeeze_spaces _ _ there (by decide)) (by decide)

theorem dropPluses_sublist (cs : List Char) : (dropPluses cs).Sublist cs := by
  unfold dropPluses
  split
  · next plus =>
      cases cs with
      | nil => cases plus
      | cons c rest =>
          obtain rfl := Option.some.inj plus
          have tail : (rest.dropWhile (· = '+')).Sublist rest := (List.dropWhile_suffix _).sublist
          exact tail.cons_cons _
  · exact List.Sublist.refl _

theorem canonPhone_plain (d : Doc) : '\x1f' ∉ (canonPhone f d).toList := by
  unfold canonPhone
  rw [String.toList_ofList]
  intro there
  have inked := (List.mem_filter.mp ((dropPluses_sublist _).subset there)).2
  rcases Bool.or_eq_true_iff.mp inked with digit | plus
  · exact absurd (f.digit_solid _ digit) (by decide)
  · exact absurd (of_decide_eq_true plus) (by decide)

theorem parts_plain (x : Components) : ∀ part ∈ parts f x, '\x1f' ∉ part.toList := by
  refine List.forall_mem_cons.mpr ⟨canon_plain f _,List.forall_mem_cons.mpr ⟨?_,List.forall_mem_singleton.mpr (canonPhone_plain f _)⟩⟩
  refine joinParts_plain (by decide) fun part there => ?_
  rcases List.mem_append.mp there with front | last
  · obtain ⟨d,_,rfl⟩ := List.mem_map.mp (show part ∈ [x.addressLine1,x.locality,x.region,x.postalCode].map (canon f) from front)
    exact canon_plain f d
  · exact List.mem_singleton.mp last ▸ canon_plain f _

theorem fingerprints_exact {x y : Components} {key : String} (first : fingerprint f x = .ok key) :
    fingerprint f y = .ok key ↔
      canon f y.name = canon f x.name ∧ address f y = address f x ∧ canonPhone f y.phone = canonPhone f x.phone := by
  obtain ⟨named,digest⟩ := (fingerprint_exact f).mp first
  have apart : f.sha256 ("\x1f".intercalate (parts f y)) = key ↔ parts f y = parts f x := by
    refine Iff.trans ⟨fun same => f.injective _ _ (same.trans digest.symm),fun same => (congrArg f.sha256 same).trans digest⟩ ?_
    exact marked_exact (parts_plain f y) (parts_plain f x) (List.cons_ne_nil _ _) (List.cons_ne_nil _ _)
  rw [fingerprint_exact,apart]
  unfold parts
  rw [List.cons.injEq,List.cons.injEq,List.cons.injEq]
  constructor
  · intro same
    exact ⟨same.2.1,same.2.2.1,same.2.2.2.1⟩
  · intro same
    exact ⟨fun nothing => named (same.1.symm.trans nothing),same.1,same.2.1,same.2.2,rfl⟩

end digest

section stored

variable {env : Environment} (f : Folding env)

def rawDoc (payload : Fields) (c : Column) : Doc := (valueOf payload c).getD .null

def IsObject (payload : Fields) (key : String) : Prop :=
  ((payload.lookup key).getD .null).truthy = true → ∃ fields, payload.lookup key = some (.obj fields)

theorem objectOf_exact {payload fields : Fields} {key : String} :
    objectOf payload key = .ok fields ↔ IsObject payload key ∧ fields = objectAt payload key := by
  unfold objectOf IsObject objectAt
  cases held : payload.lookup key with
  | none =>
      refine ⟨fun done => ⟨fun solid => ?_,(Except.ok.inj done).symm⟩,fun given => congrArg Except.ok given.2.symm⟩
      cases solid
  | some d =>
      cases d with
      | obj found => exact ⟨fun done => ⟨fun _ => ⟨_,rfl⟩,(Except.ok.inj done).symm⟩,fun given => congrArg Except.ok given.2.symm⟩
      | _ =>
          dsimp only [Option.getD_some]
          split
          · next solid =>
              refine iff_of_false (fun done => by cases done) fun given => ?_
              obtain ⟨_,same⟩ := given.1 solid
              cases same
          · next falsy =>
              exact ⟨fun done => ⟨fun solid => absurd solid falsy,(Except.ok.inj done).symm⟩,
                fun given => congrArg Except.ok given.2.symm⟩

theorem rawComponents_exact {payload : Fields} {x : Components} : rawComponents payload = .ok x ↔
    (IsObject payload "location" ∧ IsObject payload "contact") ∧ x = componentsOf (rawDoc payload) := by
  constructor
  · intro done
    obtain ⟨loc,located,done⟩ := Fallible.bind_exact.mp done
    obtain ⟨contact,contacted,done⟩ := Fallible.bind_exact.mp done
    obtain ⟨location,rfl⟩ := objectOf_exact.mp located
    obtain ⟨contact,rfl⟩ := objectOf_exact.mp contacted
    exact ⟨⟨location,contact⟩,(Except.ok.inj done).symm⟩
  · intro given
    obtain ⟨⟨location,contact⟩,rfl⟩ := given
    refine Fallible.bind_exact.mpr ⟨_,objectOf_exact.mpr ⟨location,rfl⟩,?_⟩
    exact Fallible.bind_exact.mpr ⟨_,objectOf_exact.mpr ⟨contact,rfl⟩,rfl⟩

theorem rawFingerprint_exact {payload : Fields} {key : String} : rawFingerprint f payload = .ok key ↔
    (IsObject payload "location" ∧ IsObject payload "contact") ∧ fingerprint f (componentsOf (rawDoc payload)) = .ok key := by
  constructor
  · intro done
    obtain ⟨x,read_,digest⟩ := Fallible.bind_exact.mp done
    obtain ⟨objects,rfl⟩ := rawComponents_exact.mp read_
    exact ⟨objects,digest⟩
  · intro given
    exact Fallible.bind_exact.mpr ⟨_,rawComponents_exact.mpr ⟨given.1,rfl⟩,given.2⟩

variable {r : Request} {newId : ListingId} {o : Object}

theorem stored {c : Column} (given : Applied env r true (newListing r newId) o) (other : c ≠ .geoPrecision) :
    (∃ d, valueOf r.payload c = some d ∧ read env c d = .ok (o.texts c)) ∨ valueOf r.payload c = none ∧ o.texts c = .str "" := by
  have assigned := given.texts c other
  unfold assign at assigned
  cases held : valueOf r.payload c with
  | some d =>
      rw [held] at assigned
      exact .inl ⟨d,rfl,assigned⟩
  | none =>
      rw [held] at assigned
      have blank : (newListing r newId).texts c = .str "" := if_neg other
      exact .inr ⟨rfl,(Except.ok.inj assigned).symm.trans blank⟩

def addressParts : List Column := [.addressLine1,.locality,.region,.postalCode]

theorem part_read {c : Column} {d e : Doc} (part : c ∈ addressParts) (read_ : read env c d = .ok e) : e = (text d).orElse (.str "") := by
  cases c with
  | addressLine1 | locality | region | postalCode => exact (Except.ok.inj read_).symm
  | _ => exact absurd part (by decide)

theorem part_stored {c : Column} (given : Applied env r true (newListing r newId) o) (part : c ∈ addressParts) :
    (canon f (o.texts c) = canon f (rawDoc r.payload c) ↔ Held f (rawDoc r.payload c)) ∧
      (canon f (o.texts c) = canon f (rawDoc r.payload c) ∨ canon f (o.texts c) = "") := by
  have other : c ≠ .geoPrecision := fun same => absurd part (same ▸ by decide)
  unfold rawDoc
  rcases stored given other with ⟨d,held,read_⟩ | ⟨none_,blank⟩
  · rw [held,part_read part read_,Option.getD_some]
    rcases part_canon f d with ⟨same,kept⟩ | ⟨gone,lost⟩
    · exact ⟨iff_of_true same kept,.inl same⟩
    · refine ⟨⟨fun same => .inr (.inr (.inr (same.symm.trans gone))),fun kept => absurd kept lost⟩,.inr gone⟩
  · rw [none_,blank]
    exact ⟨iff_of_true rfl (.inr (.inl rfl)),.inl rfl⟩

theorem country_stored (given : Applied env r true (newListing r newId) o) :
    (canon f (o.texts .country) = canon f (rawDoc r.payload .country) ↔ CountryHeld f (rawDoc r.payload .country)) ∧
      (canon f (o.texts .country) = "" ∨ canon f (rawDoc r.payload .country) ≠ "" ∧
        commas (canon f (o.texts .country)) = commas (canon f (rawDoc r.payload .country))) := by
  unfold rawDoc
  rcases stored given (c := .country) (by decide) with ⟨d,held,read_⟩ | ⟨none_,blank⟩
  · rw [held,Option.getD_some]
    exact country_canon f read_
  · rw [none_,blank]
    exact ⟨iff_of_true rfl (.inr (.inl rfl)),.inl ((canon_blank f).mpr blank_empty)⟩

theorem phone_stored (given : Applied env r true (newListing r newId) o) :
    canonPhone f (o.texts .phoneE164) = canonPhone f (rawDoc r.payload .phoneE164) ↔ PhoneHeld f (rawDoc r.payload .phoneE164) := by
  unfold rawDoc
  rcases stored given (c := .phoneE164) (by decide) with ⟨d,held,read_⟩ | ⟨none_,blank⟩
  · rw [held,Option.getD_some]
    exact phone_canon f read_
  · rw [none_,blank]
    exact iff_of_true rfl trivial

theorem name_stored (given : Applied env r true (newListing r newId) o) (named : (rawDoc r.payload .name).truthy = true) :
    canon f (o.texts .name) = canon f (rawDoc r.payload .name) ∧ canon f (o.texts .name) ≠ "" ∧
      (text (rawDoc r.payload .name)).truthy = true := by
  unfold rawDoc at named ⊢
  rcases stored given (c := .name) (by decide) with ⟨d,held,read_⟩ | ⟨none_,_⟩
  · rw [held,Option.getD_some]
    change readName d = .ok (o.texts .name) at read_
    unfold readName at read_
    split at read_
    · next solid =>
        have set := Except.ok.inj read_
        rw [← set]
        cases d with
        | str s =>
            have whole : text (.str s) = .str (Text.strip s) := (if_pos solid).symm.trans (text_stripped s)
            refine ⟨whole ▸ canon_strip f s,fun nothing => ?_,solid⟩
            rw [whole,canon_strip] at nothing
            rw [whole,strip_blank ((canon_blank f).mp nothing)] at solid
            cases solid
        | null => cases solid
        | _ => exact ⟨rfl,fun nothing => f.str_solid _ solid rfl ((canon_blank f).mp nothing),solid⟩
    · cases read_
  · rw [none_] at named
    cases named

-- What of a payload makes its fingerprint the stored one.
structure Survives (payload : Fields) : Prop where
  location : IsObject payload "location"
  contact : IsObject payload "contact"
  parts : ∀ c ∈ addressParts, Held f (rawDoc payload c)
  country : CountryHeld f (rawDoc payload .country)
  phone : PhoneHeld f (rawDoc payload .phoneE164)

-- The address leaves out what is blank, yet no two lists of parts that a payload can
-- lead to make one text.
theorem address_stored (given : Applied env r true (newListing r newId) o) :
    address f (componentsOf o.texts) = address f (componentsOf (rawDoc r.payload)) ↔
      (∀ c ∈ addressParts, Held f (rawDoc r.payload c)) ∧ CountryHeld f (rawDoc r.payload .country) := by
  have less : List.Forall₂ (fun x y => y = x ∨ y = "") (addressParts.map fun c => canon f (rawDoc r.payload c))
      (addressParts.map fun c => canon f (o.texts c)) := by
    refine List.forall₂_map_left_iff.mpr (List.forall₂_map_right_iff.mpr (List.forall₂_same.mpr fun c part => ?_))
    exact (part_stored f given part).2
  obtain ⟨country,lighter⟩ := country_stored f given
  refine (Iff.trans eq_comm (join_exact less lighter)).trans (and_congr ?_ country)
  refine List.map_inj_left.trans ?_
  exact forall_congr' fun c => forall_congr' fun part => (part_stored f given part).1

theorem fingerprint_stored (given : Applied env r true (newListing r newId) o) (named : (rawDoc r.payload .name).truthy = true) :
    ∃ key, fingerprint f (componentsOf o.texts) = .ok key ∧ (rawFingerprint f r.payload = .ok key ↔ Survives f r.payload) := by
  obtain ⟨name,solid,_⟩ := name_stored f given named
  have digest := (fingerprint_exact f (x := componentsOf o.texts)).mpr ⟨solid,rfl⟩
  refine ⟨_,digest,(rawFingerprint_exact f).trans ?_⟩
  rw [fingerprints_exact f digest]
  constructor
  · intro same
    obtain ⟨⟨location,contact⟩,_,where_,phone⟩ := same
    obtain ⟨parts,country⟩ := (address_stored f given).mp where_.symm
    exact ⟨location,contact,parts,country,(phone_stored f given).mp phone.symm⟩
  · intro survives
    refine ⟨⟨survives.location,survives.contact⟩,name.symm,?_,?_⟩
    · exact ((address_stored f given).mpr ⟨survives.parts,survives.country⟩).symm
    · exact ((phone_stored f given).mpr survives.phone).symm

theorem cell_parts {c : Column} {d : Doc} (admitted : c.refuses env d = none) :
    ∃ after, Blank after ∧ shown env d = c.cell env d ++ after := by
  have plain : shown env d = env.plain d := by
    cases d with
    | null => cases admitted
    | _ => rfl
  rw [plain]
  unfold Column.refuses at admitted
  unfold Column.cell
  split at admitted
  · cases admitted
  · cases limit : c.width with
    | none => exact ⟨"",blank_empty,String.append_empty.symm⟩
    | some width =>
        rw [limit] at admitted
        dsimp only [Option.map_some,Option.getD_some] at admitted
        split at admitted
        · next spaces =>
            refine ⟨String.ofList ((env.plain d).toList.drop width),?_,?_⟩
            · intro ch there
              rw [String.toList_ofList] at there
              rw [of_decide_eq_true (List.all_eq_true.mp spaces ch there)]
              rfl
            · rw [← String.ofList_append,List.take_append_drop,String.ofList_toList]
        · cases admitted

theorem folded_blank {text : String} (blank : Blank text) : text.toList.flatMap (folded f) = [] := by
  refine List.flatMap_eq_nil_iff.mpr fun c there => ink_blank f ((f.nfkc_blank _).mpr fun ch mine => ?_)
  rw [String.toList_singleton] at mine
  exact List.mem_singleton.mp mine ▸ blank c there

theorem cell_canon {c : Column} {d : Doc} (admitted : c.refuses env d = none) :
    canon f (.str (c.cell env d)) = canon f d ∧ canonPhone f (.str (c.cell env d)) = canonPhone f d := by
  obtain ⟨after,blank,whole⟩ := cell_parts admitted
  have texts : canon f d = canon f (.str (shown env d)) := by cases d <;> rfl
  have phones : canonPhone f d = canonPhone f (.str (shown env d)) := by cases d <;> rfl
  rw [texts,phones,whole]
  constructor
  · have same : canon f (.str ("" ++ c.cell env d ++ after)) = _ := canon_around f blank_empty blank
    rw [String.empty_append] at same
    exact same.symm
  · rw [canonPhone_str,canonPhone_str,String.toList_append,List.flatMap_append,folded_blank f blank,List.append_nil]

theorem row_fingerprint {row : Row} (saved : saveRow env o = .ok row) : rowFingerprint f row = fingerprint f (componentsOf o.texts) := by
  obtain ⟨admitted,_,_,_,rfl⟩ := saveRow_exact.mp saved
  have same := fun c => cell_canon f (admitted c)
  have name : canon f (.str (Column.cell env .name (o.texts .name))) = canon f (o.texts .name) := (same .name).1
  unfold rowFingerprint fingerprint address componentsOf rowOf
  dsimp only
  rw [name,(same .addressLine1).1,(same .locality).1,(same .region).1,(same .postalCode).1,(same .country).1,(same .phoneE164).2]

theorem objectOf_error {payload : Fields} {key : String} {failure : KeyError} (refused : objectOf payload key = .error failure) :
    failure = .badType := by
  unfold objectOf at refused
  split at refused
  · cases refused
  · split at refused
    · exact (Except.error.inj refused).symm
    · cases refused

theorem rawFingerprint_error {payload : Fields} {key : String} : rawFingerprint f payload ≠ .error (.suppressed key) := by
  intro refused
  rcases Fallible.bind_error.mp refused with first | ⟨x,_,digest⟩
  · rcases Fallible.bind_error.mp first with location | ⟨loc,_,rest⟩
    · cases objectOf_error location
    · rcases Fallible.bind_error.mp rest with contact | ⟨_,_,done⟩
      · cases objectOf_error contact
      · cases done
  · unfold fingerprint at digest
    split at digest
    · cases digest
    · cases digest

theorem checkSuppressed_exact {payload : Fields} {key : String} {keys : String → Bool} (named : (text (rawDoc payload .name)).truthy = true)
    (listed : keys key = true) : checkSuppressed f keys payload = .error (.suppressed key) ↔ rawFingerprint f payload = .ok key := by
  have checked : checkSuppressed f keys payload =
      (rawFingerprint f payload >>= fun found => if keys found then .error (.suppressed found) else pure ()) :=
    if_neg fun blank => blank named
  rw [checked,Fallible.bind_error]
  constructor
  · intro refused
    obtain ⟨found,digest,known⟩ := refused.resolve_left (rawFingerprint_error f)
    split at known
    · exact (KeyError.suppressed.inj (Except.error.inj known)) ▸ digest
    · cases known
  · intro digest
    exact .inr ⟨key,digest,if_pos listed⟩

-- The key that a deletion leaves is the one its payload is checked for.
theorem suppression_exact (named : (rawDoc r.payload .name).truthy = true) (applied : applyPayload env r true (newListing r newId) = .ok o) :
    ∃ key, fingerprint f (componentsOf o.texts) = .ok key ∧ (rawFingerprint f r.payload = .ok key ↔ Survives f r.payload) ∧
      (∀ row, saveRow env o = .ok row → rowFingerprint f row = .ok key) ∧
      (∀ keys : String → Bool, keys key = true →
        (checkSuppressed f keys r.payload = .error (.suppressed key) ↔ Survives f r.payload)) ∧
      ∀ x y k, fingerprint f x = .ok k → fingerprint f y = .ok k →
        canon f y.name = canon f x.name ∧ address f y = address f x ∧ canonPhone f y.phone = canonPhone f x.phone := by
  have given := applyPayload_exact.mp applied
  obtain ⟨key,digest,exactly⟩ := fingerprint_stored f given named
  refine ⟨key,digest,exactly,fun row saved => (row_fingerprint f saved).trans digest,?_,
    fun x y k first second => (fingerprints_exact f first).mp second⟩
  intro keys listed
  exact (checkSuppressed_exact f (name_stored f given named).2.2 listed).trans exactly

end stored

section runs

def asPrinted : Environment := {asRead with str := fun _ => "True"}

def baseDigit (c : Char) : Char := if c = '²' then '2' else c

def eachChar (g : Char → Char) (text : String) : String := String.ofList (text.toList.map g)

theorem eachChar_append (g : Char → Char) (a b : String) : eachChar g (a ++ b) = eachChar g a ++ eachChar g b := by
  unfold eachChar
  rw [String.toList_append,List.map_append,String.ofList_append]

theorem eachChar_blank {g : Char → Char} (kept : ∀ c, Text.isBlank (g c) = Text.isBlank c) (text : String) :
    Blank (eachChar g text) ↔ Blank text := by
  unfold Blank eachChar
  rw [String.toList_ofList,List.forall_mem_map]
  exact forall_congr' fun c => imp_congr_right fun _ => (kept c) ▸ Iff.rfl

theorem solid_between {c : Char} (above : 0x20 < c.toNat) (below : c.toNat < 0x85) : Text.isBlank c = false := by
  have apart : ∀ n ∈ Text.blanks, ¬(0x20 < n ∧ n < 0x85) := by decide
  exact decide_eq_false fun blank => apart _ blank ⟨above,below⟩

theorem digit_solid {c : Char} (digit : c.isDigit = true) : Text.isBlank c = false := by
  obtain ⟨above,below⟩ := Bool.and_eq_true_iff.mp digit
  have low : 48 ≤ c.toNat := UInt32.le_iff_toNat_le.mp (of_decide_eq_true above)
  have high : c.toNat ≤ 57 := UInt32.le_iff_toNat_le.mp (of_decide_eq_true below)
  exact solid_between (by omega) (by omega)

theorem toLower_blank (c : Char) : Text.isBlank c.toLower = Text.isBlank c := by
  unfold Char.toLower
  split
  · next capital =>
      have low : 65 ≤ c.toNat := UInt32.le_iff_toNat_le.mp capital.1
      have high : c.toNat ≤ 90 := UInt32.le_iff_toNat_le.mp capital.2
      have moved : (c.val + ('a'.val - 'A'.val)).toNat = c.toNat + 32 := by
        rw [UInt32.toNat_add]
        exact Nat.mod_eq_of_lt (by show c.toNat + 32 < 2 ^ 32; omega)
      have letter : Text.isBlank c = false := solid_between (by omega) (by omega)
      have above : 0x20 < (c.val + ('a'.val - 'A'.val)).toNat := by omega
      have below : (c.val + ('a'.val - 'A'.val)).toNat < 0x85 := by omega
      rw [letter]
      exact solid_between above below
  · rfl

def asFolded : Folding asPrinted where
  nfkc := eachChar baseDigit
  casefold := eachChar Char.toLower
  sha256 text := text
  injective _ _ same := same
  nfkc_apart before text after _ _ := by rw [eachChar_append,eachChar_append]
  nfkc_blank := eachChar_blank fun c => by
    unfold baseDigit
    split
    · next two => rw [two]; rfl
    · rfl
  casefold_append := eachChar_append _
  casefold_blank := eachChar_blank toLower_blank
  upper_commas _ := rfl
  digit_solid _ := digit_solid
  nfkc_ink text := by
    unfold eachChar ink
    rw [String.toList_ofList]
    induction text.toList with
    | nil => rfl
    | cons c rest ih =>
        rw [List.map_cons,List.flatMap_cons,← ih,String.toList_ofList,String.toList_singleton,List.map_singleton,← List.filter_append,
          List.singleton_append]
  nfkc_plus := by decide
  str_solid _ _ _ blank := by
    have start : Text.isBlank 'T' = true := blank 'T' (by decide : 'T' ∈ "True".toList)
    exact absurd start (by decide)

def hoffman (phone : String) : Request :=
  request [("slug",.str "hoffman"),("name",.str " Hoffman  Plumbing"),
    ("location",.obj [("address_line1",.str "123 Main St"),("locality",.null),("country",.str "US")]),
    ("contact",.obj [("phone_e164",.str phone)])]

def made (phone : String) : Except Failure Object := applyPayload asPrinted (hoffman phone) true (newListing (hoffman phone) "lst_1")

theorem hoffman_recognised : ∃ o key, made "+1 (773) 555-0142" = .ok o ∧ fingerprint asFolded (componentsOf o.texts) = .ok key ∧
    checkSuppressed asFolded (· = key) (hoffman "+1 (773) 555-0142").payload = .error (.suppressed key) := by
  have accepted : (made "+1 (773) 555-0142").toOption.isSome = true := by decide +kernel
  obtain ⟨o,found⟩ := Option.isSome_iff_exists.mp accepted
  have applied := Fallible.of_toOption found
  obtain ⟨key,digest,_,_,recognised,_⟩ := suppression_exact asFolded rfl applied
  refine ⟨o,key,applied,digest,(recognised _ (decide_eq_true rfl)).mpr ⟨fun _ => ⟨_,rfl⟩,fun _ => ⟨_,rfl⟩,?_,?_,?_⟩⟩
  · refine List.forall_mem_cons.mpr ⟨.inl rfl,List.forall_mem_cons.mpr ⟨.inr (.inl rfl),?_⟩⟩
    exact List.forall_mem_cons.mpr ⟨.inr (.inl rfl),List.forall_mem_singleton.mpr (.inr (.inl rfl))⟩
  · exact fun _ => canon_strip asFolded "US"
  · show dropPluses _ = dropPluses _
    decide +kernel

def keyStored : String := "hoffman plumbing\x1f123 main st, us\x1f+17735550142"

-- The number's reading drops the mark of a footnote, which the normal form makes a digit.
theorem footnote_fails : ∃ o, made "+1 (773) 555-0142²" = .ok o ∧ fingerprint asFolded (componentsOf o.texts) = .ok keyStored ∧
    rawFingerprint asFolded (hoffman "+1 (773) 555-0142²").payload = .ok "hoffman plumbing\x1f123 main st, us\x1f+177355501422" ∧
      checkSuppressed asFolded (· = keyStored) (hoffman "+1 (773) 555-0142²").payload = .ok () := by
  have accepted : ((made "+1 (773) 555-0142²").toOption.bind fun o => (fingerprint asFolded (componentsOf o.texts)).toOption) =
      some keyStored := by decide +kernel
  obtain ⟨o,found,key⟩ := Option.bind_eq_some_iff.mp accepted
  exact ⟨o,Fallible.of_toOption found,Fallible.of_toOption key,Fallible.of_toOption (by decide +kernel),
    Fallible.of_toOption (by decide +kernel)⟩

end runs

end Osds.Directory.Suppression
