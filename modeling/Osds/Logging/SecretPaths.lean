import Osds.Lib.Substitution
import Mathlib.Data.List.TakeWhile
import Mathlib.Tactic.IntervalCases

namespace Osds.Logging
open Substitution

def urlSafe (c : Char) : Bool := c.isAlphanum || c = '_' || c = '-'

def secretPaths : List (List Char) :=
  [['/','o','w','n','e','r','/','s','i','g','n','i','n','/'],['/','i','n','v','i','t','e','/']]

def maskText : List Char := ['[','m','a','s','k','e','d',']']

-- _SECRET_PATHS at the head of a text: a path, and all that is safe behind it.
def secretPath (text : List Char) : Option (Match Char) :=
  (secretPaths.find? (·.isPrefixOf text)).bind fun path =>
    let run := ((text.drop path.length).takeWhile urlSafe).length
    if 20 ≤ run then some ⟨path ++ maskText,path.length+run⟩ else none

def maskSecretPaths (text : List Char) : List Char := sub secretPath 0 text

section records

variable {Args Other : Type}

structure LogRecord (Args : Type) where
  msg : List Char
  args : Option Args

-- `msg % args`, none where the two do not fit
variable (interpolate : List Char → Args → Option (List Char))

def getMessage (record : LogRecord Args) : Option (List Char) :=
  match record.args with
  | none => some record.msg
  | some args => interpolate record.msg args

def filter (record : LogRecord Args) : Bool × LogRecord Args :=
  match getMessage interpolate record with
  | none => (true,record)
  | some message =>
      let masked := maskSecretPaths message
      (true,if masked ≠ message then ⟨masked,none⟩ else record)

inductive Atom (Other : Type)
  | text (value : List Char)
  | other (value : Other)

def atoms (given : List (String × Atom Other)) : List (String × Atom Other) :=
  given.map fun (key,value) => (key,match value with
    | .text value => .text (maskSecretPaths value)
    | .other value => .other value)

end records

structure SecretLink where
  path : List Char
  token : List Char
  known : path ∈ secretPaths
  long : 20 ≤ token.length
  safe : ∀ c ∈ token, urlSafe c = true

def SecretLink.text (link : SecretLink) : List Char := link.path ++ link.token

-- Nothing more of a token that ends here.
def Closed (text : List Char) : Prop := ∀ c rest, text = c :: rest → urlSafe c = false

def line : List (List Char × SecretLink) → List Char → List Char
  | [],tail => tail
  | (before,link) :: rest,tail => before ++ (link.text ++ line rest tail)

def Parted : List (List Char × SecretLink) → List Char → Prop
  | [],_ => True
  | _ :: rest,tail => Closed (line rest tail) ∧ Parted rest tail

def shown : List (List Char × List Char) → List Char → List Char
  | [],tail => maskSecretPaths tail
  | (before,path) :: rest,tail => maskSecretPaths before ++ (path ++ (maskText ++ shown rest tail))

def outline (pieces : List (List Char × SecretLink)) : List (List Char × List Char) :=
  pieces.map fun (before,link) => (before,link.path)

section matches_

theorem run_closed {token rest : List Char} (safe : ∀ c ∈ token, urlSafe c = true) (closed : Closed rest) :
    (token ++ rest).takeWhile urlSafe = token := by
  rw [List.takeWhile_append_of_pos safe]
  cases rest with
  | nil => simp
  | cons c rest => simp [closed c rest rfl]

theorem find_path {path rest : List Char} (known : path ∈ secretPaths) :
    secretPaths.find? (·.isPrefixOf (path ++ rest)) = some path := by
  simp only [secretPaths,List.mem_cons,List.not_mem_nil,or_false] at known
  rcases known with rfl | rfl <;> rfl

theorem secretPath_link (link : SecretLink) (closed : Closed rest) :
    secretPath (link.text ++ rest) = some ⟨link.path ++ maskText,link.text.length⟩ := by
  unfold secretPath SecretLink.text
  rw [List.append_assoc,find_path link.known]
  simp [run_closed link.safe closed,link.long]

theorem secretPath_found (here : secretPath text = some m) :
    ∃ link rest, text = SecretLink.text link ++ rest ∧ m = ⟨link.path ++ maskText,link.text.length⟩ := by
  obtain ⟨path,first,made⟩ := Option.bind_eq_some_iff.mp here
  have starts : path <+: text := by simpa using List.find?_some first
  obtain ⟨rest,rfl⟩ := starts
  have known := List.mem_of_find?_eq_some first
  rw [List.drop_left] at made
  by_cases long : 20 ≤ (rest.takeWhile urlSafe).length
  · simp only [if_pos long,Option.some.injEq] at made
    refine ⟨⟨path,rest.takeWhile urlSafe,known,long,fun c there => List.mem_takeWhile_imp there⟩,rest.dropWhile urlSafe,?_,?_⟩
    · simp [SecretLink.text,List.takeWhile_append_dropWhile]
    · simp [SecretLink.text,← made]
  · simp [if_neg long] at made

theorem path_length (known : path ∈ secretPaths) : 8 ≤ path.length ∧ path.length ≤ 14 := by
  simp only [secretPaths,List.mem_cons,List.not_mem_nil,or_false] at known
  rcases known with rfl | rfl <;> decide

theorem secretPath_fits : Fits secretPath := by
  intro text m here
  obtain ⟨link,rest,rfl,rfl⟩ := secretPath_found here
  have long := path_length link.known
  simp only [SecretLink.text,List.length_append]
  omega

theorem secretPath_fenced : Fenced secretPath '[' ']' := by
  constructor
  · intro text m here
    obtain ⟨link,rest,rfl,rfl⟩ := secretPath_found here
    exact ⟨link.path,maskText.tail,rfl,⟨link.token ++ rest,by simp [SecretLink.text]⟩⟩
  · intro text m here
    obtain ⟨link,rest,rfl,rfl⟩ := secretPath_found here
    exact ⟨link.path ++ maskText.dropLast,by simp [maskText]⟩

-- A path that is broken off by another holds no run that is long enough.
theorem broken_path {path next : List Char} (known : path ∈ secretPaths) (other : next ∈ secretPaths) (rest : List Char)
    (some_ : 0 < k) (broken : k < path.length) : secretPath (path.take k ++ (next ++ rest)) = none := by
  simp only [secretPaths,List.mem_cons,List.not_mem_nil,or_false] at known other
  rcases known with rfl | rfl <;> rcases other with rfl | rfl <;> simp only [List.length_cons,List.length_nil] at broken <;>
    interval_cases k <;> simp [secretPath,secretPaths,urlSafe]

theorem secretPath_apart {text next : List Char} (some_ : text ≠ []) (other : next ∈ secretPaths) (rest : List Char) :
    secretPath (text ++ (next ++ rest)) = secretPath text := by
  obtain ⟨behind,slash⟩ : ∃ behind, next = '/' :: behind := by
    simp only [secretPaths,List.mem_cons,List.not_mem_nil,or_false] at other
    rcases other with rfl | rfl <;> exact ⟨_,rfl⟩
  by_cases starts : ∃ path ∈ secretPaths, path <+: text
  · obtain ⟨path,known,after,rfl⟩ := starts
    unfold secretPath
    rw [List.append_assoc,find_path known,find_path known]
    have run : (after ++ (next ++ rest)).takeWhile urlSafe = after.takeWhile urlSafe := by
      rw [slash,List.takeWhile_append]
      split
      · next whole => simp [show urlSafe '/' = false from rfl,List.IsPrefix.eq_of_length (List.takeWhile_prefix _) whole]
      · rfl
    simp [run]
  · have alone : secretPath text = none := by
      unfold secretPath
      rw [List.find?_eq_none.mpr fun path known here => starts ⟨path,known,List.isPrefixOf_iff_prefix.mp here⟩]
      rfl
    rw [alone]
    cases here : secretPath (text ++ (next ++ rest)) with
    | none => rfl
    | some m =>
        obtain ⟨link,after,same,_⟩ := secretPath_found here
        rw [SecretLink.text,List.append_assoc] at same
        rcases List.append_eq_append_iff.mp same with ⟨more,path,_⟩ | ⟨more,whole,_⟩
        · cases more with
          | nil => exact absurd ⟨link.path,link.known,by simp [path]⟩ starts
          | cons c more =>
              have cut : link.path.take text.length = text := by simp [path]
              have none_ := broken_path link.known other rest (k := text.length) (List.length_pos_iff.mpr some_) (by simp [path])
              rw [cut,here] at none_
              cases none_
        · exact absurd ⟨link.path,link.known,⟨more,whole.symm⟩⟩ starts

end matches_

def Bare (text : List Char) : Prop := ∀ link : SecretLink, ¬link.text <:+: text

section masked

theorem mask_link (before : List Char) (link : SecretLink) (closed : Closed after) : maskSecretPaths (before ++ (link.text ++ after)) =
    maskSecretPaths before ++ (link.path ++ (maskText ++ maskSecretPaths after)) := by
  unfold maskSecretPaths
  have apart : ∀ text, text ≠ [] → text <:+ before → secretPath (text ++ (link.text ++ after)) = secretPath text := by
    intro text some_ _
    rw [SecretLink.text,List.append_assoc]
    exact secretPath_apart some_ link.known _
  rw [sub_append secretPath_fits apart,sub_found secretPath_fits (secretPath_link link closed)]
  simp

theorem mask_line (pieces : List (List Char × SecretLink)) (tail : List Char) (parted : Parted pieces tail) :
    maskSecretPaths (line pieces tail) = shown (outline pieces) tail := by
  induction pieces with
  | nil => rfl
  | cons piece rest ih =>
      obtain ⟨before,link⟩ := piece
      obtain ⟨closed,parted⟩ := parted
      simp only [line,outline,List.map_cons,shown,mask_link before link closed,ih parted]

theorem secretPath_bare (bare : Bare text) (place : List Char) (within : place <:+ text) : secretPath place = none := by
  cases here : secretPath place with
  | none => rfl
  | some m =>
      obtain ⟨link,rest,rfl,_⟩ := secretPath_found here
      exact absurd ((List.prefix_append ..).isInfix.trans within.isInfix) (bare link)

theorem secretPath_starts (link : SecretLink) (starts : link.text <+: place) : secretPath place ≠ none := by
  obtain ⟨rest,rfl⟩ := starts
  have run : link.token.length ≤ ((link.token ++ rest).takeWhile urlSafe).length := by
    rw [List.takeWhile_append_of_pos link.safe,List.length_append]
    omega
  unfold secretPath SecretLink.text
  rw [List.append_assoc,find_path link.known]
  have long := link.long
  simp only [Option.bind_some,List.drop_left]
  rw [if_pos (by omega)]
  simp

theorem link_unfenced (link : SecretLink) (c : Char) (there : c ∈ link.text) : c ≠ '[' ∧ c ≠ ']' := by
  rcases List.mem_append.mp there with path | token
  · have known := link.known
    simp only [secretPaths,List.mem_cons,List.not_mem_nil,or_false] at known
    constructor <;> rintro rfl <;> rcases known with known | known <;> simp [known] at path
  · have safe := link.safe c token
    constructor <;> rintro rfl <;> simp [urlSafe] at safe

theorem mask_bare (text : List Char) : Bare (maskSecretPaths text) := by
  intro link there
  have long := link.long
  have path := path_length link.known
  have some_ : link.text ≠ [] := by
    intro empty
    have none_ := congrArg List.length empty
    simp only [SecretLink.text,List.length_append,List.length_nil] at none_
    omega
  have out := fun there => (link_unfenced link '[' there).1 rfl
  have ends := fun there => (link_unfenced link ']' there).2 rfl
  rcases sub_occurs secretPath_fits secretPath_fenced some_ out ends there with ⟨place,_,none_,starts⟩ | ⟨place,m,_,here,inside⟩
  · exact secretPath_starts link starts none_
  · obtain ⟨other,rest,_,rfl⟩ := secretPath_found here
    have short := inside.length_le
    have most := path_length other.known
    simp only [SecretLink.text,maskText,List.length_append,List.length_cons,List.length_nil] at short
    omega

theorem mask_plain (bare : Bare text) : maskSecretPaths text = text :=
  sub_none fun place within _ => secretPath_bare bare place within

theorem mask_mask (text : List Char) : maskSecretPaths (maskSecretPaths text) = maskSecretPaths text :=
  mask_plain (mask_bare text)

theorem filter_message (interpolate : List Char → Args → Option (List Char)) (record : LogRecord Args) :
    getMessage interpolate (filter interpolate record).2 = (getMessage interpolate record).map maskSecretPaths := by
  unfold filter
  cases message : getMessage interpolate record with
  | none => simpa using message
  | some message' =>
      dsimp only
      split
      · rfl
      · next same => rw [message,Option.map_some,not_not.mp same]

theorem filter_plain {interpolate : List Char → Args → Option (List Char)} {record : LogRecord Args}
    (rendered : getMessage interpolate record = some message) (same : maskSecretPaths message = message) :
    filter interpolate record = (true,record) := by
  unfold filter
  rw [rendered]
  simp [same]

theorem filter_filter (interpolate : List Char → Args → Option (List Char)) (record : LogRecord Args) :
    filter interpolate (filter interpolate record).2 = (true,(filter interpolate record).2) := by
  have after := filter_message interpolate record
  cases message : getMessage interpolate record with
  | none =>
      have still : filter interpolate record = (true,record) := by unfold filter; rw [message]
      rw [still]
      exact still
  | some message' =>
      rw [message] at after
      exact filter_plain after (mask_mask message')

end masked

-- No record that leaves the filter and no atom of the access log holds a
-- credential; records that differ in credentials alone become the same.
theorem credentials_masked (interpolate : List Char → Args → Option (List Char)) (record other : LogRecord Args)
    (given : List (String × Atom Other)) :
    ((filter interpolate record).1 = true ∧
        getMessage interpolate (filter interpolate record).2 = (getMessage interpolate record).map maskSecretPaths ∧
        filter interpolate (filter interpolate record).2 = (true,(filter interpolate record).2)) ∧
      (∀ message, getMessage interpolate (filter interpolate record).2 = some message → Bare message) ∧
      (∀ message, getMessage interpolate record = some message → Bare message → filter interpolate record = (true,record)) ∧
      (∀ pieces pieces' tail, Parted pieces tail → Parted pieces' tail → outline pieces = outline pieces' →
        getMessage interpolate record = some (line pieces tail) → getMessage interpolate other = some (line pieces' tail) →
        getMessage interpolate (filter interpolate record).2 = getMessage interpolate (filter interpolate other).2) ∧
      ((atoms given).map Prod.fst = given.map Prod.fst ∧ ∀ key value, (key,Atom.text value) ∈ atoms given → Bare value) := by
  refine ⟨⟨?_,filter_message interpolate record,filter_filter interpolate record⟩,?_,?_,?_,?_,?_⟩
  · unfold filter
    split <;> rfl
  · intro message rendered
    rw [filter_message] at rendered
    obtain ⟨text,_,rfl⟩ := Option.map_eq_some_iff.mp rendered
    exact mask_bare text
  · intro message rendered bare
    exact filter_plain rendered (mask_plain bare)
  · intro pieces pieces' tail parted parted' same mine its
    rw [filter_message,filter_message,mine,its,Option.map_some,Option.map_some,mask_line pieces tail parted,
      mask_line pieces' tail parted',same]
  · simp [atoms,Function.comp_def]
  · intro key value there
    obtain ⟨⟨name,atom⟩,_,same⟩ := List.mem_map.mp there
    cases atom with
    | text raw =>
        simp only [Prod.mk.injEq,Atom.text.injEq] at same
        exact same.2 ▸ mask_bare raw
    | other raw => simp at same

end Osds.Logging
