import Osds.Lib.Json
import Mathlib.Data.List.TakeWhile

-- JSON patches: pointers into a document, and edits at what they point to.
namespace JsonPatch

def segments : List Char → List (List Char)
  | [] => [[]]
  | c :: rest =>
      if c = '/' then [] :: segments rest
      else match segments rest with
        | [] => [[c]]
        | first :: others => (c :: first) :: others

-- ~1 stands for a slash and ~0 for a tilde.
def unescape : List Char → Option (List Char)
  | [] => some []
  | '~' :: '0' :: rest => (unescape rest).map ('~' :: ·)
  | '~' :: '1' :: rest => (unescape rest).map ('/' :: ·)
  | c :: rest => if c = '~' then none else (unescape rest).map (c :: ·)

def tokens (pointer : String) : Option (List String) :=
  match pointer.toList with
  | [] => some []
  | '/' :: rest => (segments rest).mapM fun segment => (unescape segment).map String.ofList
  | _ => none

inductive Edit where
  | add (value : Json)
  | replace (value : Json)
  | remove
  deriving DecidableEq

def Edit.value : Edit → Option Json
  | .add value => some value
  | .replace value => some value
  | .remove => none

def Edit.needs : Edit → Bool
  | .add _ => false
  | _ => true

def index (token : String) : Option Nat := token.toNat?.filter fun i => toString i = token

def Edit.element (items : List Json) (token : String) : Edit → Option (List Json)
  | .add value =>
      if token = "-" then some (items ++ [value])
      else (index token).bind fun i => if i ≤ items.length then some (items.insertIdx i value) else none
  | .replace value => (index token).bind fun i => if i < items.length then some (items.set i value) else none
  | .remove => (index token).bind fun i => if i < items.length then some (items.eraseIdx i) else none

def Edit.member (fields : List (String × Json)) (token : String) (edit : Edit) : Option (List (String × Json)) :=
  if edit.needs && (fields.lookup token).isNone then none else some (Dict.set fields (token,edit.value))

def Edit.at_ (edit : Edit) : List String → Json → Option Json
  | [],_ => edit.value
  | [token],.obj fields => (edit.member fields token).map .obj
  | [token],.arr items => (edit.element items token).map .arr
  | token :: next :: rest,.obj fields =>
      (fields.lookup token).bind fun inner =>
        (edit.at_ (next :: rest) inner).map fun edited => .obj (Dict.set fields (token,some edited))
  | token :: next :: rest,.arr items =>
      (index token).bind fun i => items[i]?.bind fun inner =>
        (edit.at_ (next :: rest) inner).map fun edited => .arr (items.set i edited)
  | _,_ => none

structure Op where
  path : String
  edit : Edit
  deriving DecidableEq

def Op.apply (op : Op) (doc : Json) : Option Json := (tokens op.path).bind fun path => op.edit.at_ path doc

def apply (ops : List Op) (doc : Json) : Option Json := ops.foldlM (fun doc op => op.apply doc) doc

theorem apply_cons : apply (op :: ops) doc = (op.apply doc).bind (apply ops) := List.foldlM_cons

theorem apply_append : apply (first ++ second) doc = (apply first doc).bind (apply second) := List.foldlM_append

def Plain (name : String) : Prop := '/' ∉ name.toList ∧ '~' ∉ name.toList

instance (name : String) : Decidable (Plain name) := inferInstanceAs (Decidable (_ ∧ _))

section pointers

theorem segments_plain {cs : List Char} (plain : '/' ∉ cs) : segments cs = [cs] := by
  induction cs with
  | nil => rfl
  | cons c rest ih =>
      rw [List.mem_cons,not_or] at plain
      unfold segments
      rw [if_neg fun slash => plain.1 slash.symm,ih plain.2]

theorem segments_split {cs : List Char} (plain : '/' ∉ cs) (rest : List Char) :
    segments (cs ++ '/' :: rest) = cs :: segments rest := by
  induction cs with
  | nil => rfl
  | cons c cs ih =>
      rw [List.mem_cons,not_or] at plain
      rw [List.cons_append,segments.eq_def]
      dsimp only
      rw [if_neg fun slash => plain.1 slash.symm,ih plain.2]

theorem segments_first (cs : List Char) : ∃ others, segments cs = cs.takeWhile (· ≠ '/') :: others := by
  induction cs with
  | nil => exact ⟨[],rfl⟩
  | cons c rest ih =>
      obtain ⟨others,equal⟩ := ih
      unfold segments
      by_cases slash : c = '/'
      · rw [if_pos slash,List.takeWhile_cons_of_neg (by simp [slash])]
        exact ⟨_,rfl⟩
      · rw [if_neg slash,equal,List.takeWhile_cons_of_pos (by simp [slash])]
        exact ⟨others,rfl⟩

theorem unescape_plain {cs : List Char} (plain : '~' ∉ cs) : unescape cs = some cs := by
  induction cs with
  | nil => rfl
  | cons c rest ih =>
      rw [List.mem_cons,not_or] at plain
      have other : c ≠ '~' := fun tilde => plain.1 tilde.symm
      rw [unescape.eq_4 _ _ (fun _ tilde => (other tilde).elim) (fun _ tilde => (other tilde).elim),if_neg other,
        ih plain.2]
      rfl

theorem unescape_shorter {cs ds : List Char} (read : unescape cs = some ds) :
    ds.length < cs.length ∨ '~' ∉ cs ∧ ds = cs := by
  induction cs using unescape.induct generalizing ds with
  | case1 => cases read; exact .inr ⟨List.not_mem_nil,rfl⟩
  | case2 rest ih =>
      obtain ⟨inner,rest_,rfl⟩ := Option.map_eq_some_iff.mp read
      rcases ih rest_ with less | ⟨_,same⟩
      · exact .inl (by simp only [List.length_cons]; omega)
      · exact .inl (by rw [same]; simp)
  | case3 rest ih =>
      obtain ⟨inner,rest_,rfl⟩ := Option.map_eq_some_iff.mp read
      rcases ih rest_ with less | ⟨_,same⟩
      · exact .inl (by simp only [List.length_cons]; omega)
      · exact .inl (by rw [same]; simp)
  | case4 rest _ _ =>
      rw [unescape.eq_4 _ _ ‹_› ‹_›,if_pos rfl] at read
      cases read
  | case5 c rest _ _ other ih =>
      rw [unescape.eq_4 _ _ ‹_› ‹_›,if_neg other] at read
      obtain ⟨inner,rest_,rfl⟩ := Option.map_eq_some_iff.mp read
      rcases ih rest_ with less | ⟨plain,same⟩
      · exact .inl (by simp only [List.length_cons]; omega)
      · refine .inr ⟨?_,by rw [same]⟩
        rw [List.mem_cons,not_or]
        exact ⟨fun tilde => other tilde.symm,plain⟩

def token (segment : List Char) : Option String := (unescape segment).map String.ofList

theorem tokens_name (name : String) : tokens ("/" ++ name) = (segments name.toList).mapM token := by
  unfold tokens
  rw [String.toList_append]
  rfl

theorem token_plain (plain : '~' ∉ name.toList) : token name.toList = some name := by
  unfold token
  rw [unescape_plain plain,Option.map_some,String.ofList_toList]

theorem tokens_plain (plain : Plain name) : tokens ("/" ++ name) = some [name] := by
  rw [tokens_name,segments_plain plain.1,List.mapM_cons,token_plain plain.2]
  rfl

theorem tokens_under (plain : Plain name) (rest : String) :
    tokens ("/" ++ name ++ ("/" ++ rest)) = (tokens ("/" ++ rest)).map (name :: ·) := by
  rw [String.append_assoc,tokens_name,tokens_name,String.toList_append,String.toList_append]
  change (segments (name.toList ++ '/' :: rest.toList)).mapM token = _
  rw [segments_split plain.1,List.mapM_cons,token_plain plain.2]
  cases (segments rest.toList).mapM token <;> rfl

theorem tokens_cons (read : tokens ("/" ++ name) = some path) : ∃ first others, path = first :: others ∧
    (first.length < name.length ∨ first = name ∧ Plain name) := by
  obtain ⟨rest,split⟩ := segments_first name.toList
  rw [tokens_name,split,List.mapM_cons] at read
  obtain ⟨first,segment,read⟩ := Option.bind_eq_some_iff.mp read
  obtain ⟨others,_,same⟩ := Option.bind_eq_some_iff.mp read
  cases same
  refine ⟨first,others,rfl,?_⟩
  unfold token at segment
  obtain ⟨cs,unescaped,rfl⟩ := Option.map_eq_some_iff.mp segment
  rw [String.length_ofList]
  have short : (name.toList.takeWhile (· ≠ '/')).length ≤ name.length := by
    rw [← String.length_toList]
    exact (List.takeWhile_prefix _).length_le
  rcases unescape_shorter unescaped with less | ⟨untilded,same⟩
  · exact .inl (less.trans_le short)
  · rcases short.lt_or_eq with less | whole
    · exact .inl (same ▸ less)
    · have all : name.toList.takeWhile (· ≠ '/') = name.toList :=
        (List.takeWhile_prefix _).eq_of_length (whole.trans String.length_toList.symm)
      rw [all] at untilded same
      refine .inr ⟨by rw [same,String.ofList_toList],fun slash => ?_,untilded⟩
      exact absurd (List.takeWhile_eq_self_iff.mp all '/' slash) (by decide)

end pointers

section edits

variable {fields : List (String × Json)} {edit : Edit} {ops : List Op} {op : Op}

theorem at_name : edit.at_ [name] (.obj fields) = (edit.member fields name).map .obj := rfl

theorem at_inner : edit.at_ (name :: next :: rest) (.obj fields) = (fields.lookup name).bind fun inner =>
    (edit.at_ (next :: rest) inner).map fun edited => .obj (Dict.set fields (name,some edited)) := rfl

theorem at_frame (edited : edit.at_ (name :: rest) (.obj fields) = some doc) :
    ∃ fields', doc = .obj fields' ∧ ∀ key, key ≠ name → fields'.lookup key = fields.lookup key := by
  have moved : ∃ value, doc = .obj (Dict.set fields (name,value)) := by
    cases rest with
    | nil =>
        rw [at_name] at edited
        obtain ⟨_,written,rfl⟩ := Option.map_eq_some_iff.mp edited
        unfold Edit.member at written
        split at written
        · cases written
        · cases written
          exact ⟨_,rfl⟩
    | cons next rest =>
        rw [at_inner] at edited
        obtain ⟨inner,_,edited⟩ := Option.bind_eq_some_iff.mp edited
        obtain ⟨value,_,rfl⟩ := Option.map_eq_some_iff.mp edited
        exact ⟨_,rfl⟩
  obtain ⟨value,rfl⟩ := moved
  exact ⟨_,rfl,fun key other => (Dict.lookup_set ..).trans (if_neg other)⟩

def Rooted (ops : List Op) : Prop := ∀ op ∈ ops, ∃ name, op.path = "/" ++ name

theorem apply_frame (rooted : Rooted ops) (applied : apply ops (.obj fields) = some doc) : ∃ fields', doc = .obj fields' ∧
    ∀ key, (∀ op ∈ ops, ∀ rest, tokens op.path ≠ some (key :: rest)) → fields'.lookup key = fields.lookup key := by
  induction ops generalizing fields with
  | nil =>
      cases applied
      exact ⟨fields,rfl,fun _ _ => rfl⟩
  | cons op ops ih =>
      rw [apply_cons] at applied
      obtain ⟨middle,first,applied⟩ := Option.bind_eq_some_iff.mp applied
      obtain ⟨path,read,edited⟩ := Option.bind_eq_some_iff.mp first
      obtain ⟨name,pointer⟩ := rooted op (List.mem_cons_self ..)
      obtain ⟨head,rest,rfl,_⟩ := tokens_cons (pointer ▸ read)
      obtain ⟨moved,rfl,kept⟩ := at_frame edited
      obtain ⟨fields',same,others⟩ := ih (fun other there => rooted other (List.mem_cons_of_mem _ there)) applied
      refine ⟨fields',same,fun key untouched => ?_⟩
      rw [others key fun other there => untouched other (List.mem_cons_of_mem _ there)]
      refine kept key fun equal => ?_
      exact untouched op (List.mem_cons_self ..) rest (equal ▸ read)

def Op.under (name : String) (op : Op) : Op := ⟨"/" ++ name ++ op.path,op.edit⟩

theorem under_apply {inner : Json} (plain : Plain name) (rooted : ∃ inside, op.path = "/" ++ inside)
    (there : fields.lookup name = some inner) : (op.under name).apply (.obj fields) =
      (op.apply inner).map fun edited => .obj (Dict.set fields (name,some edited)) := by
  obtain ⟨inside,pointer⟩ := rooted
  unfold Op.apply Op.under
  dsimp only
  rw [pointer,tokens_under plain]
  cases read : tokens ("/" ++ inside) with
  | none => rfl
  | some path =>
      obtain ⟨first,others,rfl,_⟩ := tokens_cons read
      rw [Option.map_some,Option.bind_some,Option.bind_some,at_inner,there,Option.bind_some]

theorem apply_under {inner : Json} (plain : Plain name) (rooted : Rooted ops) (there : fields.lookup name = some inner) :
    match apply ops inner with
    | none => apply (ops.map (Op.under name)) (.obj fields) = none
    | some edited => ∃ fields', apply (ops.map (Op.under name)) (.obj fields) = some (.obj fields') ∧
        ∀ key, fields'.lookup key = if key = name then some edited else fields.lookup key := by
  induction ops generalizing fields inner with
  | nil =>
      refine ⟨fields,rfl,fun key => ?_⟩
      split
      · next same => rw [same,there]
      · rfl
  | cons op ops ih =>
      rw [List.map_cons,apply_cons,apply_cons,under_apply plain (rooted op (List.mem_cons_self ..)) there]
      cases op.apply inner with
      | none => exact rfl
      | some middle =>
          rw [Option.map_some,Option.bind_some,Option.bind_some]
          have moved : (Dict.set fields (name,some middle)).lookup name = some middle :=
            (Dict.lookup_set ..).trans (if_pos rfl)
          have later := ih (fun other listed => rooted other (List.mem_cons_of_mem _ listed)) moved
          cases rest : apply ops middle with
          | none =>
              rw [rest] at later
              exact later
          | some edited =>
              rw [rest] at later
              obtain ⟨fields',applied,held⟩ := later
              refine ⟨fields',applied,fun key => (held key).trans ?_⟩
              split
              · rfl
              · next other => exact (Dict.lookup_set ..).trans (if_neg other)

-- Of an object that holds `old` under the name, the operations read and move no
-- more than that, and leave `out` there or fail.
def Local (name : String) (ops : List Op) (old : Option Json) (out : Option (Option Json)) : Prop :=
  ∀ fields : List (String × Json), fields.lookup name = old →
    match out with
    | none => apply ops (.obj fields) = none
    | some new => ∃ fields', apply ops (.obj fields) = some (.obj fields') ∧
        ∀ key, fields'.lookup key = if key = name then new else fields.lookup key

theorem local_nil : Local name [] old (some old) := by
  intro fields there
  refine ⟨fields,rfl,fun key => ?_⟩
  split
  · next same => rw [same,there]
  · rfl

theorem local_edit (plain : Plain name) (held : edit.needs = true → old.isSome) :
    Local name [⟨"/" ++ name,edit⟩] old (some edit.value) := by
  intro fields there
  refine ⟨Dict.set fields (name,edit.value),?_,fun key => Dict.lookup_set ..⟩
  rw [apply_cons]
  unfold Op.apply
  rw [tokens_plain plain,Option.bind_some,at_name]
  unfold Edit.member
  rw [if_neg]
  · rfl
  · intro missing
    rw [Bool.and_eq_true,there] at missing
    have present := held missing.1
    rw [Option.isNone_iff_eq_none.mp missing.2] at present
    cases present

theorem local_under {inner : Json} (plain : Plain name) (rooted : Rooted ops) :
    Local name (ops.map (Op.under name)) (some inner) ((apply ops inner).map some) := by
  intro fields there
  have within := apply_under plain rooted there
  cases result : apply ops inner with
  | none =>
      rw [result] at within
      exact within
  | some edited =>
      rw [result] at within
      exact within

theorem blocks_apply {names : List String} {block : String → List Op} {old : String → Option Json}
    {out : String → Option (Option Json)} (once : names.Nodup)
    (local_ : ∀ name ∈ names, Local name (block name) (old name) (out name))
    (there : ∀ name ∈ names, fields.lookup name = old name) :
    match apply (names.flatMap block) (.obj fields) with
    | none => ∃ name ∈ names, out name = none
    | some doc => ∃ fields', doc = .obj fields' ∧
        ∀ key, (key ∈ names → out key = some (fields'.lookup key)) ∧ (key ∉ names → fields'.lookup key = fields.lookup key) := by
  induction names generalizing fields with
  | nil => exact ⟨fields,rfl,fun _ => ⟨nofun,fun _ => rfl⟩⟩
  | cons name rest ih =>
      obtain ⟨apart,once⟩ := List.nodup_cons.mp once
      have first := local_ name (List.mem_cons_self ..) fields (there name (List.mem_cons_self ..))
      rw [List.flatMap_cons,apply_append]
      cases result : out name with
      | none =>
          rw [result] at first
          rw [first]
          exact ⟨name,List.mem_cons_self ..,result⟩
      | some new =>
          rw [result] at first
          obtain ⟨middle,applied,held⟩ := first
          rw [applied,Option.bind_some]
          have still : ∀ other ∈ rest, middle.lookup other = old other := by
            intro other listed
            rw [held other,if_neg fun same : other = name => apart (same ▸ listed)]
            exact there other (List.mem_cons_of_mem _ listed)
          have later := ih once (fun other listed => local_ other (List.mem_cons_of_mem _ listed)) still
          cases end_ : apply (rest.flatMap block) (.obj middle) with
          | none =>
              rw [end_] at later
              obtain ⟨other,listed,failed⟩ := later
              exact ⟨other,List.mem_cons_of_mem _ listed,failed⟩
          | some doc =>
              rw [end_] at later
              obtain ⟨fields',same,kept⟩ := later
              refine ⟨fields',same,fun key => ⟨?_,?_⟩⟩
              · intro listed
                rcases List.mem_cons.mp listed with here | beyond
                · subst here
                  rw [(kept key).2 apart,held key,if_pos rfl]
                  exact result
                · exact (kept key).1 beyond
              · intro unlisted
                rw [List.mem_cons,not_or] at unlisted
                rw [(kept key).2 unlisted.2,held key,if_neg unlisted.1]

end edits

end JsonPatch
