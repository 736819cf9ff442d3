import Osds.Lib.Mac
import Osds.Lib.Fallible

namespace Osds.Adapters.Webhook
open Mac

def TOLERANCE_SECONDS : Int := 300

inductive Raised where
  | valueError | typeError
  deriving DecidableEq

section sign

variable (mac : Digest)

def signature (secret : String) (timestamp : Int) (body : List UInt8) : Except Raised String :=
  match Numerals.shown timestamp with
  | none => .error .valueError
  | some stamp => .ok (mac.hexdigest (Text.utf8 secret) (stamped stamp body))

def header (secret : String) (timestamp : Int) (body : List UInt8) : Except Raised String :=
  match Numerals.shown timestamp with
  | none => .error .valueError
  | some stamp => (signature mac secret timestamp body).map fun v1 => "t=" ++ stamp ++ ",v1=" ++ v1

end sign

section verify

variable (mac : Digest) (other : Char → Option (Fin 10))

def pair (item : String) : Option (String × String) :=
  match Text.partition '=' item with
  | (_,none) => none
  | (key,some value) => some (key,value)

def offer (headerValue : String) : Option (Int × String) := do
  let parts ← (Text.split ',' headerValue).mapM pair
  let timestamp ← (parts.reverse.lookup "t").bind (Numerals.integer other)
  let offered ← parts.reverse.lookup "v1"
  pure (timestamp,offered)

-- `hmac.compare_digest` compares texts only when both are ASCII.
def compareDigest (a b : String) : Except Raised Bool :=
  if Text.ascii a && Text.ascii b then .ok (a == b) else .error .typeError

def Timely (now tolerance timestamp : Int) : Prop := (now-timestamp).natAbs ≤ tolerance

instance (now tolerance timestamp : Int) : Decidable (Timely now tolerance timestamp) := inferInstanceAs (Decidable (_ ≤ _))

def verify (secret headerValue : String) (body : List UInt8) (now tolerance : Int) : Except Raised Bool :=
  match offer other headerValue with
  | none => .ok false
  | some (timestamp,offered) =>
      if ¬Timely now tolerance timestamp then .ok false
      else signature mac secret timestamp body >>= compareDigest offered

end verify

section header

def valuesOf (name headerValue : String) : List String :=
  ((Text.split ',' headerValue).filterMap pair).filterMap fun part => if part.1 = name then some part.2 else none

structure Offers (other : Char → Option (Fin 10)) (headerValue : String) (timestamp : Int) (offered : String) : Prop where
  pairs : ∀ item ∈ Text.split ',' headerValue, (pair item).isSome
  stamp : (valuesOf "t" headerValue).getLast?.bind (Numerals.integer other) = some timestamp
  v1 : (valuesOf "v1" headerValue).getLast? = some offered

theorem mapM_pairs {items : List String} {parts : List (String × String)} :
    items.mapM pair = some parts ↔ (∀ item ∈ items, (pair item).isSome) ∧ items.filterMap pair = parts := by
  induction items generalizing parts with
  | nil => simp
  | cons item rest ih =>
      rw [List.mapM_cons,List.forall_mem_cons]
      cases read : pair item with
      | none => simp
      | some part =>
          rw [List.filterMap_cons_some read]
          change ((rest.mapM pair).bind fun later => some (part :: later)) = some parts ↔ _
          constructor
          · intro mapped
            obtain ⟨later,each,same⟩ := Option.bind_eq_some_iff.mp mapped
            obtain ⟨all,rfl⟩ := ih.mp each
            exact ⟨⟨rfl,all⟩,Option.some.inj same⟩
          · intro ⟨⟨_,all⟩,same⟩
            rw [ih.mpr ⟨all,rfl⟩]
            exact congrArg some same

theorem lookup_last (parts : List (String × String)) (name : String) :
    parts.reverse.lookup name = (parts.filterMap fun part => if part.1 = name then some part.2 else none).getLast? := by
  rw [List.getLast?_eq_head?_reverse,← List.filterMap_reverse]
  induction parts.reverse with
  | nil => rfl
  | cons part rest ih =>
      rw [List.lookup_cons,List.filterMap_cons]
      by_cases same : part.1 = name
      · rw [if_pos same,same,beq_self_eq_true]
        rfl
      · rw [if_neg same,beq_eq_false_iff_ne.mpr (Ne.symm same)]
        exact ih

theorem offer_exact {other : Char → Option (Fin 10)} {headerValue offered : String} {timestamp : Int} :
    offer other headerValue = some (timestamp,offered) ↔ Offers other headerValue timestamp offered := by
  unfold offer
  constructor
  · intro offers
    obtain ⟨parts,read,rest⟩ := Option.bind_eq_some_iff.mp offers
    obtain ⟨pairs,rfl⟩ := mapM_pairs.mp read
    obtain ⟨stamp,number,rest⟩ := Option.bind_eq_some_iff.mp rest
    obtain ⟨v1,text,same⟩ := Option.bind_eq_some_iff.mp rest
    cases same
    exact ⟨pairs,lookup_last _ _ ▸ number,(lookup_last ..).symm.trans text⟩
  · intro ⟨pairs,stamp,v1⟩
    rw [mapM_pairs.mpr ⟨pairs,rfl⟩,Option.bind_eq_bind,Option.bind_some]
    change ((((Text.split ',' headerValue).filterMap pair).reverse.lookup "t").bind (Numerals.integer other)).bind _ = _
    rw [lookup_last]
    have number : (valuesOf "t" headerValue).getLast?.bind (Numerals.integer other) = some timestamp := stamp
    unfold valuesOf at number v1
    rw [number,Option.bind_some,lookup_last,v1]
    rfl

end header

section verified

variable {mac : Digest} {other : Char → Option (Fin 10)} {secret headerValue : String} {body : List UInt8}
  {now tolerance timestamp : Int} {offered : String}

theorem signature_exact {v1 : String} : signature mac secret timestamp body = .ok v1 ↔
    ∃ stamp, Numerals.shown timestamp = some stamp ∧ mac.hexdigest (Text.utf8 secret) (stamped stamp body) = v1 := by
  unfold signature
  cases Numerals.shown timestamp with
  | none =>
      constructor
      · intro signed
        cases signed
      · intro signed
        obtain ⟨_,absurd,_⟩ := signed
        cases absurd
  | some stamp =>
      constructor
      · intro signed
        exact ⟨stamp,rfl,Except.ok.inj signed⟩
      · intro signed
        obtain ⟨stamp',same,digest⟩ := signed
        cases same
        exact congrArg Except.ok digest

theorem shown_decimal {stamp : String} (written : Numerals.shown timestamp = some stamp) :
    stamp = Numerals.decimal timestamp ∧ (Nat.toDigits 10 timestamp.natAbs).length ≤ Numerals.MAX_DIGITS := by
  unfold Numerals.shown at written
  split at written
  · cases written
  · next short => exact ⟨(Option.some.inj written).symm,Nat.le_of_not_lt short⟩

theorem signature_injective (injective : mac.Injective) {timestamp' : Int} {body' : List UInt8} {v1 : String}
    (one : signature mac secret timestamp body = .ok v1) (two : signature mac secret timestamp' body' = .ok v1) :
    timestamp' = timestamp ∧ body' = body := by
  obtain ⟨stamp,written,digest⟩ := signature_exact.mp one
  obtain ⟨stamp',written',digest'⟩ := signature_exact.mp two
  obtain ⟨rfl,short⟩ := shown_decimal written
  obtain ⟨rfl,short'⟩ := shown_decimal written'
  have messages := injective _ _ _ (digest'.trans digest.symm)
  obtain ⟨stamps,bodies⟩ := stamped_injective messages
  have read : Numerals.integer (fun _ => none) (Numerals.decimal timestamp) = some timestamp := Numerals.integer_decimal short
  have read' : Numerals.integer (fun _ => none) (Numerals.decimal timestamp') = some timestamp' := Numerals.integer_decimal short'
  rw [stamps,read] at read'
  exact ⟨(Option.some.inj read').symm,bodies⟩

theorem pair_plain {key : String} (plain : '=' ∉ key.toList) (value : String) :
    pair (key ++ (String.ofList ['='] ++ value)) = some (key,value) := by
  unfold pair
  rw [Text.partition_append plain]

theorem header_exact (signed : header mac secret timestamp body = .ok headerValue) :
    ∃ v1, signature mac secret timestamp body = .ok v1 ∧
      headerValue = "t=" ++ Numerals.decimal timestamp ++ ",v1=" ++ v1 := by
  unfold header at signed
  cases written : Numerals.shown timestamp with
  | none =>
      rw [written] at signed
      cases signed
  | some stamp =>
      rw [written] at signed
      obtain ⟨rfl,_⟩ := shown_decimal written
      cases digest : signature mac secret timestamp body with
      | error e =>
          rw [digest] at signed
          cases signed
      | ok v1 =>
          rw [digest] at signed
          exact ⟨v1,rfl,(Except.ok.inj signed).symm⟩

theorem offer_pairs {stamp v1 : String} (pairs : (Text.split ',' headerValue).mapM pair = some [("t",stamp),("v1",v1)])
    (read : Numerals.integer other stamp = some timestamp) : offer other headerValue = some (timestamp,v1) := by
  have t : [("v1",v1),("t",stamp)].lookup "t" = some stamp := by simp [List.lookup_cons]
  have v : [("v1",v1),("t",stamp)].lookup "v1" = some v1 := List.lookup_cons_self
  unfold offer
  rw [pairs,Option.bind_eq_bind,Option.bind_some]
  change (([("v1",v1),("t",stamp)].lookup "t").bind (Numerals.integer other)).bind _ = _
  rw [t,Option.bind_some,read,Option.bind_some]
  exact congrArg (fun offered => offered.bind fun offered => some (timestamp,offered)) v

theorem offer_header (other : Char → Option (Fin 10)) (signed : header mac secret timestamp body = .ok headerValue) :
    ∃ v1, signature mac secret timestamp body = .ok v1 ∧ offer other headerValue = some (timestamp,v1) := by
  obtain ⟨v1,digest,rfl⟩ := header_exact signed
  refine ⟨v1,digest,?_⟩
  obtain ⟨stamp,written,hex⟩ := signature_exact.mp digest
  obtain ⟨rfl,short⟩ := shown_decimal written
  refine offer_pairs ?_ (Numerals.integer_decimal short)
  rw [split_header timestamp fun c there => mac.hex _ _ c (hex ▸ there),List.mapM_cons,List.mapM_cons,
    pair_plain (by decide),pair_plain (by decide)]
  rfl

theorem compareDigest_ascii {a b : String} (plain : Text.ascii a = true) (plain' : Text.ascii b = true) :
    compareDigest a b = .ok (a == b) := by
  unfold compareDigest
  rw [plain,plain']
  rfl

theorem verify_compared (mac : Digest) (secret : String) (body : List UInt8)
    (offers : offer other headerValue = some (timestamp,offered)) (timely : Timely now tolerance timestamp)
    (plain : Text.ascii offered = true) :
    ∃ v1, signature mac secret timestamp body = .ok v1 ∧
      verify mac other secret headerValue body now tolerance = .ok (offered == v1) := by
  have written : Numerals.shown timestamp = some (Numerals.decimal timestamp) := by
    unfold offer at offers
    obtain ⟨parts,_,rest⟩ := Option.bind_eq_some_iff.mp offers
    obtain ⟨t,read,rest⟩ := Option.bind_eq_some_iff.mp rest
    obtain ⟨text,_,number⟩ := Option.bind_eq_some_iff.mp read
    obtain ⟨v,_,same⟩ := Option.bind_eq_some_iff.mp rest
    cases same
    exact Numerals.integer_shown number
  have signed : signature mac secret timestamp body =
      .ok (mac.hexdigest (Text.utf8 secret) (stamped (Numerals.decimal timestamp) body)) :=
    signature_exact.mpr ⟨_,written,rfl⟩
  refine ⟨_,signed,?_⟩
  unfold verify
  rw [offers]
  dsimp only
  rw [if_neg (not_not.mpr timely),signed]
  exact compareDigest_ascii plain (hexdigest_ascii ..)

theorem verify_untimely (offers : offer other headerValue = some (timestamp,offered)) (untimely : ¬Timely now tolerance timestamp) :
    verify mac other secret headerValue body now tolerance = .ok false := by
  unfold verify
  rw [offers]
  exact if_pos untimely

theorem verify_header (signed : header mac secret timestamp body = .ok headerValue) :
    verify mac other secret headerValue body now tolerance = .ok (decide (Timely now tolerance timestamp)) := by
  obtain ⟨v1,digest,offers⟩ := offer_header other signed
  by_cases timely : Timely now tolerance timestamp
  · have plain : Text.ascii v1 = true := by
      obtain ⟨stamp,_,rfl⟩ := signature_exact.mp digest
      exact hexdigest_ascii ..
    obtain ⟨v1',digest',verified⟩ := verify_compared mac secret body offers timely plain
    rw [digest] at digest'
    rw [verified,← Except.ok.inj digest',decide_eq_true timely]
    exact congrArg Except.ok (beq_self_eq_true v1)
  · rw [verify_untimely offers timely,decide_eq_false timely]

end verified

section accepted

variable (mac : Digest) (other : Char → Option (Fin 10)) (secret headerValue : String) (body : List UInt8) (now tolerance : Int)

-- The header's last v1 signs its last t and this body, and no other; its t is within the
-- tolerance.
def Genuine : Prop :=
  ∃ timestamp offered, Offers other headerValue timestamp offered ∧ Timely now tolerance timestamp ∧
    signature mac secret timestamp body = .ok offered ∧
    (mac.Injective → ∀ timestamp' body', signature mac secret timestamp' body' = .ok offered →
      timestamp' = timestamp ∧ body' = body)

def Accepts : Prop :=
  (∀ timestamp signed, header mac secret timestamp body = .ok signed →
    verify mac other secret signed body now tolerance = .ok (decide (Timely now tolerance timestamp))) ∧
  ∃ accepted, verify mac other secret headerValue body now tolerance = .ok accepted ∧
    (accepted = true ↔ Genuine mac other secret headerValue body now tolerance)

-- A timely t, and a v1 that is not ASCII.
def Garbled : Prop :=
  ∃ timestamp offered, Offers other headerValue timestamp offered ∧ Timely now tolerance timestamp ∧
    Text.ascii offered = false

theorem accepts_exactly : Accepts mac other secret headerValue body now tolerance ↔ ¬Garbled other headerValue now tolerance := by
  constructor
  · intro accepts garbled
    obtain ⟨timestamp,offered,offers,timely,accented⟩ := garbled
    have offers := offer_exact.mpr offers
    obtain ⟨accepted,answered,_⟩ := accepts.2
    unfold verify at answered
    rw [offers] at answered
    dsimp only at answered
    rw [if_neg (not_not.mpr timely)] at answered
    obtain ⟨v1,_,compared⟩ := Fallible.bind_exact.mp answered
    unfold compareDigest at compared
    rw [accented,Bool.false_and,if_neg Bool.false_ne_true] at compared
    cases compared
  · intro clean
    refine ⟨fun _ _ signed => verify_header signed,?_⟩
    cases offers : offer other headerValue with
    | none =>
        refine ⟨false,by unfold verify; rw [offers],?_⟩
        refine iff_of_false Bool.false_ne_true fun genuine => ?_
        obtain ⟨_,_,some_,_⟩ := genuine
        exact Option.some_ne_none _ ((offer_exact.mpr some_).symm.trans offers)
    | some read =>
        obtain ⟨timestamp,offered⟩ := read
        by_cases timely : Timely now tolerance timestamp
        · have plain : Text.ascii offered = true := by
            by_contra accented
            exact clean ⟨timestamp,offered,offer_exact.mp offers,timely,Bool.eq_false_iff.mpr accented⟩
          obtain ⟨v1,signed,verified⟩ := verify_compared mac secret body offers timely plain
          refine ⟨offered == v1,verified,?_⟩
          constructor
          · intro equal
            rw [← beq_iff_eq.mp equal] at signed
            exact ⟨timestamp,offered,offer_exact.mp offers,timely,signed,fun injective _ _ another => signature_injective injective signed another⟩
          · intro genuine
            obtain ⟨_,_,offers',_,signed',_⟩ := genuine
            cases offers.symm.trans (offer_exact.mpr offers')
            rw [signed] at signed'
            exact beq_iff_eq.mpr (Except.ok.inj signed').symm
        · refine ⟨false,verify_untimely offers timely,?_⟩
          refine iff_of_false Bool.false_ne_true fun genuine => ?_
          obtain ⟨_,_,offers',timely',_⟩ := genuine
          cases offers.symm.trans (offer_exact.mpr offers')
          exact timely timely'

end accepted

section example_header

def exampleMac : Digest where
  hexdigest := fun _ message => String.ofList (List.replicate message.length '1')
  hex := by
    intro _ message c there
    rw [String.toList_ofList] at there
    rw [(List.mem_replicate.mp there).2]
    decide

theorem accented_v1_raises :
    verify exampleMac (fun _ => none) "whsec_a" "t=1000,v1=é" [] 1000 TOLERANCE_SECONDS = .error .typeError ∧
    ¬Accepts exampleMac (fun _ => none) "whsec_a" "t=1000,v1=é" [] 1000 TOLERANCE_SECONDS := by
  have raises : verify exampleMac (fun _ => none) "whsec_a" "t=1000,v1=é" [] 1000 TOLERANCE_SECONDS = .error .typeError := by
    rfl
  refine ⟨raises,fun accepts => ?_⟩
  obtain ⟨accepted,answered,_⟩ := accepts.2
  rw [raises] at answered
  cases answered

end example_header

end Osds.Adapters.Webhook
