import Osds.Lib.Binary64
import Osds.Lib.Fallible
import Osds.Lib.Mac
import Mathlib.Algebra.Group.Int.Defs

namespace Osds.Adapters.Stripe
open Mac

def TOLERANCE_SECONDS : Nat := 300

inductive Raised where
  | signatureError (reason : String)
  | overflowError | valueError
  deriving DecidableEq

section parse

variable (other : Char → Option (Fin 10))

structure Parsed where
  timestamp : Option Int
  signatures : List String
  deriving DecidableEq

def parseElement (p : Parsed) (element : String) : Except Raised Parsed :=
  match Text.partition '=' (Text.strip element) with
  | (_,none) => .ok p
  | (scheme,some value) =>
      if scheme = "t" then
        match Numerals.integer other value with
        | none => .error (.signatureError "bad_timestamp")
        | some timestamp => .ok {p with timestamp := some timestamp}
      else if scheme = "v1" ∧ value ≠ "" then .ok {p with signatures := p.signatures ++ [value]}
      else .ok p

def finish : Parsed → Except Raised (Int × List String)
  | ⟨none,_⟩ => .error (.signatureError "no_timestamp")
  | ⟨some _,[]⟩ => .error (.signatureError "no_v1_signature")
  | ⟨some timestamp,signatures⟩ => .ok (timestamp,signatures)

def parseHeader (header : String) : Except Raised (Int × List String) :=
  (Text.split ',' header).foldlM (parseElement other) ⟨none,[]⟩ >>= finish

end parse

section verify

variable (mac : Digest) (other : Char → Option (Fin 10))

def expectedSignature (secret : String) (timestamp : Int) (body : List UInt8) : Except Raised String :=
  match Numerals.shown timestamp with
  | none => .error .valueError
  | some stamp => .ok (mac.hexdigest (Text.utf8 secret) (stamped stamp body))

def octet (c : Char) : UInt8 := if c.toNat < 128 then c.toNat.toUInt8 else 63

def encode (text : String) : List UInt8 := text.toList.map octet

-- The clock is a float, and an integer beyond the floats cannot be taken from it.
def stale (now : Binary64.Double) (timestamp : Int) : Except Raised Bool :=
  match Binary64.ofInt timestamp with
  | none => .error .overflowError
  | some stamp => .ok (TOLERANCE_SECONDS * Binary64.ONE < Binary64.distance now.units stamp)

def verify (header : String) (body : List UInt8) (secret : String) (now : Binary64.Double) : Except Raised Int := do
  let (timestamp,candidates) ← parseHeader other header
  let expected ← expectedSignature mac secret timestamp body
  if ¬candidates.any fun candidate => encode candidate == encode expected then .error (.signatureError "no_match")
  else if ← stale now timestamp then .error (.signatureError "stale_timestamp")
  else pure timestamp

end verify

section header

variable (other : Char → Option (Fin 10))

def valueOf (scheme element : String) : Option String :=
  match Text.partition '=' (Text.strip element) with
  | (_,none) => none
  | (name,some value) => if name = scheme then some value else none

def stamps (header : String) : List String := (Text.split ',' header).filterMap (valueOf "t")

def v1s (header : String) : List String := ((Text.split ',' header).filterMap (valueOf "v1")).filter (· ≠ "")

def WellFormed (header : String) (timestamp : Int) : Prop :=
  (∀ value ∈ stamps header, (Numerals.integer other value).isSome = true) ∧
  ((stamps header).filterMap (Numerals.integer other)).getLast? = some timestamp

end header

section parsed

variable {mac : Digest} {other : Char → Option (Fin 10)} {header secret : String} {body : List UInt8} {timestamp : Int}

def readable (other : Char → Option (Fin 10)) (value : String) : Bool := (Numerals.integer other value).isSome

theorem parseElement_reads (p : Parsed) (element : String) : parseElement other p element =
    if (valueOf "t" element).all (readable other) then
      .ok ⟨((valueOf "t" element).bind (Numerals.integer other)).or p.timestamp,
        p.signatures ++ ((valueOf "v1" element).toList.filter (· ≠ ""))⟩
    else .error (.signatureError "bad_timestamp") := by
  unfold parseElement valueOf
  rcases Text.partition '=' (Text.strip element) with ⟨scheme,after⟩
  cases after with
  | none => simp
  | some value =>
      dsimp only
      by_cases stamp : scheme = "t"
      · subst stamp
        cases read : Numerals.integer other value with
        | none => simp [readable,read]
        | some n => simp [readable,read]
      · by_cases v1 : scheme = "v1"
        · subst v1
          by_cases empty : value = ""
          · simp [empty]
          · simp [empty]
        · simp [stamp,v1]

theorem filterMap_head {α β : Type} (f : α → Option β) (x : α) (xs : List α) :
    (x :: xs).filterMap f = (f x).toList ++ xs.filterMap f := by
  cases read : f x with
  | none => rw [List.filterMap_cons_none read]; rfl
  | some y => rw [List.filterMap_cons_some read]; rfl

theorem last_stamp (first : Option String) (later : List String) :
    ((first.toList ++ later).filterMap (Numerals.integer other)).getLast? =
      (later.filterMap (Numerals.integer other)).getLast?.or (first.bind (Numerals.integer other)) := by
  rw [List.filterMap_append,List.getLast?_append]
  cases first with
  | none => rfl
  | some value =>
      cases read : Numerals.integer other value with
      | none => simp [read]
      | some n => simp [read]

theorem parse_elements (elements : List String) (p : Parsed) : elements.foldlM (parseElement other) p =
    if (elements.filterMap (valueOf "t")).all (readable other) then
      .ok ⟨((elements.filterMap (valueOf "t")).filterMap (Numerals.integer other)).getLast?.or p.timestamp,
        p.signatures ++ (elements.filterMap (valueOf "v1")).filter (· ≠ "")⟩
    else .error (.signatureError "bad_timestamp") := by
  induction elements generalizing p with
  | nil =>
      change Except.ok p = Except.ok ⟨none.or p.timestamp,p.signatures ++ []⟩
      rw [Option.none_or,List.append_nil]
  | cons element rest ih =>
      rw [List.foldlM_cons,parseElement_reads,filterMap_head,filterMap_head,last_stamp,List.all_append,List.filter_append]
      by_cases here : (valueOf "t" element).all (readable other) = true
      · have listed : (valueOf "t" element).toList.all (readable other) = true := by
          cases read : valueOf "t" element with
          | none => rfl
          | some value =>
              rw [read] at here
              exact Bool.and_eq_true_iff.mpr ⟨here,rfl⟩
        rw [if_pos here,listed,Bool.true_and]
        refine (ih _).trans ?_
        rw [Option.or_assoc,List.append_assoc]
      · have listed : (valueOf "t" element).toList.all (readable other) = false := by
          cases read : valueOf "t" element with
          | none =>
              rw [read] at here
              exact absurd rfl here
          | some value =>
              rw [read] at here
              exact Bool.and_eq_false_iff.mpr (.inl (Bool.eq_false_iff.mpr here))
        rw [if_neg here,listed,Bool.false_and,if_neg Bool.false_ne_true]
        rfl

theorem parseHeader_reads (header : String) : parseHeader other header =
    if (stamps header).all (readable other) then
      finish ⟨((stamps header).filterMap (Numerals.integer other)).getLast?,v1s header⟩
    else .error (.signatureError "bad_timestamp") := by
  unfold parseHeader
  rw [parse_elements]
  unfold stamps v1s
  split
  · rw [Option.or_none]
    rfl
  · rfl

theorem finish_exact {p : Parsed} {candidates : List String} : finish p = .ok (timestamp,candidates) ↔
    p = ⟨some timestamp,candidates⟩ ∧ candidates ≠ [] := by
  obtain ⟨stamp,signatures⟩ := p
  cases stamp with
  | none => simp [finish]
  | some t =>
      cases signatures with
      | nil =>
          simp [finish]
      | cons v rest =>
          simp [finish]
          intro _ listed
          rw [← listed]
          exact List.cons_ne_nil _ _

theorem finish_error {p : Parsed} {e : Raised} (refused : finish p = .error e) : ∃ reason, e = .signatureError reason := by
  obtain ⟨stamp,signatures⟩ := p
  cases stamp with
  | none => exact ⟨_,(Except.error.inj refused).symm⟩
  | some t =>
      cases signatures with
      | nil => exact ⟨_,(Except.error.inj refused).symm⟩
      | cons v rest => cases refused

theorem parseHeader_exact {candidates : List String} : parseHeader other header = .ok (timestamp,candidates) ↔
    WellFormed other header timestamp ∧ candidates = v1s header ∧ candidates ≠ [] := by
  rw [parseHeader_reads]
  by_cases read : (stamps header).all (readable other) = true
  · rw [if_pos read,finish_exact]
    constructor
    · intro parsed
      obtain ⟨same,some_⟩ := parsed
      obtain ⟨stamp,listed⟩ := Parsed.mk.inj same
      exact ⟨⟨List.all_eq_true.mp read,stamp⟩,listed.symm,some_⟩
    · intro written
      obtain ⟨⟨_,stamp⟩,rfl,some_⟩ := written
      exact ⟨by rw [stamp],some_⟩
  · rw [if_neg read]
    constructor
    · intro parsed
      cases parsed
    · intro written
      exact absurd (List.all_eq_true.mpr written.1.1) read

theorem parseHeader_error {e : Raised} (refused : parseHeader other header = .error e) : ∃ reason, e = .signatureError reason := by
  rw [parseHeader_reads] at refused
  split at refused
  · exact finish_error refused
  · exact ⟨_,(Except.error.inj refused).symm⟩

-- What `replace` puts for other characters is no hex digit.
theorem octet_hex {c d : Char} (hex : d ∈ "0123456789abcdef".toList) (same : octet c = octet d) : c = d := by
  have low : ∀ h ∈ "0123456789abcdef".toList, h.toNat < 128 ∧ h.toNat ≠ 63 := Text.each_listed (by decide)
  obtain ⟨ascii,apart⟩ := low d hex
  have kept : d.toNat.toUInt8.toNat = d.toNat := Nat.mod_eq_of_lt (Nat.lt_trans ascii (by decide))
  unfold octet at same
  rw [if_pos ascii] at same
  split at same
  · next plain =>
      have kept' : c.toNat.toUInt8.toNat = c.toNat := Nat.mod_eq_of_lt (Nat.lt_trans plain (by decide))
      rw [same,kept] at kept'
      rw [← Char.ofNat_toNat c,← kept',Char.ofNat_toNat]
  · rw [← same] at kept
    exact absurd kept.symm apart

theorem encode_hex {candidate expected : String} (hex : ∀ c ∈ expected.toList, c ∈ "0123456789abcdef".toList) :
    encode candidate = encode expected ↔ candidate = expected := by
  constructor
  · intro same
    unfold encode at same
    apply String.toList_inj.mp
    generalize candidate.toList = cs at same
    generalize expected.toList = ds at same hex
    induction cs generalizing ds with
    | nil =>
        cases ds with
        | nil => rfl
        | cons d rest => cases same
    | cons c tail ih =>
        cases ds with
        | nil => cases same
        | cons d rest =>
            obtain ⟨head,below⟩ := List.cons.inj same
            rw [octet_hex (hex d (List.mem_cons_self ..)) head,ih _ below fun h there => hex h (List.mem_cons_of_mem _ there)]
  · intro same
    rw [same]

end parsed

section proven

variable (mac : Digest) (other : Char → Option (Fin 10)) (header : String) (body : List UInt8) (secret : String)
  (now : Binary64.Double)

def Signed (timestamp : Int) : Prop :=
  WellFormed other header timestamp ∧ ∃ v1 ∈ v1s header, expectedSignature mac secret timestamp body = .ok v1

def Fresh (timestamp : Int) : Prop :=
  (now.units - timestamp * Binary64.ONE).natAbs ≤ TOLERANCE_SECONDS * Binary64.ONE

def Exactly : Prop :=
  (∀ timestamp, verify mac other header body secret now = .ok timestamp ↔
    Signed mac other header body secret timestamp ∧ Fresh now timestamp) ∧
  ((∀ timestamp, verify mac other header body secret now ≠ .ok timestamp) →
    ∃ reason, verify mac other header body secret now = .error (.signatureError reason)) ∧
  ∀ header', stamps header' = stamps header → v1s header' = v1s header →
    verify mac other header' body secret now = verify mac other header body secret now

-- A signed timestamp beyond the floats, or one that rounding carries across the tolerance.
def Misjudged : Prop :=
  ∃ timestamp, Signed mac other header body secret timestamp ∧
    ∀ stamp, Binary64.ofInt timestamp = some stamp →
      ¬(Binary64.distance now.units stamp ≤ TOLERANCE_SECONDS * Binary64.ONE ↔ Fresh now timestamp)

end proven

section verified

variable {mac : Digest} {other : Char → Option (Fin 10)} {header secret : String} {body : List UInt8} {timestamp : Int}
  {now : Binary64.Double}

theorem expected_written (formed : WellFormed other header timestamp) :
    expectedSignature mac secret timestamp body =
      .ok (mac.hexdigest (Text.utf8 secret) (stamped (Numerals.decimal timestamp) body)) := by
  obtain ⟨value,_,read⟩ := List.mem_filterMap.mp (List.mem_of_getLast? formed.2)
  unfold expectedSignature
  rw [Numerals.integer_shown read]

theorem matched_exact {candidates : List String} {expected : String} (formed : WellFormed other header timestamp)
    (written : expectedSignature mac secret timestamp body = .ok expected) :
    (candidates.any fun candidate => encode candidate == encode expected) = true ↔ expected ∈ candidates := by
  have hex : ∀ c ∈ expected.toList, c ∈ "0123456789abcdef".toList := by
    rw [expected_written formed] at written
    rw [← Except.ok.inj written]
    exact mac.hex _ _
  rw [List.any_eq_true]
  constructor
  · intro matched
    obtain ⟨candidate,there,same⟩ := matched
    rw [← (encode_hex hex).mp (beq_iff_eq.mp same)]
    exact there
  · intro there
    exact ⟨expected,there,beq_iff_eq.mpr rfl⟩

theorem verify_unsigned (now : Binary64.Double) (unsigned : ∀ timestamp, ¬Signed mac other header body secret timestamp) :
    ∃ reason, verify mac other header body secret now = .error (.signatureError reason) := by
  unfold verify
  cases parsed : parseHeader other header with
  | error e =>
      obtain ⟨reason,rfl⟩ := parseHeader_error parsed
      exact ⟨reason,rfl⟩
  | ok read =>
      obtain ⟨timestamp,candidates⟩ := read
      obtain ⟨formed,rfl,_⟩ := parseHeader_exact.mp parsed
      obtain ⟨expected,written⟩ : ∃ expected, expectedSignature mac secret timestamp body = .ok expected :=
        ⟨_,expected_written formed⟩
      have unmatched : ¬((v1s header).any fun candidate => encode candidate == encode expected) = true := by
        intro matched
        exact unsigned timestamp ⟨formed,expected,(matched_exact formed written).mp matched,written⟩
      refine ⟨"no_match",?_⟩
      change (expectedSignature mac secret timestamp body >>= fun expected => _) = _
      rw [written]
      exact if_pos unmatched

theorem verify_signed (signed : Signed mac other header body secret timestamp) :
    verify mac other header body secret now = (do
      if ← stale now timestamp then .error (.signatureError "stale_timestamp") else pure timestamp) := by
  obtain ⟨formed,v1,there,written⟩ := signed
  have parsed : parseHeader other header = .ok (timestamp,v1s header) :=
    parseHeader_exact.mpr ⟨formed,rfl,List.ne_nil_of_mem there⟩
  have matched := (matched_exact formed written).mpr there
  unfold verify
  rw [parsed]
  change (expectedSignature mac secret timestamp body >>= fun expected => _) = _
  rw [written]
  exact if_neg (not_not.mpr matched)

theorem verify_schemes {header' : String} (ts : stamps header' = stamps header) (vs : v1s header' = v1s header) :
    verify mac other header' body secret now = verify mac other header body secret now := by
  unfold verify
  rw [parseHeader_reads,parseHeader_reads,ts,vs]

theorem verify_overflow (now : Binary64.Double) (signed : Signed mac other header body secret timestamp) (beyond : Binary64.ofInt timestamp = none) :
    verify mac other header body secret now = .error .overflowError := by
  rw [verify_signed signed]
  unfold stale
  rw [beyond]
  rfl

theorem verify_judged (now : Binary64.Double) (signed : Signed mac other header body secret timestamp) {stamp : Int}
    (float : Binary64.ofInt timestamp = some stamp) :
    verify mac other header body secret now =
      if Binary64.distance now.units stamp ≤ TOLERANCE_SECONDS * Binary64.ONE then .ok timestamp
      else .error (.signatureError "stale_timestamp") := by
  have judged : ∀ late : Bool, ((Except.ok late : Except Raised Bool) >>= fun late =>
      if late then .error (.signatureError "stale_timestamp") else pure timestamp) =
        if late then .error (.signatureError "stale_timestamp") else .ok timestamp := fun _ => rfl
  rw [verify_signed signed]
  unfold stale
  rw [float]
  dsimp only
  rw [judged]
  by_cases near : Binary64.distance now.units stamp ≤ TOLERANCE_SECONDS * Binary64.ONE
  · rw [if_pos near,decide_eq_false (Nat.not_lt.mpr near),if_neg Bool.false_ne_true]
  · rw [if_neg near,decide_eq_true (Nat.not_le.mp near),if_pos rfl]

end verified

section decided

variable (mac : Digest) (other : Char → Option (Fin 10)) (header : String) (body : List UInt8) (secret : String)
  (now : Binary64.Double)

theorem verifies_exactly : Exactly mac other header body secret now ↔ ¬Misjudged mac other header body secret now := by
  constructor
  · intro exactly misjudged
    obtain ⟨timestamp,signed,crossed⟩ := misjudged
    cases float : Binary64.ofInt timestamp with
    | none =>
        have raised := verify_overflow now signed float
        obtain ⟨reason,refused⟩ := exactly.2.1 fun t accepted => by
          rw [raised] at accepted
          cases accepted
        rw [raised] at refused
        cases refused
    | some stamp =>
        refine crossed stamp float ?_
        have returned := exactly.1 timestamp
        rw [verify_judged now signed float] at returned
        constructor
        · intro near
          rw [if_pos near] at returned
          exact (returned.mp rfl).2
        · intro fresh
          by_contra far
          rw [if_neg far] at returned
          cases returned.mpr ⟨signed,fresh⟩
  · intro judged
    have floats : ∀ timestamp, Signed mac other header body secret timestamp → ∃ stamp,
        Binary64.ofInt timestamp = some stamp ∧
        (Binary64.distance now.units stamp ≤ TOLERANCE_SECONDS * Binary64.ONE ↔ Fresh now timestamp) := by
      intro timestamp signed
      by_contra missing
      exact judged ⟨timestamp,signed,fun stamp float same => missing ⟨stamp,float,same⟩⟩
    refine ⟨?_,?_,fun _ => verify_schemes⟩
    · intro timestamp
      constructor
      · intro accepted
        by_cases signed : ∃ t, Signed mac other header body secret t
        · obtain ⟨t,signed⟩ := signed
          obtain ⟨stamp,float,same⟩ := floats t signed
          rw [verify_judged now signed float] at accepted
          split at accepted
          · next near =>
              cases accepted
              exact ⟨signed,same.mp near⟩
          · cases accepted
        · obtain ⟨reason,refused⟩ := verify_unsigned now fun t signed_ => signed ⟨t,signed_⟩
          rw [refused] at accepted
          cases accepted
      · intro proven
        obtain ⟨stamp,float,same⟩ := floats timestamp proven.1
        rw [verify_judged now proven.1 float]
        exact if_pos (same.mpr proven.2)
    · intro refused
      by_cases signed : ∃ t, Signed mac other header body secret t
      · obtain ⟨t,signed⟩ := signed
        obtain ⟨stamp,float,_⟩ := floats t signed
        have returned := verify_judged now signed float
        split at returned
        · exact absurd returned (refused t)
        · exact ⟨_,returned⟩
      · exact verify_unsigned now fun t signed_ => signed ⟨t,signed_⟩

-- A clock in its usual range is compared exactly, so that only a timestamp beyond the
-- floats is misjudged.
theorem misjudged_clock (old : 2^8 * Binary64.ONE ≤ now.units.natAbs) (soon : now.units.natAbs ≤ 2^52 * Binary64.ONE) :
    Misjudged mac other header body secret now ↔
      ∃ timestamp, Signed mac other header body secret timestamp ∧ Binary64.ofInt timestamp = none := by
  constructor
  · intro misjudged
    obtain ⟨timestamp,signed,crossed⟩ := misjudged
    refine ⟨timestamp,signed,?_⟩
    cases float : Binary64.ofInt timestamp with
    | none => rfl
    | some stamp => exact absurd (Binary64.distance_exact now (by decide) old soon float) (crossed stamp float)
  · intro beyond
    obtain ⟨timestamp,signed,float⟩ := beyond
    refine ⟨timestamp,signed,fun stamp some_ => ?_⟩
    rw [float] at some_
    cases some_

end decided

section signed_header

variable {mac : Digest} {secret : String} {body : List UInt8} {timestamp : Int} {v1 : String}

theorem valueOf_plain {scheme value : String} (name : String)
    (solid : ∀ c ∈ (name ++ (String.ofList ['='] ++ value)).toList, Text.isBlank c = false) (plain : '=' ∉ name.toList) :
    valueOf scheme (name ++ (String.ofList ['='] ++ value)) = if name = scheme then some value else none := by
  unfold valueOf
  rw [Text.strip_solid solid,Text.partition_append plain]

theorem expected_exact (written : expectedSignature mac secret timestamp body = .ok v1) :
    (∃ message, v1 = mac.hexdigest (Text.utf8 secret) message) ∧ Numerals.shown timestamp = some (Numerals.decimal timestamp) := by
  unfold expectedSignature at written
  split at written
  · cases written
  · next stamp shown =>
      refine ⟨⟨_,(Except.ok.inj written).symm⟩,?_⟩
      have same := shown
      unfold Numerals.shown at same
      split at same
      · cases same
      · rw [shown,same]

theorem signed_header (other : Char → Option (Fin 10)) (written : expectedSignature mac secret timestamp body = .ok v1) (some_ : v1 ≠ "") :
    Signed mac other ("t=" ++ Numerals.decimal timestamp ++ ",v1=" ++ v1) body secret timestamp := by
  obtain ⟨⟨message,digest⟩,shown⟩ := expected_exact written
  have hex : ∀ c ∈ v1.toList, c ∈ "0123456789abcdef".toList := by
    rw [digest]
    exact mac.hex _ _
  have stamp : ∀ c ∈ ("t" ++ (String.ofList ['='] ++ Numerals.decimal timestamp)).toList, Text.isBlank c = false := by
    have chars : ("t" ++ (String.ofList ['='] ++ Numerals.decimal timestamp)).toList =
        't' :: '=' :: (Numerals.decimal timestamp).toList := by simp [String.toList_append]
    rw [chars,List.forall_mem_cons,List.forall_mem_cons]
    exact ⟨by decide,by decide,fun c there => Numerals.solid_plain (decimal_chars there)⟩
  have signature : ∀ c ∈ ("v1" ++ (String.ofList ['='] ++ v1)).toList, Text.isBlank c = false := by
    have chars : ("v1" ++ (String.ofList ['='] ++ v1)).toList = 'v' :: '1' :: '=' :: v1.toList := by simp [String.toList_append]
    have solid : ∀ h ∈ "0123456789abcdef".toList, Text.isBlank h = false := Text.each_listed (by decide)
    rw [chars,List.forall_mem_cons,List.forall_mem_cons,List.forall_mem_cons]
    exact ⟨by decide,by decide,by decide,fun c there => solid c (hex c there)⟩
  have read : Numerals.integer other (Numerals.decimal timestamp) = some timestamp := by
    refine Numerals.integer_decimal (Nat.le_of_not_lt fun long => ?_)
    unfold Numerals.shown at shown
    rw [if_pos long] at shown
    cases shown
  have ts : stamps ("t=" ++ Numerals.decimal timestamp ++ ",v1=" ++ v1) = [Numerals.decimal timestamp] := by
    unfold stamps
    rw [split_header timestamp hex,filterMap_head,filterMap_head,valueOf_plain "t" stamp (by decide),
      valueOf_plain "v1" signature (by decide)]
    rfl
  have vs : v1s ("t=" ++ Numerals.decimal timestamp ++ ",v1=" ++ v1) = [v1] := by
    unfold v1s
    rw [split_header timestamp hex,filterMap_head,filterMap_head,valueOf_plain "t" stamp (by decide),
      valueOf_plain "v1" signature (by decide)]
    exact List.filter_cons_of_pos (decide_eq_true some_)
  unfold Signed WellFormed
  rw [ts,vs]
  refine ⟨⟨?_,?_⟩,v1,List.mem_singleton_self _,written⟩
  · intro value there
    rw [List.mem_singleton.mp there,read]
    rfl
  · rw [List.filterMap_cons_some read]
    rfl

end signed_header

section example_header

def exampleMac : Digest where
  hexdigest := fun _ _ => "0a"
  hex := fun _ _ => Text.each_listed (by decide)

def exampleNow : Binary64.Double where
  units := 1000 * 2^1074
  rounded := by decide +kernel
  finite := by decide +kernel

theorem huge_timestamp_raises :
    verify exampleMac (fun _ => none) ("t=" ++ Numerals.decimal (10^309) ++ ",v1=" ++ "0a") [] "whsec_a" exampleNow =
      .error .overflowError ∧
    ¬Exactly exampleMac (fun _ => none) ("t=" ++ Numerals.decimal (10^309) ++ ",v1=" ++ "0a") [] "whsec_a" exampleNow := by
  have shown : Numerals.shown (10^309) = some (Numerals.decimal (10^309)) := by decide +kernel
  have written : expectedSignature exampleMac "whsec_a" (10^309) [] = .ok "0a" := by
    unfold expectedSignature
    rw [shown]
    rfl
  have raises := verify_overflow exampleNow (signed_header (fun _ => none) written (by decide)) (by decide +kernel)
  refine ⟨raises,fun exactly => ?_⟩
  obtain ⟨reason,refused⟩ := exactly.2.1 fun t accepted => by
    rw [raises] at accepted
    cases accepted
  rw [raises] at refused
  cases refused

end example_header

end Osds.Adapters.Stripe
