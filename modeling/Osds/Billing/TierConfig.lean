import Osds.Billing.TierChanges
import Osds.Directory.Payloads

namespace Osds.Billing.TierConfig
open Audit (TenantId)
open Directory.Payloads (Doc Double)
open TierChanges (refuse isKey isCurrency Interval.ofValue)

structure Values where
  name : Option String
  rank : Option Rat
  purchasable : Option Bool
  usesSlot : Option Bool
  priceMinor : Option Rat
  currency : Option String
  interval : Option String
  trialDays : Option Rat
  badgeLabel : Option String
  perks : Doc

-- What `create_tier` takes where a field is omitted.
def omitted : Values := ⟨none,none,some false,some false,none,some "",some "",none,some "",.null⟩

structure Object where
  id : Nat
  tenant : TenantId
  key : String
  values : Values

structure Changes where
  key : Option (Option String)
  name : Option (Option String)
  rank : Option (Option Rat)
  purchasable : Option (Option Bool)
  usesSlot : Option (Option Bool)
  priceMinor : Option (Option Rat)
  currency : Option (Option String)
  interval : Option (Option String)
  trialDays : Option (Option Rat)
  badgeLabel : Option (Option String)
  perks : Option Doc
  unknown : List String

def merge (v : Values) (c : Changes) : Values :=
  {name := c.name.getD v.name
   rank := c.rank.getD v.rank
   purchasable := c.purchasable.getD v.purchasable
   usesSlot := c.usesSlot.getD v.usesSlot
   priceMinor := c.priceMinor.getD v.priceMinor
   currency := c.currency.getD v.currency
   interval := c.interval.getD v.interval
   trialDays := c.trialDays.getD v.trialDays
   badgeLabel := c.badgeLabel.getD v.badgeLabel
   perks := c.perks.getD v.perks}

def setNumber (n : Option Rat) : Bool := n.any (· ≠ 0)

def setText (s : Option String) : Bool := s.any (· ≠ "")

def isDict : Doc → Bool
  | .obj _ => true
  | _ => false

def validate (key : Option String) (v : Values) : List String :=
  refuse (!isKey (key.getD "")) "The key is lowercase letters, digits and hyphens." ++
  refuse (Text.strip (v.name.getD "") = "") "A name is required." ++
  refuse (!v.rank.any (0 ≤ ·)) "The rank is zero or more." ++
  refuse (v.usesSlot.getD false) "Slot-backed tiers are not available yet." ++
  refuse (!isDict v.perks) "Perks must be an object." ++
  if v.purchasable.getD false then
    refuse (v.rank = some 0) "The rank-0 tier is the free fallback and cannot be purchasable." ++
    refuse (!v.priceMinor.any (0 < ·)) "A purchasable tier needs a price above zero." ++
    refuse (!isCurrency (v.currency.getD "")) "The currency is a three-letter ISO 4217 code, such as USD." ++
    refuse (Interval.ofValue (v.interval.getD "")).isNone "Choose how often it bills." ++
    refuse (!v.trialDays.all (fun n => 1 ≤ n && n ≤ 90)) "A trial is 1 to 90 days."
  else
    refuse (setNumber v.priceMinor || setText v.currency || setText v.interval || setNumber v.trialDays)
      "Only a purchasable tier has a price, interval or trial."

section columns

def whole (n : Rat) : Int := n.num.tdiv n.den

def textFits (width : Nat) (s : String) : Bool := '\x00' ∉ s.toList && (s.toList.drop width).all (· = ' ')

def numberFits (bound : Int) (n : Rat) : Bool := -bound - 1 ≤ whole n && whole n ≤ bound

def cell (width : Nat) (s : String) : String := String.ofList (s.toList.take width)

def fits (o : Object) : Bool :=
  textFits 50 o.key && o.values.name.all (textFits 100) && o.values.rank.all (numberFits 32767) &&
    o.values.priceMinor.all (numberFits 2147483647) && o.values.currency.all (textFits 3) && o.values.interval.all (textFits 5) &&
    o.values.trialDays.all (numberFits 32767) && o.values.badgeLabel.all (textFits 50) && o.values.perks.storable

structure Row where
  id : Nat
  tenant : TenantId
  key : String
  name : String
  rank : Int
  purchasable : Bool
  usesSlot : Bool
  priceMinor : Option Int
  currency : String
  interval : String
  trialDays : Option Int
  badgeLabel : String
  perks : Json

def rowOf (shown : Double → Int) (o : Object) : Option Row := do
  let name ← o.values.name
  let rank ← o.values.rank
  let purchasable ← o.values.purchasable
  let usesSlot ← o.values.usesSlot
  let currency ← o.values.currency
  let interval ← o.values.interval
  let badgeLabel ← o.values.badgeLabel
  pure
    {id := o.id
     tenant := o.tenant
     key := cell 50 o.key
     name := cell 100 name
     rank := whole rank
     purchasable := purchasable
     usesSlot := usesSlot
     priceMinor := o.values.priceMinor.map whole
     currency := cell 3 currency
     interval := cell 5 interval
     trialDays := o.values.trialDays.map whole
     badgeLabel := cell 50 badgeLabel
     perks := (o.values.perks.reload shown).json}

-- The check constraints. One that compares a price of NULL passes.
def Checked (row : Row) : Prop :=
  0 ≤ row.rank ∧ row.priceMinor.all (0 ≤ ·) ∧ row.trialDays.all (0 ≤ ·) ∧ ¬(row.rank = 0 ∧ row.purchasable) ∧
    (row.purchasable → row.priceMinor.all (0 < ·) ∧ row.currency ≠ "" ∧ row.interval ≠ "")

instance (row : Row) : Decidable (Checked row) := inferInstanceAs (Decidable (_ ∧ _))

def Lawful (rows : List Row) : Prop :=
  (∀ row ∈ rows, Checked row) ∧ (rows.map (·.id)).Nodup ∧ (rows.map fun row => (row.tenant,row.key)).Nodup ∧
    (rows.map fun row => (row.tenant,row.rank)).Nodup

instance (rows : List Row) : Decidable (Lawful rows) := inferInstanceAs (Decidable (_ ∧ _))

end columns

inductive Op where
  | add | replace

structure Event where
  tenant : TenantId
  actor : String
  op : Op
  path : String
  value : Object

structure Table where
  rows : List Row
  lawful : Lawful rows
  outbox : List Event

inductive DbError where
  | dataError | integrityError

inductive Raised where
  | tierError (message : String)
  | dataError
  deriving DecidableEq

section writes

variable (upper : String → String) (shown : Double → Int) (t : Table) (actor : String)

def put (rows : List Row) (row : Row) : List Row :=
  if rows.any (·.id = row.id) then rows.map fun old => if old.id = row.id then row else old else rows ++ [row]

-- Every value is converted before a constraint is checked.
def write (place : List Row → Row → List Row) (o : Object) : Except DbError Table :=
  if fits o = false then .error .dataError
  else match rowOf shown o with
    | none => .error .integrityError
    | some row =>
        if lawful : Lawful (place t.rows row) then .ok {t with rows := place t.rows row,lawful := lawful}
        else .error .integrityError

def emit (op : Op) (o : Object) : Table :=
  {t with outbox := t.outbox ++ [⟨o.tenant,actor,op,"/tiers/" ++ o.key,o⟩]}

def settle (v : Values) : Values := {v with name := v.name.map Text.strip,usesSlot := some false}

def capital (v : Values) : Values := {v with currency := some (upper (v.currency.getD ""))}

def same (a b : Values) : Bool :=
  a.name = b.name && a.rank = b.rank && a.purchasable = b.purchasable && a.usesSlot = b.usesSlot && a.priceMinor = b.priceMinor &&
    a.currency = b.currency && a.interval = b.interval && a.trialDays = b.trialDays && a.badgeLabel = b.badgeLabel &&
    a.perks.same b.perks

def given (v : Values) : Values := {v with perks := if v.perks.isNull then .obj [] else v.perks}

def created (tenant : TenantId) (key : Option String) (v : Values) (newId : Nat) : Object :=
  ⟨newId,tenant,key.getD "",settle (capital upper (given v))⟩

def createTier (tenant : TenantId) (key : Option String) (v : Values) (newId : Nat) : Table × Except Raised Object :=
  match validate key (capital upper (given v)) with
  | [] =>
      let o := created upper tenant key v newId
      match write shown t (fun rows row => rows ++ [row]) o with
      | .ok t' => (emit t' actor .add o,.ok o)
      | .error .integrityError => (t,.error (.tierError "A tier with that key or rank already exists."))
      | .error .dataError => (t,.error .dataError)
  | errors => (t,.error (.tierError (" ".intercalate errors)))

def unknownFields (c : Changes) : String :=
  "Unknown field(s): " ++ ", ".intercalate (c.unknown.dedup.insertionSort (· ≤ ·))

def refusals (o : Object) (c : Changes) : List String :=
  if c.key.any (· ≠ some o.key) then ["A tier's key cannot be changed."]
  else if c.unknown ≠ [] then [unknownFields c]
  else validate (some o.key) (capital upper (merge o.values c))

def changed (o : Object) (c : Changes) : Object := {o with values := settle (capital upper (merge o.values c))}

-- The attributes are set before the row is saved, and a row that is gone is inserted again.
def updateTier (o : Object) (c : Changes) : Table × Object × Except Raised Unit :=
  match refusals upper o c with
  | [] =>
      let new := changed upper o c
      match write shown t put new with
      | .ok t' => (if same new.values o.values then t' else emit t' actor .replace new,new,.ok ())
      | .error .integrityError => (t,new,.error (.tierError "A tier with that rank already exists."))
      | .error .dataError => (t,new,.error .dataError)
  | errors => (t,o,.error (.tierError (" ".intercalate errors)))

end writes

section law

def Priced (row : Row) : Prop :=
  (row.rank = 0 → row.purchasable = false) ∧
    (row.purchasable = true → (∃ price ∈ row.priceMinor, 0 < price) ∧
      (row.currency.toList.length = 3 ∧ ∀ c ∈ row.currency.toList, 'A' ≤ c ∧ c ≤ 'Z') ∧ (row.interval = "month" ∨ row.interval = "year"))

def raised {α : Type} : Except Raised α → Option Raised
  | .ok _ => none
  | .error e => some e

structure AllOrNothing (t t' : Table) (id : Nat) (ended : Option Raised) (untouched : Prop) : Prop where
  accepted : ended = none → (∀ row ∈ t'.rows, Checked row) ∧ ∃ row ∈ t'.rows, row.id = id ∧ Priced row
  refused : ∀ e, ended = some e → (∃ message, e = .tierError message) ∧ t'.rows = t.rows ∧ untouched
  told : t'.outbox = t.outbox ∧ t'.rows = t.rows ∨ (∃ event, t'.outbox = t.outbox ++ [event]) ∧ t'.rows ≠ t.rows

def Takes (shown : Double → Int) (place : List Row → Row → List Row) (rows : List Row) (o : Object) : Prop :=
  ∃ row, rowOf shown o = some row ∧ Lawful (place rows row)

def Stored (shown : Double → Int) (rows : List Row) (o : Object) : Prop := ∃ row ∈ rows, rowOf shown o = some row

end law

section proofs

variable {upper : String → String} {shown : Double → Int} {t t' : Table} {place : List Row → Row → List Row} {o : Object} {row : Row}
  {rows : List Row} {v : Values} {key : Option String} {c : Changes}

theorem rowOf_parts (made : rowOf shown o = some row) : ∃ name rank purchasable usesSlot currency interval badgeLabel,
    (o.values.purchasable = some purchasable ∧ o.values.currency = some currency ∧ o.values.interval = some interval) ∧
      row = ⟨o.id,o.tenant,cell 50 o.key,cell 100 name,whole rank,purchasable,usesSlot,o.values.priceMinor.map whole,
        cell 3 currency,cell 5 interval,o.values.trialDays.map whole,cell 50 badgeLabel,(o.values.perks.reload shown).json⟩ := by
  obtain ⟨name,_,rest⟩ := Option.bind_eq_some_iff.mp made
  obtain ⟨rank,_,rest⟩ := Option.bind_eq_some_iff.mp rest
  obtain ⟨purchasable,sold,rest⟩ := Option.bind_eq_some_iff.mp rest
  obtain ⟨usesSlot,_,rest⟩ := Option.bind_eq_some_iff.mp rest
  obtain ⟨currency,code,rest⟩ := Option.bind_eq_some_iff.mp rest
  obtain ⟨interval,bills,rest⟩ := Option.bind_eq_some_iff.mp rest
  obtain ⟨badgeLabel,_,rest⟩ := Option.bind_eq_some_iff.mp rest
  exact ⟨name,rank,purchasable,usesSlot,currency,interval,badgeLabel,⟨sold,code,bills⟩,(Option.some.inj rest).symm⟩

theorem rowOf_id (made : rowOf shown o = some row) : row.id = o.id := by
  obtain ⟨_,_,_,_,_,_,_,_,rfl⟩ := rowOf_parts made
  rfl

theorem validate_sold (valid : validate key v = []) (sold : v.purchasable = some true) :
    (∃ price ∈ v.priceMinor, 0 < price) ∧ isCurrency (v.currency.getD "") = true ∧
      (Interval.ofValue (v.interval.getD "")).isSome = true := by
  unfold validate at valid
  rw [sold] at valid
  simp only [Option.getD_some,if_true,List.append_eq_nil_iff] at valid
  obtain ⟨_,⟨⟨⟨_,price⟩,currency⟩,interval⟩,_⟩ := valid
  have price := TierChanges.refuse_nil price
  have currency := TierChanges.refuse_nil currency
  have interval := TierChanges.refuse_nil interval
  refine ⟨?_,by simpa using currency,?_⟩
  · obtain ⟨n,there,positive⟩ := (Option.any_eq_true _ _).mp (by simpa using price)
    exact ⟨n,there,of_decide_eq_true positive⟩
  · cases known : Interval.ofValue (v.interval.getD "") with
    | none =>
        rw [known] at interval
        cases interval
    | some _ => rfl

theorem currency_cell {text : String} (code : isCurrency text = true) (fit : textFits 3 text = true) :
    (cell 3 text).toList.length = 3 ∧ ∀ c ∈ (cell 3 text).toList, 'A' ≤ c ∧ c ≤ 'Z' := by
  unfold isCurrency at code
  unfold textFits at fit
  unfold cell
  rw [Bool.and_eq_true,decide_eq_true_eq,List.all_eq_true] at code
  rw [Bool.and_eq_true,List.all_eq_true] at fit
  have line_ : TierChanges.line text = text.toList := by
    cases reversed : text.toList.reverse with
    | nil =>
        unfold TierChanges.line
        rw [reversed]
    | cons last rest =>
        by_cases newline : last = '\n'
        · subst newline
          have cut : TierChanges.line text = rest.reverse := by
            unfold TierChanges.line
            rw [reversed]
            rfl
          have whole : text.toList = rest.reverse ++ ['\n'] := by
            rw [← List.reverse_reverse text.toList,reversed,List.reverse_cons]
          have dropped : text.toList.drop 3 = ['\n'] := by
            rw [whole,List.drop_append_of_le_length (by rw [← cut,code.1]),List.drop_of_length_le (by rw [← cut,code.1])]
            rfl
          have blank := fit.2 '\n' (by rw [dropped]; exact List.mem_singleton_self _)
          exact absurd (of_decide_eq_true blank) (by decide)
        · unfold TierChanges.line
          rw [reversed]
          split
          next same => exact absurd (List.cons.inj same).1 newline
          next => rfl
  rw [line_] at code
  rw [String.toList_ofList,List.take_of_length_le (Nat.le_of_eq code.1)]
  refine ⟨code.1,?_⟩
  intro c there
  have capital := code.2 c there
  rw [Bool.and_eq_true,decide_eq_true_eq,decide_eq_true_eq] at capital
  exact capital

theorem interval_cell {text : String} (bills : (Interval.ofValue text).isSome = true) : cell 5 text = "month" ∨ cell 5 text = "year" := by
  unfold Interval.ofValue at bills
  split at bills
  · exact .inl (by decide)
  · exact .inr (by decide)
  · cases bills

theorem written_priced (valid : validate key v = []) (settled : o.values = settle v) (fit : fits o = true)
    (made : rowOf shown o = some row) (checked : Checked row) : Priced row := by
  obtain ⟨name,rank,purchasable,usesSlot,currency,interval,badgeLabel,⟨sold,code,bills⟩,rfl⟩ := rowOf_parts made
  obtain ⟨_,_,_,free,priced⟩ := checked
  refine ⟨fun zero => Bool.eq_false_iff.mpr fun on => free ⟨zero,on⟩,?_⟩
  intro on
  dsimp only at on
  rw [on,settled] at sold
  obtain ⟨⟨price,costs,_⟩,letters,known⟩ := validate_sold valid sold
  rw [settled] at code bills
  have currency_ : v.currency = some currency := code
  have interval_ : v.interval = some interval := bills
  have price_ : o.values.priceMinor = v.priceMinor := by
    rw [settled]
    rfl
  rw [currency_] at letters
  rw [interval_] at known
  unfold fits at fit
  simp only [Bool.and_eq_true] at fit
  obtain ⟨⟨⟨⟨⟨_,fit⟩,_⟩,_⟩,_⟩,_⟩ := fit
  rw [settled] at fit
  have width : textFits 3 currency = true := by
    have all := fit
    change v.currency.all _ = true at all
    rw [currency_] at all
    exact all
  refine ⟨?_,currency_cell letters width,interval_cell known⟩
  have positive := (priced on).1
  dsimp only at positive ⊢
  rw [price_,Option.mem_def.mp costs] at positive ⊢
  exact ⟨_,rfl,of_decide_eq_true positive⟩

theorem write_cases (shown : Double → Int) (t : Table) (place : List Row → Row → List Row) (o : Object) :
    fits o = false ∧ write shown t place o = .error .dataError ∨
      fits o = true ∧ ¬Takes shown place t.rows o ∧ write shown t place o = .error .integrityError ∨
        ∃ row, fits o = true ∧ rowOf shown o = some row ∧ ∃ lawful : Lawful (place t.rows row),
          write shown t place o = .ok {t with rows := place t.rows row,lawful := lawful} := by
  unfold write
  cases fit : fits o with
  | false => exact .inl ⟨rfl,if_pos rfl⟩
  | true =>
      rw [if_neg (fun absurd => by cases absurd)]
      cases made : rowOf shown o with
      | none =>
          refine .inr (.inl ⟨rfl,?_,rfl⟩)
          intro takes
          obtain ⟨_,there,_⟩ := takes
          rw [made] at there
          cases there
      | some row =>
          dsimp only
          split
          next lawful => exact .inr (.inr ⟨row,rfl,rfl,lawful,rfl⟩)
          next unlawful =>
            refine .inr (.inl ⟨rfl,?_,rfl⟩)
            intro takes
            obtain ⟨_,there,lawful⟩ := takes
            rw [made] at there
            cases there
            exact unlawful lawful

theorem mem_put (rows : List Row) (row : Row) : row ∈ put rows row := by
  unfold put
  split
  next there =>
    obtain ⟨old,listed,same⟩ := List.any_eq_true.mp there
    exact List.mem_map.mpr ⟨old,listed,if_pos (of_decide_eq_true same)⟩
  next => exact List.mem_append_right _ (List.mem_singleton_self _)

theorem put_same (lawful : Lawful rows) : put rows row = rows ↔ row ∈ rows := by
  constructor
  · intro same
    rw [← same]
    exact mem_put rows row
  · intro there
    have listed : rows.any (·.id = row.id) = true := List.any_eq_true.mpr ⟨row,there,decide_eq_true rfl⟩
    unfold put
    rw [if_pos listed]
    refine (List.map_congr_left fun old was => ?_).trans (List.map_id _)
    split
    next same => exact List.inj_on_of_nodup_map lawful.2.1 there was same.symm
    next => rfl

theorem refused_exact {e : Raised} {id : Nat} {untouched : Prop} :
    AllOrNothing t t id (some e) untouched ↔ (∃ message, e = .tierError message) ∧ untouched := by
  constructor
  · intro law
    exact ⟨(law.refused e rfl).1,(law.refused e rfl).2.2⟩
  · intro both
    refine ⟨(fun absurd => by cases absurd),?_,.inl ⟨rfl,rfl⟩⟩
    intro other same
    cases same
    exact ⟨both.1,rfl,both.2⟩

theorem tierError_only : ∀ message, Raised.dataError ≠ .tierError message := fun _ absurd => by cases absurd

theorem stored_put (lawful : Lawful rows) (made : rowOf shown o = some row) : Stored shown rows o ↔ put rows row = rows := by
  rw [put_same lawful]
  constructor
  · intro stored
    obtain ⟨other,there,same⟩ := stored
    rw [made] at same
    cases same
    exact there
  · intro there
    exact ⟨row,there,made⟩

theorem valid_accepted (accepted : refusals upper o c = []) : validate (some o.key) (capital upper (merge o.values c)) = [] := by
  unfold refusals at accepted
  split at accepted
  · cases accepted
  · split at accepted
    · cases accepted
    · exact accepted

theorem told_exact {untouched : Prop} {id : Nat} {lawful : Lawful (put t.rows row)} {actor : String} {equal : Bool}
    (there : ∃ row' ∈ put t.rows row, row'.id = id ∧ Priced row') :
    AllOrNothing t (if equal then {t with rows := put t.rows row,lawful := lawful}
        else emit {t with rows := put t.rows row,lawful := lawful} actor .replace o) id none untouched ↔
      (equal = true ↔ put t.rows row = t.rows) := by
  have rows : ∀ b : Bool, (if b then ({t with rows := put t.rows row,lawful := lawful} : Table)
      else emit {t with rows := put t.rows row,lawful := lawful} actor .replace o).rows = put t.rows row := by
    intro b
    cases b <;> rfl
  have whole {t' : Table} (written : t'.rows = put t.rows row) : AllOrNothing t t' id none untouched ↔
      (t'.outbox = t.outbox ∧ put t.rows row = t.rows ∨ (∃ event, t'.outbox = t.outbox ++ [event]) ∧ put t.rows row ≠ t.rows) := by
    constructor
    · intro law
      exact written ▸ law.told
    · intro told
      refine ⟨fun _ => ⟨t'.lawful.1,written ▸ there⟩,?_,written ▸ told⟩
      intro e absurd
      cases absurd
  rw [whole (rows equal)]
  cases equal with
  | true =>
      refine ⟨?_,fun same => .inl ⟨rfl,same.mp rfl⟩⟩
      intro told
      rcases told with ⟨_,same⟩ | ⟨⟨event,longer⟩,_⟩
      · exact iff_of_true rfl same
      · exact absurd (List.self_eq_append_right.mp longer) (List.cons_ne_nil _ _)
  | false =>
      refine ⟨?_,fun apart => .inr ⟨⟨_,rfl⟩,fun same => Bool.false_ne_true (apart.mpr same)⟩⟩
      intro told
      rcases told with ⟨longer,_⟩ | ⟨_,apart⟩
      · exact absurd (List.append_right_eq_self.mp longer) (List.cons_ne_nil _ _)
      · exact iff_of_false Bool.false_ne_true apart

section create

variable (upper shown t) (actor : String) (tenant : TenantId) (key : Option String) (v : Values) (newId : Nat)

theorem create_settles :
    AllOrNothing t (createTier upper shown t actor tenant key v newId).1 newId
        (raised (createTier upper shown t actor tenant key v newId).2) True ↔
      validate key (capital upper (given v)) ≠ [] ∨ fits (created upper tenant key v newId) = true := by
  unfold createTier
  cases valid : validate key (capital upper (given v)) with
  | cons first rest => exact iff_of_true (refused_exact.mpr ⟨⟨_,rfl⟩,trivial⟩) (.inl (List.cons_ne_nil _ _))
  | nil =>
      dsimp only
      rcases write_cases shown t (fun rows row => rows ++ [row]) (created upper tenant key v newId) with
        ⟨wide,wrote⟩ | ⟨fit,_,wrote⟩ | ⟨row,fit,made,lawful,wrote⟩
      · rw [wrote]
        refine iff_of_false ?_ ?_
        · intro law
          obtain ⟨message,same⟩ := (refused_exact.mp law).1
          exact tierError_only message same
        · intro either
          rcases either with absurd | absurd
          · exact absurd rfl
          · rw [wide] at absurd
            cases absurd
      · rw [wrote]
        exact iff_of_true (refused_exact.mpr ⟨⟨_,rfl⟩,trivial⟩) (.inr fit)
      · rw [wrote]
        refine iff_of_true ⟨?_,?_,?_⟩ (.inr fit)
        · intro _
          have there : row ∈ t.rows ++ [row] := List.mem_append_right _ (List.mem_singleton_self _)
          exact ⟨lawful.1,row,there,rowOf_id made,written_priced valid rfl fit made (lawful.1 row there)⟩
        · intro e absurd
          cases absurd
        · refine .inr ⟨⟨_,rfl⟩,?_⟩
          intro same
          have longer := congrArg List.length same
          change (t.rows ++ [row]).length = t.rows.length at longer
          rw [List.length_append,List.length_singleton] at longer
          omega

end create

section update

variable (upper shown t) (actor : String) (o : Object) (c : Changes)

-- When an update is whole: it is refused before a value is set, or its values fit the
-- columns; and then the values change with the row, or where the constraints refuse it
-- there is nothing to set.
def Settles : Prop :=
  refusals upper o c ≠ [] ∨ fits (changed upper o c) = true ∧
    (Takes shown put t.rows (changed upper o c) ∧
        (same (changed upper o c).values o.values = true ↔ Stored shown t.rows (changed upper o c)) ∨
      ¬Takes shown put t.rows (changed upper o c) ∧ changed upper o c = o)

theorem update_settles :
    AllOrNothing t (updateTier upper shown t actor o c).1 o.id (raised (updateTier upper shown t actor o c).2.2)
        ((updateTier upper shown t actor o c).2.1 = o) ↔ Settles upper shown t o c := by
  unfold updateTier Settles
  cases valid : refusals upper o c with
  | cons first rest => exact iff_of_true (refused_exact.mpr ⟨⟨_,rfl⟩,rfl⟩) (.inl (List.cons_ne_nil _ _))
  | nil =>
      dsimp only
      rw [or_iff_right fun absurd => absurd rfl]
      rcases write_cases shown t put (changed upper o c) with ⟨wide,wrote⟩ | ⟨fit,unlawful,wrote⟩ | ⟨row,fit,made,lawful,wrote⟩
      · rw [wrote,wide]
        refine iff_of_false ?_ fun absurd => Bool.false_ne_true absurd.1
        intro law
        obtain ⟨message,same⟩ := (refused_exact.mp law).1
        exact tierError_only message same
      · rw [wrote,fit]
        refine refused_exact.trans ⟨?_,?_⟩
        · intro both
          exact ⟨rfl,.inr ⟨unlawful,both.2⟩⟩
        · intro settled
          rcases settled.2 with ⟨takes,_⟩ | ⟨_,same⟩
          · exact absurd takes unlawful
          · exact ⟨⟨_,rfl⟩,same⟩
      · have takes : Takes shown put t.rows (changed upper o c) := ⟨row,made,lawful⟩
        have there := mem_put t.rows row
        have priced := written_priced (valid_accepted valid) rfl fit made (lawful.1 row there)
        rw [wrote,fit,stored_put t.lawful made]
        refine (told_exact ⟨row,there,rowOf_id made,priced⟩).trans ⟨?_,?_⟩
        · intro alike
          exact ⟨rfl,.inl ⟨takes,alike⟩⟩
        · intro settled
          rcases settled.2 with ⟨_,alike⟩ | ⟨unlawful,_⟩
          · exact alike
          · exact absurd takes unlawful

end update

end proofs

section settled

variable (upper : String → String) (shown : Double → Int) (t : Table) (actor : String)

-- A tier is written whole or not at all, exactly where its values are refused or fit, and
-- an update tells what changed.
theorem tier_config_settles :
    (∀ tenant key v newId, AllOrNothing t (createTier upper shown t actor tenant key v newId).1 newId
        (raised (createTier upper shown t actor tenant key v newId).2) True ↔
      validate key (capital upper (given v)) ≠ [] ∨ fits (created upper tenant key v newId) = true) ∧
    ∀ o c, AllOrNothing t (updateTier upper shown t actor o c).1 o.id (raised (updateTier upper shown t actor o c).2.2)
        ((updateTier upper shown t actor o c).2.1 = o) ↔ Settles upper shown t o c := by
  constructor
  · intro tenant key v newId
    exact create_settles upper shown t actor tenant key v newId
  · intro o c
    exact update_settles upper shown t actor o c

end settled

section runs

def free (id : Nat) (key name : String) (rank : Int) : Row := ⟨id,1,key,name,rank,false,false,none,"","",none,"",.obj []⟩

def twoTiers : Table := ⟨[free 1 "gold" "Gold" 1,free 2 "silver" "Silver" 2],by decide +kernel,[]⟩

def ranked (rank : Rat) : Values := {omitted with name := some "Basic",rank := some rank}

def silver : Object := ⟨2,1,"silver",{omitted with name := some "Silver",rank := some 2,perks := .obj []}⟩

def unchanged : Changes := ⟨none,none,none,none,none,none,none,none,none,none,none,[]⟩

def refused : Table × Except Raised Object := createTier id (fun _ => 0) twoTiers "op" 1 (some "basic") (ranked 40000) 3

def clashed : Table × Object × Except Raised Unit := updateTier id (fun _ => 0) twoTiers "op" silver {unchanged with rank := some (some 1)}

-- A rank passes the checks and is too large for its column; another that is taken stays
-- on the object.
theorem ranks_fail : ¬AllOrNothing twoTiers refused.1 3 (raised refused.2) True ∧
    ¬AllOrNothing twoTiers clashed.1 2 (raised clashed.2.2) (clashed.2.1 = silver) := by
  constructor
  · intro law
    obtain ⟨message,same⟩ := (law.refused .dataError (by decide +kernel)).1
    exact tierError_only message same
  · intro law
    have ended : raised clashed.2.2 = some (.tierError "A tier with that rank already exists.") := by decide +kernel
    have same := (law.refused _ ended).2.2
    have rank : clashed.2.1.values.rank = some 1 := by decide +kernel
    rw [same] at rank
    exact absurd rank (by decide +kernel)

end runs

end Osds.Billing.TierConfig
