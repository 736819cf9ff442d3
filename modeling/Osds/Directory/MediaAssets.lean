import Osds.Lib.Lists
import Osds.Lib.Runs
import Osds.Lib.Text
import Mathlib.Data.List.Nodup
import Mathlib.Data.List.Sort

namespace Osds.Directory.MediaAssets

inductive Role where
  | logo
  | cover
  | gallery
  deriving DecidableEq, Repr

structure Asset where
  pk : Nat
  publicId : String
  role : Role
  ready : Bool
  width : Nat
  height : Nat
  altText : String
  sortOrder : Nat
  deriving DecidableEq, Repr

-- `writer` is the transaction that inserted the row and `deleter` the one that
-- deletes it, while they are open; `since` is the change it was committed with.
structure Row where
  asset : Asset
  writer : Option Nat
  deleter : Option Nat
  since : Nat
  deriving DecidableEq, Repr

structure Ref where
  assetId : String
  url : String
  width : Nat
  height : Nat
  alt : Option String
  deriving DecidableEq, Repr

structure Media where
  logo : Option Ref
  cover : Option Ref
  gallery : List Ref
  deriving DecidableEq, Repr

def MEDIA_URL_PREFIX : String := "/media/"

def refOf (absoluteUrl : String → String) (a : Asset) : Ref :=
  ⟨a.publicId,absoluteUrl (MEDIA_URL_PREFIX ++ a.publicId),a.width,a.height,if a.altText = "" then none else some a.altText⟩

def Media.put (m : Media) (role : Role) (r : Ref) : Media :=
  match role with
  | .logo => {m with logo := some r}
  | .cover => {m with cover := some r}
  | .gallery => {m with gallery := m.gallery ++ [r]}

-- order_by("sort_order", "id")
def before (a b : Asset) : Prop := a.sortOrder < b.sortOrder ∨ a.sortOrder = b.sortOrder ∧ a.pk ≤ b.pk

instance : DecidableRel before := fun _ _ => inferInstanceAs (Decidable (_ ∨ _))

def rebuild (absoluteUrl : String → String) (assets : List Asset) : Media :=
  ((assets.filter (·.ready)).insertionSort before).foldl (fun m a => m.put a.role (refOf absoluteUrl a)) ⟨none,none,[]⟩

structure Upload where
  publicId : String
  width : Nat
  height : Nat
  altText : String
  deriving DecidableEq, Repr

structure Own where
  role : Role
  pk : Nat
  deriving DecidableEq, Repr

-- The statement a call runs next. `own` is the asset it attaches, `saw` what its
-- rebuild read.
inductive Phase where
  | creating (role : Role) (upload : Upload)
  | listing (own : Own)
  | discarding (own : Own) (left : List Nat)
  | readying (own : Own)
  | deleting (pk : Nat)
  | rebuilding (own : Option Own)
  | saving (own : Option Own) (saw : List Asset)
  | saved (own : Option Own) (saw : List Asset)
  deriving DecidableEq, Repr

def Phase.own : Phase → Option Own
  | .creating _ _ => none
  | .listing own => some own
  | .discarding own _ => some own
  | .readying own => some own
  | .deleting _ => none
  | .rebuilding own => own
  | .saving own _ => own
  | .saved own _ => own

-- One listing: its assets, what its row holds and who has that locked. For the
-- statements, how many changes were committed, and how many had been when a call listed
-- the others of its role and when its rebuild read.
structure State where
  rows : List Row
  media : Media
  locked : Option Nat
  jobs : Nat → Option Phase
  nextPk : Nat
  nextJob : Nat
  changes : Nat
  listed : Nat → Nat
  read : Nat → Nat

inductive Action where
  | attachMedia (role : Role) (upload : Upload)
  | detachMedia (pk : Nat)
  | next (p : Nat)
  | commit (p : Nat)
  | abort (p : Nat)

namespace State

def start : State := ⟨[],⟨none,none,[]⟩,none,fun _ => none,0,0,0,fun _ => 0,fun _ => 0⟩

def set (s : State) (p : Nat) (job : Option Phase) : State := {s with jobs := fun q => if q = p then job else s.jobs q}

def begin (s : State) (job : Phase) : State := {s.set s.nextJob (some job) with nextJob := s.nextJob + 1}

def sees (p : Nat) (r : Row) : Bool := r.writer.all (· = p) && r.deleter ≠ some p

def visible (s : State) (p : Nat) : List Asset := (s.rows.filter (sees p)).map (·.asset)

def committed (s : State) : List Asset := (s.rows.filter (·.writer.isNone)).map (·.asset)

def nextSortOrder (s : State) (p : Nat) : Role → Nat
  | .gallery => match (((s.visible p).filter (·.role = .gallery)).map (·.sortOrder)).max? with
      | some last => last + 1
      | none => 0
  | _ => 0

def create (s : State) (p : Nat) (role : Role) (u : Upload) : State :=
  {s with
    rows := s.rows ++ [⟨⟨s.nextPk,u.publicId,role,false,u.width,u.height,String.ofList ((Text.strip u.altText).toList.take 255),
      s.nextSortOrder p role⟩,some p,none,0⟩]
    nextPk := s.nextPk + 1}

def mark (p pk : Nat) (r : Row) : Row := if r.asset.pk = pk ∧ r.writer.all (· = p) then {r with deleter := some p} else r

-- A row that another deletes is waited for; one that is gone is deleted by nobody.
def delete (s : State) (p pk : Nat) (after : Phase) : State :=
  if s.rows.any fun r => r.asset.pk = pk && r.deleter.any (· ≠ p) then s
  else {s with rows := s.rows.map (mark p pk)}.set p (some after)

def makeReady (p pk : Nat) (r : Row) : Row :=
  if r.asset.pk = pk ∧ r.writer = some p then {r with asset := {r.asset with ready := true}} else r

def advance (s : State) (p : Nat) : Phase → State
  | .creating role upload =>
      (s.create p role upload).set p (some (if role = .gallery then .readying ⟨role,s.nextPk⟩ else .listing ⟨role,s.nextPk⟩))
  | .listing own =>
      {s.set p (some (.discarding own (((s.visible p).filter fun a => a.role = own.role ∧ a.pk ≠ own.pk).map (·.pk)))) with
        listed := fun q => if q = p then s.changes else s.listed q}
  | .discarding own (pk :: left) => s.delete p pk (.discarding own left)
  | .discarding own [] => s.set p (some (.readying own))
  | .readying own => {s with rows := s.rows.map (makeReady p own.pk)}.set p (some (.rebuilding (some own)))
  | .deleting pk => s.delete p pk (.rebuilding none)
  | .rebuilding own =>
      {s.set p (some (.saving own (s.visible p))) with read := fun q => if q = p then s.changes else s.read q}
  | .saving own saw => if s.locked.all (· = p) then {s with locked := some p}.set p (some (.saved own saw)) else s
  | .saved .. => s

def settle (p change : Nat) (r : Row) : Row := if r.writer = some p then {r with writer := none,since := change} else r

def undelete (p : Nat) (r : Row) : Row := {r with deleter := if r.deleter = some p then none else r.deleter}

def unlock (s : State) (p : Nat) : Option Nat := if s.locked = some p then none else s.locked

def wrote (s : State) (p : Nat) : Bool := s.rows.any fun r => r.writer = some p || r.deleter = some p

def commit (absoluteUrl : String → String) (s : State) (p : Nat) (saw : List Asset) : State :=
  {s.set p none with
    rows := (s.rows.filter (·.deleter ≠ some p)).map (settle p (s.changes + 1))
    media := rebuild absoluteUrl saw
    locked := s.unlock p
    changes := if s.wrote p then s.changes + 1 else s.changes}

def abort (s : State) (p : Nat) : State :=
  {s.set p none with
    rows := (s.rows.filter (·.writer ≠ some p)).map (undelete p)
    locked := s.unlock p}

def step (absoluteUrl : String → String) (s : State) : Action → State
  | .attachMedia role upload => s.begin (.creating role upload)
  | .detachMedia pk => s.begin (.deleting pk)
  | .next p => match s.jobs p with
      | some phase => s.advance p phase
      | none => s
  | .commit p => match s.jobs p with
      | some (.saved _ saw) => s.commit absoluteUrl p saw
      | _ => s
  | .abort p => s.abort p

end State
open State

-- No other call has committed a change since the rebuild read, nor, since the others of
-- the role of a logo or a cover were listed, one of that role that is still there.
def Alone (s : State) : Action → Prop
  | .commit p => match s.jobs p with
      | some (.saved own _) => s.read p = s.changes ∧
          ∀ o ∈ own, o.role ≠ .gallery → ∀ r ∈ s.rows, r.writer = none → r.asset.role = o.role → r.since ≤ s.listed p
      | _ => True
  | _ => True

structure Projected (absoluteUrl : String → String) (s : State) : Prop where
  media : s.media = rebuild absoluteUrl s.committed
  single : ∀ role ≠ .gallery, (s.committed.filter fun a => a.ready ∧ a.role = role).length ≤ 1

def Quiet (s : State) : Prop := ∀ p < s.nextJob, s.jobs p = none

structure Sound (absoluteUrl : String → String) (s : State) : Prop where
  media : s.media = rebuild absoluteUrl s.committed
  single : ∀ role ≠ .gallery, (s.committed.filter (·.role = role)).length ≤ 1
  bounded : ∀ r ∈ s.rows, r.asset.pk < s.nextPk
  distinct : (s.rows.map (·.asset.pk)).Nodup
  owns : ∀ r ∈ s.rows, ∀ p, r.writer = some p → (s.jobs p).bind Phase.own = some ⟨r.asset.role,r.asset.pk⟩
  fresh : ∀ q, s.nextJob ≤ q → s.jobs q = none

section rows
variable {absoluteUrl : String → String} {s s' : State} {p pk : Nat} {phase after : Phase} {action : Action}

theorem sound_projected (sound : Sound absoluteUrl s) : Projected absoluteUrl s where
  media := sound.media
  single role other := by
    refine Nat.le_trans (List.monotone_filter_right _ fun a both => ?_).length_le (sound.single role other)
    exact decide_eq_true (of_decide_eq_true both).2

theorem asset_settle (p change : Nat) (r : Row) : (settle p change r).asset = r.asset := by
  unfold settle
  split <;> rfl

theorem committed_commit (s : State) (p : Nat) (saw : List Asset) : (s.commit absoluteUrl p saw).committed = s.visible p := by
  show (((s.rows.filter _).map (settle p _)).filter _).map _ = _
  unfold State.visible
  have assets : (·.asset) ∘ settle p (s.changes + 1) = (·.asset) := funext fun r => asset_settle p _ r
  rw [List.filter_map,List.map_map,List.filter_filter,assets]
  refine congrArg (List.map _) (List.filter_congr fun r _ => ?_)
  obtain ⟨asset,writer,deleter,since⟩ := r
  unfold sees settle
  cases writer with
  | none => rfl
  | some q =>
      by_cases mine : q = p
      · subst mine
        simp
      · simp [mine]

theorem Sound.stamped (sound : Sound absoluteUrl s) (changes : Nat) (listed read : Nat → Nat) :
    Sound absoluteUrl {s with changes := changes,listed := listed,read := read} :=
  ⟨sound.media,sound.single,sound.bounded,sound.distinct,sound.owns,sound.fresh⟩

theorem committed_map {f : Row → Row} (writer : ∀ r, (f r).writer = r.writer) (asset : ∀ r ∈ s.rows, r.writer = none → (f r).asset = r.asset) :
    ((s.rows.map f).filter (·.writer.isNone)).map (·.asset) = s.committed := by
  unfold State.committed
  rw [List.filter_map,List.map_map]
  have same : s.rows.filter ((fun r : Row => r.writer.isNone) ∘ f) = s.rows.filter (·.writer.isNone) :=
    List.filter_congr fun r _ => by rw [Function.comp,writer]
  rw [same]
  refine List.map_congr_left fun r there => ?_
  obtain ⟨listed,none_⟩ := List.mem_filter.mp there
  exact asset r listed (Option.isNone_iff_eq_none.mp none_)

theorem writer_mark (r : Row) : (mark p pk r).writer = r.writer := by
  unfold mark
  split <;> rfl

theorem asset_mark (r : Row) : (mark p pk r).asset = r.asset := by
  unfold mark
  split <;> rfl

theorem writer_makeReady (r : Row) : (makeReady p pk r).writer = r.writer := by
  unfold makeReady
  split <;> rfl

theorem own_makeReady (r : Row) : (makeReady p pk r).asset.pk = r.asset.pk ∧ (makeReady p pk r).asset.role = r.asset.role := by
  unfold makeReady
  split <;> exact ⟨rfl,rfl⟩

theorem sound_rows {f : Row → Row} (sound : Sound absoluteUrl s) (known : s.jobs p = some phase) (own : after.own = phase.own)
    (writer : ∀ r, (f r).writer = r.writer) (asset : ∀ r ∈ s.rows, r.writer = none → (f r).asset = r.asset)
    (same : ∀ r, (f r).asset.pk = r.asset.pk ∧ (f r).asset.role = r.asset.role) (locked : Option Nat) :
    Sound absoluteUrl ({s with rows := s.rows.map f,locked := locked}.set p (some after)) where
  media := sound.media.trans (congrArg (rebuild absoluteUrl) (committed_map writer asset).symm)
  single role other := by
    have kept : (({s with rows := s.rows.map f,locked := locked} : State).set p (some after)).committed = s.committed := committed_map writer asset
    rw [kept]
    exact sound.single role other
  bounded := by
    intro k there
    obtain ⟨r,listed,rfl⟩ := List.mem_map.mp there
    exact (same r).1 ▸ sound.bounded r listed
  distinct := by
    show ((s.rows.map f).map _).Nodup
    rw [List.map_map]
    have pks : s.rows.map ((·.asset.pk) ∘ f) = s.rows.map (·.asset.pk) := List.map_congr_left fun r _ => (same r).1
    exact pks ▸ sound.distinct
  owns := by
    intro k there q wrote
    obtain ⟨r,listed,rfl⟩ := List.mem_map.mp there
    rw [writer] at wrote
    have before := sound.owns r listed q wrote
    rw [(same r).1,(same r).2]
    show ((if q = p then some after else s.jobs q).bind Phase.own) = _
    split
    · next mine =>
        subst mine
        rw [known] at before
        exact own.trans before
    · exact before
  fresh := by
    intro q later
    have none_ := sound.fresh q later
    have apart : q ≠ p := by
      intro mine
      rw [mine,known] at none_
      exact nomatch none_
    exact (if_neg apart).trans none_

theorem sound_set (sound : Sound absoluteUrl s) (known : s.jobs p = some phase) (own : after.own = phase.own) (locked : Option Nat) :
    Sound absoluteUrl ({s with locked := locked}.set p (some after)) := by
  have moved := sound_rows (f := fun r => r) sound known own (fun _ => rfl) (fun _ _ _ => rfl) (fun _ => ⟨rfl,rfl⟩) locked
  rwa [List.map_id'] at moved

theorem sound_delete (sound : Sound absoluteUrl s) (known : s.jobs p = some phase) (own : after.own = phase.own) :
    Sound absoluteUrl (s.delete p pk after) := by
  unfold State.delete
  split
  · exact sound
  · refine sound_rows sound known own writer_mark (fun r _ _ => asset_mark r) ?_ s.locked
    exact fun r => ⟨congrArg Asset.pk (asset_mark r),congrArg Asset.role (asset_mark r)⟩

theorem sound_create {role : Role} {upload : Upload} (sound : Sound absoluteUrl s) (known : s.jobs p = some (.creating role upload))
    (own : after.own = some ⟨role,s.nextPk⟩) : Sound absoluteUrl ((s.create p role upload).set p (some after)) := by
  have same : ((s.create p role upload).set p (some after)).committed = s.committed := by
    show (((s.rows ++ [_]).filter _).map _) = _
    rw [List.filter_append,List.map_append]
    exact List.append_nil _
  refine ⟨sound.media.trans (congrArg _ same.symm),?_,?_,?_,?_,?_⟩
  · intro role other
    exact same ▸ sound.single role other
  · intro r there
    rcases List.mem_append.mp there with listed | new
    · exact Nat.lt_succ_of_lt (sound.bounded r listed)
    · rw [List.mem_singleton.mp new]
      exact Nat.lt_succ_self _
  · show ((s.rows ++ [_]).map _).Nodup
    rw [List.map_append]
    refine List.nodup_append.mpr ⟨sound.distinct,List.pairwise_singleton _ _,?_⟩
    intro n listed m new equal
    obtain ⟨r,there,rfl⟩ := List.mem_map.mp listed
    exact Nat.ne_of_lt (sound.bounded r there) (equal.trans (List.mem_singleton.mp new))
  · intro r there q wrote
    show ((if q = p then some after else s.jobs q).bind Phase.own) = _
    rcases List.mem_append.mp there with listed | new
    · have before := sound.owns r listed q wrote
      split
      · next mine =>
          rw [mine,known] at before
          exact nomatch before
      · exact before
    · rw [List.mem_singleton.mp new] at wrote ⊢
      cases wrote
      rw [if_pos rfl]
      exact own
  · intro q later
    have none_ := sound.fresh q later
    have apart : q ≠ p := by
      intro mine
      rw [mine,known] at none_
      exact nomatch none_
    exact (if_neg apart).trans none_

theorem sound_begin (sound : Sound absoluteUrl s) (phase : Phase) : Sound absoluteUrl (s.begin phase) where
  media := sound.media
  single := sound.single
  bounded := sound.bounded
  distinct := sound.distinct
  owns := by
    intro r listed q wrote
    have before := sound.owns r listed q wrote
    have apart : q ≠ s.nextJob := by
      intro new
      rw [new,sound.fresh s.nextJob (Nat.le_refl _)] at before
      exact nomatch before
    exact (congrArg (Option.bind · Phase.own) (if_neg apart)).trans before
  fresh := by
    intro q later
    have apart : q ≠ s.nextJob := Nat.ne_of_gt (Nat.lt_of_succ_le later)
    exact (if_neg apart).trans (sound.fresh q (Nat.le_of_succ_le later))

theorem sound_end {rows : List Row} (sound : Sound absoluteUrl s) (media : Media) (locked : Option Nat)
    (projected : media = rebuild absoluteUrl ((rows.filter (·.writer.isNone)).map (·.asset)))
    (single : ∀ role ≠ .gallery, (((rows.filter (·.writer.isNone)).map (·.asset)).filter (·.role = role)).length ≤ 1)
    (kept : ∀ k ∈ rows, ∃ r ∈ s.rows, k.asset = r.asset ∧ ∀ q, k.writer = some q → r.writer = some q ∧ q ≠ p)
    (distinct : (rows.map (·.asset.pk)).Nodup) :
    Sound absoluteUrl {s.set p none with rows := rows,media := media,locked := locked} where
  media := projected
  single := single
  bounded := by
    intro k there
    obtain ⟨r,listed,same,-⟩ := kept k there
    exact same ▸ sound.bounded r listed
  distinct := distinct
  owns := by
    intro k there q wrote
    obtain ⟨r,listed,same,held⟩ := kept k there
    obtain ⟨wrote',apart⟩ := held q wrote
    rw [same]
    exact (congrArg (Option.bind · Phase.own) (if_neg apart)).trans (sound.owns r listed q wrote')
  fresh := by
    intro q later
    show (if q = p then none else s.jobs q) = none
    split
    · rfl
    · exact sound.fresh q later

theorem sound_abort (sound : Sound absoluteUrl s) (p : Nat) : Sound absoluteUrl (s.abort p) := by
  have same : (((s.rows.filter (·.writer ≠ some p)).map (undelete p)).filter (·.writer.isNone)).map (·.asset) = s.committed := by
    unfold State.committed
    rw [List.filter_map,List.map_map,List.filter_filter]
    refine congrArg (List.map _) (List.filter_congr fun r _ => ?_)
    obtain ⟨asset,writer,deleter,since⟩ := r
    cases writer with
    | none => rfl
    | some q => exact Bool.false_and _
  refine sound_end sound s.media (s.unlock p) (same ▸ sound.media) (fun role other => same ▸ sound.single role other) ?_ ?_
  · intro k there
    obtain ⟨r,kept,rfl⟩ := List.mem_map.mp there
    obtain ⟨listed,other⟩ := List.mem_filter.mp kept
    refine ⟨r,listed,rfl,fun q wrote => ⟨wrote,fun mine => ?_⟩⟩
    exact of_decide_eq_true other (mine ▸ wrote)
  · rw [List.map_map]
    exact sound.distinct.sublist (List.filter_sublist.map _)

theorem visible_single (sound : Sound absoluteUrl s) (known : s.jobs p = some phase) {role : Role} (other : role ≠ .gallery)
    (alone : ∀ o ∈ phase.own, o.role ≠ .gallery → ∀ a ∈ s.visible p, a.role = o.role → a.pk = o.pk) :
    ((s.visible p).filter (·.role = role)).length ≤ 1 := by
  by_cases mine : ∃ o ∈ phase.own, o.role = role
  · obtain ⟨o,owned,rfl⟩ := mine
    have pks : (s.visible p).Pairwise fun a b => a.pk ≠ b.pk := by
      refine List.pairwise_map.mp ?_
      unfold State.visible
      rw [List.map_map]
      exact sound.distinct.sublist (List.filter_sublist.map _)
    refine Lists.filter_at_most_one (pks.imp_of_mem fun {a b} seen seen' apart both => apart ?_)
    have first := alone o owned other a seen (of_decide_eq_true both.1)
    have second := alone o owned other b seen' (of_decide_eq_true both.2)
    exact first.trans second.symm
  · refine Nat.le_trans ?_ (sound.single role other)
    unfold State.visible State.committed
    rw [List.filter_map,List.filter_map,List.length_map,List.length_map,List.filter_filter,List.filter_filter,
      ← List.countP_eq_length_filter,← List.countP_eq_length_filter]
    refine List.countP_mono_left fun r listed both => ?_
    obtain ⟨same,seen⟩ := Bool.and_eq_true_iff.mp both
    refine Bool.and_eq_true_iff.mpr ⟨same,?_⟩
    cases writer : r.writer with
    | none => rfl
    | some q =>
        have own : q = p := by
          unfold sees at seen
          rw [writer] at seen
          exact of_decide_eq_true (Bool.and_eq_true_iff.mp seen).1
        have owned := sound.owns r listed p (own ▸ writer)
        rw [known] at owned
        exact absurd ⟨_,owned,of_decide_eq_true same⟩ mine

theorem sound_commit {own : Option Own} {saw : List Asset} (sound : Sound absoluteUrl s) (known : s.jobs p = some (.saved own saw))
    (read : s.visible p = saw)
    (only : ∀ o ∈ own, o.role ≠ .gallery → ∀ a ∈ s.visible p, a.role = o.role → a.pk = o.pk) :
    Sound absoluteUrl (s.commit absoluteUrl p saw) := by
  have same : (s.commit absoluteUrl p saw).committed = s.visible p := committed_commit s p saw
  refine (sound_end sound (rebuild absoluteUrl saw) (s.unlock p) ?_ ?_ ?_ ?_).stamped _ s.listed s.read
  · exact congrArg (rebuild absoluteUrl) (read.symm.trans same.symm)
  · intro role other
    have kept := visible_single sound known other only
    rw [← same] at kept
    exact kept
  · intro k there
    obtain ⟨r,kept,rfl⟩ := List.mem_map.mp there
    refine ⟨r,(List.mem_filter.mp kept).1,asset_settle p _ r,fun q wrote => ?_⟩
    unfold settle at wrote
    split at wrote
    · exact nomatch wrote
    · next other => exact ⟨wrote,fun mine => other (mine ▸ wrote)⟩
  · have pks : (·.asset.pk) ∘ settle p (s.changes + 1) = (·.asset.pk) :=
      funext fun r => congrArg Asset.pk (asset_settle p _ r)
    rw [List.map_map,pks]
    exact sound.distinct.sublist (List.filter_sublist.map _)

theorem sound_advance (sound : Sound absoluteUrl s) (known : s.jobs p = some phase) : Sound absoluteUrl (s.advance p phase) := by
  cases phase with
  | creating role upload =>
      refine sound_create sound known ?_
      split <;> rfl
  | listing own =>
      have same (left : List Nat) : (Phase.discarding own left).own = (Phase.listing own).own := rfl
      exact (sound_set sound known (same _) s.locked).stamped s.changes _ s.read
  | discarding own left =>
      cases left with
      | nil => exact sound_set sound known (by rfl) s.locked
      | cons pk left => exact sound_delete sound known (by rfl)
  | readying own =>
      refine sound_rows sound known (by rfl) writer_makeReady ?_ own_makeReady s.locked
      intro r _ written
      unfold makeReady
      rw [if_neg fun mine => nomatch mine.2.symm.trans written]
  | deleting pk => exact sound_delete sound known (by rfl)
  | rebuilding own =>
      have same : (Phase.saving own (s.visible p)).own = (Phase.rebuilding own).own := rfl
      exact (sound_set sound known same s.locked).stamped s.changes s.listed _
  | saving own saw =>
      unfold State.advance
      dsimp only
      split
      · exact sound_set sound known (by rfl) (some p)
      · exact sound
  | saved own saw => exact sound

def seen (p : Nat) (rows : List Row) : List Asset := (rows.filter (sees p)).map (·.asset)

-- Of the assets of the role that were there at change n, p deletes each, or is about to.
def Discards (p : Nat) (o : Own) (left : List Nat) (n : Nat) (rows : List Row) : Prop := ∀ r ∈ rows, r.writer = none →
  r.asset.role = o.role → r.since ≤ n → r.asset.pk ≠ o.pk → r.deleter = some p ∨ r.asset.pk ∈ left

def Phase.left : Phase → List Nat
  | .discarding _ left => left
  | _ => []

def Phase.past : Phase → Bool
  | .creating .. | .listing _ | .deleting _ => false
  | _ => true

def Phase.saw : Phase → Option (List Asset)
  | .saving _ saw | .saved _ saw => some saw
  | _ => none

-- The work of the open calls so far: a call discards what it listed, and its rebuild
-- stands while no change is committed.
structure Working (s : State) : Prop where
  listed : ∀ p, s.listed p ≤ s.changes
  read : ∀ p, s.read p ≤ s.changes
  discards : ∀ p phase, s.jobs p = some phase → phase.past = true → ∀ o ∈ phase.own, o.role ≠ .gallery →
    Discards p o phase.left (s.listed p) s.rows
  saw : ∀ p phase, s.jobs p = some phase → ∀ saw ∈ phase.saw, s.read p = s.changes → seen p s.rows = saw

structure Apart (q : Nat) (s s' : State) : Prop where
  jobs : ∀ p ≠ q, s'.jobs p = s.jobs p ∧ s'.listed p = s.listed p ∧ s'.read p = s.read p
  changes : s.changes ≤ s'.changes
  discards : ∀ p ≠ q, ∀ o left n, n ≤ s.changes → Discards p o left n s.rows → Discards p o left n s'.rows
  seen : ∀ p ≠ q, s'.changes = s.changes → seen p s'.rows = seen p s.rows

theorem Working.apart {q : Nat} (working : Working s) (apart : Apart q s s') (listed : s'.listed q ≤ s'.changes)
    (read : s'.read q ≤ s'.changes)
    (discards : ∀ phase, s'.jobs q = some phase → phase.past = true → ∀ o ∈ phase.own, o.role ≠ .gallery →
      Discards q o phase.left (s'.listed q) s'.rows)
    (saw : ∀ phase, s'.jobs q = some phase → ∀ saw ∈ phase.saw, s'.read q = s'.changes → MediaAssets.seen q s'.rows = saw) :
    Working s' := by
  refine ⟨?_,?_,?_,?_⟩
  · intro p
    by_cases mine : p = q
    · exact mine ▸ listed
    · rw [(apart.jobs p mine).2.1]
      exact Nat.le_trans (working.listed p) apart.changes
  · intro p
    by_cases mine : p = q
    · exact mine ▸ read
    · rw [(apart.jobs p mine).2.2]
      exact Nat.le_trans (working.read p) apart.changes
  · intro p phase known past o owned other
    by_cases mine : p = q
    · subst mine
      exact discards phase known past o owned other
    · obtain ⟨job,stamp,_⟩ := apart.jobs p mine
      rw [stamp]
      exact apart.discards p mine o phase.left _ (working.listed p)
        (working.discards p phase (job.symm.trans known) past o owned other)
  · intro p phase known saw_ held fresh
    by_cases mine : p = q
    · subst mine
      exact saw phase known saw_ held fresh
    · obtain ⟨job,_,stamp⟩ := apart.jobs p mine
      rw [stamp] at fresh
      have still : s'.changes = s.changes := Nat.le_antisymm (fresh ▸ working.read p) apart.changes
      rw [apart.seen p mine still]
      exact working.saw p phase (job.symm.trans known) saw_ held (fresh.trans still)

structure Gentle (q : Nat) (r k : Row) : Prop where
  writer : k.writer = r.writer
  role : k.asset.role = r.asset.role
  pk : k.asset.pk = r.asset.pk
  since : k.since = r.since
  asset : r.writer ≠ some q → k.asset = r.asset
  deleter : ∀ p ≠ q, k.deleter = some p ↔ r.deleter = some p

theorem Gentle.sees {q : Nat} {r k : Row} (gentle : Gentle q r k) (other : p ≠ q) : State.sees p k = State.sees p r := by
  unfold State.sees
  rw [gentle.writer]
  exact congrArg (_ && ·) (decide_eq_decide.mpr (not_congr (gentle.deleter p other)))

theorem sees_mine {r : Row} (seen : State.sees p r = true) (wrote : r.writer = some q) : q = p := by
  unfold State.sees at seen
  rw [wrote] at seen
  exact of_decide_eq_true (Bool.and_eq_true_iff.mp seen).1

theorem apart_rows {q : Nat} {keep : Row → Bool} {f : Row → Row} (rows : s'.rows = (s.rows.filter keep).map f)
    (gentle : ∀ r ∈ s.rows, keep r = true → Gentle q r (f r)) (own : ∀ r ∈ s.rows, keep r = false → r.writer = some q)
    (jobs : ∀ p ≠ q, s'.jobs p = s.jobs p ∧ s'.listed p = s.listed p ∧ s'.read p = s.read p)
    (changes : s'.changes = s.changes) : Apart q s s' := by
  refine ⟨jobs,Nat.le_of_eq changes.symm,?_,?_⟩
  · intro p other o left n _ discards k there none_ role early apart
    rw [rows] at there
    obtain ⟨r,kept,rfl⟩ := List.mem_map.mp there
    obtain ⟨listed,keeps⟩ := List.mem_filter.mp kept
    have same := gentle r listed keeps
    rw [same.pk] at apart ⊢
    exact (discards r listed (same.writer.symm.trans none_) (same.role.symm.trans role) (same.since ▸ early) apart).imp_left
      (same.deleter p other).mpr
  · intro p other _
    unfold seen
    rw [rows,List.filter_map,List.map_map,List.filter_filter]
    have visible : ∀ r ∈ s.rows, ((State.sees p ∘ f) r && keep r) = State.sees p r := by
      intro r listed
      cases keeps : keep r with
      | true => rw [Bool.and_true,Function.comp,(gentle r listed keeps).sees other]
      | false =>
          rw [Bool.and_false]
          refine (Bool.eq_false_iff.mpr fun sees_ => ?_).symm
          exact other (sees_mine sees_ (own r listed keeps)).symm
    rw [List.filter_congr visible]
    refine List.map_congr_left fun r there => ?_
    obtain ⟨listed,sees_⟩ := List.mem_filter.mp there
    have keeps : keep r = true := by
      have both := visible r listed
      rw [sees_] at both
      exact (Bool.and_eq_true_iff.mp both).2
    exact (gentle r listed keeps).asset fun wrote => other (sees_mine sees_ wrote).symm

theorem gentle_refl (q : Nat) (r : Row) : Gentle q r r := ⟨rfl,rfl,rfl,rfl,fun _ => rfl,fun _ _ => Iff.rfl⟩

theorem gentle_mark {r : Row} (free : r.asset.pk = pk → ∀ p ≠ q, r.deleter ≠ some p) : Gentle q r (mark q pk r) := by
  unfold mark
  split
  · next mine =>
      refine ⟨rfl,rfl,rfl,rfl,fun _ => rfl,fun p other => iff_of_false ?_ (free mine.1 p other)⟩
      exact fun same => other (Option.some.inj same).symm
  · exact gentle_refl q r

theorem gentle_makeReady (r : Row) : Gentle q r (makeReady q pk r) := by
  unfold makeReady
  split
  · next mine => exact ⟨rfl,rfl,rfl,rfl,fun other => (other mine.2).elim,fun _ _ => Iff.rfl⟩
  · exact gentle_refl q r

theorem gentle_undelete (r : Row) : Gentle q r (undelete q r) := by
  refine ⟨rfl,rfl,rfl,rfl,fun _ => rfl,fun p other => ?_⟩
  unfold undelete
  dsimp only
  split
  · next mine =>
      rw [mine]
      exact iff_of_false (Option.some_ne_none p).symm fun same => other (Option.some.inj same).symm
  · exact Iff.rfl

theorem apart_map {q : Nat} {f : Row → Row} (rows : s'.rows = s.rows.map f) (gentle : ∀ r ∈ s.rows, Gentle q r (f r))
    (jobs : ∀ p ≠ q, s'.jobs p = s.jobs p ∧ s'.listed p = s.listed p ∧ s'.read p = s.read p)
    (changes : s'.changes = s.changes) : Apart q s s' := by
  have kept : s'.rows = (s.rows.filter fun _ => true).map f := by
    rw [List.filter_true]
    exact rows
  exact apart_rows kept (fun r listed _ => gentle r listed) (fun _ _ absurd => by cases absurd) jobs changes

theorem jobs_set (job : Option Phase) (other : p ≠ q) : (s.set q job).jobs p = s.jobs p := if_neg other

theorem jobs_own (job : Option Phase) : (s.set q job).jobs q = job := if_pos rfl

theorem Working.goes {q : Nat} {f : Row → Row} (working : Working s) (gentle : ∀ r ∈ s.rows, Gentle q r (f r))
    (locked : Option Nat)
    (discards : after.past = true → ∀ o ∈ after.own, o.role ≠ .gallery → Discards q o after.left (s.listed q) (s.rows.map f))
    (saw : ∀ saw ∈ after.saw, s.read q = s.changes → seen q (s.rows.map f) = saw) :
    Working ({s with rows := s.rows.map f,locked := locked}.set q (some after)) := by
  have apart : Apart q s ({s with rows := s.rows.map f,locked := locked}.set q (some after)) :=
    apart_map rfl gentle (fun p other => ⟨jobs_set _ other,rfl,rfl⟩) rfl
  refine working.apart apart (working.listed q) (working.read q) ?_ ?_
  · intro phase known
    cases (jobs_own _).symm.trans known
    exact discards
  · intro phase known
    cases (jobs_own _).symm.trans known
    exact saw

theorem Working.onward (working : Working s) (locked : Option Nat)
    (discards : after.past = true → ∀ o ∈ after.own, o.role ≠ .gallery → Discards p o after.left (s.listed p) s.rows)
    (saw : ∀ saw ∈ after.saw, s.read p = s.changes → seen p s.rows = saw) :
    Working ({s with locked := locked}.set p (some after)) := by
  have same : s.rows.map (fun r => r) = s.rows := List.map_id' _
  have moved : Working ({s with rows := s.rows.map fun r => r,locked := locked}.set p (some after)) :=
    working.goes (fun r _ => gentle_refl p r) locked (same.symm ▸ discards) (same.symm ▸ saw)
  rw [same] at moved
  exact moved

theorem working_create {role : Role} {upload : Upload} (working : Working s) :
    Working (s.advance p (.creating role upload)) := by
  refine working.apart (q := p) ⟨fun q other => ⟨jobs_set _ other,rfl,rfl⟩,Nat.le_refl _,?_,?_⟩ (working.listed p) (working.read p)
    ?_ ?_
  · intro q _ o left n _ discards r there none_
    rcases List.mem_append.mp there with old | new
    · exact discards r old none_
    · rw [List.mem_singleton.mp new] at none_
      cases none_
  · intro q other _
    have unseen : sees q ⟨⟨s.nextPk,upload.publicId,role,false,upload.width,upload.height,
        String.ofList ((Text.strip upload.altText).toList.take 255),s.nextSortOrder p role⟩,some p,none,0⟩ = false :=
      Bool.eq_false_iff.mpr fun sees_ => other (sees_mine sees_ rfl).symm
    show ((s.rows ++ [_]).filter _).map _ = _
    rw [List.filter_append,List.filter_cons_of_neg (by rw [unseen]; exact Bool.false_ne_true),List.filter_nil,List.append_nil]
    rfl
  · intro phase known past o owned other
    cases (jobs_own _).symm.trans known
    split at past
    · next gallery =>
        rw [if_pos gallery] at owned
        cases owned
        exact (other gallery).elim
    · cases past
  · intro phase known saw held
    cases (jobs_own _).symm.trans known
    split at held <;> cases held

theorem working_delete (working : Working s) (known : s.jobs p = some phase)
    (own : after.own = phase.own) (past : ∀ o ∈ phase.own, phase.past = true) (saw : after.saw = none)
    (lefts : ∀ k ∈ phase.left, k = pk ∨ k ∈ after.left) : Working (s.delete p pk after) := by
  unfold State.delete
  split
  · exact working
  · next free =>
      have unheld : ∀ r ∈ s.rows, r.asset.pk = pk → ∀ q ≠ p, r.deleter ≠ some q := by
        intro r listed same q other held
        refine free (List.any_eq_true.mpr ⟨r,listed,Bool.and_eq_true_iff.mpr ⟨decide_eq_true same,?_⟩⟩)
        rw [held]
        exact decide_eq_true other
      refine working.goes (fun r listed => gentle_mark (unheld r listed)) s.locked ?_ ?_
      · intro _ o owned other k there none_ role early apart
        obtain ⟨r,listed,rfl⟩ := List.mem_map.mp there
        rw [asset_mark] at role apart ⊢
        rw [writer_mark] at none_
        have since : (mark p pk r).since = r.since := (gentle_mark (unheld r listed)).since
        rcases working.discards p phase known (past o (own ▸ owned)) o (own ▸ owned) other r listed none_ role (since ▸ early) apart with
          mine | due
        · refine .inl ?_
          unfold mark
          split
          · rfl
          · exact mine
        · rcases lefts _ due with now | later
          · refine .inl ?_
            unfold mark
            rw [if_pos ⟨now,by rw [none_]; rfl⟩]
          · exact .inr later
      · rw [saw]
        exact fun _ absurd => (Option.not_mem_none _ absurd).elim

theorem working_advance (working : Working s) (known : s.jobs p = some phase) : Working (s.advance p phase) := by
  have none_ : ∀ saw ∈ (none : Option (List Asset)), s.read p = s.changes → seen p s.rows = saw :=
    fun _ absurd => (Option.not_mem_none _ absurd).elim
  cases phase with
  | creating role upload => exact working_create working
  | listing own =>
      refine working.apart (q := p) (apart_map (f := fun r => r) (List.map_id' _).symm (fun r _ => gentle_refl p r)
        (fun q other => ⟨jobs_set _ other,if_neg other,rfl⟩) rfl) (Nat.le_of_eq (if_pos rfl)) (working.read p) ?_ ?_
      · intro phase known _ o owned _ r listed written role _ apart
        cases (jobs_own _).symm.trans known
        cases owned
        by_cases mine : r.deleter = some p
        · exact .inl mine
        · refine .inr (List.mem_map_of_mem (List.mem_filter.mpr ⟨?_,decide_eq_true ⟨role,apart⟩⟩))
          refine List.mem_map_of_mem (List.mem_filter.mpr ⟨listed,?_⟩)
          unfold sees
          rw [written]
          exact decide_eq_true mine
      · intro phase known saw held
        cases (jobs_own _).symm.trans known
        cases held
  | discarding own left =>
      cases left with
      | nil => exact working.onward s.locked (fun past => working.discards p (.discarding own []) known past) none_
      | cons pk left => exact working_delete working known (by rfl) (fun _ _ => rfl) rfl (fun k there => List.mem_cons.mp there)
  | readying own =>
      refine working.goes (fun r _ => gentle_makeReady r) s.locked ?_ (fun _ absurd => (Option.not_mem_none _ absurd).elim)
      intro past o owned other k there none_ role early apart
      obtain ⟨r,listed,rfl⟩ := List.mem_map.mp there
      have same : Gentle p r (makeReady p own.pk r) := gentle_makeReady r
      have deleter : (makeReady p own.pk r).deleter = r.deleter := by
        unfold makeReady
        split <;> rfl
      rw [same.pk] at apart ⊢
      rw [deleter]
      exact working.discards p _ known past o owned other r listed (same.writer.symm.trans none_)
        (same.role.symm.trans role) (same.since ▸ early) apart
  | deleting pk => exact working_delete working known (by rfl) (fun _ absurd => (Option.not_mem_none _ absurd).elim) rfl (List.forall_mem_nil _)
  | rebuilding own =>
      refine working.apart (q := p) (apart_map (f := fun r => r) (List.map_id' _).symm (fun r _ => gentle_refl p r)
        (fun q other => ⟨jobs_set _ other,rfl,if_neg other⟩) rfl) (working.listed p) (Nat.le_of_eq (if_pos rfl)) ?_ ?_
      · intro phase known_ past o owned other
        cases (jobs_own _).symm.trans known_
        exact working.discards p (.rebuilding own) known past o owned other
      · intro phase known_ saw held _
        cases (jobs_own _).symm.trans known_
        cases held
        rfl
  | saving own saw =>
      unfold State.advance
      dsimp only
      split
      · exact working.onward (some p) (fun past => working.discards p (.saving own saw) known past)
          (fun saw_ held => working.saw p (.saving own saw) known saw_ held)
      · exact working
  | saved own saw => exact working

theorem working_end (working : Working s) (apart : Apart p s s') (ended : s'.jobs p = none) (listed : s'.listed p = s.listed p)
    (read : s'.read p = s.read p) : Working s' := by
  refine working.apart apart ?_ ?_ ?_ ?_
  · exact listed ▸ Nat.le_trans (working.listed p) apart.changes
  · exact read ▸ Nat.le_trans (working.read p) apart.changes
  all_goals
    intro phase known
    rw [ended] at known
    cases known

theorem working_abort (working : Working s) (p : Nat) : Working (s.abort p) := by
  refine working_end (p := p) working ?_ (jobs_own _) rfl rfl
  refine apart_rows rfl (fun r _ _ => gentle_undelete r) ?_ (fun q other => ⟨jobs_set _ other,rfl,rfl⟩) rfl
  exact fun r _ mine => not_not.mp (of_decide_eq_false mine)

theorem working_commit (working : Working s) (p : Nat) (saw : List Asset) : Working (s.commit absoluteUrl p saw) := by
  refine working_end (p := p) working ⟨fun q other => ⟨jobs_set _ other,rfl,rfl⟩,?_,?_,?_⟩ (jobs_own _) rfl rfl
  · show s.changes ≤ if _ then _ else _
    split
    · exact Nat.le_succ _
    · exact Nat.le_refl _
  · intro q other o left n early discards k there none_ role since apart
    obtain ⟨r,kept,rfl⟩ := List.mem_map.mp there
    have listed := (List.mem_filter.mp kept).1
    by_cases mine : r.writer = some p
    · unfold settle at since
      rw [if_pos mine] at since
      exact absurd (Nat.le_trans since early) (Nat.not_succ_le_self _)
    · unfold settle at none_ role since apart ⊢
      rw [if_neg mine] at none_ role since apart ⊢
      exact discards r listed none_ role since apart
  · intro q other still
    have quiet : s.wrote p = false := by
      refine Bool.eq_false_iff.mpr fun wrote => ?_
      have grown : (s.commit absoluteUrl p saw).changes = s.changes + 1 := if_pos wrote
      rw [grown] at still
      exact absurd still (Nat.succ_ne_self _)
    have rows : (s.rows.filter (·.deleter ≠ some p)).map (settle p (s.changes + 1)) = s.rows := by
      have unwritten : ∀ r ∈ s.rows, r.writer ≠ some p ∧ r.deleter ≠ some p := by
        intro r listed
        have none_ := List.any_eq_false.mp quiet r listed
        rw [Bool.or_eq_true,decide_eq_true_eq,decide_eq_true_eq,not_or] at none_
        exact none_
      rw [List.filter_eq_self.mpr fun r listed => decide_eq_true (unwritten r listed).2]
      refine (List.map_congr_left fun r listed => ?_).trans (List.map_id' _)
      exact if_neg (unwritten r listed).1
    exact congrArg (seen q) rows

theorem working_begin (working : Working s) (phase : Phase) (early : phase.past = false)
    (blank : phase.saw = none) : Working (s.begin phase) := by
  refine working.apart (q := s.nextJob) (apart_map (f := fun r => r) (List.map_id' _).symm (fun r _ => gentle_refl _ r)
    (fun q other => ⟨jobs_set _ other,rfl,rfl⟩) rfl) (working.listed _) (working.read _) ?_ ?_
  · intro phase known past
    cases (jobs_own _).symm.trans known
    rw [early] at past
    cases past
  · intro phase known saw held
    cases (jobs_own _).symm.trans known
    rw [blank] at held
    cases held

-- A call that nothing came between has discarded the others of its role.
theorem sole_visible (sound : Sound absoluteUrl s) (working : Working s) (known : s.jobs p = some (.saved own saw)) (mine : o ∈ own)
    (other : o.role ≠ .gallery) (early : ∀ r ∈ s.rows, r.writer = none → r.asset.role = o.role → r.since ≤ s.listed p)
    (there : a ∈ s.visible p) (role : a.role = o.role) : a.pk = o.pk := by
  obtain ⟨r,kept,rfl⟩ := List.mem_map.mp there
  obtain ⟨listed,sees_⟩ := List.mem_filter.mp kept
  cases writer : r.writer with
  | none =>
      by_contra apart
      rcases working.discards p _ known rfl o mine other r listed writer role (early r listed writer role) apart with
        gone | due
      · unfold State.sees at sees_
        exact of_decide_eq_true (Bool.and_eq_true_iff.mp sees_).2 gone
      · cases due
  | some q =>
      have owned := sound.owns r listed p (sees_mine sees_ writer ▸ writer)
      rw [known] at owned
      cases (Option.mem_def.mp mine).symm.trans owned
      rfl

structure Steady (absoluteUrl : String → String) (s : State) : Prop extends Sound absoluteUrl s where
  working : Working s

theorem step_steady (steady : Steady absoluteUrl s) (alone : Alone s action) : Steady absoluteUrl (step absoluteUrl s action) := by
  obtain ⟨sound,working⟩ := steady
  cases action with
  | attachMedia role upload => exact ⟨sound_begin sound _,working_begin working _ rfl rfl⟩
  | detachMedia pk => exact ⟨sound_begin sound _,working_begin working _ rfl rfl⟩
  | next p =>
      unfold State.step
      dsimp only
      cases known : s.jobs p with
      | none => exact ⟨sound,working⟩
      | some phase => exact ⟨sound_advance sound known,working_advance working known⟩
  | commit p =>
      unfold State.step
      dsimp only
      cases known : s.jobs p with
      | none => exact ⟨sound,working⟩
      | some phase =>
          cases phase with
          | saved own saw =>
              unfold Alone at alone
              dsimp only at alone
              rw [known] at alone
              obtain ⟨fresh,early⟩ := alone
              have read : s.visible p = saw := working.saw p _ known saw rfl fresh
              refine ⟨sound_commit sound known read ?_,working_commit working p saw⟩
              exact fun o mine other a there role => sole_visible sound working known mine other (early o mine other) there role
          | _ => exact ⟨sound,working⟩
  | abort p => exact ⟨sound_abort sound p,working_abort working p⟩

end rows

theorem start_steady (absoluteUrl : String → String) : Steady absoluteUrl start where
  media := rfl
  single _ _ := Nat.zero_le _
  bounded := List.forall_mem_nil _
  distinct := .nil
  owns := List.forall_mem_nil _
  fresh _ _ := rfl
  working := ⟨fun _ => Nat.le_refl _,fun _ => Nat.le_refl _,fun _ _ known => (Option.some_ne_none _ known.symm).elim,
    fun _ _ known => (Option.some_ne_none _ known.symm).elim⟩

theorem media_projected (absoluteUrl : String → String) (actions : List Action)
    (alone : Runs.Along (step absoluteUrl) Alone start actions) : Projected absoluteUrl (Runs.run (step absoluteUrl) start actions) :=
  sound_projected (Runs.along_invariant (step absoluteUrl) (fun _ _ => step_steady) (start_steady absoluteUrl) alone).toSound

def local_ (path : String) : String := path

def photo (publicId : String) : Upload := ⟨publicId,640,480,""⟩

def whole (p : Nat) : List Action := [.next p,.next p,.next p,.next p,.next p,.next p,.next p,.commit p]

def oneAfterAnother : List Action :=
  ([.attachMedia .logo (photo "med_1")] : List Action) ++ whole 0 ++
    ([.attachMedia .gallery (photo "med_2"),.attachMedia .logo (photo "med_3"),.next 1] : List Action) ++
    whole 2 ++ whole 1 ++ [.detachMedia 1] ++ whole 3 ++ ([.detachMedia 2,.next 4,.abort 4] : List Action)

instance decidableAlone (s : State) : (action : Action) → Decidable (Alone s action)
  | .commit p => match known : s.jobs p with
      | some (.saved own _) => decidable_of_iff (s.read p = s.changes ∧
          ∀ o ∈ own, o.role ≠ .gallery → ∀ r ∈ s.rows, r.writer = none → r.asset.role = o.role → r.since ≤ s.listed p)
          (by simp only [Alone,known])
      | some (.creating _ _) | some (.listing _) | some (.discarding _ _) | some (.readying _) | some (.deleting _)
      | some (.rebuilding _) | some (.saving _ _) | none => .isTrue (by simp only [Alone,known])
  | .attachMedia _ _ | .detachMedia _ | .next _ | .abort _ => .isTrue trivial

theorem media_projected_one_after_another : Projected local_ (Runs.run (step local_) start oneAfterAnother) :=
  media_projected local_ oneAfterAnother (by decide +kernel)

example : (Runs.run (step local_) start oneAfterAnother).committed.map (·.publicId) = ["med_3"] := by decide +kernel

-- Two logos attached at once: neither call sees the other's asset.
def overlapping : List Action :=
  ([.attachMedia .logo (photo "med_1"),.attachMedia .logo (photo "med_2"),.next 0,.next 1,.next 0,.next 1] : List Action) ++ whole 1 ++ whole 0

theorem two_logos : ¬(Quiet (Runs.run (step local_) start overlapping) → Projected local_ (Runs.run (step local_) start overlapping)) := by
  intro projected
  have quiet : Quiet (Runs.run (step local_) start overlapping) := by
    unfold Quiet
    decide +kernel
  have single := (projected quiet).single .logo (by decide)
  revert single
  decide +kernel

end Osds.Directory.MediaAssets
