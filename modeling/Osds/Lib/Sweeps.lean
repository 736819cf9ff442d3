import Mathlib.Data.List.Nodup
import Mathlib.Data.Int.Order.Basic

-- Bounded sweeps of a table: each call takes the first rows that are due, up to a
-- limit, and blanks or deletes them. What is due stays due as time goes on.
namespace Sweeps

variable {Row Time : Type}

structure Sweep (Row Time : Type) where
  key : Row → Nat
  due : Time → Row → Bool
  -- what the update asks again of a row that was selected
  still : Row → Bool
  -- the row that is left, if one is
  blank : Time → Row → Option Row

structure Table (key : Row → Nat) where
  rows : List Row
  ordered : rows.Pairwise fun a b => key a < key b

theorem Table.distinct {key : Row → Nat} (table : Table key) : (table.rows.map key).Nodup :=
  List.pairwise_map.mpr (table.ordered.imp Nat.ne_of_lt)

section call

variable (sweep : Sweep Row Time) (limit : Nat) (now : Time) (rows : List Row)

def selected : List Row := (rows.filter (sweep.due now)).take limit

def ids : List Nat := (selected sweep limit now rows).map sweep.key

def touch (listed : List Nat) (row : Row) : Option Row :=
  if sweep.key row ∈ listed ∧ sweep.still row then sweep.blank now row else some row

def swept : List Row := rows.filterMap (touch sweep now (ids sweep limit now rows))

end call

structure Settles [LE Time] (sweep : Sweep Row Time) : Prop where
  later : t ≤ t' → sweep.due t row → sweep.due t' row
  still : sweep.due t row → sweep.still row
  settled : sweep.blank t row = some row' → sweep.due t' row' = false
  key : sweep.blank t row = some row' → sweep.key row' = sweep.key row

section settles

variable {sweep : Sweep Row Time} {rows : List Row} {now later : Time} {limit : Nat}

theorem filter_keys {key : Row → Nat} {some_ : List Row} (part : some_.Sublist rows) (distinct : (rows.map key).Nodup) :
    rows.filter (fun row => key row ∈ some_.map key) = some_ := by
  induction part with
  | slnil => rfl
  | @cons some_ rest row part ih =>
      rw [List.map_cons,List.nodup_cons] at distinct
      have out : key row ∉ some_.map key := fun there => distinct.1 ((part.map key).subset there)
      rw [List.filter_cons_of_neg (by simpa using out),ih distinct.2]
  | @cons_cons some_ rest row part ih =>
      rw [List.map_cons,List.nodup_cons] at distinct
      rw [List.filter_cons_of_pos (by simp)]
      refine congrArg (row :: ·) (Eq.trans (List.filter_congr fun other there => ?_) (ih distinct.2))
      have apart : key other ≠ key row := fun same => distinct.1 (same ▸ List.mem_map_of_mem there)
      simp [apart]

theorem selected_sublist : (selected sweep limit now rows).Sublist rows :=
  (List.take_sublist _ _).trans List.filter_sublist

theorem selected_due (there : row ∈ selected sweep limit now rows) : sweep.due now row = true :=
  (List.mem_filter.mp (List.mem_of_mem_take there)).2

theorem mem_ids (distinct : (rows.map sweep.key).Nodup) (there : row ∈ rows) :
    sweep.key row ∈ ids sweep limit now rows ↔ row ∈ selected sweep limit now rows := by
  constructor
  · intro listed
    have kept : row ∈ rows.filter (fun row => sweep.key row ∈ (selected sweep limit now rows).map sweep.key) :=
      List.mem_filter.mpr ⟨there,decide_eq_true listed⟩
    rwa [filter_keys selected_sublist distinct] at kept
  · exact List.mem_map_of_mem

theorem touch_key [LE Time] (settles : Settles sweep) (touched : touch sweep now listed row = some row') : sweep.key row' = sweep.key row := by
  unfold touch at touched
  split at touched
  · exact settles.key touched
  · cases touched
    rfl

theorem swept_ordered [LE Time] (settles : Settles sweep) (ordered : rows.Pairwise fun a b => sweep.key a < sweep.key b) :
    (swept sweep limit now rows).Pairwise fun a b => sweep.key a < sweep.key b := by
  refine ordered.filterMap _ fun a a' less b touched b' touched' => ?_
  rw [touch_key settles touched,touch_key settles touched']
  exact less

section lawful

variable [Preorder Time] (settles : Settles sweep) (distinct : (rows.map sweep.key).Nodup)
include settles distinct

-- The update asks nothing of a selected row that the selection had not asked.
theorem touch_exact (there : row ∈ rows) : touch sweep now (ids sweep limit now rows) row =
    if sweep.key row ∈ ids sweep limit now rows then sweep.blank now row else some row := by
  unfold touch
  by_cases listed : sweep.key row ∈ ids sweep limit now rows
  · have due := selected_due ((mem_ids distinct there).mp listed)
    simp [listed,settles.still due]
  · simp [listed]

theorem swept_left (limit : Nat) (order : now ≤ later) :
    (swept sweep limit now rows).countP (sweep.due later) + (ids sweep limit now rows).length = rows.countP (sweep.due later) := by
  have kept : (swept sweep limit now rows).countP (sweep.due later) =
      (rows.filter fun row => !decide (sweep.key row ∈ ids sweep limit now rows)).countP (sweep.due later) := by
    unfold swept
    rw [List.countP_filterMap,List.countP_filter]
    refine List.countP_congr fun row there => ?_
    rw [touch_exact settles distinct there]
    by_cases listed : sweep.key row ∈ ids sweep limit now rows
    · cases blanked : sweep.blank now row with
      | none => simp [listed]
      | some row' => simp [listed,settles.settled blanked]
    · simp [listed]
  have taken : (rows.filter fun row => decide (sweep.key row ∈ ids sweep limit now rows)).countP (sweep.due later) =
      (ids sweep limit now rows).length := by
    unfold ids
    rw [filter_keys selected_sublist distinct,List.length_map,List.countP_eq_length]
    exact fun row there => settles.later order (selected_due there)
  rw [kept,← taken,Nat.add_comm]
  exact (List.countP_eq_countP_filter_add rows _ _).symm

omit [Preorder Time] settles distinct in
theorem ids_length (limit : Nat) (now : Time) (rows : List Row) : (ids sweep limit now rows).length = min limit (rows.countP (sweep.due now)) := by
  simp [ids,selected,List.countP_eq_length_filter]

theorem swept_clear (short : (ids sweep limit now rows).length < limit) :
    ∀ row ∈ swept sweep limit now rows, sweep.due now row = false := by
  have left := swept_left settles distinct limit (le_refl now)
  rw [ids_length] at left short
  have none_ : (swept sweep limit now rows).countP (sweep.due now) = 0 := by omega
  intro row there
  simpa using List.countP_eq_zero.mp none_ row there

end lawful

end settles

def Table.sweep [LE Time] {sweep : Sweep Row Time} (settles : Settles sweep) (limit : Nat) (now : Time)
    (table : Table sweep.key) : Table sweep.key := ⟨swept sweep limit now table.rows,swept_ordered settles table.ordered⟩

end Sweeps
