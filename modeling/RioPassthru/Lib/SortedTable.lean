import Mathlib.Order.Lattice
import Mathlib.Order.Monotone.Defs
import Mathlib.Data.List.Pairwise

set_option autoImplicit false

namespace SortedTable

variable {K V : Type} [LinearOrder K]

-- A finite map that is never empty, in the order of its keys.
structure Table (K V : Type) [LinearOrder K] where
  first : K × V
  rest : List (K × V)
  ordered : (first :: rest).Pairwise fun earlier later => earlier.1 < later.1

inductive Bound (K V : Type) where
  | atEnd (last : K × V)
  | atBegin (i : K × V)
  | inside (l i : K × V)
deriving DecidableEq, Repr

namespace Bound

def read (between : K × V → K × V → V) : Bound K V → V
  | atEnd last => last.2
  | atBegin i => i.2
  | inside l i => between l i

end Bound

def upperBoundFrom (x : K) (l : K × V) : List (K × V) → Bound K V
  | [] => .atEnd l
  | i :: rest => if i.1 > x then .inside l i else upperBoundFrom x i rest

theorem upper_bound_from_skip (x : K) (before : List (K × V)) (from_ l : K × V) (after : List (K × V))
    (passed : ∀ entry ∈ before, entry.1 ≤ x) (reached : l.1 ≤ x) :
    upperBoundFrom x from_ (before ++ l :: after) = upperBoundFrom x l after := by
  induction before generalizing from_ with
  | nil => exact if_neg reached.not_gt
  | cons entry before ih =>
      obtain ⟨here, later⟩ := List.forall_mem_cons.mp passed
      rw [List.cons_append, upperBoundFrom, if_neg here.not_gt]
      exact ih entry later

namespace Table

variable (table : Table K V)

def entries : List (K × V) := table.first :: table.rest

def upperBound (x : K) : Bound K V :=
  if table.first.1 > x then .atBegin table.first else upperBoundFrom x table.first table.rest

theorem keys_before {before after : List (K × V)} {l : K × V} (split : table.entries = before ++ l :: after) :
    ∀ entry ∈ before, entry.1 < l.1 := by
  have ordered := table.ordered
  change table.entries.Pairwise _ at ordered
  rw [split] at ordered
  intro entry member
  exact (List.pairwise_append.mp ordered).2.2 entry member l List.mem_cons_self

theorem keys_after {before after : List (K × V)} {l : K × V} (split : table.entries = before ++ l :: after) :
    ∀ entry ∈ after, l.1 < entry.1 := by
  have ordered := table.ordered
  change table.entries.Pairwise _ at ordered
  rw [split] at ordered
  exact (List.pairwise_cons.mp (List.pairwise_append.mp ordered).2.1).1

theorem upper_bound_of_le {before after : List (K × V)} {l : K × V} (split : table.entries = before ++ l :: after)
    (x : K) (reached : l.1 ≤ x) : table.upperBound x = upperBoundFrom x l after := by
  have before_ := table.keys_before split
  cases before with
  | nil =>
      obtain ⟨rfl, rfl⟩ := List.cons.inj split
      exact if_neg reached.not_gt
  | cons entry before =>
      obtain ⟨rfl, rest⟩ := List.cons.inj split
      obtain ⟨here, later⟩ := List.forall_mem_cons.mp before_
      rw [upperBound, if_neg (here.le.trans reached).not_gt, rest]
      exact upper_bound_from_skip x before table.first l after (fun e member => (later e member).le.trans reached) reached

theorem upper_bound_begin (x : K) (below : x < table.first.1) : table.upperBound x = .atBegin table.first := if_pos below

def Brackets (x : K) (l i : K × V) : Prop :=
  (∃ before after, table.entries = before ++ l :: i :: after) ∧ l.1 ≤ x ∧ x < i.1

def IsLast (last : K × V) : Prop := ∃ before, table.entries = before ++ [last]

theorem upper_bound_inside {x : K} {l i : K × V} (bracket : table.Brackets x l i) : table.upperBound x = .inside l i := by
  obtain ⟨⟨before, after, split⟩, reached, below⟩ := bracket
  rw [table.upper_bound_of_le split x reached, upperBoundFrom, if_pos below]

theorem upper_bound_end {last : K × V} (ends : table.IsLast last) (x : K) (reached : last.1 ≤ x) :
    table.upperBound x = .atEnd last := by
  obtain ⟨before, split⟩ := ends
  exact table.upper_bound_of_le split x reached

theorem upper_bound_cases (x : K) :
    x < table.first.1 ∨ (∃ last, table.IsLast last ∧ last.1 ≤ x) ∨ ∃ l i, table.Brackets x l i := by
  obtain below | reached := lt_or_ge x table.first.1
  · exact Or.inl below
  · right
    have walk : ∀ (after before : List (K × V)) (l : K × V), table.entries = before ++ l :: after → l.1 ≤ x →
        (∃ last, table.IsLast last ∧ last.1 ≤ x) ∨ ∃ l i, table.Brackets x l i := by
      intro after
      induction after with
      | nil => exact fun before l split passed => Or.inl ⟨l, ⟨before, split⟩, passed⟩
      | cons i after ih =>
          intro before l split passed
          obtain inside | later := lt_or_ge x i.1
          · exact Or.inr ⟨l, i, ⟨before, after, split⟩, passed, inside⟩
          · exact ih (before ++ [l]) i (split.trans (List.append_cons before l (i :: after))) later
    exact walk table.rest [] table.first rfl reached

theorem brackets_left_mem {x : K} {l i : K × V} (bracket : table.Brackets x l i) : l ∈ table.entries := by
  obtain ⟨⟨before, after, split⟩, -⟩ := bracket
  rw [split]
  exact List.mem_append_right before List.mem_cons_self

theorem brackets_right_mem {x : K} {l i : K × V} (bracket : table.Brackets x l i) : i ∈ table.entries := by
  obtain ⟨⟨before, after, split⟩, -⟩ := bracket
  rw [split]
  exact List.mem_append_right before (List.mem_cons_of_mem l List.mem_cons_self)

theorem last_mem {last : K × V} (ends : table.IsLast last) : last ∈ table.entries := by
  obtain ⟨before, split⟩ := ends
  rw [split]
  exact List.mem_append_right before (List.mem_singleton.mpr rfl)

theorem key_le_left {x : K} {l i : K × V} (bracket : table.Brackets x l i) (entry : K × V)
    (member : entry ∈ table.entries) (passed : entry.1 ≤ x) : entry.1 ≤ l.1 := by
  obtain ⟨⟨before, after, split⟩, -, below⟩ := bracket
  have later := table.keys_after (split.trans (List.append_cons before l (i :: after)))
  rw [split, List.mem_append, List.mem_cons, List.mem_cons] at member
  obtain early | rfl | rfl | late := member
  · exact (table.keys_before split entry early).le
  · exact le_refl entry.1
  · exact absurd passed below.not_ge
  · exact absurd (passed.trans_lt below) (later entry late).not_gt

theorem key_le_last {last : K × V} (ends : table.IsLast last) (entry : K × V) (member : entry ∈ table.entries) :
    entry.1 ≤ last.1 := by
  obtain ⟨before, split⟩ := ends
  rw [split, List.mem_append, List.mem_singleton] at member
  obtain early | rfl := member
  · exact (table.keys_before split entry early).le
  · exact le_refl entry.1

theorem first_key_le (entry : K × V) (member : entry ∈ table.entries) : table.first.1 ≤ entry.1 := by
  obtain rfl | later := List.mem_cons.mp member
  · exact le_refl table.first.1
  · exact ((List.pairwise_cons.mp table.ordered).1 entry later).le

def NonDecreasing [LE V] : Prop :=
  ∀ earlier ∈ table.entries, ∀ later ∈ table.entries, earlier.1 ≤ later.1 → earlier.2 ≤ later.2

section Read

variable (between : K → K × V → K × V → V)

-- The table as a function: constant beyond its ends, and between two neighbours what between says.
def read (x : K) : V := (table.upperBound x).read (between x)

theorem read_begin (x : K) (below : x < table.first.1) : table.read between x = table.first.2 := by
  rw [read, table.upper_bound_begin x below, Bound.read]

theorem read_inside {x : K} {l i : K × V} (bracket : table.Brackets x l i) : table.read between x = between x l i := by
  rw [read, table.upper_bound_inside bracket, Bound.read]

theorem read_end {last : K × V} (ends : table.IsLast last) (x : K) (reached : last.1 ≤ x) :
    table.read between x = last.2 := by
  rw [read, table.upper_bound_end ends x reached, Bound.read]

theorem read_key (starts : ∀ l i : K × V, between l.1 l i = l.2) (entry : K × V) (member : entry ∈ table.entries) :
    table.read between entry.1 = entry.2 := by
  obtain ⟨before, after, split⟩ := List.append_of_mem member
  cases after with
  | nil => exact table.read_end between ⟨before, split⟩ entry.1 (le_refl entry.1)
  | cons i after =>
      have below : entry.1 < i.1 := table.keys_after split i List.mem_cons_self
      rw [table.read_inside between ⟨⟨before, after, split⟩, le_refl entry.1, below⟩, starts]

section Monotone

variable [Preorder V] (lower : ∀ (x : K) (l i : K × V), l.1 ≤ x → x < i.1 → l.2 ≤ i.2 → l.2 ≤ between x l i)
  (upper : ∀ (x : K) (l i : K × V), l.1 ≤ x → x < i.1 → l.2 ≤ i.2 → between x l i ≤ i.2)
  (rises : ∀ (x y : K) (l i : K × V), l.1 ≤ x → x ≤ y → y < i.1 → l.2 ≤ i.2 → between x l i ≤ between y l i)
  (values : table.NonDecreasing)

include lower values

theorem value_le_read (entry : K × V) (member : entry ∈ table.entries) (y : K) (passed : entry.1 ≤ y) :
    entry.2 ≤ table.read between y := by
  obtain below | ⟨last, ends, reached⟩ | ⟨l, i, bracket⟩ := table.upper_bound_cases y
  · exact absurd ((table.first_key_le entry member).trans passed) below.not_ge
  · rw [table.read_end between ends y reached]
    exact values entry member last (table.last_mem ends) (table.key_le_last ends entry member)
  · have memberL := table.brackets_left_mem bracket
    have up : l.2 ≤ i.2 :=
      values l memberL i (table.brackets_right_mem bracket) (bracket.2.1.trans bracket.2.2.le)
    rw [table.read_inside between bracket]
    calc entry.2 ≤ l.2 := values entry member l memberL (table.key_le_left bracket entry member passed)
      _ ≤ between y l i := lower y l i bracket.2.1 bracket.2.2 up

include upper rises

theorem read_monotone : Monotone (table.read between) := by
  intro x y order
  obtain below | ⟨last, ends, reached⟩ | ⟨l, i, bracket⟩ := table.upper_bound_cases x
  · rw [table.read_begin between x below]
    obtain alsoBelow | passed := lt_or_ge y table.first.1
    · rw [table.read_begin between y alsoBelow]
    · exact table.value_le_read between lower values table.first List.mem_cons_self y passed
  · rw [table.read_end between ends x reached, table.read_end between ends y (reached.trans order)]
  · have memberI := table.brackets_right_mem bracket
    have memberL := table.brackets_left_mem bracket
    rw [table.read_inside between bracket]
    obtain ⟨neighbours, reached, below⟩ := bracket
    have up : l.2 ≤ i.2 := values l memberL i memberI (reached.trans below.le)
    obtain same | passed := lt_or_ge y i.1
    · rw [table.read_inside between ⟨neighbours, reached.trans order, same⟩]
      exact rises x y l i reached order same up
    · calc between x l i ≤ i.2 := upper x l i reached below up
        _ ≤ table.read between y := table.value_le_read between lower values i memberI y passed

end Monotone

end Read

end Table

end SortedTable
